/-!
Typed identifiers. An identifier counts within its kind, so identifiers of two kinds never meet.
Counts are natural numbers. They stand for runs that register fewer than 2^32 resources of a kind,
in which a count fits into 32 bits.
-/

namespace Folio

/-- The kinds of resources that a document hands out identifiers for. -/
inductive Kind where
  | image
  | font
  | builtinFont
  | iccColorSpace
  | formXObject
  | formWidget
  | annot
  | structureItem
  | separation
  | graphicsState
  | function
  | shading
  | pattern
  | labColorSpace
  | page
  | outline
  | embeddedFile
deriving DecidableEq, Repr

namespace Kind

def name : Kind → String
  | .image => "Image"
  | .font => "Font"
  | .builtinFont => "BuiltinFont"
  | .iccColorSpace => "IccColorSpace"
  | .formXObject => "FormXObject"
  | .formWidget => "FormWidget"
  | .annot => "Annotation"
  | .structureItem => "StructureItem"
  | .separation => "Separation"
  | .graphicsState => "GraphicsState"
  | .function => "Function"
  | .shading => "Shading"
  | .pattern => "Pattern"
  | .labColorSpace => "LabColorSpace"
  | .page => "Page"
  | .outline => "Outline"
  | .embeddedFile => "EmbeddedFile"

def all : List Kind :=
  [.image, .font, .builtinFont, .iccColorSpace, .formXObject, .formWidget, .annot,
    .structureItem, .separation, .graphicsState, .function, .shading, .pattern, .labColorSpace,
    .page, .outline, .embeddedFile]

def ofName? (name : String) : Option Kind :=
  all.find? fun kind => kind.name == name

end Kind

structure Id (kind : Kind) where
  index : Nat
deriving DecidableEq, Repr

def Id.label {kind : Kind} (id : Id kind) : String :=
  kind.name ++ "#" ++ toString id.index

end Folio
