import Folio.Geometry

/-!
Annotations, file specifications and the form of a document.
-/

namespace Folio

namespace Dictionary

structure Filespec where
  name : Bytes
  file : Ref
  description : Option Bytes
deriving DecidableEq, Repr

def Filespec.value (spec : Filespec) : Value :=
  .dict ([.kind "Filespec", .field "F" (.str spec.name), .field "UF" (.str spec.name),
      .field "EF" (.dict [.field "F" (.ref spec.file), .field "UF" (.ref spec.file)])] ++
    Entry.optional "Desc" (spec.description.map .str))

inductive AnnotationBody where
  | text (contents : Bytes) (icon : String) (isOpen : Bool)
  | fileAttachment (file : Ref) (contents : Option Bytes) (icon : String)
  | link (uri : Bytes)
  /-- A form field with one appearance for each of its two states. -/
  | checkbox (name : Bytes) (on off : Ref) (checked : Bool)
deriving DecidableEq, Repr

def AnnotationBody.entries : AnnotationBody → List Entry
  | .text contents icon isOpen =>
      [.field "Subtype" (.name "Text"), .field "Contents" (.str contents),
        .field "Name" (.name icon), .field "Open" (.bool isOpen)]
  | .fileAttachment file contents icon =>
      [.field "Subtype" (.name "FileAttachment"), .field "FS" (.ref file)] ++
        Entry.optional "Contents" (contents.map .str) ++ [.field "Name" (.name icon)]
  | .link uri =>
      [.field "Subtype" (.name "Link"),
        .field "A" (.dict [.kind "Action", .field "S" (.name "URI"), .field "URI" (.str uri)]),
        .field "Border" (.arr [.nat 0, .nat 0, .nat 0])]
  | .checkbox name on off checked =>
      let state : Value := .name (if checked then "Yes" else "Off")
      [.field "Subtype" (.name "Widget"), .field "FT" (.name "Btn"), .field "T" (.str name),
        .field "V" state, .field "AS" state,
        .field "AP" (.dict [.field "N"
          (.dict [.field "Yes" (.ref on), .field "Off" (.ref off)])])]

/-- The flag of annotations that appear on paper. -/
def printFlag : Nat :=
  4

structure Annot where
  rect : Rect Single
  page : Option Ref
  color : Option (List Single)
  flags : Nat
  structParent : Option Nat
  body : AnnotationBody
deriving DecidableEq, Repr

def Annot.value (annot : Annot) : Value :=
  .dict ([.kind "Annot"] ++ annot.body.entries ++
    [.field "Rect" annot.rect.value] ++
    Entry.optional "P" (annot.page.map .ref) ++
    Entry.optional "C" (annot.color.map .reals) ++
    [.field "F" (.nat annot.flags)] ++
    Entry.optional "StructParent" (annot.structParent.map .nat))

def acroForm (fields : List Ref) : Value :=
  .dict [.field "Fields" (.refs fields)]

end Dictionary

end Folio
