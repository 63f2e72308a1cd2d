import Folio.Document.Color
import Folio.Document.File
import Folio.Document.Graphics
import Folio.Document.Image
import Folio.Document.Page

/-!
Everything that can be asked of a document, and the answers.
-/

namespace Folio

inductive Resource where
  | subsetFont (id : Id .font) (subset : Nat)
  | builtinFont (id : Id .builtinFont)
  | image (id : Id .image)
  | icc (id : Id .iccColorSpace)
  | lab (id : Id .labColorSpace)
  | separation (id : Id .separation)
  | graphicsState (id : Id .graphicsState)
  | function (id : Id .function)
  | shading (id : Id .shading)
  | pattern (id : Id .pattern)
  | form (id : Id .formXObject)
  | file (id : Id .embeddedFile)
  | annot (id : Id .annot)
  | widget (id : Id .formWidget)
  | structureItem (id : Id .structureItem)
  | page (id : Id .page)
deriving DecidableEq, Repr

/-- Operations on a document. A file is given by its path and its contents, where it has any. -/
inductive Operation where
  | addFont (face : Face)
  | loadFont (path : String) (contents : Option Bytes)
  | charSlot (font : Id .font) (char : Char)
  | glyphSlot (font : Id .font) (glyph : GlyphId) (char : Option Char)
  | fontSubsetCount (font : Id .font)
  | advanceWidth (font : Id .font) (char : Char)
  | builtinFont (font : StandardFont)
  | loadImage (path : String) (contents : Option Bytes)
  | loadMaskImage (path : String) (contents : Option Bytes)
  | addImageSource (source : ImageSource)
  | addBilevelImage (image : BilevelImage)
  | addMaskImage (image : BilevelImage)
  | addImage (image : RasterImage)
  | loadProfile (bytes : Bytes)
  | addLab (params : Dictionary.LabParams)
  | addSeparation (name : String) (fallback : Color)
  | convertColor (color : Color) (target : DeviceSpace)
  | setOutputIntent (intent : OutputIntent)
  | addGraphicsState (state : GraphicsState)
  | addFunction (source : FunctionSource)
  | addShading (source : ShadingSource)
  | addPattern (source : PatternSource)
  | addForm (source : FormSource)
  | embedFile (path : String) (contents : Option Bytes)
  | embedFileData (name : String) (data : Bytes) (mimeType : Option String)
  | annotate (rect : Rect Single) (kind : AnnotationKind) (color : Option Color)
  | createCheckbox (checkbox : Checkbox)
  | addStructureItem (kind : StructureType) (parent : Option (Id .structureItem))
      (attributes : StructureAttributes)
  | addPage (source : PageSource)
  | addOutline (item : OutlineItem)
  | pageCount
  | ref (resource : Resource)
  | setInfo (info : Info)

inductive Answer where
  | done
  | id (index : Nat)
  | ref (target : Ref)
  | slot (slot : Slot)
  | count (count : Nat)
  | measure (measure : Single)
  | color (color : Color)
deriving DecidableEq, Repr

def Answer.ofId {kind : Kind} (id : Id kind) : Answer :=
  .id id.index

namespace Document

def refOf (doc : Document) : Resource → Except Error Ref
  | .subsetFont id subset => doc.subsetFontRef id subset
  | .builtinFont id => doc.builtinFontRef id
  | .image id => doc.imageRef id
  | .icc id => doc.profileRef id
  | .lab id => doc.labRef id
  | .separation id => doc.separationRef id
  | .graphicsState id => doc.graphicsStateRef id
  | .function id => doc.functionRef id
  | .shading id => doc.shadingRef id
  | .pattern id => doc.patternRef id
  | .form id => doc.formRef id
  | .file id => doc.fileRef id
  | .annot id => doc.annotationRef id
  | .widget id => doc.widgetRef id
  | .structureItem id => doc.structureItemRef id
  | .page id => doc.pageRef id

def setInfo (info : Info) : Build Unit :=
  modify fun doc => { doc with info }

def perform : Operation → Build Answer
  | .addFont face => .ofId <$> addFont face
  | .loadFont path contents => .ofId <$> loadFont path contents
  | .charSlot font char => .slot <$> charSlot font char
  | .glyphSlot font glyph char => .slot <$> glyphSlot font glyph char
  | .fontSubsetCount font => do return .count (← Build.ofExcept ((← get).fontSubsetCount font))
  | .advanceWidth font char => do
      return .measure (← Build.ofExcept ((← get).advanceWidth font char))
  | .builtinFont font => .ofId <$> builtinFont font
  | .loadImage path contents => .ofId <$> loadImage path contents
  | .loadMaskImage path contents => .ofId <$> loadMaskImage path contents
  | .addImageSource source => .ofId <$> addImageSource source
  | .addBilevelImage image => .ofId <$> addBilevelImage image
  | .addMaskImage image => .ofId <$> addMaskImage image
  | .addImage image => .ofId <$> addImage image
  | .loadProfile bytes => .ofId <$> loadProfile bytes
  | .addLab params => .ofId <$> addLab params
  | .addSeparation name fallback => .ofId <$> addSeparation name fallback
  | .convertColor color target => do return .color ((← get).colors.convert color target)
  | .setOutputIntent intent => do setOutputIntent intent; return .done
  | .addGraphicsState state => .ofId <$> addGraphicsState state
  | .addFunction source => .ofId <$> addFunction source
  | .addShading source => .ofId <$> addShading source
  | .addPattern source => .ofId <$> addPattern source
  | .addForm source => .ofId <$> addForm source
  | .embedFile path contents => .ofId <$> embedFile path contents
  | .embedFileData name data mimeType => .ofId <$> embedFileData name data mimeType
  | .annotate rect kind color => .ofId <$> annotate rect kind color
  | .createCheckbox checkbox => .ofId <$> createCheckbox checkbox
  | .addStructureItem kind parent attributes =>
      .ofId <$> addStructureItem kind parent attributes
  | .addPage source => .ofId <$> addPage source
  | .addOutline item => .ofId <$> addOutline item
  | .pageCount => do return .count (← get).pageCount
  | .ref resource => do return .ref (← Build.ofExcept ((← get).refOf resource))
  | .setInfo info => do setInfo info; return .done

def apply (doc : Document) (operation : Operation) : Except Error Answer × Document :=
  match (perform operation).run doc with
  | .ok answer doc => (.ok answer, doc)
  | .error error doc => (.error error, doc)

def run (doc : Document) : List Operation → List (Except Error Answer) × Document
  | [] => ([], doc)
  | operation :: rest =>
      let (outcome, doc) := doc.apply operation
      let (outcomes, doc) := doc.run rest
      (outcome :: outcomes, doc)

def attempt (doc : Document) : List Operation → Except Error (List Answer) × Document
  | [] => (.ok [], doc)
  | operation :: rest =>
      match doc.apply operation with
      | (.error error, doc) => (.error error, doc)
      | (.ok answer, doc) =>
          let (answers, doc) := doc.attempt rest
          (answers.map (answer :: ·), doc)

end Document

end Folio
