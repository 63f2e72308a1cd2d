import Folio.Document.Font

/-!
Files embedded in a document, annotations and form fields.
-/

namespace Folio

namespace Document

def embedFileData (name : String) (data : Bytes) (mimeType : Option String) :
    Build (Id .embeddedFile) := do
  let head := Dictionary.StreamHead.embeddedFile data.length (mimeType.map Name.ofString)
  let file ← Build.stream head.entries data
  let spec : Dictionary.Filespec := ⟨textString name, file, none⟩
  let filespec ← Build.object spec.value
  modifyGet fun doc =>
    let (id, files) := doc.files.register ⟨name, filespec⟩
    (id, { doc with files })

def embedFile (path : String) (contents : Option Bytes) : Build (Id .embeddedFile) := do
  match contents with
  | none => throw (.load path .unreadable)
  | some data => embedFileData (Path.fileName path) data none

def fileRef (doc : Document) (id : Id .embeddedFile) : Except Error Ref :=
  (doc.files.get id).map EmbeddedFile.filespec

def checkAttachment (doc : Document) : AnnotationKind → Except Error Unit
  | .fileAttachment file _ => (doc.files.get file).map fun _ => ()
  | _ => .ok ()

def annotate (rect : Rect Single) (kind : AnnotationKind) (color : Option Color) :
    Build (Id .annot) := do
  Build.ofExcept ((← get).checkAttachment kind)
  let object ← Build.allocate (.annot (← get).annotations.nextId)
  modifyGet fun doc =>
    let (id, annotations) := doc.annotations.register ⟨object, rect, kind, color⟩
    (id, { doc with annotations })

def annotationRef (doc : Document) (id : Id .annot) : Except Error Ref :=
  (doc.annotations.get id).map AnnotationItem.object

def checkAppearances (doc : Document) (checkbox : Checkbox) : Except Error Unit := do
  let _ ← doc.forms.get checkbox.on
  let _ ← doc.forms.get checkbox.off

def createCheckbox (checkbox : Checkbox) : Build (Id .formWidget) := do
  Build.ofExcept ((← get).checkAppearances checkbox)
  let object ← Build.allocate (.checkbox (← get).widgets.nextId)
  modifyGet fun doc =>
    let (id, widgets) := doc.widgets.register ⟨object, checkbox⟩
    (id, { doc with widgets })

def widgetRef (doc : Document) (id : Id .formWidget) : Except Error Ref :=
  (doc.widgets.get id).map CheckboxItem.object

end Document

end Folio
