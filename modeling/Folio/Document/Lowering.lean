import Folio.CMap.ToUnicode
import Folio.Document.Closing
import Folio.Font.Tag

/-!
What is written for each record of a complete document. Records of pages, annotations, form fields,
structure items and font subsets draw on the document; all others stand for themselves. A record
looks for what it draws on when its turn comes. `Folio.Document.Tables` makes tables of it before
the first object is written, and `Folio.Proofs.RecordTables` shows that this comes to the same.
-/

namespace Folio

def Body.ofStream (deflate : Bytes → Bytes) (compress : Bool) (entries : List Entry)
    (filter : Option Name) (data : Bytes) : Body :=
  if compress then
    .stream (Dictionary.deflatedStream entries (deflate data).length data.length) (deflate data)
  else .stream (Dictionary.storedStream entries filter data.length) data

namespace Document

structure OpenSubset where
  font : FontItem
  glyphs : List AssignedGlyph
  objects : SubsetObjects

def openSubset? (doc : Document) (key : SubsetKey) : Except Error OpenSubset := do
  let font ← doc.fonts.get key.font
  match font.slots.subset? key.subset, font.subsets[key.subset]? with
  | some glyphs, some objects => .ok ⟨font, glyphs, objects⟩
  | _, _ => .error (.unknownResource .font key.font.index)

def subsetName (key : SubsetKey) (face : Face) : Name :=
  SubsetTag.baseFont key.font.index key.subset face.name

def scaledBox (metrics : FontMetrics) : Rect Int :=
  ⟨metrics.scale metrics.box.left, metrics.scale metrics.box.bottom,
    metrics.scale metrics.box.right, metrics.scale metrics.box.top⟩

def fontDescriptor (key : SubsetKey) (subset : OpenSubset) : Dictionary.FontDescriptor :=
  let metrics := subset.font.face.metrics
  { name := subsetName key subset.font.face
    flags := metrics.flags
    box := scaledBox metrics
    italicAngle := metrics.italicAngle
    ascent := metrics.scale metrics.ascender
    descent := metrics.scale metrics.descender
    capHeight := metrics.scale (metrics.capHeight.getD metrics.ascender)
    stemWidth := 80
    program := some subset.objects.program }

/-- The width of a glyph in thousandths of an em; an empty place has none. -/
def glyphWidth (face : Face) (glyph : Option GlyphId) : Nat :=
  match glyph.bind face.advance? with
  | none => 0
  | some advance => (face.metrics.scale advance).toNat

def cidFont (key : SubsetKey) (subset : OpenSubset) : Dictionary.CidFont where
  baseFont := subsetName key subset.font.face
  info := .identity
  descriptor := subset.objects.descriptor
  widths := (Slots.padded subset.glyphs subset.font.slots.capacity).map
    (glyphWidth subset.font.face)

def type0Font (doc : Document) (key : SubsetKey) (subset : OpenSubset) :
    Except Error Dictionary.Type0Font :=
  match doc.encoding with
  | none => .error (.unknownResource .font key.font.index)
  | some encoding =>
      .ok ⟨subsetName key subset.font.face, encoding, subset.objects.cidFont,
        subset.objects.toUnicode⟩

def subsetProgram (key : SubsetKey) (subset : OpenSubset) : Except Error Bytes :=
  match subset.font.face.subset (subset.glyphs.map AssignedGlyph.glyph) with
  | .ok program => .ok program
  | .error cause =>
      .error (.load ("subset " ++ toString key.subset ++ " of " ++ subset.font.face.name) cause)

def subsetBody (doc : Document) (deflate : Bytes → Bytes) (part : SubsetPart) (key : SubsetKey) :
    Except Error Body := do
  let subset ← doc.openSubset? key
  let stream := Body.ofStream deflate doc.options.compress
  match part with
  | .program =>
      let program ← subsetProgram key subset
      return stream (Dictionary.StreamHead.fontProgram program.length).entries none program
  | .descriptor => return .value (fontDescriptor key subset).value
  | .toUnicode =>
      return stream [] none (ToUnicode.ofTexts (subset.glyphs.map AssignedGlyph.text)).bytes
  | .cidFont => return .value (cidFont key subset).value
  | .font => return .value (← doc.type0Font key subset).value

def pageEntry (doc : Document) (roots : Roots) (page : PageItem) :
    Except Error Dictionary.Page := do
  let widgets ← page.widgets.mapM doc.widgetRef
  let annotations ← page.annotations.mapM doc.annotationRef
  return {
    parent := roots.pages
    contents := page.contents
    resources := page.resources
    group := page.group
    boxes := page.boxes
    annotations := widgets ++ annotations
    structParents := page.structParents
    transition := page.transition }

def placedOn {kind : Kind} (doc : Document) (placement : Placement kind) (id : Id kind) :
    Except Error (Option Ref) :=
  match placement.pageOf? id with
  | none => .ok none
  | some page => (doc.pageRef page).map some

def checkboxEntry (doc : Document) (page : Option Ref) (checkbox : Checkbox) :
    Except Error Dictionary.Annot := do
  let on ← doc.forms.get checkbox.on
  let off ← doc.forms.get checkbox.off
  return {
    rect := checkbox.rect
    page := page
    color := none
    flags := Dictionary.printFlag
    structParent := none
    body := .checkbox (textString checkbox.name) on off checkbox.checked }

def annotationBody (doc : Document) : AnnotationKind → Except Error Dictionary.AnnotationBody
  | .text contents isOpen => .ok (.text (textString contents) "Note" isOpen)
  | .fileAttachment file description => do
      return .fileAttachment (← doc.fileRef file) (description.map textString) "PushPin"
  | .link uri => .ok (.link (utf8 uri))

def annotationEntry (doc : Document) (page : Option Ref) (item : AnnotationItem) :
    Except Error Dictionary.Annot := do
  let body ← doc.annotationBody item.kind
  return {
    rect := item.rect
    page := page
    color := item.color.map fun color => (doc.colors.toOutput color).components
    flags := Dictionary.printFlag
    structParent := none
    body := body }

def structureChildren (doc : Document) (id : Id .structureItem) : List Ref :=
  (doc.structureItems.toList.filter fun (_, item) => item.parent == some id).map
    fun (_, item) => item.object

def markedContent (doc : Document) (id : Id .structureItem) :
    Except Error (Option Ref × List Nat) :=
  match doc.structurePlaces.pageOf? id with
  | none => .ok (none, [])
  | some page => do
      let page ← doc.pages.get page
      return (some page.object,
        (page.marked.zipIdx.filter fun (marked, _) => marked == id).map Prod.snd)

def structureParent (doc : Document) (roots : Roots) (id : Id .structureItem)
    (item : StructureItem) : Except Error Ref :=
  match item.parent, roots.structure? with
  | some parent, _ => doc.structureItemRef parent
  | none, some root => .ok root
  | none, none => .error (.unknownParent .structureItem id.index)

def structureEntry (item : StructureItem) (parent : Ref) (page : Option Ref)
    (kids : List Dictionary.StructKid) : Dictionary.StructElement where
  kind := item.kind.name
  parent := parent
  page := page
  kids := kids
  title := item.attributes.title.map textString
  alternate := item.attributes.alternate.map textString
  actualText := item.attributes.actualText.map textString
  language := item.attributes.language.map textString

/-- What is written for a record. A place that was never filled is null. -/
def body (doc : Document) (roots : Roots) (deflate : Bytes → Bytes) :
    Record → Except Error Body
  | .reserved => .ok (.value .null)
  | .object value => .ok (.value value)
  | .stored entries filter data => .ok (.ofStream deflate false entries filter data)
  | .deflated entries data => .ok (.ofStream deflate true entries none data)
  | .subset part key => doc.subsetBody deflate part key
  | .page id => do
      return .value (← doc.pageEntry roots (← doc.pages.get id)).value
  | .checkbox id => do
      let item ← doc.widgets.get id
      let page ← doc.placedOn doc.widgetPlaces id
      return .value (← doc.checkboxEntry page item.checkbox).value
  | .annot id => do
      let item ← doc.annotations.get id
      let page ← doc.placedOn doc.annotationPlaces id
      return .value (← doc.annotationEntry page item).value
  | .structureItem id => do
      let item ← doc.structureItems.get id
      let parent ← doc.structureParent roots id item
      let (page, marks) ← doc.markedContent id
      let kids := (doc.structureChildren id).map .element ++ marks.map .content
      return .value (structureEntry item parent page kids).value

end Document

end Folio
