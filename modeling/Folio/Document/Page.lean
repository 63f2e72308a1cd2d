import Folio.Document

/-!
Structure items, pages and the outline of a document. Each widget, annotation and structure item
has its place on one page at most.
-/

namespace Folio

structure PageSource where
  resources : Bytes
  contents : Bytes
  widgets : List (Id .formWidget)
  annotations : List (Id .annot)
  marked : List (Id .structureItem)
  transition : Option Transition
  boxes : Option PageBoxes
deriving DecidableEq, Repr

namespace Placement

variable {kind : Kind}

def markAll (placement : Placement kind) (ids : List (Id kind)) (page : Id .page) :
    Except Error (Placement kind) :=
  ids.foldlM (fun placement id => placement.mark id page) placement

end Placement

namespace Document

def addStructureItem (kind : StructureType) (parent : Option (Id .structureItem))
    (attributes : StructureAttributes) : Build (Id .structureItem) := do
  if let some parent := parent then
    unless (← get).structureItems.contains parent do
      throw (.unknownParent .structureItem parent.index)
  let object ← Build.allocate (.structureItem (← get).structureItems.nextId)
  modifyGet fun doc =>
    let (id, structureItems) := doc.structureItems.register ⟨object, kind, parent, attributes⟩
    (id, { doc with structureItems })

def structureItemRef (doc : Document) (id : Id .structureItem) : Except Error Ref :=
  (doc.structureItems.get id).map StructureItem.object

/-- Resources for a page must be known, without a place, and listed once. -/
def checkPlaceable {kind : Kind} {α : Type} (registry : Registry kind α)
    (placement : Placement kind) (page : Id .page) (seen : List (Id kind)) :
    List (Id kind) → Except Error Unit
  | [] => .ok ()
  | id :: rest => do
      let _ ← registry.get id
      placement.checkUnused id
      if seen.contains id then throw (.alreadyUsed kind id.index page.index)
      checkPlaceable registry placement page (id :: seen) rest

def checkPage (doc : Document) (source : PageSource) : Except Error Unit := do
  let page := doc.pages.nextId
  checkPlaceable doc.widgets doc.widgetPlaces page [] source.widgets
  checkPlaceable doc.annotations doc.annotationPlaces page [] source.annotations
  checkPlaceable doc.structureItems doc.structurePlaces page [] source.marked

def placeAll (source : PageSource) : Build Unit := do
  let page := (← get).pages.nextId
  let widgetPlaces ← Build.ofExcept ((← get).widgetPlaces.markAll source.widgets page)
  modify fun doc => { doc with widgetPlaces }
  let annotationPlaces ← Build.ofExcept ((← get).annotationPlaces.markAll source.annotations page)
  modify fun doc => { doc with annotationPlaces }
  let structurePlaces ← Build.ofExcept ((← get).structurePlaces.markAll source.marked page)
  modify fun doc => { doc with structurePlaces }

/-- A key in the parent tree, for a page with marked content. -/
def takeStructParent (source : PageSource) : Build (Option Nat) :=
  modifyGet fun doc =>
    if source.marked.isEmpty then (none, doc)
    else (some doc.nextStructParent, { doc with nextStructParent := doc.nextStructParent + 1 })

/-- The transparency group that pages share, which is added with the first page. -/
def ensurePageGroup : Build Ref := do
  let doc ← get
  match doc.pageGroup with
  | some group => return group
  | none =>
      let group ← Build.object
        (Dictionary.transparencyGroup doc.options.outputSpace.colorSpace)
      modify fun doc => { doc with pageGroup := some group }
      return group

def addPage (source : PageSource) : Build (Id .page) := do
  Build.ofExcept ((← get).checkPage source)
  placeAll source
  let structParents ← takeStructParent source
  let group ← ensurePageGroup
  let resources ← Build.resources source.resources
  let contents ← Build.stream [] source.contents
  let object ← Build.allocate (.page (← get).pages.nextId)
  modifyGet fun doc =>
    let (id, pages) := doc.pages.register {
      object := object
      resources := resources
      contents := contents
      group := group
      widgets := source.widgets
      annotations := source.annotations
      marked := source.marked
      structParents := structParents
      transition := source.transition
      boxes := source.boxes.getD doc.options.pageBoxes }
    (id, { doc with pages })

def pageRef (doc : Document) (id : Id .page) : Except Error Ref :=
  (doc.pages.get id).map PageItem.object

def pageCount (doc : Document) : Nat :=
  doc.pages.size

def addOutline (item : OutlineItem) : Build (Id .outline) := do
  let doc ← get
  let _ ← Build.ofExcept (doc.pages.get item.page)
  if let some parent := item.parent then
    unless doc.outline.contains parent do
      throw (.unknownParent .outline parent.index)
  let (id, outline) := doc.outline.register item
  set { doc with outline }
  return id

end Document

end Folio
