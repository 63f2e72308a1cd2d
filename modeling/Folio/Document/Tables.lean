import Folio.Document.Output

/-!
Writing a document with tables. They are made of the whole document between the header and the
first object, and tell a record by the number of its object what other parts of the document say of
it. When all is written, the destination gives out what it still held back.
-/

namespace Folio

namespace Document

/-- What records are looked up in, by object numbers and by the counts of structure items. -/
structure Tables where
  /-- The page of each form field and annotation, by object number. -/
  places : List (Nat × Ref)
  items : List (Nat × Id .structureItem)
  kids : List (Nat × List Dictionary.StructKid)
  /-- The page with the marked content of each structure item. -/
  contents : List (Nat × Ref)

def placesOf (doc : Document) : Record → Except Error (List (Nat × Ref))
  | .page id => do
      let page ← doc.pages.get id
      let widgets ← page.widgets.mapM doc.widgetRef
      let annotations ← page.annotations.mapM doc.annotationRef
      return (widgets ++ annotations).map fun target => (target.number, page.object)
  | _ => .ok []

def placeTable (doc : Document) : Except Error (List (Nat × Ref)) :=
  doc.store.toList.foldlM (fun places entry => do
    return Sorted.insertAll places (← doc.placesOf entry.2)) []

def itemTable (doc : Document) : List (Nat × Id .structureItem) :=
  Sorted.insertAll [] (doc.structureItems.toList.map fun (id, item) => (item.object.number, id))

/-- The items below each item in the order of registration, then its marks on all pages. -/
def kidTable (doc : Document) : List (Nat × List Dictionary.StructKid) :=
  let items := doc.structureItems.toList.filterMap fun (_, item) =>
    item.parent.map fun parent => (parent.index, Dictionary.StructKid.element item.object)
  let marks := doc.pages.toList.flatMap fun (_, page) =>
    page.marked.zipIdx.map fun (id, mark) => (id.index, Dictionary.StructKid.content mark)
  Sorted.pushAll (Sorted.pushAll [] items) marks

def contentTable (doc : Document) : List (Nat × Ref) :=
  Sorted.insertAll [] (doc.pages.toList.flatMap fun (_, page) =>
    page.marked.map fun id => (id.index, page.object))

def tables (doc : Document) : Except Error Tables := do
  return ⟨← doc.placeTable, doc.itemTable, doc.kidTable, doc.contentTable⟩

def bodyWith (doc : Document) (tables : Tables) (roots : Roots) (deflate : Bytes → Bytes)
    (target : Ref) : Record → Except Error Body
  | .checkbox id => do
      let item ← doc.widgets.get id
      let page := Sorted.find? target.number tables.places
      return .value (← doc.checkboxEntry page item.checkbox).value
  | .annot id => do
      let item ← doc.annotations.get id
      let page := Sorted.find? target.number tables.places
      return .value (← doc.annotationEntry page item).value
  | .structureItem held => do
      let item ← doc.structureItems.get held
      match Sorted.find? target.number tables.items with
      | none => .error (.unknownResource .structureItem target.number)
      | some id => do
          let parent ← doc.structureParent roots id item
          let page := Sorted.find? id.index tables.contents
          return .value (structureEntry item parent page (Sorted.under id.index tables.kids)).value
  | record => doc.body roots deflate record

def writeWithTables (doc : Document) (roots : Roots) (means : Means) (writer : Writer) : Step :=
  (writer.put header).andThen fun writer =>
    match doc.tables with
    | .error error => .failed writer error
    | .ok tables =>
        (writeObjects (fun entry => doc.bodyWith tables roots means.deflate entry.1 entry.2)
          (doc.store.toList.map fun entry => (entry.1, entry)) writer).andThen
            (writeEnd roots means)

/-- Has the destination give out what it held back; `flushed` says whether it can. -/
def flush (flushed : Sink → Bool) (writer : Writer) : Step :=
  if flushed writer.sink then .done writer else .failed writer .io

def finalizeWithTables (doc : Document) (means : Means) (flushed : Sink → Bool) (sink : Sink) :
    Step :=
  match close.run doc with
  | .error error _ => .failed (.start sink) error
  | .ok roots doc => (doc.writeWithTables roots means (.start sink)).andThen (flush flushed)

end Document

end Folio
