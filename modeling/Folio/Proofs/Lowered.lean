import Folio.Proofs.Completion
import Folio.Proofs.Finished

/-!
What is written for the records of a document that was built by operations and is complete: pages,
annotations, form fields and structure items, with the objects that they lead to.
-/

namespace Folio

namespace Dictionary.Catalog

variable (catalog : Catalog)

theorem pages_entry : catalog.value.entry? "Pages" = some (.ref catalog.pages) := by
  simp [value, Value.entry?]

theorem optional_entries : catalog.value.entry? "Outlines" = catalog.outline.map .ref ∧
    catalog.value.entry? "StructTreeRoot" = catalog.structTreeRoot.map .ref ∧
      catalog.value.entry? "AcroForm" = catalog.fields.map acroForm := by
  obtain ⟨pages, outline, structTreeRoot, names, fields, intents, language⟩ := catalog
  cases outline with
  | none =>
      cases structTreeRoot with
      | none => simp [value, Value.entry?, List.findSome?_append]
      | some root => simp [value, Value.entry?, List.findSome?_append]
  | some outline =>
      cases structTreeRoot with
      | none => simp [value, Value.entry?, List.findSome?_append]
      | some root => simp [value, Value.entry?, List.findSome?_append]

theorem names_entry : catalog.value.entry? "Names" = catalog.names.map Dictionary.names := by
  obtain ⟨pages, outline, structTreeRoot, names, fields, intents, language⟩ := catalog
  cases outline with
  | none =>
      cases structTreeRoot with
      | none => simp [value, Value.entry?, List.findSome?_append]
      | some root => simp [value, Value.entry?, List.findSome?_append]
  | some outline =>
      cases structTreeRoot with
      | none => simp [value, Value.entry?, List.findSome?_append]
      | some root => simp [value, Value.entry?, List.findSome?_append]

end Dictionary.Catalog

namespace Document

variable {doc : Document} {roots : Roots}

def placeOf? {kind : Kind} (doc : Document) (placement : Placement kind) (id : Id kind) :
    Option Ref :=
  (placement.pageOf? id).bind fun page => (doc.pages.get? page).map PageItem.object

theorem placedOn_eq {kind : Kind} {α : Type} {placement : Placement kind}
    {registry : Registry kind α} {listed : PageItem → List (Id kind)}
    (lists : placement.Lists registry doc.pages listed) (id : Id kind) :
    doc.placedOn placement id = .ok (doc.placeOf? placement id) := by
  rw [placedOn, placeOf?]
  cases owned : placement.pageOf? id with
  | none => rfl
  | some page =>
      obtain ⟨item, found, -⟩ := lists.pageOf?_eq_some_iff.mp owned
      simp only [pageRef, Registry.get_eq_ok_iff.mpr found, Option.bind_some, found]
      rfl

def pageDictionary (doc : Document) (roots : Roots) (page : PageItem) : Dictionary.Page where
  parent := roots.pages
  contents := page.contents
  resources := page.resources
  group := page.group
  boxes := page.boxes
  annotations := doc.widgets.targets CheckboxItem.object page.widgets ++
    doc.annotations.targets AnnotationItem.object page.annotations
  structParents := page.structParents
  transition := page.transition

theorem Sound.mapM_widgetRef (sound : doc.Sound) {id : Id .page} {page : PageItem}
    (found : doc.pages.get? id = some page) :
    page.widgets.mapM doc.widgetRef =
      .ok (doc.widgets.targets CheckboxItem.object page.widgets) :=
  Registry.mapM_get_eq_targets CheckboxItem.object (sound.widgetPlaces.known found)

theorem Sound.mapM_annotationRef (sound : doc.Sound) {id : Id .page} {page : PageItem}
    (found : doc.pages.get? id = some page) :
    page.annotations.mapM doc.annotationRef =
      .ok (doc.annotations.targets AnnotationItem.object page.annotations) :=
  Registry.mapM_get_eq_targets AnnotationItem.object (sound.annotationPlaces.known found)

theorem Sound.body_page (sound : doc.Sound) (deflate : Bytes → Bytes) {id : Id .page}
    {page : PageItem} (found : doc.pages.get? id = some page) :
    doc.body roots deflate (.page id) = .ok (.value (doc.pageDictionary roots page).value) := by
  have got := Registry.get_eq_ok_iff.mpr found
  simp only [body, got, pageEntry, sound.mapM_widgetRef found, sound.mapM_annotationRef found,
    bind, Except.bind, pure, Except.pure, pageDictionary]

theorem Sound.body_checkbox (sound : doc.Sound) (deflate : Bytes → Bytes) {id : Id .formWidget}
    {item : CheckboxItem} (found : doc.widgets.get? id = some item) :
    ∃ (entry : Dictionary.Annot) (on off : Ref),
      doc.body roots deflate (.checkbox id) = .ok (.value entry.value) ∧
        entry.page = doc.placeOf? doc.widgetPlaces id ∧
        entry.body = .checkbox (textString item.checkbox.name) on off item.checkbox.checked ∧
        doc.forms.get? item.checkbox.on = some on ∧
        doc.forms.get? item.checkbox.off = some off := by
  obtain ⟨knownOn, knownOff⟩ := sound.appearances found
  obtain ⟨on, foundOn⟩ := Registry.exists_get?_of_contains knownOn
  obtain ⟨off, foundOff⟩ := Registry.exists_get?_of_contains knownOff
  have got := Registry.get_eq_ok_iff.mpr found
  have gotOn := Registry.get_eq_ok_iff.mpr foundOn
  have gotOff := Registry.get_eq_ok_iff.mpr foundOff
  have placed := placedOn_eq sound.widgetPlaces id
  simp only [body, got, checkboxEntry, placed, gotOn, gotOff, bind, Except.bind, pure, Except.pure]
  exact ⟨_, on, off, rfl, rfl, rfl, foundOn, foundOff⟩

theorem Sound.exists_annotationBody (sound : doc.Sound) {id : Id .annot} {item : AnnotationItem}
    (found : doc.annotations.get? id = some item) :
    ∃ body, doc.annotationBody item.kind = .ok body := by
  cases attached : item.kind with
  | text contents isOpen => exact ⟨_, rfl⟩
  | link uri => exact ⟨_, rfl⟩
  | fileAttachment file description =>
      obtain ⟨entry, known⟩ :=
        Registry.exists_get?_of_contains (sound.attachments found attached)
      have got := Registry.get_eq_ok_iff.mpr known
      simp only [annotationBody, fileRef, got, Except.map, bind, Except.bind, pure, Except.pure]
      exact ⟨_, rfl⟩

theorem Sound.body_annot (sound : doc.Sound) (deflate : Bytes → Bytes) {id : Id .annot}
    {item : AnnotationItem} (found : doc.annotations.get? id = some item) :
    ∃ entry : Dictionary.Annot,
      doc.body roots deflate (.annot id) = .ok (.value entry.value) ∧
        entry.page = doc.placeOf? doc.annotationPlaces id ∧
        doc.annotationBody item.kind = .ok entry.body := by
  obtain ⟨body, made⟩ := sound.exists_annotationBody found
  have got := Registry.get_eq_ok_iff.mpr found
  have placed := placedOn_eq sound.annotationPlaces id
  simp only [Document.body, got, annotationEntry, placed, made, bind, Except.bind, pure,
    Except.pure]
  exact ⟨_, rfl, rfl, rfl⟩

def structureAbove? (doc : Document) (root : Ref) (item : StructureItem) : Option Ref :=
  match item.parent with
  | none => some root
  | some parent => (doc.structureItems.get? parent).map StructureItem.object

def marksOf (doc : Document) (id : Id .structureItem) : List Nat :=
  match (doc.structurePlaces.pageOf? id).bind doc.pages.get? with
  | none => []
  | some page => (page.marked.zipIdx.filter fun (marked, _) => marked == id).map Prod.snd

theorem Sound.markedContent_eq (sound : doc.Sound) (id : Id .structureItem) :
    doc.markedContent id = .ok (doc.placeOf? doc.structurePlaces id, doc.marksOf id) := by
  rw [markedContent, placeOf?, marksOf]
  cases owned : doc.structurePlaces.pageOf? id with
  | none => rfl
  | some page =>
      obtain ⟨item, found, -⟩ := sound.structurePlaces.pageOf?_eq_some_iff.mp owned
      simp only [Registry.get_eq_ok_iff.mpr found, Option.bind_some, found]
      rfl

theorem Sound.exists_structureParent (sound : doc.Sound) {id parent : Id .structureItem}
    {item : StructureItem} (found : doc.structureItems.get? id = some item)
    (below : item.parent = some parent) : ∃ held, doc.structureItems.get? parent = some held := by
  have bound := sound.structureParents found below
  have inside : id.index < doc.structureItems.size :=
    of_decide_eq_true (Registry.contains_of_get? found)
  exact Registry.exists_get?_of_contains (decide_eq_true (Nat.lt_trans bound inside))

theorem Sound.structureParent_eq (sound : doc.Sound) {root : Ref}
    (tagged : roots.structure? = some root) {id : Id .structureItem} {item : StructureItem}
    (found : doc.structureItems.get? id = some item) :
    ∃ above, doc.structureAbove? root item = some above ∧
      doc.structureParent roots id item = .ok above := by
  rw [structureAbove?, structureParent]
  cases below : item.parent with
  | none =>
      rw [tagged]
      exact ⟨root, rfl, rfl⟩
  | some parent =>
      obtain ⟨entry, foundParent⟩ := sound.exists_structureParent found below
      simp only [foundParent, structureItemRef, Registry.get_eq_ok_iff.mpr foundParent]
      exact ⟨entry.object, rfl, rfl⟩

theorem Sound.body_structureItem (sound : doc.Sound) (deflate : Bytes → Bytes) {root : Ref}
    (tagged : roots.structure? = some root) {id : Id .structureItem} {item : StructureItem}
    (found : doc.structureItems.get? id = some item) :
    ∃ entry : Dictionary.StructElement,
      doc.body roots deflate (.structureItem id) = .ok (.value entry.value) ∧
        doc.structureAbove? root item = some entry.parent ∧
        entry.page = doc.placeOf? doc.structurePlaces id ∧
        entry.kids = (doc.structureChildren id).map .element ++ (doc.marksOf id).map .content := by
  obtain ⟨above, spelled, parent⟩ := sound.structureParent_eq tagged found
  have got := Registry.get_eq_ok_iff.mpr found
  have marked := sound.markedContent_eq id
  simp only [body, got, structureEntry, parent, marked, bind, Except.bind, pure, Except.pure]
  exact ⟨_, rfl, spelled, rfl, rfl⟩

/-- A document that was closed, and a file with all its objects. -/
structure FinishedAs (doc closed : Document) (means : Means) (file : Bytes) (roots : Roots)
    (bodies : List Body) : Prop where
  closing : close.run doc = .ok roots closed
  lowered : closed.store.records.toList.map (closed.body roots means.deflate) = bodies.map .ok
  closes : doc.Closed closed roots
  whole : Whole file bodies roots means.identifier
  body : ∀ {target : Ref} {record : Record}, target.generation = 0 →
    closed.store.get? target = some record →
      ∃ body, Body.at? bodies target = some body ∧
        doc.body roots means.deflate record = .ok body
  record : ∀ {target : Ref} {body : Body}, Body.at? bodies target = some body →
    ∃ record, closed.store.get? target = some record ∧
      doc.body roots means.deflate record = .ok body

theorem Sound.exists_finishedAs (sound : doc.Sound) {means : Means} {sink : Sink}
    (complete : (doc.finalize means sink).failure = none) :
    ∃ roots closed bodies,
      doc.FinishedAs closed means (doc.finalize means sink).out roots bodies := by
  obtain ⟨roots, closed, bodies, closing, lowered, whole⟩ := exists_whole_of_finalize complete
  obtain ⟨rootsAlso, closedAlso, closingAlso, closes⟩ := sound.exists_closed
  rw [closing] at closingAlso
  cases closingAlso
  have drawn := lowered
  rw [show closed.body = doc.body by rw [closes.same]; rfl] at drawn
  exact ⟨roots, closed, bodies, closing, lowered, closes, whole, exists_at?_of_get? drawn,
    exists_get?_of_at? drawn⟩

namespace FinishedAs

variable {closed : Document} {means : Means} {file : Bytes} {bodies : List Body}

theorem says_object (finished : doc.FinishedAs closed means file roots bodies) {target : Ref}
    {value : Value} (generation : target.generation = 0)
    (found : closed.store.get? target = some (.object value))
    (dictionary : ∃ entries, value = .dict entries) (key : Name) :
    Body.Says bodies target key <| value.entry? key := by
  obtain ⟨entries, rfl⟩ := dictionary
  obtain ⟨body, place, lowered⟩ := finished.body generation found
  cases lowered
  exact ⟨entries, place, rfl⟩

theorem says_record (finished : doc.FinishedAs closed means file roots bodies)
    {kind : Kind} {α : Type} {registry : Registry kind α} {object : α → Ref}
    {record : Id kind → Record} (represents : doc.store.Represents registry object record)
    {id : Id kind} {item : α} (found : registry.get? id = some item) {value : Value}
    (lowered : doc.body roots means.deflate (record id) = .ok (.value value))
    (dictionary : ∃ entries, value = .dict entries) (key : Name) :
    Body.Says bodies (object item) key <| value.entry? key := by
  obtain ⟨entries, rfl⟩ := dictionary
  obtain ⟨body, place, loweredAlso⟩ := finished.body (represents.generation found)
    (finished.closes.adds.kept (represents.held found))
  rw [lowered] at loweredAlso
  cases loweredAlso
  exact ⟨entries, place, rfl⟩

theorem says_page (finished : doc.FinishedAs closed means file roots bodies)
    (sound : doc.Sound) {id : Id .page} {page : PageItem}
    (found : doc.pages.get? id = some page) (key : Name) :
    Body.Says bodies page.object key <| Value.entry? (doc.pageDictionary roots page).value key :=
  finished.says_record sound.pages found (sound.body_page means.deflate found) ⟨_, rfl⟩ key

theorem says_widget (finished : doc.FinishedAs closed means file roots bodies)
    (sound : doc.Sound) {id : Id .formWidget} {item : CheckboxItem}
    (found : doc.widgets.get? id = some item) :
    ∃ entry : Dictionary.Annot, entry.page = doc.placeOf? doc.widgetPlaces id ∧
      ∀ key, Body.Says bodies item.object key <| entry.value.entry? key := by
  obtain ⟨entry, -, -, lowered, placed, -⟩ := sound.body_checkbox means.deflate found
  exact ⟨entry, placed, finished.says_record sound.widgets found lowered ⟨_, rfl⟩⟩

theorem says_annot (finished : doc.FinishedAs closed means file roots bodies)
    (sound : doc.Sound) {id : Id .annot} {item : AnnotationItem}
    (found : doc.annotations.get? id = some item) :
    ∃ entry : Dictionary.Annot, entry.page = doc.placeOf? doc.annotationPlaces id ∧
      ∀ key, Body.Says bodies item.object key <| entry.value.entry? key := by
  obtain ⟨entry, lowered, placed, -⟩ := sound.body_annot means.deflate found
  exact ⟨entry, placed, finished.says_record sound.annotations found lowered ⟨_, rfl⟩⟩

theorem says_structureItem (finished : doc.FinishedAs closed means file roots bodies)
    (sound : doc.Sound) {root : Ref} (tagged : roots.structure? = some root)
    {id : Id .structureItem} {item : StructureItem}
    (found : doc.structureItems.get? id = some item) :
    ∃ entry : Dictionary.StructElement,
      doc.structureAbove? root item = some entry.parent ∧
        entry.page = doc.placeOf? doc.structurePlaces id ∧
        entry.kids =
          (doc.structureChildren id).map .element ++ (doc.marksOf id).map .content ∧
        ∀ key, Body.Says bodies item.object key <| entry.value.entry? key := by
  obtain ⟨entry, lowered, above, placed, kids⟩ :=
    sound.body_structureItem means.deflate tagged found
  exact ⟨entry, above, placed, kids,
    finished.says_record sound.structureItems found lowered ⟨_, rfl⟩⟩

end FinishedAs

end Document

end Folio
