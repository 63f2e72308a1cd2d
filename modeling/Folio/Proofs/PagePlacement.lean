import Folio.Proofs.Lowered
import Folio.Proofs.Unrefused

/-!
Pages and what has its place on them, from the requests to the finished file: annotations and form
fields lead to the page that lists them, and the page tree and the form list what they should.
-/

namespace Folio

namespace Value

theorem refs_injective : Function.Injective refs := by
  intro first second same
  exact (List.map_inj_right fun _ _ => ref.inj).mp (arr.inj same)

end Value

namespace Document

variable {doc : Document}

def IsAnnotation (doc : Document) (target : Ref) : Prop :=
  (∃ id item, doc.widgets.get? id = some item ∧ item.object = target) ∨
    ∃ id item, doc.annotations.get? id = some item ∧ item.object = target

/-- The form fields that some page lists, in the order in which they were made. -/
def listedFields (doc : Document) : List Ref :=
  (doc.widgets.toList.filter fun entry =>
    doc.pages.toList.any fun page => page.2.widgets.contains entry.1).map fun entry =>
      entry.2.object

/-- What the objects of a file say of pages and of what has its place on them. -/
structure PlacesShown (doc : Document) (roots : Roots) (bodies : List Body) : Prop where
  root : Body.Says bodies roots.catalog "Pages" (some (.ref roots.pages))
  kids : Body.Says bodies roots.pages "Kids"
    (some (.refs (doc.pages.toList.map fun entry => entry.2.object)))
  count : Body.Says bodies roots.pages "Count" (some (.nat doc.pages.size))
  parent : ∀ {id : Id .page} {page : PageItem}, doc.pages.get? id = some page →
    Body.Says bodies page.object "Parent" (some (.ref roots.pages))
  annots : ∀ {id : Id .page} {page : PageItem}, doc.pages.get? id = some page →
    ∃ fields notes : List Ref,
      page.widgets.map (fun id => (doc.widgets.get? id).map CheckboxItem.object) =
        fields.map some ∧
      page.annotations.map (fun id => (doc.annotations.get? id).map AnnotationItem.object) =
        notes.map some ∧
      Body.Says bodies page.object "Annots"
        (if fields = [] ∧ notes = [] then none else some (.refs (fields ++ notes)))
  place : ∀ {target : Ref} {id : Id .page} {page : PageItem}, doc.IsAnnotation target →
    doc.pages.get? id = some page →
    (Body.Says bodies target "P" (some (.ref page.object)) ↔
      ∃ targets, Body.Says bodies page.object "Annots" (some (.refs targets)) ∧
        target ∈ targets)
  unplaced_field : ∀ {id : Id .formWidget} {item : CheckboxItem},
    doc.widgets.get? id = some item → doc.widgetPlaces.pageOf? id = none →
      Body.Says bodies item.object "P" none
  unplaced_annot : ∀ {id : Id .annot} {item : AnnotationItem},
    doc.annotations.get? id = some item → doc.annotationPlaces.pageOf? id = none →
      Body.Says bodies item.object "P" none
  form : Body.Says bodies roots.catalog "AcroForm"
    (if doc.listedFields = [] then none
    else some (.dict [.field "Fields" (.refs doc.listedFields)]))

/--
Form fields, annotations and structure items have a place on one page at most, which is that of
the page that lists them, and every file that is finished told the same.
-/
structure PlacesAgree (doc : Document) : Prop where
  nodup_widgets : (doc.pages.toList.flatMap fun entry => entry.2.widgets).Nodup
  nodup_annotations : (doc.pages.toList.flatMap fun entry => entry.2.annotations).Nodup
  nodup_marked : (doc.pages.toList.flatMap fun entry => entry.2.marked).Nodup
  widgetPlaces : ∀ {id : Id .formWidget} {page : Id .page},
    doc.widgetPlaces.pageOf? id = some page ↔
      ∃ item, doc.pages.get? page = some item ∧ id ∈ item.widgets
  annotationPlaces : ∀ {id : Id .annot} {page : Id .page},
    doc.annotationPlaces.pageOf? id = some page ↔
      ∃ item, doc.pages.get? page = some item ∧ id ∈ item.annotations
  structurePlaces : ∀ {id : Id .structureItem} {page : Id .page},
    doc.structurePlaces.pageOf? id = some page ↔
      ∃ item, doc.pages.get? page = some item ∧ id ∈ item.marked
  finished : ∀ {means : Means} {sink : Sink}, (doc.finalize means sink).failure = none →
    ∃ roots bodies, Whole (doc.finalize means sink).out bodies roots means.identifier ∧
      doc.PlacesShown roots bodies

theorem Sound.placeOf?_eq_some_iff (sound : doc.Sound) {kind : Kind} {α : Type}
    {placement : Placement kind} {registry : Registry kind α}
    {listed : PageItem → List (Id kind)} (lists : placement.Lists registry doc.pages listed)
    {id : Id kind} {number : Id .page} {page : PageItem}
    (found : doc.pages.get? number = some page) :
    doc.placeOf? placement id = some page.object ↔ id ∈ listed page := by
  constructor
  · intro placed
    obtain ⟨other, owned, spelled⟩ := Option.bind_eq_some_iff.mp placed
    obtain ⟨item, foundItem, sameObject⟩ := Option.map_eq_some_iff.mp spelled
    have same := sound.pages.id_eq (fun _ _ => Record.page.inj) foundItem found sameObject
    obtain ⟨itemAlso, foundAlso, member⟩ := lists.pageOf?_eq_some_iff.mp owned
    rw [same, found] at foundAlso
    cases foundAlso
    exact member
  · intro member
    have owned := lists.pageOf?_eq_some_iff.mpr ⟨page, found, member⟩
    rw [placeOf?, owned, Option.bind_some, found, Option.map_some]

theorem mem_targets_iff_mem {kind : Kind} {α : Type} {store : Store}
    {registry : Registry kind α} {object : α → Ref} {record : Id kind → Record}
    (represents : store.Represents registry object record)
    (injective : Function.Injective record) {id : Id kind} {item : α}
    (found : registry.get? id = some item) {ids : List (Id kind)} :
    object item ∈ registry.targets object ids ↔ id ∈ ids := by
  rw [Registry.mem_targets_iff]
  constructor
  · rintro ⟨other, member, held, foundOther, same⟩
    rw [represents.id_eq injective found foundOther same.symm]
    exact member
  · exact fun member => ⟨id, member, item, found, rfl⟩

theorem not_mem_targets {kind other : Kind} {α β : Type} {store : Store}
    {registry : Registry kind α} {object : α → Ref} {record : Id kind → Record}
    {registryOther : Registry other β} {objectOther : β → Ref} {recordOther : Id other → Record}
    (represents : store.Represents registry object record)
    (representsOther : store.Represents registryOther objectOther recordOther)
    (apart : ∀ id idOther, record id ≠ recordOther idOther) {id : Id kind} {item : α}
    (found : registry.get? id = some item) (ids : List (Id other)) :
    object item ∉ registryOther.targets objectOther ids := by
  intro member
  obtain ⟨idOther, -, itemOther, foundOther, same⟩ := Registry.mem_targets_iff.mp member
  have stored := represents.held found
  rw [← same, representsOther.held foundOther] at stored
  exact apart id idOther (Option.some.inj stored).symm

theorem Sound.mem_annotations_iff (sound : doc.Sound) (roots : Roots) (target : Ref)
    (page : PageItem) :
    (∀ {id item}, doc.widgets.get? id = some item → item.object = target →
      (target ∈ (doc.pageDictionary roots page).annotations ↔ id ∈ page.widgets)) ∧
    ∀ {id item}, doc.annotations.get? id = some item → item.object = target →
      (target ∈ (doc.pageDictionary roots page).annotations ↔ id ∈ page.annotations) := by
  constructor
  · rintro id item found rfl
    have apart := not_mem_targets sound.widgets sound.annotations
      (fun _ _ _ => by contradiction) found page.annotations
    rw [pageDictionary, List.mem_append,
      mem_targets_iff_mem sound.widgets (fun _ _ => Record.checkbox.inj) found, or_iff_left apart]
  · rintro id item found rfl
    have apart := not_mem_targets sound.annotations sound.widgets
      (fun _ _ _ => by contradiction) found page.widgets
    rw [pageDictionary, List.mem_append,
      mem_targets_iff_mem sound.annotations (fun _ _ => Record.annot.inj) found,
      or_iff_right apart]

theorem Sound.placedFields_eq (sound : doc.Sound) : doc.placedFields = doc.listedFields := by
  have same : ∀ entry ∈ doc.widgets.toList, (doc.widgetPlaces.pageOf? entry.1).isSome =
      doc.pages.toList.any fun page => page.2.widgets.contains entry.1 := by
    intro entry _
    rw [Bool.eq_iff_iff, Option.isSome_iff_exists, List.any_eq_true]
    constructor
    · rintro ⟨page, owned⟩
      obtain ⟨item, found, member⟩ := sound.widgetPlaces.pageOf?_eq_some_iff.mp owned
      exact ⟨(page, item), Registry.mem_toList_iff.mpr found, List.contains_iff_mem.mpr member⟩
    · rintro ⟨⟨page, item⟩, listed, member⟩
      exact ⟨page, sound.widgetPlaces.pageOf?_eq_some_iff.mpr
        ⟨item, Registry.mem_toList_iff.mp listed, List.contains_iff_mem.mp member⟩⟩
  rw [placedFields, listedFields]
  exact congrArg (List.map _) (List.filter_congr same)

section Finished

variable {closed : Document} {means : Means} {file : Bytes} {roots : Roots} {bodies : List Body}

theorem FinishedAs.says_annots (finished : doc.FinishedAs closed means file roots bodies)
    (sound : doc.Sound) {id : Id .page} {page : PageItem}
    (found : doc.pages.get? id = some page) :
    Body.Says bodies page.object "Annots"
      (if (doc.pageDictionary roots page).annotations = [] then none
      else some (.refs (doc.pageDictionary roots page).annotations)) := by
  have told := finished.says_page sound found "Annots"
  have held : Value.entry? (doc.pageDictionary roots page).value "Annots" =
      if (doc.pageDictionary roots page).annotations = [] then none
      else some (.refs (doc.pageDictionary roots page).annotations) := by
    simp [Dictionary.Page.value, PageBoxes.entries, Value.entry?, Value.refs,
      List.findSome?_append]
  rwa [held] at told

theorem FinishedAs.lists_iff (finished : doc.FinishedAs closed means file roots bodies)
    (sound : doc.Sound) {id : Id .page} {page : PageItem}
    (found : doc.pages.get? id = some page) {target : Ref} :
    (∃ targets, Body.Says bodies page.object "Annots" (some (.refs targets)) ∧
      target ∈ targets) ↔ target ∈ (doc.pageDictionary roots page).annotations := by
  have told := finished.says_annots sound found
  constructor
  · rintro ⟨targets, toldAlso, member⟩
    have same := told.unique toldAlso
    split at same
    · contradiction
    · rw [Value.refs_injective (Option.some.inj same)]
      exact member
  · intro member
    rw [if_neg (List.ne_nil_of_mem member)] at told
    exact ⟨_, told, member⟩

theorem place_of_annot (entry : Dictionary.Annot) :
    entry.value.entry? "P" = entry.page.map .ref := by
  cases body : entry.body with
  | text contents icon isOpen =>
      simp [Dictionary.Annot.value, Dictionary.AnnotationBody.entries, body, Value.entry?,
        List.findSome?_append]
  | fileAttachment file contents icon =>
      simp [Dictionary.Annot.value, Dictionary.AnnotationBody.entries, body, Value.entry?,
        List.findSome?_append]
  | link uri =>
      simp [Dictionary.Annot.value, Dictionary.AnnotationBody.entries, body, Value.entry?,
        List.findSome?_append]
  | checkbox name on off checked =>
      simp [Dictionary.Annot.value, Dictionary.AnnotationBody.entries, body, Value.entry?,
        List.findSome?_append]

theorem says_ref_iff {target held : Ref} {key : Name} {place : Option Ref}
    (told : Body.Says bodies target key (place.map .ref)) :
    Body.Says bodies target key (some (.ref held)) ↔ place = some held := by
  constructor
  · intro toldAlso
    obtain ⟨other, spelled, same⟩ := Option.map_eq_some_iff.mp (told.unique toldAlso)
    cases same
    exact spelled
  · intro spelled
    rw [spelled] at told
    exact told

theorem FinishedAs.says_place_field (finished : doc.FinishedAs closed means file roots bodies)
    (sound : doc.Sound) {id : Id .formWidget} {item : CheckboxItem}
    (found : doc.widgets.get? id = some item) :
    Body.Says bodies item.object "P" ((doc.placeOf? doc.widgetPlaces id).map .ref) := by
  obtain ⟨entry, placed, told⟩ := finished.says_widget sound found
  rw [← placed, ← place_of_annot]
  exact told "P"

theorem FinishedAs.says_place_annot
    (finished : doc.FinishedAs closed means file roots bodies) (sound : doc.Sound)
    {id : Id .annot} {item : AnnotationItem} (found : doc.annotations.get? id = some item) :
    Body.Says bodies item.object "P" ((doc.placeOf? doc.annotationPlaces id).map .ref) := by
  obtain ⟨entry, placed, told⟩ := finished.says_annot sound found
  rw [← placed, ← place_of_annot]
  exact told "P"

theorem FinishedAs.place_iff (finished : doc.FinishedAs closed means file roots bodies)
    (sound : doc.Sound) {target : Ref} {number : Id .page} {page : PageItem}
    (found : doc.pages.get? number = some page) (placeable : doc.IsAnnotation target) :
    Body.Says bodies target "P" (some (.ref page.object)) ↔
      ∃ targets, Body.Says bodies page.object "Annots" (some (.refs targets)) ∧
        target ∈ targets := by
  rw [finished.lists_iff sound found]
  obtain ⟨field, annot⟩ := sound.mem_annotations_iff roots target page
  rcases placeable with ⟨id, item, foundItem, same⟩ | ⟨id, item, foundItem, same⟩
  · rw [field foundItem same, ← same, says_ref_iff (finished.says_place_field sound foundItem),
      sound.placeOf?_eq_some_iff sound.widgetPlaces found]
  · rw [annot foundItem same, ← same,
      says_ref_iff (finished.says_place_annot sound foundItem),
      sound.placeOf?_eq_some_iff sound.annotationPlaces found]

theorem FinishedAs.placesShown (finished : doc.FinishedAs closed means file roots bodies)
    (sound : doc.Sound) : doc.PlacesShown roots bodies := by
  obtain ⟨catalog, stored, pages, -, -, fields, -⟩ := finished.closes.catalog
  have cataloged := finished.says_object finished.closes.generation.2 stored ⟨_, rfl⟩
  have tree := finished.says_object finished.closes.generation.1 finished.closes.pages ⟨_, rfl⟩
  exact {
    root := by
      rw [← pages, ← catalog.pages_entry]
      exact cataloged "Pages"
    kids := tree "Kids"
    count := by
      have held : Value.entry? (Dictionary.pages (doc.pages.toList.map fun entry =>
          entry.2.object)) "Count" = some (.nat doc.pages.size) := by
        simp [Dictionary.pages, Value.entry?]
      exact held ▸ tree "Count"
    parent := by
      intro id page found
      have held : Value.entry? (doc.pageDictionary roots page).value "Parent" =
          some (.ref roots.pages) := by
        simp [Dictionary.Page.value, Value.entry?, pageDictionary]
      exact held ▸ finished.says_page sound found "Parent"
    annots := by
      intro id page found
      refine ⟨_, _, Registry.map_get?_eq_targets _ (sound.widgetPlaces.known found),
        Registry.map_get?_eq_targets _ (sound.annotationPlaces.known found), ?_⟩
      have told := finished.says_annots sound found
      simp only [pageDictionary, List.append_eq_nil_iff] at told
      exact told
    place := fun placeable found => finished.place_iff sound found placeable
    unplaced_field := by
      intro id item found free
      have told := finished.says_place_field sound found
      rw [placeOf?, free] at told
      exact told
    unplaced_annot := by
      intro id item found free
      have told := finished.says_place_annot sound found
      rw [placeOf?, free] at told
      exact told
    form := by
      have held : catalog.value.entry? "AcroForm" =
          if doc.listedFields = [] then none
          else some (.dict [.field "Fields" (.refs doc.listedFields)]) := by
        rw [catalog.optional_entries.2.2, fields, sound.placedFields_eq]
        cases doc.listedFields with
        | nil => rfl
        | cons target rest => rfl
      exact held ▸ cataloged "AcroForm" }

end Finished

theorem Sound.placesAgree (sound : doc.Sound) : doc.PlacesAgree where
  nodup_widgets := sound.widgetPlaces.nodup
  nodup_annotations := sound.annotationPlaces.nodup
  nodup_marked := sound.structurePlaces.nodup
  widgetPlaces := sound.widgetPlaces.pageOf?_eq_some_iff
  annotationPlaces := sound.annotationPlaces.pageOf?_eq_some_iff
  structurePlaces := sound.structurePlaces.pageOf?_eq_some_iff
  finished := by
    intro means sink complete
    obtain ⟨roots, closed, bodies, finished⟩ := sound.exists_finishedAs complete
    exact ⟨roots, bodies, finished.whole, finished.placesShown sound⟩

/-- Whatever was asked of a document, it agrees with itself on what has its place on which page. -/
theorem placesAgree_run (options : DocumentOptions) (converter : Color → DeviceSpace → Color)
    (operations : List Operation) :
    ((withConverter options converter).run operations).2.PlacesAgree :=
  (sound_run options converter operations).placesAgree

/-- A page that shows nothing but lists what is to have its place there. -/
def listingPage (widgets : List (Id .formWidget)) (annotations : List (Id .annot))
    (marked : List (Id .structureItem)) : PageSource where
  resources := []
  contents := []
  widgets := widgets
  annotations := annotations
  marked := marked
  transition := none
  boxes := none

/-- Two form fields and a note, of which the first page takes a field and the note. -/
def fieldDocument : Document :=
  ((withConverter .standard Color.convertDevice).run
    [.addForm ⟨⟨0, 0, 1, 1⟩, none, [], []⟩,
      .createCheckbox ⟨⟨0, 0, 1, 1⟩, ⟨0⟩, ⟨0⟩, "first", true⟩,
      .createCheckbox ⟨⟨0, 0, 1, 1⟩, ⟨0⟩, ⟨0⟩, "second", false⟩,
      .annotate ⟨0, 0, 1, 1⟩ (.text "note" false) none,
      .addPage (listingPage [⟨1⟩] [⟨0⟩] []),
      .addPage (listingPage [⟨0⟩, ⟨1⟩] [] []),
      .addPage (listingPage [] [] [])]).2

theorem placesAgree_run_fields :
    (fieldDocument.finalize ⟨id, List.replicate 16 0⟩ .unbounded).failure = none ∧
      ∃ roots bodies,
        Whole (fieldDocument.finalize ⟨id, List.replicate 16 0⟩ .unbounded).out bodies roots
          (List.replicate 16 0) ∧
        Body.Says bodies roots.pages "Kids" (some (.refs [.first 8, .first 11])) ∧
        Body.Says bodies (.first 3) "P" (some (.ref (.first 8))) ∧
        Body.Says bodies (.first 2) "P" none ∧
        Body.Says bodies (.first 11) "Parent" (some (.ref roots.pages)) ∧
        Body.Says bodies roots.catalog "AcroForm"
          (some (.dict [.field "Fields" (.refs [.first 3])])) := by
  have complete : (fieldDocument.finalize ⟨id, List.replicate 16 0⟩ .unbounded).failure = none :=
    failure_finalize_unbounded (by decide +kernel)
  have agree : fieldDocument.PlacesAgree := placesAgree_run _ _ _
  obtain ⟨roots, bodies, whole, shown⟩ := agree.finished complete
  have firstPage : fieldDocument.pages.get? ⟨0⟩ = some _ := rfl
  have secondPage : fieldDocument.pages.get? ⟨1⟩ = some _ := rfl
  have freeField : fieldDocument.widgets.get? ⟨0⟩ = some _ := rfl
  have isField : fieldDocument.IsAnnotation (.first 3) := .inl ⟨⟨1⟩, _, rfl, rfl⟩
  obtain ⟨fields, notes, spelled, -, told⟩ := shown.annots firstPage
  have same : fields = [.first 3] :=
    (List.map_inj_right fun _ _ => Option.some.inj).mp spelled.symm
  rw [same, if_neg fun empty => nomatch empty.1] at told
  exact ⟨complete, roots, bodies, whole, shown.kids,
    (shown.place isField firstPage).mpr ⟨_, told, List.mem_cons_self⟩,
    shown.unplaced_field freeField rfl, shown.parent secondPage, shown.form⟩

end Document

end Folio
