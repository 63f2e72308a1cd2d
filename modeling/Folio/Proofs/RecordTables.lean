import Folio.Document.Tables
import Folio.Proofs.PagePlacement
import Folio.Proofs.Sorted

/-!
Tables made of a document tell its records what they would find for themselves, so that a file that
is written with tables is the same file.
-/

namespace Folio

namespace Document

variable {doc : Document} {roots : Roots} {deflate : Bytes → Bytes}

theorem placeOf?_eq_some_iff_exists {kind : Kind} {α : Type} {placement : Placement kind}
    {registry : Registry kind α} {listed : PageItem → List (Id kind)}
    (lists : placement.Lists registry doc.pages listed) {id : Id kind} {target : Ref} :
    doc.placeOf? placement id = some target ↔
      ∃ number page, doc.pages.get? number = some page ∧ id ∈ listed page ∧
        page.object = target := by
  constructor
  · intro placed
    obtain ⟨number, owned, spelled⟩ := Option.bind_eq_some_iff.mp placed
    obtain ⟨page, found, same⟩ := Option.map_eq_some_iff.mp spelled
    obtain ⟨pageAlso, foundAlso, member⟩ := lists.pageOf?_eq_some_iff.mp owned
    rw [found] at foundAlso
    cases foundAlso
    exact ⟨number, page, found, member, same⟩
  · rintro ⟨number, page, found, member, rfl⟩
    have owned := lists.pageOf?_eq_some_iff.mpr ⟨page, found, member⟩
    rw [placeOf?, owned, Option.bind_some, found, Option.map_some]

def listedObjects (doc : Document) (page : PageItem) : List Ref :=
  doc.widgets.targets CheckboxItem.object page.widgets ++
    doc.annotations.targets AnnotationItem.object page.annotations

theorem Sound.placesOf_page (sound : doc.Sound) {id : Id .page} {page : PageItem}
    (found : doc.pages.get? id = some page) :
    doc.placesOf (.page id) =
      .ok ((doc.listedObjects page).map fun target => (target.number, page.object)) := by
  simp only [placesOf, Registry.get_eq_ok_iff.mpr found, sound.mapM_widgetRef found,
    sound.mapM_annotationRef found, bind, Except.bind, pure, Except.pure, listedObjects]

theorem Sound.exists_placesOf (sound : doc.Sound) {entry : Ref × Record}
    (stored : entry ∈ doc.store.toList) : ∃ pairs, doc.placesOf entry.2 = .ok pairs := by
  obtain ⟨target, record⟩ := entry
  obtain ⟨numbered, held⟩ := Store.mem_toList_iff.mp stored
  cases record with
  | page id =>
      rw [numbered] at held
      obtain ⟨page, found, -⟩ := sound.pages.only held
      exact ⟨_, sound.placesOf_page found⟩
  | _ => exact ⟨[], rfl⟩

theorem exists_foldlM_placesOf {entries : List (Ref × Record)} (start : List (Nat × Ref))
    (each : ∀ entry ∈ entries, ∃ pairs, doc.placesOf entry.2 = .ok pairs) :
    ∃ listed, entries.foldlM (fun places entry => do
        return Sorted.insertAll places (← doc.placesOf entry.2)) start =
          .ok (Sorted.insertAll start listed) ∧
      ∀ pair, pair ∈ listed ↔
        ∃ entry ∈ entries, ∃ pairs, doc.placesOf entry.2 = .ok pairs ∧ pair ∈ pairs := by
  induction entries generalizing start with
  | nil => exact ⟨[], rfl, fun pair => by simp⟩
  | cons entry rest ih =>
      obtain ⟨⟨pairs, made⟩, others⟩ := List.forall_mem_cons.mp each
      obtain ⟨listed, folded, members⟩ := ih (Sorted.insertAll start pairs) others
      refine ⟨pairs ++ listed, ?_, fun pair => ?_⟩
      · rw [List.foldlM_cons, made, Sorted.insertAll, List.foldl_append]
        exact folded
      · simp [members, made]

theorem Sound.exists_placeTable (sound : doc.Sound) :
    ∃ listed, doc.placeTable = .ok (Sorted.insertAll [] listed) ∧
      ∀ pair, pair ∈ listed ↔ ∃ id page, doc.pages.get? id = some page ∧
        ∃ target ∈ doc.listedObjects page, (target.number, page.object) = pair := by
  obtain ⟨listed, made, members⟩ :=
    exists_foldlM_placesOf [] fun entry stored => sound.exists_placesOf stored
  refine ⟨listed, made, fun pair => (members pair).trans ⟨?_, ?_⟩⟩
  · rintro ⟨⟨target, record⟩, stored, pairs, entered, member⟩
    obtain ⟨numbered, held⟩ := Store.mem_toList_iff.mp stored
    cases record with
    | page id =>
        rw [numbered] at held
        obtain ⟨page, found, -⟩ := sound.pages.only held
        cases (sound.placesOf_page found).symm.trans entered
        exact ⟨id, page, found, List.mem_map.mp member⟩
    | _ =>
        cases entered
        contradiction
  · rintro ⟨id, page, found, listing⟩
    have stored := Store.mem_toList_iff.mpr ⟨sound.pages.object_eq found, sound.pages.held found⟩
    exact ⟨_, stored, _, sound.placesOf_page found, List.mem_map.mpr listing⟩

theorem first_of_mem_targets {kind : Kind} {α : Type} {store : Store}
    {registry : Registry kind α} {object : α → Ref} {record : Id kind → Record}
    (represents : store.Represents registry object record) {ids : List (Id kind)} {target : Ref}
    (member : target ∈ registry.targets object ids) : target = .first target.number := by
  obtain ⟨id, -, entry, found, rfl⟩ := Registry.mem_targets_iff.mp member
  exact represents.object_eq found

theorem Sound.first_of_mem_listedObjects (sound : doc.Sound) {page : PageItem} {target : Ref}
    (member : target ∈ doc.listedObjects page) : target = .first target.number := by
  rcases List.mem_append.mp member with field | note
  · exact first_of_mem_targets sound.widgets field
  · exact first_of_mem_targets sound.annotations note

theorem Sound.find?_placeTable (sound : doc.Sound) {places : List (Nat × Ref)}
    (made : doc.placeTable = .ok places) {kind : Kind} {α : Type} {registry : Registry kind α}
    {object : α → Ref} {record : Id kind → Record} {placement : Placement kind}
    {listed : PageItem → List (Id kind)} (represents : doc.store.Represents registry object record)
    (lists : placement.Lists registry doc.pages listed) {id : Id kind} {item : α}
    (found : registry.get? id = some item)
    (member_iff : ∀ page, object item ∈ doc.listedObjects page ↔ id ∈ listed page) :
    Sorted.find? (object item).number places = doc.placeOf? placement id := by
  obtain ⟨pairs, spelled, members⟩ := sound.exists_placeTable
  rw [spelled] at made
  cases made
  rw [Sorted.find?_insertAll_nil]
  refine Sorted.lastUnder?_eq_of_mem_iff fun value => ?_
  rw [members, placeOf?_eq_some_iff_exists lists]
  constructor
  · rintro ⟨number, page, foundPage, target, member, same⟩
    obtain ⟨sameNumber, sameObject⟩ := Prod.mk.inj same
    have sameTarget : target = object item := by
      rw [sound.first_of_mem_listedObjects member, represents.object_eq found, sameNumber]
    exact ⟨number, page, foundPage, (member_iff page).mp (sameTarget ▸ member), sameObject⟩
  · rintro ⟨number, page, foundPage, member, rfl⟩
    exact ⟨number, page, foundPage, object item, (member_iff page).mpr member, rfl⟩

theorem Sound.find?_placeTable_widget (sound : doc.Sound) {places : List (Nat × Ref)}
    (made : doc.placeTable = .ok places) {id : Id .formWidget} {item : CheckboxItem}
    (found : doc.widgets.get? id = some item) :
    Sorted.find? item.object.number places = doc.placeOf? doc.widgetPlaces id := by
  refine sound.find?_placeTable made sound.widgets sound.widgetPlaces found fun page => ?_
  have apart := not_mem_targets sound.widgets sound.annotations (fun _ _ => nofun) found
    page.annotations
  rw [listedObjects, List.mem_append, or_iff_left apart]
  exact mem_targets_iff_mem sound.widgets (fun _ _ => Record.checkbox.inj) found

theorem Sound.find?_placeTable_annot (sound : doc.Sound) {places : List (Nat × Ref)}
    (made : doc.placeTable = .ok places) {id : Id .annot} {item : AnnotationItem}
    (found : doc.annotations.get? id = some item) :
    Sorted.find? item.object.number places = doc.placeOf? doc.annotationPlaces id := by
  refine sound.find?_placeTable made sound.annotations sound.annotationPlaces found fun page => ?_
  have apart := not_mem_targets sound.annotations sound.widgets (fun _ _ => nofun) found
    page.widgets
  rw [listedObjects, List.mem_append, or_iff_right apart]
  exact mem_targets_iff_mem sound.annotations (fun _ _ => Record.annot.inj) found

theorem Sound.find?_itemTable (sound : doc.Sound) {id : Id .structureItem} {item : StructureItem}
    (found : doc.structureItems.get? id = some item) :
    Sorted.find? item.object.number doc.itemTable = some id := by
  rw [itemTable, Sorted.find?_insertAll_nil]
  refine Sorted.lastUnder?_eq_of_mem_iff fun value => ?_
  rw [Option.some.injEq]
  constructor
  · intro listed
    obtain ⟨⟨other, entry⟩, registered, same⟩ := List.mem_map.mp listed
    obtain ⟨sameNumber, rfl⟩ := Prod.mk.inj same
    have foundOther := Registry.mem_toList_iff.mp registered
    have sameObject : item.object = entry.object := by
      rw [sound.structureItems.object_eq found, sound.structureItems.object_eq foundOther,
        sameNumber]
    exact sound.structureItems.id_eq (fun _ _ => Record.structureItem.inj) found foundOther
      sameObject
  · rintro rfl
    exact List.mem_map.mpr ⟨(id, item), Registry.mem_toList_iff.mpr found, rfl⟩

theorem Sound.find?_contentTable (sound : doc.Sound) (id : Id .structureItem) :
    Sorted.find? id.index doc.contentTable = doc.placeOf? doc.structurePlaces id := by
  rw [contentTable, Sorted.find?_insertAll_nil]
  refine Sorted.lastUnder?_eq_of_mem_iff fun value => ?_
  rw [placeOf?_eq_some_iff_exists sound.structurePlaces, List.mem_flatMap]
  constructor
  · rintro ⟨⟨number, page⟩, registered, entered⟩
    obtain ⟨other, member, same⟩ := List.mem_map.mp entered
    obtain ⟨sameIndex, sameObject⟩ := Prod.mk.inj same
    cases Id.eq_of_index_eq sameIndex
    exact ⟨number, page, Registry.mem_toList_iff.mp registered, member, sameObject⟩
  · rintro ⟨number, page, found, member, rfl⟩
    exact ⟨(number, page), Registry.mem_toList_iff.mpr found,
      List.mem_map.mpr ⟨id, member, rfl⟩⟩

def marksOn (id : Id .structureItem) (page : PageItem) : List Nat :=
  (page.marked.zipIdx.filter fun (marked, _) => marked == id).map Prod.snd

theorem marksOn_eq_nil {id : Id .structureItem} {page : PageItem} (unmarked : id ∉ page.marked) :
    marksOn id page = [] := by
  rw [marksOn, List.map_eq_nil_iff, List.filter_eq_nil_iff]
  rintro ⟨marked, mark⟩ member same
  exact unmarked (eq_of_beq same ▸ (List.mem_zipIdx' member).2 ▸ List.getElem_mem _)

theorem flatMap_eq_of_unique {α β : Type} {entries : List α} {change : α → List β} {entry : α}
    (member : entry ∈ entries) (nodup : entries.Nodup)
    (others : ∀ other ∈ entries, other ≠ entry → change other = []) :
    entries.flatMap change = change entry := by
  obtain ⟨before, after, rfl⟩ := List.append_of_mem member
  obtain ⟨-, -, apart⟩ := List.nodup_append.mp nodup
  have first : before.flatMap change = [] := List.flatMap_eq_nil_iff.mpr fun other listed =>
    others other (List.mem_append_left _ listed) (apart other listed entry List.mem_cons_self)
  have last : after.flatMap change = [] := List.flatMap_eq_nil_iff.mpr fun other listed => by
    refine others other (List.mem_append_right _ (List.mem_cons_of_mem _ listed)) ?_
    rintro rfl
    exact (List.nodup_cons.mp (List.nodup_append.mp nodup).2.1).1 listed
  rw [List.flatMap_append, List.flatMap_cons, first, last, List.nil_append, List.append_nil]

/-- The marks of an item on all pages are those on the one page where it has its place. -/
theorem Sound.marksOf_eq_flatMap (sound : doc.Sound) (id : Id .structureItem) :
    (doc.pages.toList.flatMap fun entry => marksOn id entry.2) = doc.marksOf id := by
  rw [marksOf]
  cases owned : doc.structurePlaces.pageOf? id with
  | none =>
      refine List.flatMap_eq_nil_iff.mpr fun entry registered => marksOn_eq_nil fun marked => ?_
      have placed := sound.structurePlaces.pageOf?_eq_some_iff.mpr
        ⟨entry.2, Registry.mem_toList_iff.mp registered, marked⟩
      rw [owned] at placed
      contradiction
  | some number =>
      obtain ⟨page, found, -⟩ := sound.structurePlaces.pageOf?_eq_some_iff.mp owned
      rw [Option.bind_some, found]
      refine flatMap_eq_of_unique (Registry.mem_toList_iff.mpr found)
        doc.pages.nodup_toList fun other registered differs => ?_
      refine marksOn_eq_nil fun marked => differs ?_
      have foundOther := Registry.mem_toList_iff.mp registered
      have placed := sound.structurePlaces.pageOf?_eq_some_iff.mpr ⟨other.2, foundOther, marked⟩
      rw [owned, Option.some.injEq] at placed
      rw [← placed, found, Option.some.injEq] at foundOther
      exact Prod.ext placed.symm foundOther.symm

theorem Sound.under_kidTable (sound : doc.Sound) (id : Id .structureItem) :
    Sorted.under id.index doc.kidTable =
      (doc.structureChildren id).map .element ++ (doc.marksOf id).map .content := by
  have key_iff (other : Id .structureItem) : id.index = other.index ↔ other = id :=
    ⟨fun same => Id.eq_of_index_eq same.symm, fun same => congrArg Id.index same.symm⟩
  rw [kidTable, Sorted.under_pushAll, Sorted.under_pushAll, ← sound.marksOf_eq_flatMap]
  rw [show Sorted.under id.index [] = ([] : List Dictionary.StructKid) from rfl, List.nil_append]
  congr 1
  · rw [structureChildren, List.map_map]
    induction doc.structureItems.toList with
    | nil => rfl
    | cons entry rest ih =>
        cases below : entry.2.parent with
        | none => simp [below, ih]
        | some parent =>
            by_cases same : parent = id
            · simp [below, ih, same]
            · simp [below, ih, same, key_iff]
  · simp only [List.map_flatMap, List.filter_flatMap, List.filter_map, List.map_map, marksOn,
      Function.comp_def, key_iff]
    rfl

theorem Sound.exists_tables (sound : doc.Sound) : ∃ tables, doc.tables = .ok tables ∧
    doc.placeTable = .ok tables.places ∧ tables.items = doc.itemTable ∧
      tables.kids = doc.kidTable ∧ tables.contents = doc.contentTable := by
  obtain ⟨listed, made, -⟩ := sound.exists_placeTable
  simp only [tables, made, bind, Except.bind, pure, Except.pure]
  exact ⟨_, rfl, rfl, rfl, rfl, rfl⟩

/-- A record is written the same whether it finds what it needs in the tables or by itself. -/
theorem Sound.bodyWith_eq (sound : doc.Sound) {tables : Tables} (made : doc.tables = .ok tables)
    {target : Ref} {record : Record} (stored : (target, record) ∈ doc.store.toList) :
    doc.bodyWith tables roots deflate target record = doc.body roots deflate record := by
  obtain ⟨numbered, held⟩ := Store.mem_toList_iff.mp stored
  obtain ⟨tablesAlso, madeAlso, places, items, kids, contents⟩ := sound.exists_tables
  rw [made] at madeAlso
  cases madeAlso
  rw [numbered] at held
  cases record with
  | checkbox id =>
      obtain ⟨item, found, object⟩ := sound.widgets.only held
      have place := sound.find?_placeTable_widget places found
      rw [object] at place
      simp only [bodyWith, body, Registry.get_eq_ok_iff.mpr found, placedOn_eq sound.widgetPlaces,
        bind, Except.bind]
      rw [show Sorted.find? target.number tables.places = _ from place]
  | annot id =>
      obtain ⟨item, found, object⟩ := sound.annotations.only held
      have place := sound.find?_placeTable_annot places found
      rw [object] at place
      simp only [bodyWith, body, Registry.get_eq_ok_iff.mpr found,
        placedOn_eq sound.annotationPlaces, bind, Except.bind]
      rw [show Sorted.find? target.number tables.places = _ from place]
  | structureItem id =>
      obtain ⟨item, found, object⟩ := sound.structureItems.only held
      have known := sound.find?_itemTable found
      rw [object, ← items] at known
      simp only [bodyWith, body, Registry.get_eq_ok_iff.mpr found, sound.markedContent_eq,
        bind, Except.bind]
      rw [show Sorted.find? target.number tables.items = _ from known]
      simp only [contents, kids, sound.find?_contentTable, sound.under_kidTable]
  | _ => rfl

theorem writeObjects_congr {lower : Record → Except Error Body}
    {other : Ref × Record → Except Error Body} {entries : List (Ref × Record)}
    (same : ∀ entry ∈ entries, other entry = lower entry.2) (writer : Writer) :
    writeObjects other (entries.map fun entry => (entry.1, entry)) writer =
      writeObjects lower entries writer := by
  induction entries generalizing writer with
  | nil => rfl
  | cons entry rest ih =>
      obtain ⟨first, others⟩ := List.forall_mem_cons.mp same
      rw [List.map_cons, writeObjects, writeObjects, first]
      cases lower entry.2 with
      | error error => rfl
      | ok body => exact congrArg (writer.object entry.1 body).andThen (funext (ih others))

theorem Sound.writeWithTables_eq (sound : doc.Sound) (means : Means) (writer : Writer) :
    doc.writeWithTables roots means writer = doc.write roots means writer := by
  obtain ⟨tables, made, -⟩ := sound.exists_tables
  refine congrArg _ (funext fun writer => ?_)
  rw [made]
  refine congrArg (Step.andThen · _) (writeObjects_congr (fun entry stored => ?_) writer)
  exact sound.bodyWith_eq made stored

theorem out_flush (step : Step) (flushed : Sink → Bool) :
    (step.andThen (flush flushed)).out = step.out := by
  cases outcome : step.failure with
  | some error => rw [Step.andThen_of_failure_eq_some outcome]
  | none =>
      rw [Step.andThen_of_failure_eq_none outcome, flush]
      split
      · exact List.append_nil step.out
      · exact List.append_nil step.out

theorem failure_flush {step : Step} (complete : step.failure = none) (flushed : Sink → Bool) :
    (step.andThen (flush flushed)).failure =
      if flushed step.writer.sink then none else some .io := by
  rw [Step.andThen_of_failure_eq_none complete, flush]
  split
  · rfl
  · rfl

/--
Whatever was asked of a document, tables that are made once before its objects are written lead to
the file that each record finds its way to, up to what the destination fails to give out.
-/
theorem finalizeWithTables_run (options : DocumentOptions)
    (converter : Color → DeviceSpace → Color) (operations : List Operation) (means : Means)
    (flushed : Sink → Bool) (sink : Sink) :
    ((withConverter options converter).run operations).2.finalizeWithTables means flushed sink =
      (((withConverter options converter).run operations).2.finalize means sink).andThen
        (flush flushed) := by
  have sound := sound_run options converter operations
  obtain ⟨roots, closed, closing, closes⟩ := sound.exists_closed
  rw [finalizeWithTables, finalize, closing]
  exact congrArg (Step.andThen · _) ((closes.sound sound).writeWithTables_eq means (.start sink))

end Document

end Folio
