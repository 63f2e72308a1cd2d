import Folio.Proofs.Fonts

/-!
What every document that was built by operations keeps true of its pages and of what has a place on
them: each object stands for one entry of a registry, whatever names an entry names one that is
there, and the lists of the pages and the record of places say the same.
-/

namespace Folio

/-- Every entry of a registry has its object in a store, and there are no other such objects. -/
structure Store.Represents {kind : Kind} {α : Type} (store : Store) (registry : Registry kind α)
    (object : α → Ref) (record : Id kind → Record) : Prop where
  held : ∀ {id : Id kind} {entry : α}, registry.get? id = some entry →
    store.get? (object entry) = some (record id)
  only : ∀ {number : Nat} {id : Id kind}, store.get? (.first number) = some (record id) →
    ∃ entry, registry.get? id = some entry ∧ object entry = .first number

namespace Store.Represents

variable {kind : Kind} {α : Type} {store : Store} {registry : Registry kind α}
  {object : α → Ref} {record : Id kind → Record}

theorem object_eq (represents : store.Represents registry object record) {id : Id kind}
    {entry : α} (found : registry.get? id = some entry) :
    object entry = .first (object entry).number := by
  obtain ⟨other, foundOther, same⟩ := represents.only (represents.held found)
  rw [found] at foundOther
  cases foundOther
  exact same

theorem generation (represents : store.Represents registry object record) {id : Id kind}
    {entry : α} (found : registry.get? id = some entry) : (object entry).generation = 0 := by
  rw [represents.object_eq found]
  rfl

theorem id_eq (represents : store.Represents registry object record)
    (injective : Function.Injective record) {first second : Id kind} {entry other : α}
    (found : registry.get? first = some entry) (foundOther : registry.get? second = some other)
    (same : object entry = object other) : first = second := by
  have stored := represents.held found
  rw [same, represents.held foundOther] at stored
  exact (injective (Option.some.inj stored)).symm

theorem adds {after : Store} {allowed : Record → Prop}
    (represents : store.Represents registry object record) (adds : store.Adds allowed after)
    (barred : ∀ id, ¬allowed (record id)) : after.Represents registry object record where
  held := fun found => adds.kept (represents.held found)
  only := fun found => represents.only (adds.get?_of_get? (barred _) found)

theorem register (represents : store.Represents registry object record)
    (injective : Function.Injective record) {entry : α}
    (fresh : object entry = .first (store.size + 1)) :
    (store.allocate (record registry.nextId)).2.Represents (registry.register entry).2 object
      record where
  held := by
    intro id held found
    rw [Registry.get?_register] at found
    split at found
    · next same =>
      cases found
      rw [fresh, same]
      exact store.get?_allocate_new _
    · exact get?_allocate_of_get? _ (represents.held found)
  only := by
    intro number id found
    rw [get?_allocate] at found
    split at found
    · next place =>
      have same : registry.nextId = id := injective (Option.some.inj found)
      refine ⟨entry, ?_, ?_⟩
      · rw [← same]
        exact Registry.get?_register_new registry entry
      · rw [fresh]
        exact congrArg Ref.first place.symm
    · obtain ⟨held, known, spelled⟩ := represents.only found
      exact ⟨held, (Registry.extends_register registry entry).kept known, spelled⟩

end Store.Represents

namespace Placement

variable {kind : Kind} {α : Type} {placement : Placement kind} {registry : Registry kind α}
  {pages : Registry .page PageItem} {listed : PageItem → List (Id kind)}

theorem lookup_const (ids : List (Id kind)) (page : Id .page) (id : Id kind) :
    (ids.map fun id => (id, page)).lookup id = if id ∈ ids then some page else none := by
  induction ids with
  | nil => rfl
  | cons other rest ih =>
      rw [List.map_cons, List.lookup_cons, ih]
      by_cases same : id = other
      · simp [same]
      · simp [same, beq_eq_false_iff_ne.mpr same]

theorem pageOf?_withAll (placement : Placement kind) (ids : List (Id kind)) (page : Id .page)
    (id : Id kind) :
    (placement.withAll ids page).pageOf? id =
      if id ∈ ids then some page else placement.pageOf? id := by
  rw [withAll, pageOf?, List.lookup_append, ← List.map_reverse, lookup_const]
  by_cases listed : id ∈ ids
  · simp [listed]
  · simp [listed, pageOf?]

/-- The lists of the pages and the places agree, and what is listed is known and listed once. -/
structure Lists (placement : Placement kind) (registry : Registry kind α)
    (pages : Registry .page PageItem) (listed : PageItem → List (Id kind)) : Prop where
  known : ∀ {page : Id .page} {item : PageItem}, pages.get? page = some item →
    ∀ id ∈ listed item, registry.contains id
  nodup : (pages.toList.flatMap fun entry => listed entry.2).Nodup
  pageOf?_eq_some_iff : ∀ {id : Id kind} {page : Id .page},
    placement.pageOf? id = some page ↔
      ∃ item, pages.get? page = some item ∧ id ∈ listed item

theorem Lists.extend {after : Registry kind α} (lists : placement.Lists registry pages listed)
    (extend : registry.Extends after) : placement.Lists after pages listed where
  known := fun found id member => extend.contains (lists.known found id member)
  nodup := lists.nodup
  pageOf?_eq_some_iff := lists.pageOf?_eq_some_iff

theorem Lists.register (lists : placement.Lists registry pages listed) (item : PageItem)
    (placeable : Document.Placeable registry placement (listed item)) :
    (placement.withAll (listed item) pages.nextId).Lists registry (pages.register item).2
      listed where
  known := by
    intro page other found
    rw [Registry.get?_register] at found
    split at found
    · cases found
      exact placeable.known
    · exact lists.known found
  nodup := by
    rw [Registry.toList_register, List.flatMap_append]
    rw [List.flatMap_singleton]
    refine List.nodup_append.mpr ⟨lists.nodup, placeable.nodup, ?_⟩
    rintro id before other new rfl
    obtain ⟨entry, registered, member⟩ := List.mem_flatMap.mp before
    have owned := lists.pageOf?_eq_some_iff.mpr
      ⟨entry.2, Registry.mem_toList_iff.mp registered, member⟩
    rw [placeable.free id new] at owned
    contradiction
  pageOf?_eq_some_iff := by
    intro id page
    rw [pageOf?_withAll, Registry.get?_register]
    by_cases new : id ∈ listed item
    · rw [if_pos new]
      constructor
      · intro same
        cases same
        exact ⟨item, if_pos rfl, new⟩
      · rintro ⟨other, found, member⟩
        split at found
        · next same => rw [same]
        · have owned := lists.pageOf?_eq_some_iff.mpr ⟨other, found, member⟩
          rw [placeable.free id new] at owned
          contradiction
    · rw [if_neg new, lists.pageOf?_eq_some_iff]
      constructor
      · rintro ⟨other, found, member⟩
        refine ⟨other, ?_, member⟩
        rw [if_neg (Registry.ne_nextId_of_get? found)]
        exact found
      · rintro ⟨other, found, member⟩
        split at found
        · cases found
          exact absurd member new
        · exact ⟨other, found, member⟩

end Placement

namespace Document

theorem placeable_of_checkPage {doc : Document} {source : PageSource}
    (checked : doc.checkPage source = .ok ()) :
    Placeable doc.widgets doc.widgetPlaces source.widgets ∧
      Placeable doc.annotations doc.annotationPlaces source.annotations ∧
      Placeable doc.structureItems doc.structurePlaces source.marked := by
  rw [checkPage] at checked
  cases widgets : checkPlaceable doc.widgets doc.widgetPlaces doc.pages.nextId []
      source.widgets with
  | error error =>
      rw [widgets] at checked
      contradiction
  | ok =>
      rw [widgets] at checked
      cases annotations : checkPlaceable doc.annotations doc.annotationPlaces doc.pages.nextId []
          source.annotations with
      | error error =>
          rw [annotations] at checked
          contradiction
      | ok =>
          rw [annotations] at checked
          exact ⟨(placeable_of_checkPlaceable widgets).1,
            (placeable_of_checkPlaceable annotations).1, (placeable_of_checkPlaceable checked).1⟩

/--
What operations keep true of a document. Its pages and what has a place on them have objects;
whatever an entry names is there, and parents are there first; and the keys of pages count.
-/
structure Sound (doc : Document) : Prop where
  complete : ∀ {target : Ref}, doc.store.get? target ≠ some .reserved
  pages : doc.store.Represents doc.pages PageItem.object .page
  widgets : doc.store.Represents doc.widgets CheckboxItem.object .checkbox
  annotations : doc.store.Represents doc.annotations AnnotationItem.object .annot
  structureItems :
    doc.store.Represents doc.structureItems StructureItem.object .structureItem
  widgetPlaces : doc.widgetPlaces.Lists doc.widgets doc.pages PageItem.widgets
  annotationPlaces : doc.annotationPlaces.Lists doc.annotations doc.pages PageItem.annotations
  structurePlaces : doc.structurePlaces.Lists doc.structureItems doc.pages PageItem.marked
  appearances : ∀ {id : Id .formWidget} {item : CheckboxItem}, doc.widgets.get? id = some item →
    doc.forms.contains item.checkbox.on ∧ doc.forms.contains item.checkbox.off
  attachments : ∀ {id : Id .annot} {item : AnnotationItem}, doc.annotations.get? id = some item →
    ∀ {file : Id .embeddedFile} {description : Option String},
      item.kind = .fileAttachment file description → doc.files.contains file
  structureParents : ∀ {id parent : Id .structureItem} {item : StructureItem},
    doc.structureItems.get? id = some item → item.parent = some parent →
      parent.index < id.index
  outlineParents : ∀ {id parent : Id .outline} {item : OutlineItem},
    doc.outline.get? id = some item → item.parent = some parent → parent.index < id.index
  outlinePages : ∀ {id : Id .outline} {item : OutlineItem}, doc.outline.get? id = some item →
    doc.pages.contains item.page
  keys : (doc.pages.toList.filterMap fun entry => entry.2.structParents) =
    List.range doc.nextStructParent
  keyed : ∀ {id : Id .page} {item : PageItem}, doc.pages.get? id = some item →
    (item.structParents = none ↔ item.marked = [])
  profile : ∀ {intent : OutputIntent} {profile : Id .iccColorSpace},
    doc.outputIntent = some intent → intent.profile = some profile →
      doc.colors.profiles.contains profile

theorem sound_withConverter (options : DocumentOptions)
    (converter : Color → DeviceSpace → Color) : (withConverter options converter).Sound := by
  have none (target : Ref) : Store.empty.get? target = none := by
    rw [Store.get?]
    split
    · rfl
    · rfl
  have unfound {kind : Kind} {α : Type} {id : Id kind} {entry : α} :
      (Registry.empty : Registry kind α).get? id ≠ some entry := by
    simp [Registry.get?, Registry.empty]
  have represents {kind : Kind} {α : Type} (object : α → Ref) (record : Id kind → Record) :
      Store.empty.Represents (.empty : Registry kind α) object record := by
    refine ⟨fun found => absurd found unfound, fun found => ?_⟩
    rw [none] at found
    contradiction
  have lists {kind : Kind} {α : Type} (listed : PageItem → List (Id kind)) :
      Placement.empty.Lists (.empty : Registry kind α) .empty listed := by
    refine ⟨fun found => absurd found unfound, List.nodup_nil, ⟨fun owned => ?_, ?_⟩⟩
    · contradiction
    rintro ⟨item, found, -⟩
    contradiction
  exact {
    complete := fun {target} found => by
      have absent := none target
      rw [show Store.empty.get? target = _ from found] at absent
      contradiction
    pages := represents _ _
    widgets := represents _ _
    annotations := represents _ _
    structureItems := represents _ _
    widgetPlaces := lists _
    annotationPlaces := lists _
    structurePlaces := lists _
    appearances := fun found => absurd found unfound
    attachments := fun found => absurd found unfound
    structureParents := fun found => absurd found unfound
    outlineParents := fun found => absurd found unfound
    outlinePages := fun found => absurd found unfound
    keys := rfl
    keyed := fun found => absurd found unfound
    profile := fun {intent _} found => absurd found.symm (Option.some_ne_none intent) }

/-- A change that concerns neither pages nor what has a place on them, nor the outline. -/
structure Quiet (before after : Document) : Prop where
  same : after = { before with
    info := after.info
    store := after.store
    colors := after.colors
    fonts := after.fonts
    builtinFonts := after.builtinFonts
    encoding := after.encoding
    images := after.images
    forms := after.forms
    graphicsStates := after.graphicsStates
    functions := after.functions
    shadings := after.shadings
    patterns := after.patterns
    files := after.files
    outputIntent := after.outputIntent }
  store : before.store.Adds (fun record => record.isPlain ∨ record.isSubset) after.store
  forms : before.forms.Extends after.forms
  files : before.files.Extends after.files
  profile : ∀ {intent : OutputIntent} {profile : Id .iccColorSpace},
    after.outputIntent = some intent → intent.profile = some profile →
      before.outputIntent = some intent ∨ after.colors.profiles.contains profile
  profiles : before.colors.profiles.Extends after.colors.profiles

variable {doc after : Document}

theorem Quiet.sound (quiet : doc.Quiet after) (sound : doc.Sound) : after.Sound := by
  rw [quiet.same]
  exact { sound with
    complete := fun found => sound.complete (quiet.store.get?_of_get? (by decide) found)
    pages := sound.pages.adds quiet.store fun _ => by simp [Record.isPlain, Record.isSubset]
    widgets := sound.widgets.adds quiet.store fun _ => by simp [Record.isPlain, Record.isSubset]
    annotations := sound.annotations.adds quiet.store fun _ => by
      simp [Record.isPlain, Record.isSubset]
    structureItems := sound.structureItems.adds quiet.store fun _ => by
      simp [Record.isPlain, Record.isSubset]
    appearances := fun found =>
      (sound.appearances found).imp quiet.forms.contains quiet.forms.contains
    attachments := fun found _ _ attached =>
      quiet.files.contains (sound.attachments found attached)
    profile := fun held named => (quiet.profile held named).elim
      (fun before => quiet.profiles.contains (sound.profile before named)) id }

theorem Plain.quiet (plain : doc.Plain after) : doc.Quiet after where
  same := by
    rw [plain.same]
  store := plain.store.mono .inl
  forms := plain.forms
  files := plain.files
  profile := by
    intro intent profile held named
    rw [plain.same] at held
    exact .inl held
  profiles := plain.profiles

theorem Quiet.trans {first second third : Document} (quiet : first.Quiet second)
    (further : second.Quiet third) : first.Quiet third where
  same := by
    rw [further.same, quiet.same]
  store := quiet.store.trans further.store
  forms := ⟨further.forms.kept ∘ quiet.forms.kept⟩
  files := ⟨further.files.kept ∘ quiet.files.kept⟩
  profile := fun held named => (further.profile held named).elim
    (fun before => (quiet.profile before named).imp_right further.profiles.contains) .inr
  profiles := ⟨further.profiles.kept ∘ quiet.profiles.kept⟩

theorem quiet_push (doc : Document) {record : Record}
    (fits : record.isPlain ∨ record.isSubset) : doc.Quiet (doc.push record) :=
  ⟨rfl, doc.store.adds_allocate fits, .refl _, .refl _, fun held _ => .inl held, .refl _⟩

theorem quiet_encoded (doc : Document) : doc.Quiet doc.encoded := by
  rw [encoded]
  split
  · exact ⟨rfl, doc.store.adds_allocate (.inl (Record.isPlain_stream _ _ _)), .refl _, .refl _,
      fun held _ => .inl held, .refl _⟩
  · exact (Plain.refl doc).quiet

theorem quiet_withSubset (doc : Document) (key : SubsetKey) :
    doc.Quiet (doc.withSubset key) :=
  ((((doc.quiet_push (.inr rfl)).trans (quiet_push _ (.inr rfl))).trans
    (quiet_push _ (.inr rfl))).trans (quiet_push _ (.inr rfl))).trans (quiet_push _ (.inr rfl))

theorem quiet_withFonts (doc : Document) (fonts : Registry .font FontItem) :
    doc.Quiet { doc with fonts } :=
  ⟨rfl, .refl _, .refl _, .refl _, fun held _ => .inl held, .refl _⟩

theorem quiet_withGlyph (doc : Document) (id : Id .font) (item : FontItem) (glyph : GlyphId)
    (char : Option Char) : doc.Quiet (doc.withGlyph id item glyph char) := by
  rw [withGlyph]
  split
  · exact (doc.quiet_encoded.trans (quiet_withSubset _ _)).trans (quiet_withFonts _ _)
  · exact doc.quiet_encoded.trans (quiet_withFonts _ _)

theorem Sound.annot (sound : doc.Sound) (rect : Rect Single) (kind : AnnotationKind)
    (color : Option Color) (known : doc.checkAttachment kind = .ok ()) :
    Sound { doc.push (.annot doc.annotations.nextId) with
      annotations := (doc.annotations.register ⟨doc.nextRef, rect, kind, color⟩).2 } :=
  have adds : doc.store.Adds (· = .annot doc.annotations.nextId)
      (doc.push (.annot doc.annotations.nextId)).store := doc.store.adds_allocate rfl
  { sound with
    complete := fun found => sound.complete (adds.get?_of_get? nofun found)
    pages := sound.pages.adds adds nofun
    widgets := sound.widgets.adds adds nofun
    annotations := sound.annotations.register (fun _ _ => Record.annot.inj) rfl
    structureItems := sound.structureItems.adds adds nofun
    annotationPlaces := sound.annotationPlaces.extend (Registry.extends_register _ _)
    attachments := by
      intro id item found file description attached
      rw [Registry.get?_register] at found
      split at found
      · cases found
        cases attached
        rw [checkAttachment] at known
        cases held : doc.files.get? file with
        | none =>
            rw [Registry.get, held] at known
            contradiction
        | some entry => exact Registry.contains_of_get? held
      · exact sound.attachments found attached }

theorem Sound.checkbox (sound : doc.Sound) (checkbox : Checkbox)
    (known : doc.checkAppearances checkbox = .ok ()) :
    Sound { doc.push (.checkbox doc.widgets.nextId) with
      widgets := (doc.widgets.register ⟨doc.nextRef, checkbox⟩).2 } :=
  have adds : doc.store.Adds (· = .checkbox doc.widgets.nextId)
      (doc.push (.checkbox doc.widgets.nextId)).store := doc.store.adds_allocate rfl
  { sound with
    complete := fun found => sound.complete (adds.get?_of_get? nofun found)
    pages := sound.pages.adds adds nofun
    widgets := sound.widgets.register (fun _ _ => Record.checkbox.inj) rfl
    annotations := sound.annotations.adds adds nofun
    structureItems := sound.structureItems.adds adds nofun
    widgetPlaces := sound.widgetPlaces.extend (Registry.extends_register _ _)
    appearances := by
      intro id item found
      rw [Registry.get?_register] at found
      split at found
      · cases found
        rw [checkAppearances] at known
        cases on : doc.forms.get checkbox.on with
        | error error =>
            rw [on] at known
            contradiction
        | ok target =>
            rw [on] at known
            cases off : doc.forms.get checkbox.off with
            | error error =>
                rw [off] at known
                contradiction
            | ok other =>
                exact ⟨Registry.contains_of_get? (Registry.get_eq_ok_iff.mp on),
                  Registry.contains_of_get? (Registry.get_eq_ok_iff.mp off)⟩
      · exact sound.appearances found }

theorem Sound.structureItem (sound : doc.Sound) (kind : StructureType)
    (parent : Option (Id .structureItem)) (attributes : StructureAttributes)
    (known : ∀ id, parent = some id → doc.structureItems.contains id) :
    Sound { doc.push (.structureItem doc.structureItems.nextId) with
      structureItems :=
        (doc.structureItems.register ⟨doc.nextRef, kind, parent, attributes⟩).2 } :=
  have adds : doc.store.Adds (· = .structureItem doc.structureItems.nextId)
      (doc.push (.structureItem doc.structureItems.nextId)).store := doc.store.adds_allocate rfl
  { sound with
    complete := fun found => sound.complete (adds.get?_of_get? nofun found)
    pages := sound.pages.adds adds nofun
    widgets := sound.widgets.adds adds nofun
    annotations := sound.annotations.adds adds nofun
    structureItems := sound.structureItems.register (fun _ _ => Record.structureItem.inj) rfl
    structurePlaces := sound.structurePlaces.extend (Registry.extends_register _ _)
    structureParents := by
      intro id above item found below
      rw [Registry.get?_register] at found
      split at found
      · next new =>
        cases found
        rw [new]
        exact of_decide_eq_true (known above below)
      · exact sound.structureParents found below }

theorem Sound.outlineItem (sound : doc.Sound) (item : OutlineItem)
    (page : doc.pages.contains item.page)
    (known : ∀ id, item.parent = some id → doc.outline.contains id) :
    Sound { doc with outline := (doc.outline.register item).2 } :=
  { sound with
    outlineParents := by
      intro id above other found below
      rw [Registry.get?_register] at found
      split at found
      · next new =>
        cases found
        rw [new]
        exact of_decide_eq_true (known above below)
      · exact sound.outlineParents found below
    outlinePages := by
      intro id other found
      rw [Registry.get?_register] at found
      split at found
      · cases found
        exact page
      · exact sound.outlinePages found }

theorem Sound.keys_withPage (sound : doc.Sound) (source : PageSource) :
    ((doc.withPage source).pages.toList.filterMap fun entry => entry.2.structParents) =
      List.range (doc.withPage source).nextStructParent := by
  rw [withPage]
  simp only
  rw [Registry.toList_register, List.filterMap_append, sound.keys, pageItem, pageKey]
  by_cases untagged : source.marked.isEmpty
  · simp [untagged]
  · simp [untagged, List.range_succ]

theorem Sound.pages_withPage (sound : doc.Sound) (source : PageSource) :
    (doc.withPage source).store.Represents (doc.withPage source).pages PageItem.object .page := by
  have filled : doc.store.Adds (fun record => record.isPlain)
      ((doc.grouped.push (.object (Build.resourceValue source.resources))).push
        (.stream doc.options.compress [] source.contents)).store :=
    (doc.adds_grouped.trans (doc.grouped.adds_object (isPlain_resourceValue _))).trans
      (Document.adds_stream _ _ _)
  have fresh : (doc.pageItem source).object =
      .first (((doc.grouped.push (.object (Build.resourceValue source.resources))).push
        (.stream doc.options.compress [] source.contents)).store.size + 1) := by
    rw [size_push, size_push]
    rfl
  exact (sound.pages.adds filled nofun).register (fun _ _ => Record.page.inj) fresh

theorem Sound.page (sound : doc.Sound) (source : PageSource)
    (checked : doc.checkPage source = .ok ()) : (doc.withPage source).Sound := by
  obtain ⟨widgets, annotations, marked⟩ := placeable_of_checkPage checked
  have adds : doc.store.Adds (fun record => record.isPlain ∨ record = .page doc.pages.nextId)
      (doc.withPage source).store := doc.adds_withPage source .inl (.inr rfl)
  exact { sound with
    complete := fun found => sound.complete (adds.get?_of_get? (by simp [Record.isPlain]) found)
    pages := sound.pages_withPage source
    widgets := sound.widgets.adds adds fun _ => by simp [Record.isPlain]
    annotations := sound.annotations.adds adds fun _ => by simp [Record.isPlain]
    structureItems := sound.structureItems.adds adds fun _ => by simp [Record.isPlain]
    widgetPlaces := sound.widgetPlaces.register (doc.pageItem source) widgets
    annotationPlaces := sound.annotationPlaces.register (doc.pageItem source) annotations
    structurePlaces := sound.structurePlaces.register (doc.pageItem source) marked
    outlinePages := fun found =>
      (Registry.extends_register doc.pages (doc.pageItem source)).contains
        (sound.outlinePages found)
    keys := sound.keys_withPage source
    keyed := by
      intro id item found
      replace found : (doc.pages.register (doc.pageItem source)).2.get? id = some item := found
      rw [Registry.get?_register] at found
      split at found
      · cases found
        rw [pageItem, pageKey]
        by_cases untagged : source.marked.isEmpty
        · simp [List.isEmpty_iff.mp untagged]
        · simp [untagged, mt List.isEmpty_iff.mpr untagged]
      · exact sound.keyed found }

theorem Change.adds (change : doc.Change after) :
    doc.store.Adds (fun record => record.isProper) after.store := by
  cases change with
  | plain plain => exact plain.store.mono Record.isProper_of_isPlain
  | font face => exact .refl _
  | glyph id item glyph char found =>
      refine (doc.quiet_withGlyph id item glyph char).store.mono fun {record} fits => ?_
      rcases fits with plain | subset
      · exact Record.isProper_of_isPlain plain
      · cases record with
        | subset part key => rfl
        | _ => contradiction
  | outputIntent intent known => exact .refl _
  | annot rect kind color known => exact doc.store.adds_allocate rfl
  | checkbox checkbox known => exact doc.store.adds_allocate rfl
  | structureItem kind parent attributes known => exact doc.store.adds_allocate rfl
  | page source checked => exact doc.adds_withPage source Record.isProper_of_isPlain rfl
  | outlineItem item page known => exact .refl _

theorem Change.sound (change : doc.Change after) (sound : doc.Sound) : after.Sound := by
  cases change with
  | plain plain => exact plain.quiet.sound sound
  | font face => exact (doc.quiet_withFonts _).sound sound
  | glyph id item glyph char found => exact (doc.quiet_withGlyph id item glyph char).sound sound
  | outputIntent intent known =>
      refine Quiet.sound ⟨rfl, .refl _, .refl _, .refl _, ?_, .refl _⟩ sound
      intro held profile set named
      cases set
      exact .inr (known profile named)
  | annot rect kind color known => exact sound.annot rect kind color known
  | checkbox checkbox known => exact sound.checkbox checkbox known
  | structureItem kind parent attributes known =>
      exact sound.structureItem kind parent attributes known
  | page source checked => exact sound.page source checked
  | outlineItem item page known => exact sound.outlineItem item page known

/-- Every document that was built by operations is sound. -/
theorem sound_run (options : DocumentOptions) (converter : Color → DeviceSpace → Color)
    (operations : List Operation) : ((withConverter options converter).run operations).2.Sound :=
  run_change_induction (fun sound change => change.sound sound)
    (sound_withConverter options converter) operations

def Proper (doc : Document) : Prop :=
  ∀ target record, doc.store.get? target = some record → record.isProper

theorem proper_withConverter (options : DocumentOptions)
    (converter : Color → DeviceSpace → Color) : (withConverter options converter).Proper := by
  intro target record found
  rw [withConverter, withColors, Store.get?] at found
  split at found
  · contradiction
  · contradiction

theorem Proper.run (proper : doc.Proper) (operations : List Operation) :
    (doc.run operations).2.Proper :=
  run_change_induction (fun proper change target record found =>
    (change.adds.added found).elim (proper target record) id) proper operations

end Document

end Folio
