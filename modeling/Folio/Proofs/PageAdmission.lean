import Folio.Proofs.Contents
import Mathlib.Data.List.Induction

/-!
Which pages a document takes: those that list registered resources, none of which another page
lists already, and each of them once. Of any other page, the first resource that goes wrong decides
the error.
-/

namespace Folio

namespace Document

section Lists

variable {kind : Kind} {α : Type} (registry : Registry kind α) (pages : Registry .page PageItem)
  (listed : PageItem → List (Id kind))

structure Unplaced (id : Id kind) : Prop where
  known : registry.contains id
  free : ∀ {page : Id .page} {item : PageItem}, pages.get? page = some item → id ∉ listed item

/-- What is wrong with a resource that the next page lists behind others. -/
inductive Fault (before : List (Id kind)) (id : Id kind) : Error → Prop
  | unknown (absent : ¬registry.contains id) : Fault before id (.unknownResource kind id.index)
  | taken {page : Id .page} {item : PageItem} (known : registry.contains id)
      (found : pages.get? page = some item) (member : id ∈ listed item) :
      Fault before id (.alreadyUsed kind id.index page.index)
  | again (unplaced : Unplaced registry pages listed id) (member : id ∈ before) :
      Fault before id (.alreadyUsed kind id.index pages.size)

structure Admits (ids : List (Id kind)) : Prop where
  unplaced : ∀ id ∈ ids, Unplaced registry pages listed id
  nodup : ids.Nodup

/-- The first resource of a list with which something is wrong. -/
structure StopsAt (ids before after : List (Id kind)) (id : Id kind) (error : Error) : Prop where
  split : ids = before ++ id :: after
  admits : Admits registry pages listed before
  fault : Fault registry pages listed before id error

def Stops (ids : List (Id kind)) (error : Error) : Prop :=
  ∃ before id after, StopsAt registry pages listed ids before after id error

variable {registry pages listed} {placement : Placement kind} {ids before : List (Id kind)}
  {id : Id kind} {error : Error}

theorem unplaced_iff (lists : placement.Lists registry pages listed) :
    Unplaced registry pages listed id ↔
      registry.contains id ∧ placement.pageOf? id = none := by
  constructor
  · intro unplaced
    refine ⟨unplaced.known, Option.eq_none_iff_forall_ne_some.mpr fun page owned => ?_⟩
    obtain ⟨item, found, member⟩ := lists.pageOf?_eq_some_iff.mp owned
    exact unplaced.free found member
  · rintro ⟨known, free⟩
    refine ⟨known, fun found member => ?_⟩
    have owned := lists.pageOf?_eq_some_iff.mpr ⟨_, found, member⟩
    rw [free] at owned
    contradiction

theorem checkPlaceable_of_unplaced {seen rest : List (Id kind)}
    (lists : placement.Lists registry pages listed)
    (unplaced : Unplaced registry pages listed id) (unseen : id ∉ seen) (page : Id .page) :
    checkPlaceable registry placement page seen (id :: rest) =
      checkPlaceable registry placement page (id :: seen) rest := by
  obtain ⟨known, free⟩ := (unplaced_iff lists).mp unplaced
  obtain ⟨entry, found⟩ := Registry.exists_get?_of_contains known
  have unlisted : ¬seen.contains id := fun listed => unseen (List.contains_iff_mem.mp listed)
  rw [checkPlaceable, Registry.get_eq_ok_iff.mpr found, Placement.checkUnused, free,
    if_neg unlisted]
  rfl

theorem checkPlaceable_of_fault {seen rest : List (Id kind)}
    (lists : placement.Lists registry pages listed)
    (fault : Fault registry pages listed seen id error) :
    checkPlaceable registry placement pages.nextId seen (id :: rest) = .error error := by
  rw [checkPlaceable]
  cases fault with
  | unknown absent =>
      have missing : registry.get? id = none :=
        Option.eq_none_iff_forall_ne_some.mpr fun entry found =>
          absent (Registry.contains_of_get? found)
      rw [Registry.get, missing]
      rfl
  | taken known found member =>
      obtain ⟨entry, held⟩ := Registry.exists_get?_of_contains known
      have owned := lists.pageOf?_eq_some_iff.mpr ⟨_, found, member⟩
      rw [Registry.get_eq_ok_iff.mpr held, Placement.checkUnused, owned]
      rfl
  | again unplaced member =>
      obtain ⟨known, free⟩ := (unplaced_iff lists).mp unplaced
      obtain ⟨entry, held⟩ := Registry.exists_get?_of_contains known
      rw [Registry.get_eq_ok_iff.mpr held, Placement.checkUnused, free,
        if_pos (List.contains_iff_mem.mpr member)]
      rfl

theorem Fault.congr {other : List (Id kind)} (same : ∀ id, id ∈ before ↔ id ∈ other)
    (fault : Fault registry pages listed before id error) :
    Fault registry pages listed other id error := by
  cases fault with
  | unknown absent => exact .unknown absent
  | taken known found member => exact .taken known found member
  | again unplaced member => exact .again unplaced ((same id).mp member)

theorem checkPlaceable_append {seen : List (Id kind)}
    (lists : placement.Lists registry pages listed)
    (admits : Admits registry pages listed before) (unseen : ∀ id ∈ before, id ∉ seen)
    (page : Id .page) (rest : List (Id kind)) :
    checkPlaceable registry placement page seen (before ++ rest) =
      checkPlaceable registry placement page (before.reverse ++ seen) rest := by
  induction before generalizing seen with
  | nil => rfl
  | cons id others ih =>
      obtain ⟨fresh, nodup⟩ := List.nodup_cons.mp admits.nodup
      obtain ⟨unplaced, unplacedOthers⟩ := List.forall_mem_cons.mp admits.unplaced
      obtain ⟨unseenFirst, unseenOthers⟩ := List.forall_mem_cons.mp unseen
      have apart : ∀ other ∈ others, other ∉ id :: seen := by
        intro other member
        rw [List.mem_cons, not_or]
        refine ⟨?_, unseenOthers other member⟩
        rintro rfl
        exact fresh member
      rw [List.cons_append, checkPlaceable_of_unplaced lists unplaced unseenFirst,
        ih ⟨unplacedOthers, nodup⟩ apart, List.reverse_cons, List.append_assoc]
      rfl

theorem checkPlaceable_of_admits (lists : placement.Lists registry pages listed)
    (admits : Admits registry pages listed ids) (page : Id .page) :
    checkPlaceable registry placement page [] ids = .ok () := by
  have passed := checkPlaceable_append lists admits (fun _ _ => List.not_mem_nil) page []
  rwa [List.append_nil] at passed

theorem checkPlaceable_of_stops (lists : placement.Lists registry pages listed)
    (stops : Stops registry pages listed ids error) :
    checkPlaceable registry placement pages.nextId [] ids = .error error := by
  obtain ⟨before, id, after, rfl, admits, fault⟩ := stops
  rw [checkPlaceable_append lists admits fun _ _ => List.not_mem_nil]
  refine checkPlaceable_of_fault lists (fault.congr fun other => ?_)
  rw [List.append_nil, List.mem_reverse]

/-- A resource is fit to be listed behind others, or something is wrong with it. -/
theorem fits_or_exists_fault (before : List (Id kind)) (id : Id kind) :
    Unplaced registry pages listed id ∧ id ∉ before ∨
      ∃ error, Fault registry pages listed before id error := by
  by_cases known : registry.contains id
  · by_cases owned : ∃ page item, pages.get? page = some item ∧ id ∈ listed item
    · obtain ⟨page, item, found, member⟩ := owned
      exact .inr ⟨_, .taken known found member⟩
    · have unplaced : Unplaced registry pages listed id :=
        ⟨known, fun found member => owned ⟨_, _, found, member⟩⟩
      by_cases member : id ∈ before
      · exact .inr ⟨_, .again unplaced member⟩
      · exact .inl ⟨unplaced, member⟩
  · exact .inr ⟨_, .unknown known⟩

variable (registry pages listed) in
theorem admits_or_exists_stops (ids : List (Id kind)) :
    Admits registry pages listed ids ∨ ∃ error, Stops registry pages listed ids error := by
  -- from the front on, so that what is admitted so far stands before the next resource
  induction ids using List.reverseRecOn with
  | nil => exact .inl ⟨fun _ member => absurd member List.not_mem_nil, List.nodup_nil⟩
  | append_singleton ids id ih =>
      rcases ih with admits | ⟨error, before, other, after, rfl, admits, fault⟩
      · rcases fits_or_exists_fault ids id with ⟨unplaced, fresh⟩ | ⟨error, fault⟩
        · have nodup : (ids ++ [id]).Nodup := by
            refine List.nodup_append.mpr ⟨admits.nodup, List.pairwise_singleton _ id, ?_⟩
            rintro other member last listed rfl
            exact fresh (List.mem_singleton.mp listed ▸ member)
          refine .inl ⟨fun other member => ?_, nodup⟩
          rcases List.mem_append.mp member with listed | last
          · exact admits.unplaced other listed
          · rwa [List.mem_singleton.mp last]
        · exact .inr ⟨error, ids, id, [], rfl, admits, fault⟩
      · refine .inr ⟨error, before, other, after ++ [id], ?_, admits, fault⟩
        rw [List.append_assoc, List.cons_append]

end Lists

variable {doc : Document} {source : PageSource} {error : Error}

structure Takes (doc : Document) (source : PageSource) : Prop where
  widgets : Admits doc.widgets doc.pages PageItem.widgets source.widgets
  annotations : Admits doc.annotations doc.pages PageItem.annotations source.annotations
  marked : Admits doc.structureItems doc.pages PageItem.marked source.marked

/-- A page whose first fault is in one of its lists, after those that come before it. -/
inductive Rejects (doc : Document) (source : PageSource) : Error → Prop
  | widgets {error : Error}
      (stops : Stops doc.widgets doc.pages PageItem.widgets source.widgets error) :
      Rejects doc source error
  | annotations {error : Error}
      (widgets : Admits doc.widgets doc.pages PageItem.widgets source.widgets)
      (stops : Stops doc.annotations doc.pages PageItem.annotations source.annotations error) :
      Rejects doc source error
  | marked {error : Error}
      (widgets : Admits doc.widgets doc.pages PageItem.widgets source.widgets)
      (annotations : Admits doc.annotations doc.pages PageItem.annotations source.annotations)
      (stops : Stops doc.structureItems doc.pages PageItem.marked source.marked error) :
      Rejects doc source error

theorem takes_or_exists_rejects (doc : Document) (source : PageSource) :
    doc.Takes source ∨ ∃ error, doc.Rejects source error := by
  rcases admits_or_exists_stops doc.widgets doc.pages PageItem.widgets source.widgets with
    widgets | ⟨error, stops⟩
  · rcases admits_or_exists_stops doc.annotations doc.pages PageItem.annotations
      source.annotations with annotations | ⟨error, stops⟩
    · rcases admits_or_exists_stops doc.structureItems doc.pages PageItem.marked
        source.marked with marked | ⟨error, stops⟩
      · exact .inl ⟨widgets, annotations, marked⟩
      · exact .inr ⟨error, .marked widgets annotations stops⟩
    · exact .inr ⟨error, .annotations widgets stops⟩
  · exact .inr ⟨error, .widgets stops⟩

theorem Sound.checkPage_of_takes (sound : doc.Sound) (takes : doc.Takes source) :
    doc.checkPage source = .ok () := by
  rw [checkPage, checkPlaceable_of_admits sound.widgetPlaces takes.widgets,
    checkPlaceable_of_admits sound.annotationPlaces takes.annotations,
    checkPlaceable_of_admits sound.structurePlaces takes.marked]
  rfl

theorem Sound.checkPage_of_rejects (sound : doc.Sound) (rejects : doc.Rejects source error) :
    doc.checkPage source = .error error := by
  rw [checkPage]
  cases rejects with
  | widgets stops =>
      rw [checkPlaceable_of_stops sound.widgetPlaces stops]
      rfl
  | annotations widgets stops =>
      rw [checkPlaceable_of_admits sound.widgetPlaces widgets,
        checkPlaceable_of_stops sound.annotationPlaces stops]
      rfl
  | marked widgets annotations stops =>
      rw [checkPlaceable_of_admits sound.widgetPlaces widgets,
        checkPlaceable_of_admits sound.annotationPlaces annotations,
        checkPlaceable_of_stops sound.structurePlaces stops]
      rfl

/-- A document has the group that its pages share as soon as it has a page. -/
def SharesGroup (doc : Document) : Prop :=
  doc.pageGroup.isSome ↔ doc.pages.size ≠ 0

theorem Change.sharesGroup {after : Document} (change : doc.Change after)
    (shares : doc.SharesGroup) : after.SharesGroup := by
  cases change with
  | plain plain =>
      rw [SharesGroup, plain.same]
      exact shares
  | glyph id item glyph char found =>
      obtain ⟨store, fonts, encoding, same⟩ := doc.onlyFonts_withGlyph id item glyph char
      rw [same]
      exact shares
  | page source checked => simp [SharesGroup, withPage, Registry.register, Registry.size]
  | _ => exact shares

theorem sharesGroup_run (options : DocumentOptions) (converter : Color → DeviceSpace → Color)
    (operations : List Operation) :
    ((withConverter options converter).run operations).2.SharesGroup :=
  have start : (withConverter options converter).SharesGroup :=
    iff_of_false Bool.false_ne_true fun paged => paged rfl
  run_change_induction (fun shares change => change.sharesGroup shares) start operations

/-- The objects that come with a page, of which the group comes with the first page only. -/
def pageRecords (doc : Document) (source : PageSource) : List Record :=
  (if doc.pages.size = 0 then
      [.object (Dictionary.transparencyGroup doc.options.outputSpace.colorSpace)]
    else []) ++
    [.object (Build.resourceValue source.resources),
      .stream doc.options.compress [] source.contents, .page doc.pages.nextId]

/-- What a page that was taken brings: its objects, and a place for what it lists. -/
structure Brings (doc : Document) (source : PageSource) (after : Document) : Prop where
  size : after.pages.size = doc.pages.size + 1
  widgets : ∀ {id : Id .formWidget} {page : Id .page},
    after.widgetPlaces.pageOf? id = some page ↔
      doc.widgetPlaces.pageOf? id = some page ∨ page.index = doc.pages.size ∧ id ∈ source.widgets
  annotations : ∀ {id : Id .annot} {page : Id .page},
    after.annotationPlaces.pageOf? id = some page ↔
      doc.annotationPlaces.pageOf? id = some page ∨
        page.index = doc.pages.size ∧ id ∈ source.annotations
  marked : ∀ {id : Id .structureItem} {page : Id .page},
    after.structurePlaces.pageOf? id = some page ↔
      doc.structurePlaces.pageOf? id = some page ∨
        page.index = doc.pages.size ∧ id ∈ source.marked
  records : after.store.records.toList = doc.store.records.toList ++ doc.pageRecords source
  grows : after.store.size = doc.store.size + if doc.pages.size = 0 then 4 else 3

theorem pageOf?_withAll_eq_some_iff {kind : Kind} {α : Type} {registry : Registry kind α}
    {pages : Registry .page PageItem} {listed : PageItem → List (Id kind)}
    {placement : Placement kind} (lists : placement.Lists registry pages listed)
    {ids : List (Id kind)} (admits : Admits registry pages listed ids) {id : Id kind}
    {page : Id .page} :
    (placement.withAll ids pages.nextId).pageOf? id = some page ↔
      placement.pageOf? id = some page ∨ page.index = pages.size ∧ id ∈ ids := by
  have new : pages.nextId = page ↔ page.index = pages.size :=
    ⟨fun same => same ▸ rfl, fun same => Id.eq_of_index_eq same.symm⟩
  rw [Placement.pageOf?_withAll]
  by_cases member : id ∈ ids
  · obtain ⟨-, free⟩ := (unplaced_iff lists).mp (admits.unplaced id member)
    simp [member, free, new]
  · simp [member]

theorem records_withPage (shares : doc.SharesGroup) (source : PageSource) :
    (doc.withPage source).store.records.toList =
      doc.store.records.toList ++ doc.pageRecords source := by
  have group : doc.grouped.store.records.toList = doc.store.records.toList ++
      if doc.pages.size = 0 then
        [.object (Dictionary.transparencyGroup doc.options.outputSpace.colorSpace)]
      else [] := by
    rw [grouped]
    by_cases first : doc.pages.size = 0
    · have absent : ¬doc.pageGroup.isSome := fun shared => shares.mp shared first
      simp [absent, first, Store.allocate]
    · have shared : doc.pageGroup.isSome := shares.mpr first
      simp [shared, first]
  show (((doc.grouped.store.records.push _).push _).push _).toList = _
  rw [Array.toList_push, Array.toList_push, Array.toList_push, group, pageRecords]
  simp only [List.append_assoc, List.cons_append, List.nil_append]

theorem Sound.brings_withPage (sound : doc.Sound) (shares : doc.SharesGroup)
    (takes : doc.Takes source) : doc.Brings source (doc.withPage source) where
  size := by simp [withPage, Registry.register, Registry.size]
  widgets := pageOf?_withAll_eq_some_iff sound.widgetPlaces takes.widgets
  annotations := pageOf?_withAll_eq_some_iff sound.annotationPlaces takes.annotations
  marked := pageOf?_withAll_eq_some_iff sound.structurePlaces takes.marked
  records := records_withPage shares source
  grows := by
    have records := congrArg List.length (records_withPage shares source)
    rw [List.length_append, pageRecords, List.length_append] at records
    simp only [Array.length_toList] at records
    rw [Store.size, Store.size, records]
    split
    · rfl
    · rfl

theorem Sound.apply_addPage_of_takes (sound : doc.Sound) (takes : doc.Takes source) :
    doc.apply (.addPage source) = (.ok (.id doc.pages.size), doc.withPage source) := by
  have added := run_addPage (sound.checkPage_of_takes takes)
  simp [apply, perform, added, Answer.ofId, Registry.nextId]

theorem Sound.apply_addPage_of_rejects (sound : doc.Sound) (rejects : doc.Rejects source error) :
    doc.apply (.addPage source) = (.error error, doc) := by
  simp [apply, perform, addPage, sound.checkPage_of_rejects rejects]

/-- How a document answers to a page: it takes it as a whole, or says what is wrong with it. -/
structure AnswersPage (doc : Document) (source : PageSource) : Prop where
  taken_iff : (∃ answer, (doc.apply (.addPage source)).1 = .ok answer) ↔ doc.Takes source
  rejected_iff : ∀ {error : Error},
    (doc.apply (.addPage source)).1 = .error error ↔ doc.Rejects source error
  taken : doc.Takes source →
    (doc.apply (.addPage source)).1 = .ok (.id doc.pages.size) ∧
      doc.Brings source (doc.apply (.addPage source)).2
  rejected : ∀ {error : Error}, doc.Rejects source error → (doc.apply (.addPage source)).2 = doc

theorem Sound.not_rejects_of_takes (sound : doc.Sound) (takes : doc.Takes source)
    (error : Error) : ¬doc.Rejects source error := by
  intro rejects
  have passed := sound.checkPage_of_takes takes
  rw [sound.checkPage_of_rejects rejects] at passed
  contradiction

theorem Sound.answersPage (sound : doc.Sound) (shares : doc.SharesGroup) (source : PageSource) :
    doc.AnswersPage source := by
  rcases doc.takes_or_exists_rejects source with takes | ⟨fault, rejects⟩
  · have answered := sound.apply_addPage_of_takes takes
    have unlike := sound.not_rejects_of_takes takes
    refine ⟨?_, ?_, ?_, ?_⟩
    · exact ⟨fun _ => takes, fun _ => ⟨_, congrArg Prod.fst answered⟩⟩
    · intro error
      rw [answered]
      exact ⟨fun same => by contradiction, fun rejects => absurd rejects (unlike error)⟩
    · intro _
      rw [answered]
      exact ⟨rfl, sound.brings_withPage shares takes⟩
    · exact fun {error} rejects => absurd rejects (unlike error)
  · have answered := sound.apply_addPage_of_rejects rejects
    have unlike : ¬doc.Takes source := fun takes =>
      sound.not_rejects_of_takes takes fault rejects
    refine ⟨?_, ?_, ?_, ?_⟩
    · refine ⟨?_, fun takes => absurd takes unlike⟩
      rintro ⟨answer, same⟩
      rw [answered] at same
      contradiction
    · intro error
      refine ⟨fun same => ?_, fun other => ?_⟩
      · rw [answered] at same
        exact Except.error.inj same ▸ rejects
      · rw [sound.apply_addPage_of_rejects other]
    · exact fun takes => absurd takes unlike
    · intro error other
      rw [answered]

/--
A document takes just the pages whose lists it admits. Of any other page the first fault is the
answer, in the order of the lists, and nothing comes of the rest.
-/
theorem answersPage_run (options : DocumentOptions) (converter : Color → DeviceSpace → Color)
    (operations : List Operation) (source : PageSource) :
    ((withConverter options converter).run operations).2.AnswersPage source :=
  (sound_run options converter operations).answersPage
    (sharesGroup_run options converter operations) source

end Document

end Folio
