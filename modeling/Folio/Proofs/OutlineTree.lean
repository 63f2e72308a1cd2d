import Folio.Proofs.OutlineForest
import Folio.Proofs.PagePlacement

/-!
The outline of a finished file. Its objects are linked the way its items hang together, and count
what a walk along the links meets.
-/

namespace Folio

namespace Body

/-- How many items an item says are below it; one that does not say so has none. -/
def countOf (bodies : List Body) (target : Ref) : Nat :=
  match at? bodies target with
  | some (.value held) =>
      match held.entry? "Count" with
      | some (.int count) => count.toNat
      | _ => 0
  | _ => 0

theorem countOf_of_says {bodies : List Body} {target : Ref} (count : Option Nat)
    (told : Says bodies target "Count" (count.map .nat)) :
    countOf bodies target = count.getD 0 := by
  obtain ⟨entries, place, held⟩ := told
  rw [countOf, place]
  simp only [held]
  cases count with
  | none => rfl
  | some count => rfl

/-- A walk meets an item, then what is below it by the link to the first, then the next. -/
inductive Walk (bodies : List Body) : Option Ref → List Ref → Prop
  | done : Walk bodies none []
  | item {target : Ref} {first next : Option Ref} {below after : List Ref}
      (down : Says bodies target "First" (first.map .ref))
      (along : Says bodies target "Next" (next.map .ref))
      (children : Walk bodies first below) (rest : Walk bodies next after) :
      Walk bodies (some target) (target :: (below ++ after))

end Body

theorem Dictionary.OutlineItem.entries (item : OutlineItem) :
    item.value.entry? "Parent" = some (.ref item.parent) ∧
      item.value.entry? "Prev" = item.prev.map .ref ∧
      item.value.entry? "Next" = item.next.map .ref ∧
      item.value.entry? "First" = item.first.map .ref ∧
      item.value.entry? "Last" = item.last.map .ref ∧
      item.value.entry? "Count" = (if 0 < item.count then some (.nat item.count) else none) ∧
      item.value.entry? "Dest" = some (destination item.page) := by
  simp [value, Value.entry?, List.findSome?_append]

namespace Document

variable {doc : Document}

/-- What the objects of a file say of the items of an outline, below its root. -/
structure OutlineShown (doc : Document) (roots : Roots) (bodies : List Body) (root : Ref) :
    Prop where
  catalog : Body.Says bodies roots.catalog "Outlines" (some (.ref root))
  ends : ∃ first last, (doc.outlineChildren none).head? = some first ∧
    (doc.outlineChildren none).getLast? = some last ∧
    Body.Says bodies root "First" (some (.ref (outlineRef root first))) ∧
    Body.Says bodies root "Last" (some (.ref (outlineRef root last)))
  size : Body.Says bodies root "Count" (some (.nat doc.outline.size))
  parent : ∀ {id : Id .outline} {item : OutlineItem}, doc.outline.get? id = some item →
    Body.Says bodies (outlineRef root id) "Parent"
      (some (.ref ((item.parent.map (outlineRef root)).getD root)))
  siblings : ∀ {id : Id .outline} {item : OutlineItem}, doc.outline.get? id = some item →
    ∃ before after, doc.outlineChildren item.parent = before ++ id :: after ∧
      Body.Says bodies (outlineRef root id) "Prev"
        ((before.getLast?.map (outlineRef root)).map .ref) ∧
      Body.Says bodies (outlineRef root id) "Next"
        ((after.head?.map (outlineRef root)).map .ref)
  children : ∀ {id : Id .outline} {item : OutlineItem}, doc.outline.get? id = some item →
    Body.Says bodies (outlineRef root id) "First"
      (((doc.outlineChildren (some id)).head?.map (outlineRef root)).map .ref) ∧
    Body.Says bodies (outlineRef root id) "Last"
      (((doc.outlineChildren (some id)).getLast?.map (outlineRef root)).map .ref)
  count : ∀ {id : Id .outline} {item : OutlineItem}, doc.outline.get? id = some item →
    ∃ below : List (Id .outline), below.Nodup ∧
      (∀ other, other ∈ below ↔ Relation.TransGen doc.IsParent id other) ∧
      (∀ depth, doc.outline.size ≤ depth → doc.descendants? depth id = some below.length) ∧
      Body.Says bodies (outlineRef root id) "Count"
        (if doc.outlineChildren (some id) = [] then none else some (.nat below.length))
  destination : ∀ {id : Id .outline} {item : OutlineItem}, doc.outline.get? id = some item →
    ∃ page, doc.pages.get? item.page = some page ∧
      Body.Says bodies (outlineRef root id) "Dest" (some (Dictionary.destination page.object))
  walk : ∃ first visited, Body.Says bodies root "First" (some (.ref first)) ∧
    Body.Walk bodies (some first) visited ∧ visited.Nodup ∧
    visited.Perm (doc.outline.toList.map fun entry => outlineRef root entry.1)
  total : doc.outline.size =
    sumOf (fun id => 1 + Body.countOf bodies (outlineRef root id)) (doc.outlineChildren none)

/--
Closing a document leaves no object open and gives the same whatever the order in which the items
are filled, and every file that is finished shows the items as they hang together.
-/
structure OutlineAgrees (doc : Document) : Prop where
  filled : ∃ roots closed, close.run doc = .ok roots closed ∧
    ∀ target, closed.store.get? target ≠ some .reserved
  ordered : ∃ rest : Ref → Option Ref → Build Roots,
    close = (Build.reserve >>= fun pages => closeOutline >>= rest pages) ∧
      ∀ order : List (Id .outline × OutlineItem), order.Perm doc.outline.toList →
        (Build.reserve >>= fun pages => closeOutlineIn order >>= rest pages).run doc =
          close.run doc
  finished : ∀ {means : Means} {sink : Sink}, (doc.finalize means sink).failure = none →
    ∃ roots bodies root, Whole (doc.finalize means sink).out bodies roots means.identifier ∧
      doc.OutlineShown roots bodies root

/-- The outline comes out the same whatever the order in which its items are filled. -/
theorem Sound.run_closeOutlineIn_eq (sound : doc.Sound)
    (outlined : doc.outline.isEmpty = false) (before : List Record)
    {order : List (Id .outline × OutlineItem)} (perm : order.Perm doc.outline.toList) :
    (closeOutlineIn order).run (doc.pushAll before) = closeOutline.run (doc.pushAll before) := by
  obtain ⟨first, last, head, final⟩ := sound.exists_top outlined
  have registered : closeOutline.run (doc.pushAll before) = _ :=
    sound.run_closeOutlineIn before (.refl _) rfl head final
  rw [registered, sound.run_closeOutlineIn before perm rfl head final]

section Finished

variable {closed : Document} {means : Means} {file : Bytes} {roots : Roots} {bodies : List Body}
  {root : Ref}

theorem FinishedAs.exists_outline (finished : doc.FinishedAs closed means file roots bodies)
    (outlined : doc.outline.isEmpty = false) :
    ∃ root, doc.OutlineStored closed.store root ∧
      Body.Says bodies roots.catalog "Outlines" (some (.ref root)) := by
  obtain ⟨catalog, held, -, outlineIn, -⟩ := finished.closes.catalog
  have isSome := outlineIn.isSome
  rw [outlined] at isSome
  obtain ⟨root, known⟩ := Option.isSome_iff_exists.mp isSome
  have told := finished.says_object finished.closes.generation.2 held ⟨_, rfl⟩ "Outlines"
  rw [catalog.optional_entries.1, known] at told
  exact ⟨root, outlineIn.stored known, told⟩

theorem FinishedAs.says_outlineItem (finished : doc.FinishedAs closed means file roots bodies)
    (sound : doc.Sound) (stored : doc.OutlineStored closed.store root) {id : Id .outline}
    {item : OutlineItem} (found : doc.outline.get? id = some item) :
    ∃ (entry : Dictionary.OutlineItem) (page : PageItem),
      doc.pages.get? item.page = some page ∧
      entry = {
        title := textString item.title
        parent := (item.parent.map (outlineRef root)).getD root
        prev := (((doc.outlineChildren item.parent).filter (·.index < id.index)).getLast?).map
          (outlineRef root)
        next := (((doc.outlineChildren item.parent).filter (id.index < ·.index)).head?).map
          (outlineRef root)
        first := (doc.outlineChildren (some id)).head?.map (outlineRef root)
        last := (doc.outlineChildren (some id)).getLast?.map (outlineRef root)
        count := (doc.outlineFamily id).length - 1
        page := page.object } ∧
      ∀ key, Body.Says bodies (outlineRef root id) key <| entry.value.entry? key := by
  obtain ⟨entry, made, held⟩ := stored.item found
  obtain ⟨page, known⟩ := Registry.exists_get?_of_contains (sound.outlinePages found)
  have got := Registry.get_eq_ok_iff.mpr known
  simp only [outlineEntry, pageRef, got, Except.map, bind, Except.bind, pure, Except.pure] at made
  exact ⟨entry, page, known, (Except.ok.inj made).symm,
    finished.says_object rfl held ⟨_, rfl⟩⟩

theorem FinishedAs.says_links (finished : doc.FinishedAs closed means file roots bodies)
    (sound : doc.Sound) (stored : doc.OutlineStored closed.store root) {id : Id .outline}
    {item : OutlineItem} (found : doc.outline.get? id = some item)
    {before after : List (Id .outline)}
    (siblings : doc.outlineChildren item.parent = before ++ id :: after) :
    Body.Says bodies (outlineRef root id) "Parent"
        (some (.ref ((item.parent.map (outlineRef root)).getD root))) ∧
      Body.Says bodies (outlineRef root id) "Prev"
        ((before.getLast?.map (outlineRef root)).map .ref) ∧
      Body.Says bodies (outlineRef root id) "Next"
        ((after.head?.map (outlineRef root)).map .ref) ∧
      Body.Says bodies (outlineRef root id) "First"
        (((doc.outlineChildren (some id)).head?.map (outlineRef root)).map .ref) ∧
      Body.Says bodies (outlineRef root id) "Last"
        (((doc.outlineChildren (some id)).getLast?.map (outlineRef root)).map .ref) ∧
      ∃ page, doc.pages.get? item.page = some page ∧
        Body.Says bodies (outlineRef root id) "Dest"
          (some (Dictionary.destination page.object)) := by
  obtain ⟨entry, page, known, made, told⟩ := finished.says_outlineItem sound stored found
  obtain ⟨earlier, later⟩ := neighbours_of_outlineChildren siblings
  rw [earlier, later] at made
  obtain ⟨parent, prev, next, first, last, -, destination⟩ := entry.entries
  subst made
  exact ⟨parent ▸ told "Parent", prev ▸ told "Prev", next ▸ told "Next", first ▸ told "First",
    last ▸ told "Last", page, known, destination ▸ told "Dest"⟩

theorem FinishedAs.says_outlineCount (finished : doc.FinishedAs closed means file roots bodies)
    (sound : doc.Sound) (stored : doc.OutlineStored closed.store root) {id : Id .outline}
    {item : OutlineItem} (found : doc.outline.get? id = some item) {below : List (Id .outline)}
    (visits : doc.Visits (doc.outlineChildren (some id)) below) :
    Body.Says bodies (outlineRef root id) "Count"
      (if doc.outlineChildren (some id) = [] then none else some (.nat below.length)) := by
  obtain ⟨entry, page, -, made, told⟩ := finished.says_outlineItem sound stored found
  rw [sound.length_outlineFamily (Registry.contains_of_get? found) visits,
    Nat.add_sub_cancel] at made
  obtain ⟨-, -, -, -, -, count, -⟩ := entry.entries
  subst made
  have toldCount := count ▸ told "Count"
  by_cases empty : doc.outlineChildren (some id) = []
  · rw [if_neg (by simp [visits.eq_nil_iff.mpr empty])] at toldCount
    rwa [if_pos empty]
  · have met : below ≠ [] := fun same => empty (visits.eq_nil_iff.mp same)
    rw [if_pos (List.length_pos_iff.mpr met)] at toldCount
    rwa [if_neg empty]

theorem FinishedAs.walk_of_visits (finished : doc.FinishedAs closed means file roots bodies)
    (sound : doc.Sound) (stored : doc.OutlineStored closed.store root)
    {ids visited : List (Id .outline)} (visits : doc.Visits ids visited)
    {parent : Option (Id .outline)} {before : List (Id .outline)}
    (siblings : doc.outlineChildren parent = before ++ ids) :
    Body.Walk bodies (ids.head?.map (outlineRef root)) (visited.map (outlineRef root)) := by
  induction visits generalizing parent before with
  | nil => exact .done
  | @cons id rest below after _ _ ihDown ihNext =>
      have listed : id ∈ doc.outlineChildren parent := by
        rw [siblings]
        exact List.mem_append_right _ List.mem_cons_self
      obtain ⟨item, found, rfl⟩ := mem_outlineChildren_iff.mp listed
      obtain ⟨-, -, along, down, -⟩ := finished.says_links sound stored found siblings
      have further : doc.outlineChildren item.parent = (before ++ [id]) ++ rest := by
        rw [siblings, List.append_assoc]
        rfl
      rw [List.map_cons, List.map_append]
      exact .item down along (ihDown (List.nil_append _).symm) (ihNext further)

theorem FinishedAs.length_family (finished : doc.FinishedAs closed means file roots bodies)
    (sound : doc.Sound) (stored : doc.OutlineStored closed.store root) {id : Id .outline}
    {item : OutlineItem} (found : doc.outline.get? id = some item) :
    (doc.outlineFamily id).length = 1 + Body.countOf bodies (outlineRef root id) := by
  obtain ⟨below, visits⟩ := sound.exists_visits (some id)
  have told := finished.says_outlineCount sound stored found visits
  rw [sound.length_outlineFamily (Registry.contains_of_get? found) visits, Nat.add_comm]
  refine congrArg (1 + ·) ?_
  by_cases empty : doc.outlineChildren (some id) = []
  · rw [if_pos empty] at told
    rw [visits.eq_nil_iff.mpr empty]
    exact (Body.countOf_of_says none told).symm
  · rw [if_neg empty] at told
    exact (Body.countOf_of_says (some below.length) told).symm

theorem outlineRef_injective (root : Ref) : Function.Injective (outlineRef root) := by
  intro first second same
  have number : root.number + 1 + first.index = root.number + 1 + second.index :=
    congrArg Ref.number same
  exact Id.eq_of_index_eq (Nat.add_left_cancel number)

theorem FinishedAs.says_outlineRoot (finished : doc.FinishedAs closed means file roots bodies)
    (stored : doc.OutlineStored closed.store root) :
    ∃ first last, (doc.outlineChildren none).head? = some first ∧
      (doc.outlineChildren none).getLast? = some last ∧
      Body.Says bodies root "First" (some (.ref (outlineRef root first))) ∧
      Body.Says bodies root "Last" (some (.ref (outlineRef root last))) ∧
      Body.Says bodies root "Count" (some (.nat doc.outline.size)) := by
  obtain ⟨first, last, head, final, held⟩ := stored.ends
  have generation : root.generation = 0 := congrArg Ref.generation stored.first
  have told := finished.says_object generation held ⟨_, rfl⟩
  have entries : ∀ outline : Dictionary.Outline,
      outline.value.entry? "First" = some (.ref outline.first) ∧
        outline.value.entry? "Last" = some (.ref outline.last) ∧
        outline.value.entry? "Count" = some (.nat outline.count) := by
    intro outline
    simp [Dictionary.Outline.value, Value.entry?]
  obtain ⟨toFirst, toLast, size⟩ := entries ⟨_, _, _⟩
  exact ⟨first, last, head, final, toFirst ▸ told "First", toLast ▸ told "Last",
    size ▸ told "Count"⟩

/-- The walk along the links from the root meets the object of every item once. -/
theorem FinishedAs.exists_walk (finished : doc.FinishedAs closed means file roots bodies)
    (sound : doc.Sound) (stored : doc.OutlineStored closed.store root) :
    ∃ visited,
      Body.Walk bodies ((doc.outlineChildren none).head?.map (outlineRef root)) visited ∧
        visited.Nodup ∧
        visited.Perm (doc.outline.toList.map fun entry => outlineRef root entry.1) := by
  obtain ⟨visited, visits⟩ := sound.exists_visits none
  have perm := visits.perm_of_top sound
  have nodup : (visited.map (outlineRef root)).Nodup :=
    List.pairwise_map.mpr ((perm.nodup_iff.mpr doc.outline.nodup_ids).imp
      fun apart same => apart (outlineRef_injective root same))
  have met := perm.map (outlineRef root)
  rw [List.map_map] at met
  exact ⟨_, finished.walk_of_visits sound stored visits (List.nil_append _).symm, nodup, met⟩

theorem FinishedAs.total_eq (finished : doc.FinishedAs closed means file roots bodies)
    (sound : doc.Sound) (stored : doc.OutlineStored closed.store root) :
    doc.outline.size =
      sumOf (fun id => 1 + Body.countOf bodies (outlineRef root id))
        (doc.outlineChildren none) := by
  obtain ⟨visited, visits⟩ := sound.exists_visits none
  have members : ∀ id ∈ doc.outlineChildren none, ∃ item, doc.outline.get? id = some item := by
    intro id listed
    obtain ⟨item, found, -⟩ := mem_outlineChildren_iff.mp listed
    exact ⟨item, found⟩
  have known : ∀ id ∈ doc.outlineChildren none, doc.outline.contains id :=
    fun id listed => (members id listed).elim fun _ found => Registry.contains_of_get? found
  have size := (visits.perm_of_top sound).length_eq
  rw [List.length_map, Registry.length_toList, visits.length_eq sound known] at size
  rw [← size]
  refine sumOf_congr fun id listed => ?_
  obtain ⟨item, found⟩ := members id listed
  exact finished.length_family sound stored found

theorem FinishedAs.outlineShown (finished : doc.FinishedAs closed means file roots bodies)
    (sound : doc.Sound) (stored : doc.OutlineStored closed.store root)
    (catalog : Body.Says bodies roots.catalog "Outlines" (some (.ref root))) :
    doc.OutlineShown roots bodies root := by
  obtain ⟨first, last, head, final, toFirst, toLast, size⟩ := finished.says_outlineRoot stored
  obtain ⟨visited, walk, nodup, met⟩ := finished.exists_walk sound stored
  have split : ∀ {id item}, doc.outline.get? id = some item →
      ∃ before after, doc.outlineChildren item.parent = before ++ id :: after :=
    fun found => List.append_of_mem (mem_outlineChildren_iff.mpr ⟨_, found, rfl⟩)
  exact {
    catalog := catalog
    ends := ⟨first, last, head, final, toFirst, toLast⟩
    size := size
    parent := by
      intro id item found
      obtain ⟨before, after, siblings⟩ := split found
      exact (finished.says_links sound stored found siblings).1
    siblings := by
      intro id item found
      obtain ⟨before, after, siblings⟩ := split found
      obtain ⟨-, prev, next, -⟩ := finished.says_links sound stored found siblings
      exact ⟨before, after, siblings, prev, next⟩
    children := by
      intro id item found
      obtain ⟨before, after, siblings⟩ := split found
      obtain ⟨-, -, -, toFirst, toLast, -⟩ := finished.says_links sound stored found siblings
      exact ⟨toFirst, toLast⟩
    count := by
      intro id item found
      obtain ⟨below, visits⟩ := sound.exists_visits (some id)
      have known := Registry.contains_of_get? found
      refine ⟨below, visits.nodup sound (doc.nodup_outlineChildren _) fun _ listed => listed,
        fun other => visits.mem_iff.trans below_iff_child.symm, fun depth enough => ?_,
        finished.says_outlineCount sound stored found visits⟩
      rw [sound.descendants?_eq known (Nat.le_trans enough (Nat.le_add_left _ _)),
        sound.length_outlineFamily known visits, Nat.add_sub_cancel]
    destination := by
      intro id item found
      obtain ⟨before, after, siblings⟩ := split found
      exact (finished.says_links sound stored found siblings).2.2.2.2.2
    walk := by
      rw [head] at walk
      exact ⟨_, visited, toFirst, walk, nodup, met⟩
    total := finished.total_eq sound stored }

end Finished

theorem Sound.outlineAgrees (sound : doc.Sound) (outlined : doc.outline.isEmpty = false) :
    doc.OutlineAgrees where
  filled := by
    obtain ⟨roots, closed, closing, closes⟩ := sound.exists_closed
    exact ⟨roots, closed, closing, closes.ne_reserved sound⟩
  ordered := by
    refine ⟨_, rfl, fun order perm => ?_⟩
    have start := run_reserve_pushAll doc []
    rw [pushAll_nil] at start
    refine (Build.run_bind_of_run start).trans (.trans ?_ (Build.run_bind_of_run start).symm)
    rw [EStateM.run_bind, EStateM.run_bind, sound.run_closeOutlineIn_eq outlined _ perm]
  finished := by
    intro means sink complete
    obtain ⟨roots, closed, bodies, finished⟩ := sound.exists_finishedAs complete
    obtain ⟨root, stored, told⟩ := finished.exists_outline outlined
    exact ⟨roots, bodies, root, finished.whole, finished.outlineShown sound stored told⟩

/-- Whatever was asked of a document with an outline, its files show the items as one forest. -/
theorem outlineAgrees_run (options : DocumentOptions) (converter : Color → DeviceSpace → Color)
    (operations : List Operation)
    (reached : ((withConverter options converter).run operations).2 = doc)
    (outlined : doc.outline.isEmpty = false) : doc.OutlineAgrees := by
  have sound := sound_run options converter operations
  rw [reached] at sound
  exact sound.outlineAgrees outlined

/-- Two chapters on a page, of which the first has two sections and one of these a part. -/
def outlinedDocument : Document :=
  ((withConverter .standard Color.convertDevice).run
    [.addPage (listingPage [] [] []),
      .addOutline ⟨"first", ⟨0⟩, none⟩,
      .addOutline ⟨"section", ⟨0⟩, some ⟨0⟩⟩,
      .addOutline ⟨"second", ⟨0⟩, none⟩,
      .addOutline ⟨"part", ⟨0⟩, some ⟨1⟩⟩,
      .addOutline ⟨"another", ⟨0⟩, some ⟨0⟩⟩]).2

theorem outlineAgrees_run_chapters :
    outlinedDocument.outline.isEmpty = false ∧
      (outlinedDocument.finalize ⟨id, List.replicate 16 0⟩ .unbounded).failure = none ∧
      ∃ roots bodies root,
        Whole (outlinedDocument.finalize ⟨id, List.replicate 16 0⟩ .unbounded).out bodies roots
          (List.replicate 16 0) ∧
        Body.Says bodies root "Count" (some (.nat 5)) ∧
        Body.Says bodies (outlineRef root ⟨0⟩) "Count" (some (.nat 3)) ∧
        Body.Says bodies (outlineRef root ⟨0⟩) "Last" (some (.ref (outlineRef root ⟨4⟩))) ∧
        Body.Says bodies (outlineRef root ⟨2⟩) "Count" none ∧
        Body.Says bodies (outlineRef root ⟨4⟩) "Parent" (some (.ref (outlineRef root ⟨0⟩))) := by
  have outlined : outlinedDocument.outline.isEmpty = false := by decide
  have complete :
      (outlinedDocument.finalize ⟨id, List.replicate 16 0⟩ .unbounded).failure = none :=
    failure_finalize_unbounded (by decide +kernel)
  have agrees := outlineAgrees_run _ _ _ rfl outlined
  obtain ⟨roots, bodies, root, whole, shown⟩ := agrees.finished complete
  have first : outlinedDocument.outline.get? ⟨0⟩ = some _ := rfl
  have second : outlinedDocument.outline.get? ⟨2⟩ = some _ := rfl
  have another : outlinedDocument.outline.get? ⟨4⟩ = some _ := rfl
  obtain ⟨below, -, -, counted, count⟩ := shown.count first
  have three : 3 = below.length := Option.some.inj (counted 5 (by decide))
  obtain ⟨_, -, -, -, countSecond⟩ := shown.count second
  rw [← three] at count
  exact ⟨outlined, complete, roots, bodies, root, whole, shown.size, count,
    (shown.children first).2, countSecond, shown.parent another⟩

end Document

end Folio
