import Folio.Proofs.Completion

/-!
The items of an outline as a forest. An item comes after its parent, so the way up and the way down
both end, and a walk over the children of each item meets every item once.
-/

namespace Folio

def sumOf {α : Type} (count : α → Nat) : List α → Nat
  | [] => 0
  | entry :: rest => count entry + sumOf count rest

theorem sumOf_congr {α : Type} {count other : α → Nat} {list : List α}
    (same : ∀ entry ∈ list, count entry = other entry) : sumOf count list = sumOf other list := by
  induction list with
  | nil => rfl
  | cons entry rest ih =>
      obtain ⟨first, others⟩ := List.forall_mem_cons.mp same
      rw [sumOf, sumOf, first, ih others]

theorem sumOf_map {α β : Type} (count : β → Nat) (change : α → β) (list : List α) :
    sumOf count (list.map change) = sumOf (fun entry => count (change entry)) list := by
  induction list with
  | nil => rfl
  | cons entry rest ih => rw [List.map_cons, sumOf, sumOf, ih]

theorem mapM_eq_some {α β : Type} {made : α → Option β} {expected : α → β} {list : List α}
    (each : ∀ entry ∈ list, made entry = some (expected entry)) :
    list.mapM made = some (list.map expected) := by
  induction list with
  | nil => rfl
  | cons entry rest ih =>
      obtain ⟨first, others⟩ := List.forall_mem_cons.mp each
      rw [List.mapM_cons, first, ih others]
      rfl

namespace Document

variable {doc : Document}

def IsParent (doc : Document) (parent id : Id .outline) : Prop :=
  ∃ item, doc.outline.get? id = some item ∧ item.parent = some parent

def Encloses (doc : Document) (above id : Id .outline) : Prop :=
  id = above ∨ Relation.TransGen doc.IsParent above id

theorem IsParent.parent_eq {parent id : Id .outline} (below : doc.IsParent parent id)
    {item : OutlineItem} (found : doc.outline.get? id = some item) :
    item.parent = some parent := by
  obtain ⟨other, foundAlso, same⟩ := below
  rw [found] at foundAlso
  cases foundAlso
  exact same

theorem IsParent.unique {parent other id : Id .outline} (below : doc.IsParent parent id)
    (also : doc.IsParent other id) : parent = other := by
  obtain ⟨item, found, same⟩ := below
  exact Option.some.inj (same.symm.trans (also.parent_eq found))

theorem mem_children_iff {parent id : Id .outline} :
    id ∈ doc.outlineChildren (some parent) ↔ doc.IsParent parent id :=
  mem_outlineChildren_iff

theorem Sound.lt_of_isParent (sound : doc.Sound) {parent id : Id .outline}
    (below : doc.IsParent parent id) : parent.index < id.index := by
  obtain ⟨item, found, same⟩ := below
  exact sound.outlineParents found same

theorem Sound.lt_of_below (sound : doc.Sound) {above id : Id .outline}
    (below : Relation.TransGen doc.IsParent above id) : above.index < id.index := by
  induction below with
  | single parent => exact sound.lt_of_isParent parent
  | tail _ parent ih => exact Nat.lt_trans ih (sound.lt_of_isParent parent)

theorem Sound.le_of_encloses (sound : doc.Sound) {above id : Id .outline}
    (encloses : doc.Encloses above id) : above.index ≤ id.index := by
  rcases encloses with rfl | below
  · exact Nat.le_refl _
  · exact Nat.le_of_lt (sound.lt_of_below below)

theorem Encloses.below {above parent id : Id .outline} (encloses : doc.Encloses above parent)
    (below : doc.IsParent parent id) : Relation.TransGen doc.IsParent above id := by
  rcases encloses with rfl | further
  · exact .single below
  · exact .tail further below

/-- Upwards: what is below an item is a child of something that the item encloses. -/
theorem below_iff_parent {above id : Id .outline} :
    Relation.TransGen doc.IsParent above id ↔
      ∃ parent, doc.IsParent parent id ∧ doc.Encloses above parent := by
  constructor
  · intro below
    cases below with
    | single parent => exact ⟨above, parent, .inl rfl⟩
    | tail further parent => exact ⟨_, parent, .inr further⟩
  · rintro ⟨parent, below, encloses⟩
    exact encloses.below below

theorem below_iff_child {above id : Id .outline} :
    Relation.TransGen doc.IsParent above id ↔
      ∃ child ∈ doc.outlineChildren (some above), doc.Encloses child id := by
  constructor
  · intro below
    induction below with
    | single parent => exact ⟨_, mem_children_iff.mpr parent, .inl rfl⟩
    | tail _ parent ih =>
        obtain ⟨child, listed, encloses⟩ := ih
        exact ⟨child, listed, .inr (encloses.below parent)⟩
  · rintro ⟨child, listed, rfl | below⟩
    · exact .single (mem_children_iff.mp listed)
    · exact .trans (.single (mem_children_iff.mp listed)) below

theorem Sound.eq_of_encloses (sound : doc.Sound) {parent : Option (Id .outline)}
    {first second id : Id .outline} (inFirst : first ∈ doc.outlineChildren parent)
    (inSecond : second ∈ doc.outlineChildren parent) (below : doc.Encloses first id)
    (belowSecond : doc.Encloses second id) : first = second := by
  have apart : ∀ {one other : Id .outline}, one ∈ doc.outlineChildren parent →
      other ∈ doc.outlineChildren parent → ¬Relation.TransGen doc.IsParent one other := by
    intro one other inOne inOther further
    obtain ⟨above, isParent, encloses⟩ := below_iff_parent.mp further
    obtain ⟨item, found, same⟩ := mem_outlineChildren_iff.mp inOther
    rw [← same, isParent.parent_eq found, mem_children_iff] at inOne
    exact absurd (sound.lt_of_isParent inOne) (Nat.not_lt.mpr (sound.le_of_encloses encloses))
  rcases below with rfl | below
  · rcases belowSecond with rfl | further
    · rfl
    · exact absurd further (apart inSecond inFirst)
  · rcases belowSecond with rfl | further
    · exact absurd below (apart inFirst inSecond)
    · obtain ⟨above, isParent, encloses⟩ := below_iff_parent.mp below
      obtain ⟨other, isParentAlso, enclosesSecond⟩ := below_iff_parent.mp further
      cases isParent.unique isParentAlso
      have shorter := sound.lt_of_isParent isParent
      exact sound.eq_of_encloses inFirst inSecond encloses enclosesSecond
termination_by id.index

theorem Sound.exists_top_encloses (sound : doc.Sound) {id : Id .outline} {item : OutlineItem}
    (found : doc.outline.get? id = some item) :
    ∃ top ∈ doc.outlineChildren none, doc.Encloses top id := by
  cases below : item.parent with
  | none => exact ⟨id, mem_outlineChildren_iff.mpr ⟨item, found, below⟩, .inl rfl⟩
  | some parent =>
      have shorter := sound.outlineParents found below
      have inside : id.index < doc.outline.size :=
        of_decide_eq_true (Registry.contains_of_get? found)
      obtain ⟨held, foundParent⟩ := Registry.exists_get?_of_contains
        (decide_eq_true (Nat.lt_trans shorter inside) : doc.outline.contains parent)
      obtain ⟨top, listed, encloses⟩ := sound.exists_top_encloses foundParent
      exact ⟨top, listed, .inr (encloses.below ⟨item, found, below⟩)⟩
termination_by id.index

theorem pairwise_outlineChildren (doc : Document) (parent : Option (Id .outline)) :
    (doc.outlineChildren parent).Pairwise fun first second => first.index < second.index :=
  List.pairwise_map.mpr (doc.outline.pairwise_toList.filter _)

theorem nodup_outlineChildren (doc : Document) (parent : Option (Id .outline)) :
    (doc.outlineChildren parent).Nodup :=
  doc.outline.nodup_ids.sublist (List.filter_sublist.map Prod.fst)

theorem neighbours_of_outlineChildren {parent : Option (Id .outline)} {id : Id .outline}
    {before after : List (Id .outline)}
    (siblings : doc.outlineChildren parent = before ++ id :: after) :
    (doc.outlineChildren parent).filter (·.index < id.index) = before ∧
      (doc.outlineChildren parent).filter (id.index < ·.index) = after := by
  have ascending := doc.pairwise_outlineChildren parent
  rw [siblings, List.pairwise_append, List.pairwise_cons] at ascending
  obtain ⟨-, ⟨later, -⟩, earlier⟩ := ascending
  have beforeAll : ∀ other ∈ before, other.index < id.index :=
    fun other listed => earlier other listed id List.mem_cons_self
  have lower : before.filter (·.index < id.index) = before :=
    List.filter_eq_self.mpr fun other listed => decide_eq_true (beforeAll other listed)
  have notLower : after.filter (·.index < id.index) = [] :=
    List.filter_eq_nil_iff.mpr fun other listed =>
      by simpa using Nat.le_of_lt (later other listed)
  have upper : after.filter (id.index < ·.index) = after :=
    List.filter_eq_self.mpr fun other listed => decide_eq_true (later other listed)
  have notUpper : before.filter (id.index < ·.index) = [] :=
    List.filter_eq_nil_iff.mpr fun other listed =>
      by simpa using Nat.le_of_lt (beforeAll other listed)
  rw [siblings, List.filter_append, List.filter_append, lower, notUpper,
    List.filter_cons_of_neg (by simp), List.filter_cons_of_neg (by simp), notLower, upper,
    List.append_nil, List.nil_append]
  exact ⟨rfl, rfl⟩

/-- A walk over items meets each of them, then what is below it, and goes on with the next. -/
inductive Visits (doc : Document) : List (Id .outline) → List (Id .outline) → Prop
  | nil : Visits doc [] []
  | cons {id : Id .outline} {rest below after : List (Id .outline)}
      (down : Visits doc (doc.outlineChildren (some id)) below) (next : Visits doc rest after) :
      Visits doc (id :: rest) (id :: (below ++ after))

theorem Visits.mem_iff {ids visited : List (Id .outline)} (visits : doc.Visits ids visited)
    {id : Id .outline} : id ∈ visited ↔ ∃ top ∈ ids, doc.Encloses top id := by
  induction visits with
  | nil => simp
  | cons _ _ ihDown ihNext =>
      rw [List.mem_cons, List.mem_append, ihDown, ihNext, ← below_iff_child, ← or_assoc]
      simp only [List.mem_cons, or_and_right, exists_or, exists_eq_left]
      rfl

theorem Visits.eq_nil_iff {ids visited : List (Id .outline)} (visits : doc.Visits ids visited) :
    visited = [] ↔ ids = [] := by
  cases visits with
  | nil => exact Iff.rfl
  | cons down next => exact ⟨nofun, nofun⟩

theorem Visits.nodup {ids visited : List (Id .outline)} (visits : doc.Visits ids visited)
    (sound : doc.Sound) {parent : Option (Id .outline)} (nodup : ids.Nodup)
    (siblings : ∀ id ∈ ids, id ∈ doc.outlineChildren parent) : visited.Nodup := by
  induction visits generalizing parent with
  | nil => exact List.nodup_nil
  | @cons id rest below after down next ihDown ihNext =>
      obtain ⟨fresh, nodupRest⟩ := List.nodup_cons.mp nodup
      obtain ⟨first, others⟩ := List.forall_mem_cons.mp siblings
      have apart : ∀ other, doc.Encloses id other → other ∉ after := by
        intro other encloses member
        obtain ⟨top, listed, enclosesTop⟩ := next.mem_iff.mp member
        exact fresh (sound.eq_of_encloses first (others top listed) encloses enclosesTop ▸ listed)
      have further : ∀ other ∈ below, Relation.TransGen doc.IsParent id other :=
        fun other member => below_iff_child.mpr (down.mem_iff.mp member)
      refine List.nodup_cons.mpr ⟨fun member => ?_, List.nodup_append.mpr
        ⟨ihDown (doc.nodup_outlineChildren _) fun _ listed => listed, ihNext nodupRest others,
          fun other member otherAlso memberAlso same => ?_⟩⟩
      · rcases List.mem_append.mp member with under | later
        · exact Nat.lt_irrefl _ (sound.lt_of_below (further id under))
        · exact apart id (.inl rfl) later
      · rw [← same] at memberAlso
        exact apart other (.inr (further other member)) memberAlso

/-- Walks end: each step goes to an item further on. -/
theorem Sound.exists_visits_of_near (sound : doc.Sound) (remaining : Nat)
    {ids : List (Id .outline)} (near : ∀ id ∈ ids,
      doc.outline.contains id ∧ doc.outline.size ≤ id.index + remaining) :
    ∃ visited, doc.Visits ids visited := by
  induction remaining generalizing ids with
  | zero =>
      cases ids with
      | nil => exact ⟨[], .nil⟩
      | cons id rest =>
          obtain ⟨contained, far⟩ := near id List.mem_cons_self
          exact absurd (of_decide_eq_true contained) (Nat.not_lt.mpr far)
  | succ remaining ih =>
      induction ids with
      | nil => exact ⟨[], .nil⟩
      | cons id rest ihRest =>
          obtain ⟨first, others⟩ := List.forall_mem_cons.mp near
          obtain ⟨after, next⟩ := ihRest others
          have nearer : ∀ child ∈ doc.outlineChildren (some id),
              doc.outline.contains child ∧ doc.outline.size ≤ child.index + remaining := by
            intro child listed
            have isParent := mem_children_iff.mp listed
            have further := sound.lt_of_isParent isParent
            obtain ⟨item, found, -⟩ := isParent
            exact ⟨Registry.contains_of_get? found, by omega⟩
          obtain ⟨below, down⟩ := ih nearer
          exact ⟨_, .cons down next⟩

theorem Sound.exists_visits (sound : doc.Sound) (parent : Option (Id .outline)) :
    ∃ visited, doc.Visits (doc.outlineChildren parent) visited := by
  refine sound.exists_visits_of_near doc.outline.size fun id listed => ?_
  obtain ⟨item, found, -⟩ := mem_outlineChildren_iff.mp listed
  exact ⟨Registry.contains_of_get? found, Nat.le_add_left _ _⟩

theorem Visits.perm_of_top {visited : List (Id .outline)}
    (visits : doc.Visits (doc.outlineChildren none) visited) (sound : doc.Sound) :
    visited.Perm (doc.outline.toList.map Prod.fst) := by
  have nodup := visits.nodup sound (doc.nodup_outlineChildren none) fun _ listed => listed
  refine (List.perm_ext_iff_of_nodup nodup doc.outline.nodup_ids).mpr fun id => ?_
  rw [visits.mem_iff, List.mem_map]
  constructor
  · rintro ⟨top, listed, rfl | below⟩
    · obtain ⟨item, found, -⟩ := mem_outlineChildren_iff.mp listed
      exact ⟨(id, item), Registry.mem_toList_iff.mpr found, rfl⟩
    · obtain ⟨parent, ⟨item, found, -⟩, -⟩ := below_iff_parent.mp below
      exact ⟨(id, item), Registry.mem_toList_iff.mpr found, rfl⟩
  · rintro ⟨⟨other, item⟩, listed, rfl⟩
    exact sound.exists_top_encloses (Registry.mem_toList_iff.mp listed)

/-- A family that has what its first item encloses among the items before a number. -/
def FamilyUpTo (doc : Document) (id : Id .outline) (bound : Nat) (family : List (Id .outline)) :
    Prop :=
  family.Nodup ∧ ∀ other, other ∈ family ↔
    other = id ∨ (Relation.TransGen doc.IsParent id other ∧ other.index < bound)

/-- The next item joins a family if and only if it is below the first item. -/
theorem Sound.joins_iff (sound : doc.Sound) {id : Id .outline} {bound : Nat}
    {family : List (Id .outline)} (upTo : doc.FamilyUpTo id bound family)
    {entry : Id .outline × OutlineItem} (found : doc.outline.get? entry.1 = some entry.2)
    (index : entry.1.index = bound) :
    entry.2.parent.any family.contains ↔ Relation.TransGen doc.IsParent id entry.1 := by
  rw [below_iff_parent]
  cases below : entry.2.parent with
  | none =>
      refine ⟨nofun, ?_⟩
      rintro ⟨parent, isParent, -⟩
      exact nomatch below.symm.trans (isParent.parent_eq found)
  | some parent =>
      have isParent : doc.IsParent parent entry.1 := ⟨entry.2, found, below⟩
      have earlier : parent.index < bound := index ▸ sound.lt_of_isParent isParent
      rw [Option.any_some, List.contains_iff_mem, upTo.2]
      constructor
      · rintro (rfl | ⟨further, -⟩)
        · exact ⟨_, isParent, .inl rfl⟩
        · exact ⟨_, isParent, .inr further⟩
      · rintro ⟨other, isParentAlso, rfl | further⟩
        · exact .inl (isParent.unique isParentAlso)
        · cases isParent.unique isParentAlso
          exact .inr ⟨further, earlier⟩

theorem Sound.familyUpTo_join (sound : doc.Sound) {id : Id .outline} {bound : Nat}
    {family : List (Id .outline)} (upTo : doc.FamilyUpTo id bound family)
    {entry : Id .outline × OutlineItem} (found : doc.outline.get? entry.1 = some entry.2)
    (index : entry.1.index = bound) : doc.FamilyUpTo id (bound + 1) (joinFamily family entry) := by
  have joins := sound.joins_iff upTo found index
  obtain ⟨nodup, members⟩ := upTo
  have atBound : ∀ {other : Id .outline}, other.index = bound → other = entry.1 :=
    fun same => Id.eq_of_index_eq (same.trans index.symm)
  by_cases joined : entry.2.parent.any family.contains
  · have below := joins.mp joined
    have apart : entry.1 ∉ family := by
      rw [members]
      rintro (same | ⟨-, earlier⟩)
      · exact Nat.lt_irrefl _ (same ▸ sound.lt_of_below below)
      · omega
    rw [joinFamily, if_pos joined]
    refine ⟨List.nodup_append.mpr ⟨nodup, List.nodup_cons.mpr ⟨List.not_mem_nil, List.nodup_nil⟩,
      fun other member new memberNew same => ?_⟩, fun other => ?_⟩
    · rw [List.mem_singleton.mp memberNew] at same
      exact apart (same ▸ member)
    · rw [List.mem_append, members, List.mem_singleton, or_assoc]
      refine or_congr_right ⟨?_, ?_⟩
      · rintro (⟨further, earlier⟩ | rfl)
        · exact ⟨further, Nat.lt_succ_of_lt earlier⟩
        · exact ⟨below, by omega⟩
      · rintro ⟨further, earlier⟩
        rcases Nat.lt_succ_iff_lt_or_eq.mp earlier with before | same
        · exact .inl ⟨further, before⟩
        · exact .inr (atBound same)
  · rw [joinFamily, if_neg joined]
    refine ⟨nodup, fun other => (members other).trans (or_congr_right ?_)⟩
    refine and_congr_right fun further => ⟨Nat.lt_succ_of_lt, fun earlier => ?_⟩
    rcases Nat.lt_succ_iff_lt_or_eq.mp earlier with before | same
    · exact before
    · rw [atBound same] at further
      exact absurd (joins.mpr further) joined

theorem Sound.familyUpTo_foldl (sound : doc.Sound) {id : Id .outline}
    {entries : List (Id .outline × OutlineItem)}
    (found : ∀ entry ∈ entries, doc.outline.get? entry.1 = some entry.2) {start : Nat}
    (consecutive : entries.map (fun entry => entry.1.index) = List.range' start entries.length)
    {family : List (Id .outline)} (upTo : doc.FamilyUpTo id start family) :
    doc.FamilyUpTo id (start + entries.length) (entries.foldl joinFamily family) := by
  induction entries generalizing start family with
  | nil => exact upTo
  | cons entry rest ih =>
      obtain ⟨first, others⟩ := List.forall_mem_cons.mp found
      rw [List.map_cons, List.length_cons, List.range'_succ, List.cons.injEq] at consecutive
      obtain ⟨index, consecutive⟩ := consecutive
      have further := ih others consecutive (sound.familyUpTo_join upTo first index)
      rwa [Nat.add_right_comm] at further

theorem Sound.outlineFamily_eq (sound : doc.Sound) (id : Id .outline) :
    (doc.outlineFamily id).Nodup ∧
      ∀ other, other ∈ doc.outlineFamily id ↔ doc.Encloses id other := by
  have consecutive : doc.outline.toList.map (fun entry => entry.1.index) =
      List.range' 0 doc.outline.toList.length := by
    rw [Registry.index_toList, Registry.length_toList, List.range_eq_range']
  have start : doc.FamilyUpTo id 0 [id] :=
    ⟨List.nodup_cons.mpr ⟨List.not_mem_nil, List.nodup_nil⟩, fun other => by simp⟩
  obtain ⟨nodup, members⟩ := sound.familyUpTo_foldl
    (fun entry listed => Registry.mem_toList_iff.mp listed) consecutive start
  refine ⟨nodup, fun other => (members other).trans (or_congr_right ?_)⟩
  refine and_iff_left_of_imp fun below => ?_
  obtain ⟨parent, ⟨item, found, -⟩, -⟩ := below_iff_parent.mp below
  rw [Registry.length_toList, Nat.zero_add]
  exact of_decide_eq_true (Registry.contains_of_get? found)

/-- A family is its first item and what a walk over the children meets. -/
theorem Sound.length_outlineFamily (sound : doc.Sound) {id : Id .outline}
    (known : doc.outline.contains id) {below : List (Id .outline)}
    (visits : doc.Visits (doc.outlineChildren (some id)) below) :
    (doc.outlineFamily id).length = below.length + 1 := by
  obtain ⟨item, found⟩ := Registry.exists_get?_of_contains known
  have sibling : id ∈ doc.outlineChildren item.parent :=
    mem_outlineChildren_iff.mpr ⟨item, found, rfl⟩
  have walk : doc.Visits [id] (id :: (below ++ [])) := .cons visits .nil
  obtain ⟨nodup, members⟩ := sound.outlineFamily_eq id
  have nodupWalk := walk.nodup sound (List.nodup_cons.mpr ⟨List.not_mem_nil, List.nodup_nil⟩)
    (List.forall_mem_singleton.mpr sibling)
  have perm : (doc.outlineFamily id).Perm (id :: (below ++ [])) :=
    (List.perm_ext_iff_of_nodup nodup nodupWalk).mpr fun other => by
      rw [members, walk.mem_iff]
      simp
  rw [perm.length_eq, List.append_nil, List.length_cons]

theorem Visits.length_eq {ids visited : List (Id .outline)} (visits : doc.Visits ids visited)
    (sound : doc.Sound) (known : ∀ id ∈ ids, doc.outline.contains id) :
    visited.length = sumOf (fun id => (doc.outlineFamily id).length) ids := by
  induction visits with
  | nil => rfl
  | cons down next ihDown ihNext =>
      obtain ⟨first, others⟩ := List.forall_mem_cons.mp known
      rw [sumOf, sound.length_outlineFamily first down, ← ihNext others, List.length_cons,
        List.length_append]
      omega

/--
The number of items below an item, by recursion over its children. The depth is given; there is no
result where it is not enough.
-/
def descendants? (doc : Document) : Nat → Id .outline → Option Nat
  | 0, _ => none
  | depth + 1, id =>
      ((doc.outlineChildren (some id)).mapM (doc.descendants? depth)).map (sumOf (1 + ·))

theorem Sound.descendants?_eq (sound : doc.Sound) {depth : Nat} {id : Id .outline}
    (known : doc.outline.contains id) (enough : doc.outline.size ≤ id.index + depth) :
    doc.descendants? depth id = some ((doc.outlineFamily id).length - 1) := by
  induction depth generalizing id with
  | zero => exact absurd (of_decide_eq_true known) (Nat.not_lt.mpr enough)
  | succ depth ih =>
      obtain ⟨below, visits⟩ := sound.exists_visits (some id)
      have children : ∀ child ∈ doc.outlineChildren (some id), doc.outline.contains child := by
        intro child listed
        obtain ⟨item, found, -⟩ := mem_outlineChildren_iff.mp listed
        exact Registry.contains_of_get? found
      have counts : (doc.outlineChildren (some id)).mapM (doc.descendants? depth) =
          some ((doc.outlineChildren (some id)).map fun child =>
            (doc.outlineFamily child).length - 1) := by
        refine mapM_eq_some fun child listed => ih (children child listed) ?_
        have further := sound.lt_of_isParent (mem_children_iff.mp listed)
        omega
      have each : ∀ child ∈ doc.outlineChildren (some id),
          1 + ((doc.outlineFamily child).length - 1) = (doc.outlineFamily child).length := by
        intro child listed
        obtain ⟨further, down⟩ := sound.exists_visits (some child)
        rw [sound.length_outlineFamily (children child listed) down]
        omega
      rw [descendants?, counts, Option.map_some, sumOf_map, sumOf_congr each,
        sound.length_outlineFamily known visits, visits.length_eq sound children,
        Nat.add_sub_cancel]

end Document

end Folio
