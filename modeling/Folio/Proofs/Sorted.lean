import Folio.Sorted

/-!
Lists of pairs in ascending order of their keys: what an insertion makes of them, and what many
insertions one after the other leave of the pairs that were inserted.
-/

namespace Folio

namespace Sorted

variable {κ α : Type} [Ord κ]

abbrev Ascending (pairs : List (κ × α)) : Prop :=
  pairs.Pairwise fun first second => compare first.1 second.1 = .lt

def lastUnder? [DecidableEq κ] (key : κ) (listed : List (κ × α)) : Option α :=
  (listed.reverse.find? fun pair => key = pair.1).map Prod.snd

section Lookup

variable [Std.LawfulEqOrd κ] [DecidableEq κ]

theorem find?_cons (key : κ) (head : κ × α) (rest : List (κ × α)) :
    find? key (head :: rest) = if key = head.1 then some head.2 else find? key rest := by
  rw [find?]
  split
  · next same => rw [if_pos (Std.compare_eq_iff_eq.mp same)]
  · next differs => rw [if_neg (mt Std.compare_eq_iff_eq.mpr differs)]

theorem find?_insert (key other : κ) (value : α) (pairs : List (κ × α)) :
    find? other (insert key value pairs) =
      if other = key then some value else find? other pairs := by
  induction pairs with
  | nil => rw [insert, find?_cons]
  | cons head rest ih =>
      rw [insert]
      cases order : compare key head.1 with
      | lt => exact find?_cons other (key, value) (head :: rest)
      | eq =>
          simp only [find?_cons, Std.compare_eq_iff_eq.mp order]
          split
          · rfl
          · rfl
      | gt =>
          simp only [find?_cons, ih]
          by_cases first : other = head.1
          · have differs : other ≠ key := by
              rintro rfl
              rw [first, Std.compare_self] at order
              contradiction
            rw [if_pos first, if_pos first, if_neg differs]
          · rw [if_neg first, if_neg first]

omit [Ord κ] [Std.LawfulEqOrd κ] in
theorem lastUnder?_cons (key : κ) (head : κ × α) (rest : List (κ × α)) :
    lastUnder? key (head :: rest) =
      (lastUnder? key rest).or (if key = head.1 then some head.2 else none) := by
  rw [lastUnder?, List.reverse_cons, List.find?_append, Option.map_or, List.find?_singleton]
  by_cases same : key = head.1
  · rw [if_pos same, if_pos (decide_eq_true same)]
    rfl
  · rw [if_neg same, if_neg (by rwa [decide_eq_true_eq])]
    rfl

theorem find?_insertAll (key : κ) (start listed : List (κ × α)) :
    find? key (insertAll start listed) = (lastUnder? key listed).or (find? key start) := by
  induction listed generalizing start with
  | nil => rfl
  | cons head rest ih =>
      show find? key (insertAll (insert head.1 head.2 start) rest) = _
      rw [ih, find?_insert, lastUnder?_cons, Option.or_assoc]
      split
      · rfl
      · rfl

theorem mem_iff_find? {pairs : List (κ × α)} (ascending : Ascending pairs) {pair : κ × α} :
    pair ∈ pairs ↔ find? pair.1 pairs = some pair.2 := by
  induction pairs with
  | nil => exact iff_of_false List.not_mem_nil nofun
  | cons head rest ih =>
      obtain ⟨first, further⟩ := List.pairwise_cons.mp ascending
      rw [List.mem_cons, find?_cons, ih further]
      by_cases same : pair.1 = head.1
      · have last : pair ∉ rest := fun later => by
          have less := first pair later
          rw [same, Std.compare_self] at less
          contradiction
        rw [if_pos same, ← ih further, or_iff_left last, Option.some.injEq]
        exact ⟨fun equal => congrArg Prod.snd equal.symm, fun held => Prod.ext same held.symm⟩
      · rw [if_neg same, or_iff_right fun equal => same (congrArg Prod.fst equal)]

theorem find?_eq (key : κ) (pairs : List (κ × α)) :
    find? key pairs = (pairs.find? fun pair => compare pair.1 key = .eq).map Prod.snd := by
  induction pairs with
  | nil => rfl
  | cons head rest ih =>
      rw [find?_cons, List.find?_cons, ih]
      by_cases same : key = head.1
      · rw [if_pos same, same, Std.compare_self]
        rfl
      · have differs : compare head.1 key ≠ .eq :=
          fun equal => same (Std.compare_eq_iff_eq.mp equal).symm
        rw [if_neg same, decide_eq_false differs]

omit [Ord κ] [Std.LawfulEqOrd κ] in
theorem mem_of_lastUnder? {key : κ} {value : α} {listed : List (κ × α)}
    (last : lastUnder? key listed = some value) : (key, value) ∈ listed := by
  induction listed with
  | nil => contradiction
  | cons head rest ih =>
      rw [lastUnder?_cons, Option.or_eq_some_iff] at last
      rcases last with later | ⟨-, first⟩
      · exact List.mem_cons_of_mem head (ih later)
      · split at first
        · next same =>
            cases first
            rw [same]
            exact List.mem_cons_self
        · contradiction

omit [Ord κ] [Std.LawfulEqOrd κ] in
theorem lastUnder?_eq_none_iff {key : κ} {listed : List (κ × α)} :
    lastUnder? key listed = none ↔ ∀ value, (key, value) ∉ listed := by
  constructor
  · intro absent value member
    have passed := List.find?_eq_none.mp (Option.map_eq_none_iff.mp absent) (key, value)
      (List.mem_reverse.mpr member)
    exact passed (decide_eq_true rfl)
  · intro absent
    cases last : lastUnder? key listed with
    | none => rfl
    | some value => exact absurd (mem_of_lastUnder? last) (absent value)

omit [Ord κ] [Std.LawfulEqOrd κ] in
theorem lastUnder?_eq_of_mem_iff {key : κ} {found : Option α} {listed : List (κ × α)}
    (agrees : ∀ value, (key, value) ∈ listed ↔ found = some value) :
    lastUnder? key listed = found := by
  cases last : lastUnder? key listed with
  | some value => exact ((agrees value).mp (mem_of_lastUnder? last)).symm
  | none =>
      cases found with
      | none => rfl
      | some value => exact absurd ((agrees value).mpr rfl) (lastUnder?_eq_none_iff.mp last value)

theorem find?_insertAll_nil (key : κ) (listed : List (κ × α)) :
    find? key (insertAll [] listed) = lastUnder? key listed := by
  rw [find?_insertAll, find?, Option.or_none]

theorem under_push (key other : κ) (value : α) (pairs : List (κ × List α)) :
    under other (push key value pairs) =
      if other = key then under key pairs ++ [value] else under other pairs := by
  rw [under, push, find?_insert]
  split
  · rfl
  · rfl

theorem under_pushAll (key : κ) (start : List (κ × List α)) (listed : List (κ × α)) :
    under key (pushAll start listed) =
      under key start ++ (listed.filter fun pair => key = pair.1).map Prod.snd := by
  induction listed generalizing start with
  | nil => exact (List.append_nil _).symm
  | cons head rest ih =>
      change under key (pushAll (push head.1 head.2 start) rest) = _
      rw [ih, under_push, List.filter_cons]
      by_cases same : key = head.1
      · rw [if_pos same, if_pos (decide_eq_true same), same, List.append_assoc]
        rfl
      · rw [if_neg same, if_neg (by rwa [decide_eq_true_eq])]

end Lookup

variable [Std.TransOrd κ] {key : κ} {value : α} {pairs start listed : List (κ × α)}

theorem ne_of_lt {first second : κ} (less : compare first second = .lt) : first ≠ second := by
  rintro rfl
  rw [Std.compare_self] at less
  contradiction

theorem lt_of_lt_head {head : κ × α} (ascending : Ascending (head :: pairs))
    (less : compare key head.1 = .lt) {other : κ × α} (listed : other ∈ head :: pairs) :
    compare key other.1 = .lt := by
  rcases List.mem_cons.mp listed with rfl | later
  · exact less
  · exact Std.TransCmp.lt_trans less ((List.pairwise_cons.mp ascending).1 other later)

variable [Std.LawfulEqOrd κ]

theorem gt_of_lt_of_reached {first second : κ} (less : compare first second = .lt)
    (reached : compare first key ≠ .lt) : compare second key = .gt := by
  rw [Std.OrientedCmp.gt_iff_lt]
  cases order : compare first key with
  | lt => contradiction
  | eq =>
      rw [← Std.compare_eq_iff_eq.mp order]
      exact less
  | gt => exact Std.TransCmp.lt_trans (Std.OrientedCmp.gt_iff_lt.mp order) less

theorem mem_insert_iff (ascending : Ascending pairs) {pair : κ × α} :
    pair ∈ insert key value pairs ↔ pair = (key, value) ∨ pair ∈ pairs ∧ pair.1 ≠ key := by
  induction pairs with
  | nil => simp [insert]
  | cons head rest ih =>
      obtain ⟨first, further⟩ := List.pairwise_cons.mp ascending
      rw [insert]
      cases order : compare key head.1 with
      | lt =>
          have later (listed : pair ∈ head :: rest) : pair.1 ≠ key :=
            (ne_of_lt (lt_of_lt_head ascending order listed)).symm
          rw [List.mem_cons, and_iff_left_of_imp later]
      | eq =>
          have same : key = head.1 := Std.compare_eq_iff_eq.mp order
          simp only [List.mem_cons]
          constructor
          · rintro (rfl | listed)
            · exact .inl rfl
            · exact .inr ⟨.inr listed, same ▸ (ne_of_lt (first pair listed)).symm⟩
          · rintro (rfl | ⟨rfl | listed, differs⟩)
            · exact .inl rfl
            · exact absurd same.symm differs
            · exact .inr listed
      | gt =>
          have differs : head.1 ≠ key := ne_of_lt (Std.OrientedCmp.gt_iff_lt.mp order)
          simp only [List.mem_cons, ih further]
          constructor
          · rintro (rfl | new | ⟨listed, apart⟩)
            · exact .inr ⟨.inl rfl, differs⟩
            · exact .inl new
            · exact .inr ⟨.inr listed, apart⟩
          · rintro (new | ⟨rfl | listed, apart⟩)
            · exact .inr (.inl new)
            · exact .inl rfl
            · exact .inr (.inr ⟨listed, apart⟩)

theorem mem_keys_insert_iff (ascending : Ascending pairs) {other : κ} :
    other ∈ (insert key value pairs).map Prod.fst ↔ other = key ∨ other ∈ pairs.map Prod.fst := by
  simp only [List.mem_map, mem_insert_iff ascending]
  constructor
  · rintro ⟨pair, rfl | ⟨listed, -⟩, rfl⟩
    · exact .inl rfl
    · exact .inr ⟨pair, listed, rfl⟩
  · rintro (rfl | ⟨pair, listed, rfl⟩)
    · exact ⟨(other, value), .inl rfl, rfl⟩
    · by_cases same : pair.1 = key
      · exact ⟨(key, value), .inl rfl, same.symm⟩
      · exact ⟨pair, .inr ⟨listed, same⟩, rfl⟩

theorem ascending_insert (ascending : Ascending pairs) : Ascending (insert key value pairs) := by
  induction pairs with
  | nil => exact List.pairwise_singleton _ _
  | cons head rest ih =>
      obtain ⟨first, further⟩ := List.pairwise_cons.mp ascending
      rw [insert]
      cases order : compare key head.1 with
      | lt => exact List.pairwise_cons.mpr ⟨fun _ => lt_of_lt_head ascending order, ascending⟩
      | eq =>
          rw [Std.compare_eq_iff_eq.mp order]
          exact List.pairwise_cons.mpr ⟨first, further⟩
      | gt =>
          refine List.pairwise_cons.mpr ⟨fun other listed => ?_, ih further⟩
          rcases (mem_insert_iff further).mp listed with rfl | ⟨listed, -⟩
          · exact Std.OrientedCmp.gt_iff_lt.mp order
          · exact first other listed

/-- A pair with a key that is there already takes the place of the other. -/
theorem length_insert [DecidableEq κ] (ascending : Ascending pairs) :
    (insert key value pairs).length =
      if key ∈ pairs.map Prod.fst then pairs.length else pairs.length + 1 := by
  induction pairs with
  | nil => rfl
  | cons head rest ih =>
      obtain ⟨first, further⟩ := List.pairwise_cons.mp ascending
      rw [insert]
      cases order : compare key head.1 with
      | lt =>
          have absent : key ∉ (head :: rest).map Prod.fst := by
            intro listed
            obtain ⟨other, listed, same⟩ := List.mem_map.mp listed
            exact ne_of_lt (lt_of_lt_head ascending order listed) same.symm
          rw [if_neg absent]
          rfl
      | eq =>
          have present : key ∈ (head :: rest).map Prod.fst :=
            List.mem_map.mpr ⟨head, List.mem_cons_self, (Std.compare_eq_iff_eq.mp order).symm⟩
          rw [if_pos present]
          rfl
      | gt =>
          have differs : key ≠ head.1 := (ne_of_lt (Std.OrientedCmp.gt_iff_lt.mp order)).symm
          simp only [List.length_cons, ih further, List.map_cons, List.mem_cons, differs, false_or]
          split
          · rfl
          · rfl

theorem ascending_insertAll (ascending : Ascending start) :
    Ascending (insertAll start listed) := by
  induction listed generalizing start with
  | nil => exact ascending
  | cons pair rest ih => exact ih (ascending_insert ascending)

theorem mem_keys_insertAll_iff (ascending : Ascending start) {other : κ} :
    other ∈ (insertAll start listed).map Prod.fst ↔
      other ∈ start.map Prod.fst ∨ other ∈ listed.map Prod.fst := by
  induction listed generalizing start with
  | nil => simp [insertAll]
  | cons pair rest ih =>
      change other ∈ (insertAll (insert pair.1 pair.2 start) rest).map Prod.fst ↔ _
      rw [ih (ascending_insert ascending), mem_keys_insert_iff ascending, List.map_cons,
        List.mem_cons, or_assoc, or_left_comm]

theorem lastUnder?_of_mem_insertAll [DecidableEq κ] {pair : κ × α}
    (kept : pair ∈ insertAll [] listed) : lastUnder? pair.1 listed = some pair.2 := by
  have found := (mem_iff_find? (ascending_insertAll List.Pairwise.nil)).mp kept
  rwa [find?_insertAll_nil] at found

theorem mem_insertAll_iff (ascending : Ascending start) {pair : κ × α} :
    pair ∈ insertAll start listed ↔
      (∃ before after, listed = before ++ pair :: after ∧ pair.1 ∉ after.map Prod.fst) ∨
        pair ∈ start ∧ pair.1 ∉ listed.map Prod.fst := by
  induction listed generalizing start with
  | nil => simp [insertAll]
  | cons head rest ih =>
      change pair ∈ insertAll (insert head.1 head.2 start) rest ↔ _
      rw [ih (ascending_insert ascending), mem_insert_iff ascending, List.map_cons, List.mem_cons]
      constructor
      · rintro (⟨before, after, rfl, last⟩ | ⟨rfl | ⟨listed, differs⟩, last⟩)
        · exact .inl ⟨head :: before, after, rfl, last⟩
        · exact .inl ⟨[], rest, rfl, last⟩
        · exact .inr ⟨listed, fun found => found.elim differs last⟩
      · rintro (⟨before, after, split, last⟩ | ⟨listed, absent⟩)
        · cases before with
          | nil =>
              cases split
              exact .inr ⟨.inl rfl, last⟩
          | cons first before =>
              cases split
              exact .inl ⟨before, after, rfl, last⟩
        · exact .inr ⟨.inr ⟨listed, fun same => absent (.inl same)⟩, fun found =>
            absent (.inr found)⟩

theorem length_insertAll_le [DecidableEq κ] (ascending : Ascending start) :
    (insertAll start listed).length ≤ start.length + listed.length := by
  induction listed generalizing start with
  | nil => exact Nat.le_refl _
  | cons pair rest ih =>
      have grown : (insert pair.1 pair.2 start).length ≤ start.length + 1 := by
        rw [length_insert ascending]
        split
        · exact Nat.le_succ _
        · exact Nat.le_refl _
      calc (insertAll (insert pair.1 pair.2 start) rest).length
        _ ≤ (insert pair.1 pair.2 start).length + rest.length := ih (ascending_insert ascending)
        _ ≤ start.length + 1 + rest.length := Nat.add_le_add_right grown _
        _ = start.length + (pair :: rest).length := by rw [List.length_cons]; omega

theorem length_insertAll_eq_iff [DecidableEq κ] (ascending : Ascending start) :
    (insertAll start listed).length = start.length + listed.length ↔
      (listed.map Prod.fst).Nodup ∧ ∀ key ∈ listed.map Prod.fst, key ∉ start.map Prod.fst := by
  induction listed generalizing start with
  | nil => simp [insertAll]
  | cons pair rest ih =>
      have further : Ascending (insert pair.1 pair.2 start) := ascending_insert ascending
      have grown : (insert pair.1 pair.2 start).length = _ := length_insert ascending
      change (insertAll (insert pair.1 pair.2 start) rest).length = _ ↔ _
      simp only [List.length_cons, List.map_cons, List.nodup_cons, List.forall_mem_cons]
      by_cases present : pair.1 ∈ start.map Prod.fst
      · rw [if_pos present] at grown
        have most : (insertAll _ rest).length ≤ _ := length_insertAll_le further
        exact iff_of_false (by omega) fun apart => apart.2.1 present
      · rw [if_neg present] at grown
        have split := ih further
        simp only [mem_keys_insert_iff ascending, grown, not_or] at split
        rw [← Nat.add_assoc, Nat.add_right_comm, split]
        constructor
        · rintro ⟨apart, fresh⟩
          exact ⟨⟨fun listed => (fresh _ listed).1 rfl, apart⟩, present, fun key listed =>
            (fresh key listed).2⟩
        · rintro ⟨⟨first, apart⟩, -, fresh⟩
          exact ⟨apart, fun key listed => ⟨fun same => first (same ▸ listed), fresh key listed⟩⟩

end Sorted

end Folio
