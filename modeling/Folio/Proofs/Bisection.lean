import Folio.Bisection

/-!
Search by halves in ascending sequences. It finds what a search from the front finds.
-/

namespace Folio

namespace Bisection

theorem place_eq {order : Nat → Ordering} {base size target : Nat} (first : base ≤ target)
    (last : target < base + size) (upTo : ∀ index ≤ target, order index ≠ .gt)
    (beyond : ∀ index, target < index → order index = .gt) : place order base size = target := by
  fun_induction place order base size with
  | case1 base size single => omega
  | case2 base size several middle ih =>
      have half : middle = base + size / 2 := rfl
      by_cases after : order middle = .gt
      · have before : target < middle :=
          Nat.lt_of_not_le fun reached => upTo middle reached after
        rw [dif_pos after] at ih
        rw [if_pos after]
        exact ih first (by omega)
      · have reached : middle ≤ target :=
          Nat.le_of_not_lt fun before => after (beyond middle before)
        rw [dif_neg after] at ih
        rw [if_neg after]
        exact ih reached (by omega)

variable {α : Type} {order : α → Ordering}

theorem order_of_find? {entries : Array α} {found : α}
    (finds : find? order entries = some found) : found ∈ entries ∧ order found = .eq := by
  obtain ⟨entry, there, checked⟩ := Option.bind_eq_some_iff.mp finds
  split at checked
  · next same =>
      cases checked
      exact ⟨Array.mem_of_getElem? there, same⟩
  · contradiction

/-- How an entry stands to what is looked for; past the end it comes after. -/
def orderAt (order : α → Ordering) (entries : List α) (index : Nat) : Ordering :=
  (entries[index]?.map order).getD .gt

theorem find?_eq_some_of_place {entries : List α} {found : α}
    (there : entries[place (orderAt order entries) 0 entries.length]? = some found)
    (same : order found = .eq) : find? order entries.toArray = some found := by
  have looked : entries.toArray[place (fun index => (entries.toArray[index]?.map order).getD .gt) 0
      entries.toArray.size]? = some found := by
    simp only [List.getElem?_toArray, List.size_toArray]
    exact there
  exact Option.bind_eq_some_iff.mpr ⟨found, looked, if_pos same⟩

section Split

variable {before after : List α} {found : α}

theorem orderAt_ne_gt_of_le (earlier : ∀ entry ∈ before, order entry ≠ .gt)
    (same : order found = .eq) {index : Nat} (upTo : index ≤ before.length) :
    orderAt order (before ++ found :: after) index ≠ .gt := by
  rw [orderAt]
  rcases Nat.lt_or_eq_of_le upTo with inside | rfl
  · rw [List.getElem?_append_left inside, List.getElem?_eq_getElem inside]
    exact earlier _ (List.getElem_mem inside)
  · rw [List.getElem?_append_right (Nat.le_refl _), Nat.sub_self, List.getElem?_cons_zero,
      Option.map_some, same]
    exact Ordering.noConfusion

theorem orderAt_of_lt (later : ∀ entry ∈ after, order entry = .gt) {index : Nat}
    (beyond : before.length < index) :
    orderAt order (before ++ found :: after) index = .gt := by
  obtain ⟨more, rfl⟩ := Nat.exists_eq_add_of_lt beyond
  rw [orderAt, List.getElem?_append_right (by omega), Nat.add_assoc, Nat.add_sub_cancel_left,
    List.getElem?_cons_succ]
  cases held : after[more]? with
  | none => rfl
  | some entry => exact later entry (List.mem_of_getElem? held)

theorem find?_of_split (earlier : ∀ entry ∈ before, order entry ≠ .gt)
    (same : order found = .eq) (later : ∀ entry ∈ after, order entry = .gt) :
    find? order (before ++ found :: after).toArray = some found := by
  have placed : place (orderAt order (before ++ found :: after)) 0
      (before ++ found :: after).length = before.length := by
    refine place_eq (Nat.zero_le _) ?_ (fun _ => orderAt_ne_gt_of_le earlier same)
      fun _ => orderAt_of_lt later
    rw [List.length_append, List.length_cons]
    omega
  refine find?_eq_some_of_place ?_ same
  rw [placed, List.getElem?_append_right (Nat.le_refl _), Nat.sub_self, List.getElem?_cons_zero]

end Split

/-- Where entries ascend, the search by halves finds what a search from the front finds. -/
theorem find?_toArray {entries : List α}
    (ascending : entries.Pairwise fun first second => order first ≠ .lt → order second = .gt) :
    find? order entries.toArray = entries.find? fun entry => order entry = .eq := by
  cases front : entries.find? fun entry => order entry = .eq with
  | some found =>
      obtain ⟨same, before, after, rfl, -⟩ := List.find?_eq_some_iff_append.mp front
      have equal : order found = .eq := of_decide_eq_true same
      obtain ⟨-, behind, across⟩ := List.pairwise_append.mp ascending
      refine find?_of_split (fun entry member greater => ?_) equal fun entry member => ?_
      · have beyond := across entry member found List.mem_cons_self
        rw [greater, equal] at beyond
        exact absurd (beyond Ordering.noConfusion) Ordering.noConfusion
      · refine (List.pairwise_cons.mp behind).1 entry member ?_
        rw [equal]
        exact Ordering.noConfusion
  | none =>
      cases halves : find? order entries.toArray with
      | none => rfl
      | some found =>
          obtain ⟨member, same⟩ := order_of_find? halves
          have other := List.find?_eq_none.mp front found (Array.mem_toList_iff.mpr member)
          exact absurd (decide_eq_true same) other

end Bisection

end Folio
