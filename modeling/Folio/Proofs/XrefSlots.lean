import Folio.Proofs.XrefReading

/-!
The cross-reference table as slots by object number. Two searches in turn, for the next slot that is
filled and for the next one that is empty, find the same runs.
-/

namespace Folio

/-- Rows by object number; a number without an object has an empty slot. -/
abbrev XrefSlots := List (Option XrefRow)

namespace XrefSlots

def start : XrefSlots := [some ⟨0, 65535, true⟩]

/-- Fills a slot, and makes empty ones up to it if there are too few. -/
def fill (slots : XrefSlots) (number : Nat) (row : XrefRow) : XrefSlots :=
  (slots ++ List.replicate (number + 1 - slots.length) none).set number (some row)

def rows : (first : Nat) → XrefSlots → List (Nat × XrefRow)
  | _, [] => []
  | first, none :: rest => rows (first + 1) rest
  | first, some row :: rest => (first, row) :: rows (first + 1) rest

theorem findIdx_isNone_pos {slots : XrefSlots} {skipped : Nat}
    (found : slots.findIdx? Option.isSome = some skipped) :
    skipped < slots.length ∧ 0 < (slots.drop skipped).findIdx Option.isNone := by
  obtain ⟨inside, filled, -⟩ := List.findIdx?_eq_some_iff_getElem.mp found
  refine ⟨inside, ?_⟩
  rw [List.drop_eq_getElem_cons inside, List.findIdx_cons]
  cases slot : slots[skipped] with
  | none => rw [slot] at filled; contradiction
  | some row => exact Nat.succ_pos _

/-- First number, count and rows of each run, from the slot with number `index` on. -/
def walk (index : Nat) (slots : XrefSlots) : List (Nat × Nat × List XrefRow) :=
  match _found : slots.findIdx? Option.isSome with
  | none => []
  | some skipped =>
      let rest := slots.drop skipped
      let count := rest.findIdx Option.isNone
      (index + skipped, count, (rest.take count).filterMap id) ::
        walk (index + skipped + count) (rest.drop count)
termination_by slots.length
decreasing_by
  have := findIdx_isNone_pos _found
  simp only [List.length_drop]
  omega

@[simp] theorem fill_nil_zero (row : XrefRow) : fill [] 0 row = [some row] := rfl

theorem fill_nil_succ (number : Nat) (row : XrefRow) :
    fill [] (number + 1) row = none :: fill [] number row := by
  simp [fill, List.replicate_succ]

theorem fill_cons_zero (slot : Option XrefRow) (rest : XrefSlots) (row : XrefRow) :
    fill (slot :: rest) 0 row = some row :: rest := by
  simp [fill]

theorem fill_cons_succ (slot : Option XrefRow) (rest : XrefSlots) (number : Nat) (row : XrefRow) :
    fill (slot :: rest) (number + 1) row = slot :: fill rest number row := by
  simp [fill]

theorem length_fill (slots : XrefSlots) (number : Nat) (row : XrefRow) :
    (fill slots number row).length = max slots.length (number + 1) := by
  simp [fill]
  omega

theorem le_of_mem_rows {first : Nat} {slots : XrefSlots} {pair : Nat × XrefRow}
    (listed : pair ∈ rows first slots) : first ≤ pair.1 ∧ pair.1 < first + slots.length := by
  induction slots generalizing first with
  | nil => contradiction
  | cons slot rest ih =>
      cases slot with
      | none =>
          have := ih listed
          rw [List.length_cons]
          omega
      | some row =>
          rw [List.length_cons]
          rcases List.mem_cons.mp listed with rfl | later
          · simp
          · have := ih later
            omega

theorem ascending_rows (first : Nat) (slots : XrefSlots) : Sorted.Ascending (rows first slots) := by
  induction slots generalizing first with
  | nil => exact List.Pairwise.nil
  | cons slot rest ih =>
      cases slot with
      | none => exact ih (first + 1)
      | some row =>
          refine List.pairwise_cons.mpr ⟨fun pair listed => ?_, ih (first + 1)⟩
          exact Nat.compare_eq_lt.mpr (le_of_mem_rows listed).1

theorem insert_of_forall_lt {number : Nat} (row : XrefRow) {pairs : List (Nat × XrefRow)}
    (less : ∀ pair ∈ pairs, number < pair.1) :
    Sorted.insert number row pairs = (number, row) :: pairs := by
  cases pairs with
  | nil => rfl
  | cons pair rest => rw [Sorted.insert, Nat.compare_eq_lt.mpr (less pair List.mem_cons_self)]

theorem rows_fill (first : Nat) (slots : XrefSlots) (number : Nat) (row : XrefRow) :
    rows first (fill slots number row) =
      Sorted.insert (first + number) row (rows first slots) := by
  induction slots generalizing first number with
  | nil =>
      induction number generalizing first with
      | zero => rfl
      | succ number ih =>
          have further := ih (first + 1)
          rw [Nat.add_assoc, Nat.add_comm 1] at further
          rw [fill_nil_succ]
          exact further
  | cons slot rest ih =>
      cases number with
      | zero =>
          rw [fill_cons_zero, rows]
          cases slot with
          | none =>
              rw [rows, insert_of_forall_lt row fun pair listed => (le_of_mem_rows listed).1]
              rfl
          | some held =>
              have same : compare (first + 0) first = .eq := Nat.compare_eq_eq.mpr rfl
              rw [rows, Sorted.insert, same]
              rfl
      | succ number =>
          have moved : first + 1 + number = first + (number + 1) := by omega
          rw [fill_cons_succ]
          cases slot with
          | none => rw [rows, rows, ih, moved]
          | some held =>
              have beyond : compare (first + (number + 1)) first = .gt :=
                Nat.compare_eq_gt.mpr (by omega)
              rw [rows, rows, Sorted.insert, beyond, ih, moved]

theorem rows_append (first : Nat) (slots others : XrefSlots) :
    rows first (slots ++ others) = rows first slots ++ rows (first + slots.length) others := by
  induction slots generalizing first with
  | nil => rfl
  | cons slot rest ih =>
      have moved : first + 1 + rest.length = first + (slot :: rest).length := by
        rw [List.length_cons]
        omega
      rw [← moved]
      cases slot with
      | none => exact ih (first + 1)
      | some row => exact congrArg ((first, row) :: ·) (ih (first + 1))

theorem rows_of_isNone (first : Nat) {slots : XrefSlots} (empty : ∀ slot ∈ slots, slot.isNone) :
    rows first slots = [] := by
  induction slots generalizing first with
  | nil => rfl
  | cons slot rest ih =>
      obtain ⟨none, others⟩ := List.forall_mem_cons.mp empty
      rw [Option.isNone_iff_eq_none.mp none]
      exact ih (first + 1) others

theorem rows_of_isSome (first : Nat) {slots : XrefSlots} (filled : ∀ slot ∈ slots, slot.isSome) :
    rows first slots = Xref.numberedFrom first (slots.filterMap id) ∧
      (slots.filterMap id).length = slots.length := by
  induction slots generalizing first with
  | nil => exact ⟨rfl, rfl⟩
  | cons slot rest ih =>
      obtain ⟨found, others⟩ := List.forall_mem_cons.mp filled
      obtain ⟨row, rfl⟩ := Option.isSome_iff_exists.mp found
      obtain ⟨same, length⟩ := ih (first + 1) others
      exact ⟨congrArg ((first, row) :: ·) same, congrArg (· + 1) length⟩

theorem forall_take_findIdx (wanted : Option XrefRow → Bool) (slots : XrefSlots) :
    ∀ slot ∈ slots.take (slots.findIdx wanted), !wanted slot := by
  have passed : slots.takeWhile (fun slot => !wanted slot) = slots.take (slots.findIdx wanted) := by
    simp only [List.takeWhile_eq_take_findIdx_not, Bool.not_not]
  intro slot listed
  rw [← passed] at listed
  exact List.all_eq_true.mp List.all_takeWhile slot listed

theorem ne_of_head?_rows (first : Nat) (slots : XrefSlots) :
    ∀ next ∈ (rows first (slots.drop (slots.findIdx Option.isNone))).head?, next.1 ≠ first := by
  intro next opens
  by_cases inside : slots.findIdx Option.isNone < slots.length
  · have empty := List.findIdx_getElem (w := inside)
    rw [List.drop_eq_getElem_cons inside, Option.isNone_iff_eq_none.mp empty] at opens
    have listed : next ∈ rows (first + 1) _ := List.mem_of_mem_head? opens
    exact (Nat.ne_of_lt (le_of_mem_rows listed).1).symm
  · rw [List.drop_of_length_le (Nat.not_lt.mp inside)] at opens
    contradiction

theorem rows_skip (index : Nat) {slots : XrefSlots} {skipped : Nat}
    (found : slots.findIdx? Option.isSome = some skipped) :
    rows index slots = rows (index + skipped) (slots.drop skipped) := by
  obtain ⟨inside, searched⟩ := List.findIdx?_eq_some_iff_findIdx_eq.mp found
  have empty : ∀ slot ∈ slots.take skipped, slot.isNone := by
    intro slot listed
    have := forall_take_findIdx Option.isSome slots slot (searched ▸ listed)
    simpa using this
  have length : (slots.take skipped).length = skipped := by
    rw [List.length_take]
    omega
  have split := rows_append index (slots.take skipped) (slots.drop skipped)
  rwa [List.take_append_drop, rows_of_isNone index empty, List.nil_append, length] at split

theorem rows_run (first : Nat) {slots : XrefSlots} {count : Nat}
    (searched : slots.findIdx Option.isNone = count) :
    ((slots.take count).filterMap id).length = count ∧
      rows first slots = Xref.numberedFrom first ((slots.take count).filterMap id) ++
        rows (first + count) (slots.drop count) := by
  have filled : ∀ slot ∈ slots.take count, slot.isSome := by
    intro slot listed
    have := forall_take_findIdx Option.isNone slots slot (searched ▸ listed)
    simpa using this
  have taken : (slots.take count).length = count := by
    have : count ≤ slots.length := searched ▸ List.findIdx_le_length
    rw [List.length_take]
    omega
  obtain ⟨numbered, length⟩ := rows_of_isSome first filled
  refine ⟨length.trans taken, ?_⟩
  have split := rows_append first (slots.take count) (slots.drop count)
  rwa [List.take_append_drop, numbered, taken] at split

theorem walk_eq (index : Nat) (slots : XrefSlots) :
    walk index slots =
      (Xref.runs (rows index slots)).map fun run => (run.1, run.2.length, run.2) := by
  fun_induction walk index slots with
  | case1 index slots absent =>
      have empty : ∀ slot ∈ slots, slot.isNone := by
        intro slot listed
        simpa using List.findIdx?_eq_none_iff.mp absent slot listed
      rw [rows_of_isNone index empty]
      rfl
  | case2 index slots skipped found rest count ih =>
      obtain ⟨-, positive⟩ := findIdx_isNone_pos found
      obtain ⟨length, split⟩ := rows_run (index + skipped) (rfl : rest.findIdx _ = count)
      have nonempty : (rest.take count).filterMap id ≠ [] := by
        intro nothing
        rw [nothing] at length
        exact absurd length (Nat.ne_of_lt positive)
      rw [rows_skip index found, split, Xref.runs_numberedFrom_append nonempty, List.map_cons, ih,
        length]
      rw [length]
      exact ne_of_head?_rows _ rest

end XrefSlots

end Folio
