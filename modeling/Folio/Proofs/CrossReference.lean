import Folio.Proofs.Digits
import Folio.Xref

/-!
The cross-reference table of objects that were written one after the other: a single run of lines,
each of twenty bytes.
-/

namespace Folio

namespace Sorted

variable {κ α : Type} [Ord κ]

theorem insert_of_forall_gt {key : κ} (value : α) {pairs : List (κ × α)}
    (hgt : ∀ pair ∈ pairs, compare key pair.1 = .gt) :
    insert key value pairs = pairs ++ [(key, value)] := by
  induction pairs with
  | nil => rfl
  | cons pair rest ih =>
      rw [insert, hgt pair (List.mem_cons_self ..)]
      simp only [List.cons_append]
      rw [ih fun other hother => hgt other (List.mem_cons_of_mem _ hother)]

end Sorted

namespace Xref

def Consecutive (first : Nat) (rows : List (Nat × XrefRow)) : Prop :=
  rows.map Prod.fst = List.range' first rows.length

theorem Consecutive.append {first : Nat} {rows others : List (Nat × XrefRow)}
    (hrows : Consecutive first rows) (hothers : Consecutive (first + rows.length) others) :
    Consecutive first (rows ++ others) := by
  unfold Consecutive at hrows hothers ⊢
  rw [List.map_append, List.length_append, hrows, hothers, List.range'_append_1]

theorem record_of_consecutive {xref : Xref} {target : Ref} (offset : Nat)
    (hrows : Consecutive 0 xref.rows) (htarget : target.number = xref.rows.length) :
    xref.record target offset =
      ⟨xref.rows ++ [(target.number, ⟨offset, target.generation, false⟩)]⟩ := by
  unfold record
  rw [Sorted.insert_of_forall_gt]
  intro pair hpair
  have hmem : pair.1 ∈ List.range' 0 xref.rows.length :=
    hrows ▸ List.mem_map_of_mem (f := Prod.fst) hpair
  rw [List.mem_range'_1] at hmem
  exact Nat.compare_eq_gt.mpr (by omega)

theorem size_of_consecutive {xref : Xref} (hrows : Consecutive 0 xref.rows) :
    xref.size = xref.rows.length := by
  unfold size
  have hlast : (xref.rows.map Prod.fst).getLast? =
      (List.range' 0 xref.rows.length).getLast? :=
    congrArg List.getLast? hrows
  rw [List.getLast?_map, List.getLast?_range'] at hlast
  cases hfound : xref.rows.getLast? with
  | none =>
      rw [List.getLast?_eq_none_iff.mp hfound]
      rfl
  | some row =>
      rw [hfound, Option.map_some] at hlast
      split at hlast
      · contradiction
      · have := Option.some.inj hlast
        simp only
        omega

theorem runs_of_consecutive {first : Nat} {row : Nat × XrefRow} {rows : List (Nat × XrefRow)}
    (hrows : Consecutive first (row :: rows)) :
    runs (row :: rows) = [(first, (row :: rows).map Prod.snd)] := by
  induction rows generalizing first row with
  | nil =>
      have hfirst : row.1 = first := by simpa [Consecutive] using hrows
      simp [runs, hfirst]
  | cons next rest ih =>
      have hsplit : row.1 = first ∧ Consecutive (first + 1) (next :: rest) := by
        simpa [Consecutive, List.range'_succ] using hrows
      obtain ⟨hfirst, hrest⟩ := hsplit
      rw [runs, ih hrest]
      simp [hfirst]

theorem text_of_consecutive {xref : Xref} (hrows : Consecutive 0 xref.rows)
    (hne : xref.rows ≠ []) :
    xref.text = utf8 "xref\n" ++
      (decimal 0 ++ 32 :: decimal xref.rows.length ++ 10 ::
        (xref.rows.map fun row => row.2.line).flatten) := by
  cases hsplit : xref.rows with
  | nil => exact absurd hsplit hne
  | cons row rows =>
      rw [hsplit] at hrows
      rw [text, hsplit, runs_of_consecutive hrows]
      simp [runText, List.flatMap, Function.comp_def]

end Xref

theorem XrefRow.length_line {row : XrefRow} (hoffset : row.offset < 10000000000) :
    row.line.length = 20 := by
  have hnumber : (paddedDecimal 10 row.offset).length = 10 :=
    length_paddedDecimal (by omega) hoffset
  have hgeneration : (paddedDecimal 5 row.generation.toNat).length = 5 :=
    length_paddedDecimal (by omega) (Nat.lt_of_lt_of_le row.generation.toNat_lt (by decide))
  simp [line, hnumber, hgeneration]

end Folio
