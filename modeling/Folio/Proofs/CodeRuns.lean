import Folio.CMap.ToUnicode

/-!
The runs of a list of texts: every run stands for codes with just these texts, and every code that
has a text is in a run.
-/

namespace Folio

namespace ToUnicode

theorem links_iff {before after : List Char} :
    links before after ↔ ∃ first second, before = [first] ∧ after = [second] ∧
      first.toNat + 1 = second.toNat ∧ second.toNat < 0x10000 ∧ first.toNat % 256 ≠ 255 := by
  constructor
  · intro linked
    rw [links.eq_def] at linked
    split at linked
    · next first second =>
      simp only [Bool.and_eq_true, beq_iff_eq, decide_eq_true_eq, bne_iff_ne] at linked
      exact ⟨first, second, rfl, rfl, linked.1.1, linked.1.2, linked.2⟩
    · contradiction
  · rintro ⟨first, second, rfl, rfl, next, plane, byte⟩
    simp only [links, Bool.and_eq_true, beq_iff_eq, decide_eq_true_eq, bne_iff_ne]
    exact ⟨⟨next, plane⟩, byte⟩

/-- A run among the codes from `code` on: the later codes count the one character of the first. -/
structure Run.Fits (run : Run) (code : Nat) (texts : List (List Char)) : Prop where
  start : code ≤ run.code
  first : texts[run.code - code]? = some run.text
  nonempty : run.text ≠ []
  later : ∀ {offset : Nat}, 0 < offset → offset ≤ run.more → ∃ first char,
    run.text = [first] ∧ texts[run.code - code + offset]? = some [char] ∧
      char.toNat = first.toNat + offset ∧ char.toNat < 0x10000 ∧
        first.toNat % 256 + offset < 256

theorem Run.Fits.cons {run : Run} {code : Nat} {texts : List (List Char)}
    (fits : run.Fits (code + 1) texts) (text : List Char) : run.Fits code (text :: texts) := by
  have start := fits.start
  have shift : run.code - code = run.code - (code + 1) + 1 := by omega
  refine ⟨by omega, ?_, fits.nonempty, ?_⟩
  · rw [shift, List.getElem?_cons_succ]
    exact fits.first
  · intro offset positive bounded
    rw [shift, Nat.add_right_comm, List.getElem?_cons_succ]
    exact fits.later positive bounded

theorem Run.fits_single (code : Nat) {text : List Char} (nonempty : text ≠ [])
    (texts : List (List Char)) : Run.Fits ⟨code, text, 0⟩ code (text :: texts) := by
  refine ⟨Nat.le_refl _, ?_, nonempty, ?_⟩
  · rw [Nat.sub_self]
    rfl
  · intro offset positive bounded
    exact absurd positive (Nat.not_lt.mpr bounded)

theorem Run.Fits.link {next : Run} {code : Nat} {text : List Char} {texts : List (List Char)}
    (fits : next.Fits (code + 1) texts) (follows : next.code = code + 1)
    (linked : links text next.text) :
    Run.Fits ⟨code, text, next.more + 1⟩ code (text :: texts) := by
  obtain ⟨first, second, single, singleNext, counts, plane, byte⟩ := links_iff.mp linked
  have start : next.code - (code + 1) = 0 := by omega
  refine ⟨Nat.le_refl _, ?_, ?_, ?_⟩
  · rw [Nat.sub_self]
    rfl
  · rw [single]
    exact List.cons_ne_nil _ _
  · intro offset positive bounded
    obtain ⟨before, rfl⟩ : ∃ before, offset = before + 1 := ⟨offset - 1, by omega⟩
    have shift : (text :: texts)[code - code + (before + 1)]? = texts[before]? := by
      rw [Nat.sub_self, Nat.zero_add, List.getElem?_cons_succ]
    rw [shift]
    rcases Nat.eq_zero_or_pos before with rfl | inside
    · have found := fits.first
      rw [start, singleNext] at found
      exact ⟨first, second, single, found, counts.symm, plane, by omega⟩
    · obtain ⟨other, char, singleOther, found, countsOther, planeOther, byteOther⟩ :=
        fits.later inside (Nat.le_of_succ_le_succ bounded)
      rw [start, Nat.zero_add] at found
      rw [singleNext] at singleOther
      cases singleOther
      exact ⟨first, char, single, found, by omega, planeOther, by omega⟩

theorem fits_of_mem_runs {code : Nat} {texts : List (List Char)} {run : Run}
    (listed : run ∈ runs code texts) : run.Fits code texts := by
  fun_induction runs code texts generalizing run with
  | case1 code => contradiction
  | case2 code rest ih => exact (ih listed).cons []
  | case3 code text rest nonempty none ih =>
      rw [List.mem_singleton.mp listed]
      exact Run.fits_single code nonempty rest
  | case4 code text rest nonempty next others found linked ih =>
      rw [Bool.and_eq_true, decide_eq_true_eq] at linked
      rw [found] at ih
      rcases List.mem_cons.mp listed with same | other
      · rw [same]
        exact (ih List.mem_cons_self).link linked.1 linked.2
      · exact (ih (List.mem_cons_of_mem _ other)).cons text
  | case5 code text rest nonempty next others found unlinked ih =>
      rw [found] at ih
      rcases List.mem_cons.mp listed with same | other
      · rw [same]
        exact Run.fits_single code nonempty rest
      · exact (ih other).cons text

theorem exists_run_of_text {code : Nat} {texts : List (List Char)} {index : Nat}
    {text : List Char} (found : texts[index]? = some text) (nonempty : text ≠ []) :
    ∃ run ∈ runs code texts, run.code ≤ code + index ∧ code + index ≤ run.code + run.more := by
  fun_induction runs code texts generalizing index with
  | case1 code => contradiction
  | case2 code rest ih =>
      cases index with
      | zero =>
          cases found
          contradiction
      | succ index =>
          obtain ⟨run, listed, start, last⟩ := ih found
          exact ⟨run, listed, by omega, by omega⟩
  | case3 code first rest present none ih =>
      cases index with
      | zero => exact ⟨_, List.mem_singleton_self _, Nat.le_refl _, Nat.le_refl _⟩
      | succ index =>
          obtain ⟨run, listed, -⟩ := ih found
          rw [none] at listed
          contradiction
  | case4 code first rest present next others known linked ih =>
      rw [Bool.and_eq_true, decide_eq_true_eq] at linked
      cases index with
      | zero => exact ⟨_, List.mem_cons_self, Nat.le_refl _, Nat.le_add_right _ _⟩
      | succ index =>
          obtain ⟨run, listed, start, last⟩ := ih found
          rw [known] at listed
          rcases List.mem_cons.mp listed with rfl | other
          · refine ⟨_, List.mem_cons_self, Nat.le_add_right _ _, ?_⟩
            show code + (index + 1) ≤ code + (run.more + 1)
            omega
          · exact ⟨run, List.mem_cons_of_mem _ other, by omega, by omega⟩
  | case5 code first rest present next others known unlinked ih =>
      cases index with
      | zero => exact ⟨_, List.mem_cons_self, Nat.le_refl _, Nat.le_refl _⟩
      | succ index =>
          obtain ⟨run, listed, start, last⟩ := ih found
          rw [known] at listed
          exact ⟨run, List.mem_cons_of_mem _ listed, by omega, by omega⟩

theorem Run.Fits.bound {run : Run} {code : Nat} {texts : List (List Char)}
    (fits : run.Fits code texts) : run.code + run.more < code + texts.length := by
  have start := fits.start
  rcases Nat.eq_zero_or_pos run.more with last | more
  · obtain ⟨inside, -⟩ := List.getElem?_eq_some_iff.mp fits.first
    omega
  · obtain ⟨first, char, -, found, -⟩ := fits.later more (Nat.le_refl _)
    obtain ⟨inside, -⟩ := List.getElem?_eq_some_iff.mp found
    omega

theorem pairwise_runs (code : Nat) (texts : List (List Char)) :
    (runs code texts).Pairwise fun run other => run.code + run.more < other.code := by
  fun_induction runs code texts with
  | case1 code => exact List.Pairwise.nil
  | case2 code rest ih => exact ih
  | case3 code text rest nonempty none ih => exact List.pairwise_singleton _ _
  | case4 code text rest nonempty next others found linked ih =>
      rw [Bool.and_eq_true, decide_eq_true_eq] at linked
      rw [found] at ih
      obtain ⟨beyond, further⟩ := List.pairwise_cons.mp ih
      refine List.pairwise_cons.mpr ⟨fun other listed => ?_, further⟩
      have := beyond other listed
      simp only
      omega
  | case5 code text rest nonempty next others found unlinked ih =>
      rw [← found]
      exact List.pairwise_cons.mpr ⟨fun other listed => (fits_of_mem_runs listed).start, ih⟩

theorem exists_runs_cons (code : Nat) {text : List Char} (nonempty : text ≠ [])
    (rest : List (List Char)) :
    ∃ more others, runs code (text :: rest) = ⟨code, text, more⟩ :: others := by
  cases text with
  | nil => contradiction
  | cons char chars =>
      rw [runs]
      · split
        · exact ⟨_, _, rfl⟩
        · split
          · exact ⟨_, _, rfl⟩
          · exact ⟨_, _, rfl⟩
      · exact nofun

/-- A run is as long as it can be: codes that can be linked are. -/
theorem exists_run_of_links {code : Nat} {texts : List (List Char)} {index : Nat}
    {before after : List Char} (found : texts[index]? = some before)
    (next : texts[index + 1]? = some after) (linked : links before after) :
    ∃ run ∈ runs code texts, run.code ≤ code + index ∧ code + index < run.code + run.more := by
  obtain ⟨_, second, rfl, rfl, -⟩ := links_iff.mp linked
  fun_induction runs code texts generalizing index with
  | case1 code => contradiction
  | case2 code rest ih =>
      cases index with
      | zero => simp at found
      | succ index =>
          obtain ⟨run, listed, start, last⟩ := ih found next
          exact ⟨run, listed, by omega, by omega⟩
  | case3 code first rest present none ih =>
      obtain ⟨run, listed, -⟩ :=
        @exists_run_of_text (code + 1) rest _ _ next (List.cons_ne_nil _ _)
      rw [none] at listed
      contradiction
  | case4 code first rest present follower others known joined ih =>
      rw [Bool.and_eq_true, decide_eq_true_eq] at joined
      cases index with
      | zero => exact ⟨_, List.mem_cons_self, Nat.le_refl _, by simp only; omega⟩
      | succ index =>
          obtain ⟨run, listed, start, last⟩ := ih found next
          rw [known] at listed
          rcases List.mem_cons.mp listed with rfl | other
          · exact ⟨_, List.mem_cons_self, Nat.le_add_right _ _, by simp only; omega⟩
          · exact ⟨run, List.mem_cons_of_mem _ other, by omega, by omega⟩
  | case5 code first rest present follower others known apart ih =>
      cases index with
      | zero =>
          obtain ⟨tail, rfl⟩ : ∃ tail, rest = [second] :: tail := by
            cases rest with
            | nil => contradiction
            | cons head tail => exact ⟨tail, congrArg (· :: tail) (Option.some.inj next)⟩
          obtain ⟨more, behind, opened⟩ :=
            exists_runs_cons (code + 1) (List.cons_ne_nil second []) tail
          rw [known] at opened
          cases found
          rw [(List.cons.inj opened).1, linked, decide_eq_true rfl] at apart
          exact absurd rfl apart
      | succ index =>
          obtain ⟨run, listed, start, last⟩ := ih found next
          rw [known] at listed
          exact ⟨run, List.mem_cons_of_mem _ listed, by omega, by omega⟩

theorem flatten_pieces {α : Type} {size count : Nat} (positive : 0 < size) {items : List α}
    (enough : items.length ≤ count) : (pieces size count items).flatten = items := by
  fun_induction pieces size count items with
  | case1 items => exact (List.eq_nil_of_length_eq_zero (Nat.le_zero.mp enough)).symm
  | case2 count => rfl
  | case3 count items nonempty ih =>
      have fewer : (items.drop size).length ≤ count := by
        rw [List.length_drop]
        omega
      rw [List.flatten_cons, ih fewer, List.take_append_drop]

theorem ne_nil_of_mem_pieces {α : Type} {size count : Nat} (positive : 0 < size)
    {items piece : List α} (listed : piece ∈ pieces size count items) : piece ≠ [] := by
  fun_induction pieces size count items with
  | case1 items => contradiction
  | case2 count => contradiction
  | case3 count items nonempty ih =>
      rcases List.mem_cons.mp listed with rfl | other
      · rw [Ne, List.take_eq_nil_iff]
        exact fun none => none.elim (Nat.ne_of_gt positive) nonempty
      · exact ih other

theorem length_of_mem_pieces {α : Type} {size count : Nat} {items piece : List α}
    (listed : piece ∈ pieces size count items) : piece.length ≤ size := by
  fun_induction pieces size count items with
  | case1 items => contradiction
  | case2 count => contradiction
  | case3 count items nonempty ih =>
      rcases List.mem_cons.mp listed with rfl | other
      · exact List.length_take_le _ _
      · exact ih other

end ToUnicode

end Folio
