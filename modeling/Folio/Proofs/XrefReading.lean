import Folio.Proofs.CrossReference
import Folio.Proofs.Sorted

/-!
The cross-reference section for rows in any order and with any gaps, and a reader of such sections.
-/

namespace Folio

namespace Xref

def numberedFrom : (first : Nat) → List XrefRow → List (Nat × XrefRow)
  | _, [] => []
  | first, row :: rest => (first, row) :: numberedFrom (first + 1) rest

def entries (listed : List (Nat × List XrefRow)) : List (Nat × XrefRow) :=
  listed.flatMap fun run => numberedFrom run.1 run.2

theorem map_snd_numberedFrom (first : Nat) (rows : List XrefRow) :
    (numberedFrom first rows).map Prod.snd = rows := by
  induction rows generalizing first with
  | nil => rfl
  | cons row rest ih => rw [numberedFrom, List.map_cons, ih]

/-- A row in front joins the first run or makes up a run of its own. -/
theorem runs_cons (number : Nat) (row : XrefRow) (rest : List (Nat × XrefRow)) :
    (∃ rows others, runs rest = (number + 1, rows) :: others ∧
      runs ((number, row) :: rest) = (number, row :: rows) :: others) ∨
    ((∀ next ∈ (runs rest).head?, next.1 ≠ number + 1) ∧
      runs ((number, row) :: rest) = (number, [row]) :: runs rest) := by
  rw [runs]
  cases split : runs rest with
  | nil => exact .inr ⟨by simp, rfl⟩
  | cons run others =>
      obtain ⟨next, rows⟩ := run
      by_cases follows : next = number + 1
      · exact .inl ⟨rows, others, by rw [follows], if_pos follows⟩
      · refine .inr ⟨?_, if_neg follows⟩
        rintro _ ⟨⟩
        exact follows

@[simp] theorem entries_runs (rows : List (Nat × XrefRow)) : entries (runs rows) = rows := by
  induction rows with
  | nil => rfl
  | cons head rest ih =>
      obtain ⟨number, row⟩ := head
      obtain ⟨rows, others, before, after⟩ | ⟨-, after⟩ := runs_cons number row rest
      · rw [before] at ih
        rw [after, ← ih]
        rfl
      · rw [after]
        exact congrArg _ ih

theorem ne_nil_of_mem_runs {rows : List (Nat × XrefRow)} {run : Nat × List XrefRow}
    (listed : run ∈ runs rows) : run.2 ≠ [] := by
  induction rows with
  | nil => contradiction
  | cons head rest ih =>
      obtain ⟨number, row⟩ := head
      obtain ⟨rows, others, before, after⟩ | ⟨-, after⟩ := runs_cons number row rest
      · rw [after, List.mem_cons] at listed
        rcases listed with rfl | later
        · exact List.cons_ne_nil _ _
        · exact ih (before ▸ List.mem_cons_of_mem _ later)
      · rw [after, List.mem_cons] at listed
        rcases listed with rfl | later
        · exact List.cons_ne_nil _ _
        · exact ih later

theorem map_fst_head?_runs (rows : List (Nat × XrefRow)) :
    (runs rows).head?.map Prod.fst = rows.head?.map Prod.fst := by
  cases rows with
  | nil => rfl
  | cons head rest =>
      obtain ⟨number, row⟩ := head
      obtain ⟨rows, others, -, after⟩ | ⟨-, after⟩ := runs_cons number row rest
      · rw [after]
        rfl
      · rw [after]
        rfl

theorem fst_mem_of_mem_runs {rows : List (Nat × XrefRow)} {run : Nat × List XrefRow}
    (listed : run ∈ runs rows) : ∃ row, (run.1, row) ∈ rows := by
  obtain ⟨first, inside⟩ := run
  cases inside with
  | nil => exact absurd rfl (ne_nil_of_mem_runs listed)
  | cons row rest =>
      refine ⟨row, ?_⟩
      rw [← entries_runs rows]
      exact List.mem_flatMap.mpr ⟨_, listed, List.mem_cons_self⟩

theorem exists_mem_of_mem_runs {rows : List (Nat × XrefRow)} {run : Nat × List XrefRow}
    (listed : run ∈ runs rows) {row : XrefRow} (inside : row ∈ run.2) :
    ∃ number, (number, row) ∈ rows := by
  rw [← map_snd_numberedFrom run.1 run.2] at inside
  obtain ⟨⟨number, row⟩, numbered, rfl⟩ := List.mem_map.mp inside
  refine ⟨number, ?_⟩
  rw [← entries_runs rows]
  exact List.mem_flatMap.mpr ⟨run, listed, numbered⟩

theorem pairwise_runs {rows : List (Nat × XrefRow)} (ascending : Sorted.Ascending rows) :
    (runs rows).Pairwise fun run other => run.1 + run.2.length < other.1 := by
  induction rows with
  | nil => exact List.Pairwise.nil
  | cons head rest ih =>
      obtain ⟨number, row⟩ := head
      obtain ⟨first, further⟩ := List.pairwise_cons.mp ascending
      obtain ⟨rows, others, before, after⟩ | ⟨gap, after⟩ := runs_cons number row rest
      · have separated := ih further
        rw [before] at separated
        obtain ⟨beyond, separated⟩ := List.pairwise_cons.mp separated
        rw [after]
        refine List.pairwise_cons.mpr ⟨fun other listed => ?_, separated⟩
        have := beyond other listed
        simp only [List.length_cons] at this ⊢
        omega
      · rw [after]
        refine List.pairwise_cons.mpr ⟨fun other listed => ?_, ih further⟩
        have beyond {run : Nat × List XrefRow} (listed : run ∈ runs rest) : number < run.1 := by
          obtain ⟨row, listed⟩ := fst_mem_of_mem_runs listed
          exact Nat.compare_eq_lt.mp (first _ listed)
        change number + 1 < other.1
        have separated := ih further
        cases split : runs rest with
        | nil => rw [split] at listed; contradiction
        | cons run others =>
            have least := beyond (split ▸ List.mem_cons_self)
            have apart := gap run (by rw [split]; rfl)
            rw [split] at separated listed
            rcases List.mem_cons.mp listed with rfl | later
            · omega
            · have := (List.pairwise_cons.mp separated).1 other later
              omega

theorem runs_numberedFrom_append {first : Nat} {rows : List XrefRow}
    {others : List (Nat × XrefRow)} (nonempty : rows ≠ [])
    (gap : ∀ next ∈ others.head?, next.1 ≠ first + rows.length) :
    runs (numberedFrom first rows ++ others) = (first, rows) :: runs others := by
  induction rows generalizing first with
  | nil => contradiction
  | cons row rest ih =>
      rw [numberedFrom, List.cons_append]
      cases rest with
      | nil =>
          obtain ⟨rows, _, before, -⟩ | ⟨-, after⟩ := runs_cons first row others
          · have opens := map_fst_head?_runs others
            rw [before] at opens
            obtain ⟨next, found, same⟩ := Option.map_eq_some_iff.mp opens.symm
            exact absurd same (gap next found)
          · exact after
      | cons next rest =>
          have gap : ∀ other ∈ others.head?, other.1 ≠ first + 1 + (next :: rest).length := by
            intro other opens
            rw [Nat.add_assoc, Nat.add_comm 1]
            exact gap other opens
          rw [runs, ih (List.cons_ne_nil _ _) gap]
          exact if_pos rfl

end Xref

def numberUpTo? (stop : UInt8) (bytes : Bytes) : Option (Nat × Bytes) :=
  match bytes.takeWhile isDigit, bytes.dropWhile isDigit with
  | digit :: digits, byte :: rest =>
      if byte = stop then some (numberOf (digit :: digits), rest) else none
  | _, _ => none

def fixedNumber? (width : Nat) (digits : Bytes) : Option Nat :=
  if digits.length = width ∧ digits.all isDigit then some (numberOf digits) else none

theorem numberUpTo?_digits {stop : UInt8} (ends : ¬isDigit stop) {digits : Bytes}
    (some : digits ≠ []) (all : ∀ byte ∈ digits, isDigit byte) (rest : Bytes) :
    numberUpTo? stop (digits ++ stop :: rest) = .some (numberOf digits, rest) := by
  rw [numberUpTo?, List.takeWhile_append_of_pos all, List.dropWhile_append_of_pos all,
    List.takeWhile_cons_of_neg ends, List.dropWhile_cons_of_neg ends, List.append_nil]
  cases digits with
  | nil => contradiction
  | cons digit others => exact if_pos rfl

theorem numberUpTo?_decimal (stop : UInt8) (number : Nat) (rest : Bytes)
    (ends : ¬isDigit stop) :
    numberUpTo? stop (decimal number ++ stop :: rest) = some (number, rest) := by
  rw [numberUpTo?_digits ends (decimal_ne_nil number) (fun _ => isDigit_of_mem_decimal),
    numberOf_decimal]

theorem fixedNumber?_paddedDecimal {width number : Nat} (positive : 0 < width)
    (small : number < Nat.pow 10 width) :
    fixedNumber? width (paddedDecimal width number) = some number := by
  have digits : (paddedDecimal width number).all isDigit :=
    List.all_eq_true.mpr fun _ => isDigit_of_mem_paddedDecimal
  rw [fixedNumber?, if_pos ⟨length_paddedDecimal positive small, digits⟩, numberOf_paddedDecimal]

namespace XrefRow

def ofLine? (line : Bytes) : Option XrefRow := do
  let offset ← fixedNumber? 10 (line.take 10)
  let generation ← fixedNumber? 5 ((line.drop 11).take 5)
  if 65536 ≤ generation then none
  match line.drop 10, line.drop 16 with
  | 32 :: _, [32, 0x66, 32, 10] => return ⟨offset, UInt16.ofNat generation, true⟩
  | 32 :: _, [32, 0x6E, 32, 10] => return ⟨offset, UInt16.ofNat generation, false⟩
  | _, _ => none

theorem ofLine?_line {row : XrefRow} (small : row.offset < 10000000000) :
    ofLine? row.line = some row := by
  have few : row.generation.toNat < Nat.pow 10 5 :=
    Nat.lt_of_lt_of_le row.generation.toNat_lt (by decide)
  have wide : (paddedDecimal 10 row.offset).length = 10 := length_paddedDecimal (by omega) small
  have narrow := length_paddedDecimal (by omega) few
  have split : row.line = paddedDecimal 10 row.offset ++
      (32 :: (paddedDecimal 5 row.generation.toNat ++
        [32, if row.free then 0x66 else 0x6E, 32, 10])) := by
    simp [line]
  have behind : (row.line.drop 11).take 5 = paddedDecimal 5 row.generation.toNat := by
    rw [split, ← List.drop_drop (i := 1) (j := 10), List.drop_left' wide]
    exact List.take_left' narrow
  have ending : row.line.drop 16 = [32, if row.free then 0x66 else 0x6E, 32, 10] := by
    rw [split, ← List.drop_drop (i := 6) (j := 10), List.drop_left' wide]
    exact List.drop_left' narrow
  rw [ofLine?, behind, ending, split, List.take_left' wide, List.drop_left' wide,
    fixedNumber?_paddedDecimal (by omega) small, fixedNumber?_paddedDecimal (by omega) few]
  obtain ⟨offset, generation, free⟩ := row
  have same : UInt16.ofNat generation.toNat = generation := UInt16.ofNat_toNat
  have below := Nat.not_le.mpr generation.toNat_lt
  cases free <;> simp [same, below]

end XrefRow

namespace Xref

def lines? : (count : Nat) → Bytes → Option (List XrefRow × Bytes)
  | 0, bytes => some ([], bytes)
  | count + 1, bytes => do
      let row ← XrefRow.ofLine? (bytes.take 20)
      let (rows, rest) ← lines? count (bytes.drop 20)
      return (row :: rows, rest)

/-- A header with the first number and the number of lines, and the lines. -/
def subsection? (bytes : Bytes) : Option ((Nat × List XrefRow) × Bytes) := do
  let (first, rest) ← numberUpTo? 32 bytes
  let (count, rest) ← numberUpTo? 10 rest
  let (rows, rest) ← lines? count rest
  return ((first, rows), rest)

/-- Subsections for as long as a digit opens one, at most so many. -/
def subsections? : (most : Nat) → Bytes → Option (List (Nat × List XrefRow) × Bytes)
  | 0, _ => none
  | most + 1, bytes =>
      if bytes.head?.any isDigit then do
        let (found, rest) ← subsection? bytes
        let (others, rest) ← subsections? most rest
        return (found :: others, rest)
      else some ([], bytes)

def read? (bytes : Bytes) : Option (List (Nat × List XrefRow) × Bytes) :=
  if utf8 "xref\n" <+: bytes then subsections? bytes.length (bytes.drop 5) else none

theorem lines?_lines {rows : List XrefRow} (small : ∀ row ∈ rows, row.offset < 10000000000)
    (rest : Bytes) :
    lines? rows.length (rows.flatMap XrefRow.line ++ rest) = some (rows, rest) := by
  induction rows with
  | nil => rfl
  | cons row others ih =>
      obtain ⟨first, later⟩ := List.forall_mem_cons.mp small
      have length : row.line.length = 20 := XrefRow.length_line first
      rw [List.length_cons, lines?, List.flatMap_cons, List.append_assoc, List.take_left' length,
        List.drop_left' length, XrefRow.ofLine?_line first, ih later]
      rfl

theorem subsection?_runText {run : Nat × List XrefRow}
    (small : ∀ row ∈ run.2, row.offset < 10000000000) (rest : Bytes) :
    subsection? (runText run ++ rest) = some (run, rest) := by
  simp only [runText, List.append_assoc, List.cons_append]
  rw [subsection?, numberUpTo?_decimal 32 run.1 _ (by decide)]
  simp only [Option.bind_eq_bind, Option.bind_some]
  rw [numberUpTo?_decimal 10 run.2.length _ (by decide)]
  simp only [Option.bind_some]
  rw [lines?_lines small]
  rfl

theorem head?_runText (run : Nat × List XrefRow) (rest : Bytes) :
    (runText run ++ rest).head?.any isDigit := by
  cases shown : decimal run.1 with
  | nil => exact absurd shown (decimal_ne_nil run.1)
  | cons digit others =>
      have first : digit ∈ decimal run.1 := shown ▸ List.mem_cons_self
      rw [runText, shown]
      exact isDigit_of_mem_decimal first

theorem subsections?_runText {listed : List (Nat × List XrefRow)} {most : Nat}
    (small : ∀ run ∈ listed, ∀ row ∈ run.2, row.offset < 10000000000)
    (enough : listed.length < most) {rest : Bytes} (ends : ¬rest.head?.any isDigit) :
    subsections? most (listed.flatMap runText ++ rest) = some (listed, rest) := by
  induction listed generalizing most with
  | nil =>
      cases most with
      | zero => contradiction
      | succ most => exact if_neg ends
  | cons run others ih =>
      cases most with
      | zero => contradiction
      | succ most =>
          obtain ⟨first, later⟩ := List.forall_mem_cons.mp small
          rw [List.flatMap_cons, List.append_assoc, subsections?, if_pos (head?_runText run _),
            subsection?_runText first]
          simp only [Option.bind_eq_bind, Option.bind_some]
          rw [ih later (Nat.lt_of_succ_lt_succ enough)]
          rfl

theorem length_le_length_flatMap_runText (listed : List (Nat × List XrefRow)) :
    listed.length ≤ (listed.flatMap runText).length := by
  induction listed with
  | nil => exact Nat.le_refl _
  | cons run others ih =>
      have nonempty : 0 < (runText run).length := by
        rw [runText, List.append_assoc, List.length_append, List.cons_append, List.length_cons]
        omega
      rw [List.flatMap_cons, List.length_append, List.length_cons]
      omega

/-- A section is read back, whatever follows it, unless that looks like another subsection. -/
theorem read?_text {xref : Xref} (small : ∀ row ∈ xref.rows, row.2.offset < 10000000000)
    {rest : Bytes} (ends : ¬rest.head?.any isDigit) :
    read? (xref.text ++ rest) = some (runs xref.rows, rest) := by
  have few : (runs xref.rows).length < (xref.text ++ rest).length := by
    have := length_le_length_flatMap_runText (runs xref.rows)
    have five : (utf8 "xref\n").length = 5 := by decide
    rw [text, List.length_append, List.length_append, five]
    omega
  have smallRuns : ∀ run ∈ runs xref.rows, ∀ row ∈ run.2, row.offset < 10000000000 := by
    intro run listed row inside
    obtain ⟨number, found⟩ := exists_mem_of_mem_runs listed inside
    exact small _ found
  rw [read?, if_pos ⟨_, (by rw [text, List.append_assoc])⟩]
  exact subsections?_runText smallRuns few ends

end Xref

end Folio
