import Folio.Proofs.Reading.Spelling

/-!
Readers of a single string or name in front of other bytes. What is written tells by itself where
it ends: a string whatever follows, and a name where no regular byte follows.
-/

namespace Folio

namespace Reading

namespace Lexer

def string? : Lexer → Option Bytes
  | ⟨[.str read], .blank⟩ => some read
  | _ => none

/-- Reads a string up to the parenthesis that closes it, and gives back what follows. -/
def readString? (lexer : Lexer) : Bytes → Option (Bytes × Bytes)
  | [] => none
  | byte :: rest =>
      (lexer.step byte).bind fun next =>
        match next.string? with
        | some read => some (read, rest)
        | none => next.readString? rest

def openName? : Lexer → Option Bytes
  | ⟨[], .name read⟩ => some read
  | _ => none

def readName? (lexer : Lexer) : Bytes → Option (Bytes × Bytes)
  | [] => lexer.openName?.map fun read => (read, [])
  | byte :: rest =>
      if isRegular byte then (lexer.step byte).bind fun next => next.readName? rest
      else lexer.openName?.map fun read => (read, byte :: rest)

end Lexer

def string? : Bytes → Option (Bytes × Bytes)
  | [] => none
  | byte :: rest => if byte = 0x28 then Lexer.readString? ⟨[], .str 0 []⟩ rest else none

def name? : Bytes → Option (Bytes × Bytes)
  | [] => none
  | byte :: rest => if byte = 0x2F then Lexer.readName? ⟨[], .name []⟩ rest else none

/-- Bytes that go on with no name: none at all, or first one that sets tokens apart. -/
def StandsApart (rest : Bytes) : Prop :=
  ∀ byte ∈ rest.head?, isWhite byte ∨ isDelimiter byte

theorem isRegular_eq_false_iff {byte : UInt8} :
    isRegular byte = false ↔ isWhite byte ∨ isDelimiter byte := by
  simp only [isRegular, Bool.and_eq_false_iff, Bool.not_eq_false']

namespace Lexer

variable {lexer last : Lexer} {bytes : Bytes}

theorem readString?_of_run (ran : lexer.run bytes = some last) (fresh : last.tokens = [])
    (rest : Bytes) : lexer.readString? (bytes ++ rest) = last.readString? rest := by
  induction bytes generalizing lexer with
  | nil =>
      cases ran
      rfl
  | cons byte bytes ih =>
      obtain ⟨next, stepped, further⟩ := Option.bind_eq_some_iff.mp ran
      have fewer : next.tokens = [] := by
        have before := tokens_prefix_of_run further
        rw [fresh] at before
        exact List.prefix_nil.mp before
      have unread : next.string? = none := by
        obtain ⟨tokens, mode⟩ := next
        cases fewer
        rfl
      rw [List.cons_append, readString?, stepped, Option.bind_some, unread]
      exact ih further

end Lexer

theorem string?_literalString (bytes rest : Bytes) :
    string? (literalString bytes ++ rest) = some (bytes, rest) := by
  rw [literalString, List.cons_append, List.cons_append, string?, if_pos rfl, List.append_assoc,
    Lexer.readString?_of_run (run_stringBytes [] 0 [] bytes) rfl]
  rfl

-- Pairs of parentheses, short octal escapes and broken lines are read too, but never written.
example : string? (utf8 "(a(b)\\53\\7\\\n!)9") = some (utf8 "a(b)+\x07!", utf8 "9") := by
  decide

namespace Lexer

variable {lexer last : Lexer} {bytes : Bytes}

theorem readName?_of_run (regular : ∀ byte ∈ bytes, isRegular byte)
    (ran : lexer.run bytes = some last) (rest : Bytes) :
    lexer.readName? (bytes ++ rest) = last.readName? rest := by
  induction bytes generalizing lexer with
  | nil =>
      cases ran
      rfl
  | cons byte bytes ih =>
      obtain ⟨first, others⟩ := List.forall_mem_cons.mp regular
      obtain ⟨next, stepped, further⟩ := Option.bind_eq_some_iff.mp ran
      rw [List.cons_append, readName?, if_pos first, stepped, Option.bind_some]
      exact ih others further

theorem length_of_readName? {read rest : Bytes}
    (reads : lexer.readName? bytes = some (read, rest)) : rest.length ≤ bytes.length := by
  induction bytes generalizing lexer with
  | nil =>
      obtain ⟨name, -, same⟩ := Option.map_eq_some_iff.mp reads
      cases same
      exact Nat.le_refl _
  | cons byte bytes ih =>
      rw [readName?] at reads
      by_cases regular : isRegular byte
      · rw [if_pos regular] at reads
        obtain ⟨next, -, further⟩ := Option.bind_eq_some_iff.mp reads
        exact Nat.le_succ_of_le (ih further)
      · rw [if_neg regular] at reads
        obtain ⟨name, -, same⟩ := Option.map_eq_some_iff.mp reads
        cases same
        exact Nat.le_refl _

theorem readName?_eq_iff (bytes rest : Bytes) :
    readName? ⟨[], .name bytes⟩ rest = some (bytes, rest) ↔ StandsApart rest := by
  cases rest with
  | nil => exact iff_of_true rfl fun byte first => by contradiction
  | cons byte rest =>
      have apart : StandsApart (byte :: rest) ↔ isRegular byte = false := by
        rw [isRegular_eq_false_iff]
        exact ⟨fun apart => apart byte rfl, fun apart other first => by
          cases first
          exact apart⟩
      rw [apart, readName?]
      cases regular : isRegular byte with
      | false => exact iff_of_true rfl rfl
      | true =>
          refine iff_of_false (fun reads => ?_) Bool.noConfusion
          obtain ⟨next, -, further⟩ := Option.bind_eq_some_iff.mp reads
          exact absurd (length_of_readName? further) (Nat.not_succ_le_self _)

end Lexer

def IsPrintable (byte : UInt8) : Prop :=
  0x20 ≤ byte ∧ byte ≤ 0x7E

instance (byte : UInt8) : Decidable (IsPrintable byte) :=
  inferInstanceAs (Decidable (_ ∧ _))

theorem isPrintable_digitByte : ∀ digit < 16, IsPrintable (digitByte digit) := by
  decide

theorem isRegular_digitByte : ∀ digit < 16, isRegular (digitByte digit) := by
  decide

theorem exists_of_mem_hexByte {byte digit : UInt8} (member : digit ∈ hexByte byte) :
    ∃ number < 16, digit = digitByte number := by
  have small : byte.toNat < 256 := byte.toNat_lt
  simp only [hexByte, List.mem_cons, List.not_mem_nil, or_false] at member
  rcases member with rfl | rfl
  · exact ⟨_, by omega, rfl⟩
  · exact ⟨_, by omega, rfl⟩

theorem exists_of_mem_octalByte {byte digit : UInt8} (member : digit ∈ octalByte byte) :
    ∃ number < 16, digit = digitByte number := by
  have small : byte.toNat < 256 := byte.toNat_lt
  simp only [octalByte, List.mem_cons, List.not_mem_nil, or_false] at member
  rcases member with rfl | rfl | rfl
  · exact ⟨_, by omega, rfl⟩
  · exact ⟨_, by omega, rfl⟩
  · exact ⟨_, by omega, rfl⟩

theorem isPrintable_of_mem_pair {first second written : UInt8} (one : IsPrintable first)
    (other : IsPrintable second) (member : written ∈ [first, second]) : IsPrintable written := by
  rcases List.mem_cons.mp member with rfl | last
  · exact one
  · rw [List.mem_singleton.mp last]
    exact other

theorem isPrintable_of_mem_stringByte {byte written : UInt8}
    (member : written ∈ stringByte byte) : IsPrintable written := by
  rw [stringByte] at member
  split at member
  · exact isPrintable_of_mem_pair (by decide) (by decide) member
  split at member
  · exact isPrintable_of_mem_pair (by decide) (by decide) member
  split at member
  · exact isPrintable_of_mem_pair (by decide) (by decide) member
  split at member
  · rcases List.mem_cons.mp member with rfl | digit
    · decide
    · obtain ⟨number, small, rfl⟩ := exists_of_mem_octalByte digit
      exact isPrintable_digitByte number small
  · next plain =>
      rw [List.mem_singleton.mp member]
      simp only [not_or, UInt8.lt_iff_toNat_lt, UInt8.le_iff_toNat_le] at plain
      simp only [IsPrintable, UInt8.le_iff_toNat_le]
      exact ⟨Nat.le_of_not_lt plain.1, Nat.le_of_lt_succ (Nat.lt_of_not_le plain.2)⟩

theorem isPrintable_literalString {bytes : Bytes} {written : UInt8}
    (member : written ∈ literalString bytes) : IsPrintable written := by
  rw [literalString, List.mem_append, List.mem_cons, List.mem_flatMap,
    List.mem_singleton] at member
  rcases member with (rfl | ⟨byte, -, inside⟩) | rfl
  · decide
  · exact isPrintable_of_mem_stringByte inside
  · decide

theorem mem_nameByte {byte written : UInt8} (member : written ∈ nameByte byte) :
    IsPrintable written ∧ isRegular written := by
  rw [nameByte] at member
  split at member
  · rcases List.mem_cons.mp member with rfl | digit
    · decide
    · obtain ⟨number, small, rfl⟩ := exists_of_mem_hexByte digit
      exact ⟨isPrintable_digitByte number small, isRegular_digitByte number small⟩
  · next plain =>
      rw [List.mem_singleton.mp member]
      refine ⟨?_, (isRegular_of_unescaped plain).2⟩
      simp only [not_or, UInt8.lt_iff_toNat_lt] at plain
      simp only [IsPrintable, UInt8.le_iff_toNat_le]
      exact ⟨Nat.le_of_lt (Nat.le_of_not_lt plain.2.1), Nat.le_of_not_lt plain.2.2⟩

theorem mem_nameBytes {bytes : Bytes} {written : UInt8}
    (member : written ∈ bytes.flatMap nameByte) : IsPrintable written ∧ isRegular written := by
  obtain ⟨byte, -, inside⟩ := List.mem_flatMap.mp member
  exact mem_nameByte inside

theorem name?_token_iff (name : Name) (rest : Bytes) :
    name? (name.token ++ rest) = some (name.bytes, rest) ↔ StandsApart rest := by
  rw [Name.token, List.cons_append, name?, if_pos rfl,
    Lexer.readName?_of_run (fun _ member => (mem_nameBytes member).2)
      (run_nameBytes [] [] name.bytes)]
  exact Lexer.readName?_eq_iff name.bytes rest

def SignsEscape (text : Bytes) : Prop :=
  ∀ before after, text = before ++ 0x23 :: after →
    ∃ high low rest, after = high :: low :: rest ∧
      (hexDigit? high).isSome ∧ (hexDigit? low).isSome

theorem signsEscape_of_not_mem {text : Bytes} (absent : 0x23 ∉ text) : SignsEscape text := by
  rintro before after rfl
  exact absurd (List.mem_append_right before List.mem_cons_self) absent

theorem SignsEscape.append {first second : Bytes} (front : SignsEscape first)
    (back : SignsEscape second) : SignsEscape (first ++ second) := by
  intro before after same
  rcases List.append_eq_append_iff.mp same with ⟨middle, -, split⟩ | ⟨middle, split, inside⟩
  · exact back middle after split
  · cases middle with
    | nil => exact back [] after inside.symm
    | cons sign middle =>
        obtain ⟨rfl, rfl⟩ := List.cons.inj inside
        obtain ⟨high, low, rest, rfl, digits⟩ := front before middle split
        exact ⟨high, low, rest ++ second, rfl, digits⟩

theorem sign_not_mem_hexByte (byte : UInt8) : 0x23 ∉ hexByte byte := by
  intro member
  obtain ⟨number, small, same⟩ := exists_of_mem_hexByte member
  have digit := hexDigit?_digitByte number small
  rw [← same] at digit
  contradiction

theorem signsEscape_nameByte (byte : UInt8) : SignsEscape (nameByte byte) := by
  by_cases escaped : isNameDelimiter byte ∨ byte < 0x21 ∨ 0x7E < byte
  · rw [nameByte, if_pos escaped]
    intro before after same
    cases before with
    | nil =>
        obtain ⟨-, rfl⟩ := List.cons.inj same
        obtain ⟨high, low, first, second, spelled, spellsHigh, spellsLow, -⟩ :=
          hexPair_hexByte byte
        exact ⟨high, low, [], spelled, Option.isSome_of_mem spellsHigh,
          Option.isSome_of_mem spellsLow⟩
    | cons sign before =>
        obtain ⟨-, inside⟩ := List.cons.inj same
        have member : 0x23 ∈ hexByte byte := by
          rw [inside]
          exact List.mem_append_right before List.mem_cons_self
        exact absurd member (sign_not_mem_hexByte byte)
  · rw [nameByte, if_neg escaped]
    exact signsEscape_of_not_mem fun member =>
      (isRegular_of_unescaped escaped).1 (List.mem_singleton.mp member).symm

theorem signsEscape_nameBytes (bytes : Bytes) : SignsEscape (bytes.flatMap nameByte) := by
  induction bytes with
  | nil => exact signsEscape_of_not_mem List.not_mem_nil
  | cons byte bytes ih => exact (signsEscape_nameByte byte).append ih

end Reading

open Reading

/--
A string is read back whatever follows, and a name if and only if no byte follows that could go on
with it. Both are printable; inside a name no byte ends it and each number sign opens an escape.
-/
theorem delimits_tokens (bytes rest : Bytes) (text : String) :
    string? (literalString bytes ++ rest) = some (bytes, rest) ∧
      (name? ((Name.ofString text).token ++ rest) = some (utf8 text, rest) ↔ StandsApart rest) ∧
      (∀ byte ∈ literalString bytes ++ (Name.ofString text).token, IsPrintable byte) ∧
      ∃ written, (Name.ofString text).token = 0x2F :: written ∧
        (∀ byte ∈ written, isWhite byte = false ∧ isDelimiter byte = false) ∧
        SignsEscape written := by
  refine ⟨string?_literalString bytes rest, name?_token_iff _ rest, ?_, _, rfl, ?_,
    signsEscape_nameBytes _⟩
  · intro byte member
    rcases List.mem_append.mp member with inString | inName
    · exact isPrintable_literalString inString
    · rcases List.mem_cons.mp inName with rfl | inside
      · decide
      · exact (mem_nameBytes inside).1
  · intro byte member
    have regular := (mem_nameBytes member).2
    rw [isRegular, Bool.and_eq_true, Bool.not_eq_true', Bool.not_eq_true'] at regular
    exact regular

end Folio
