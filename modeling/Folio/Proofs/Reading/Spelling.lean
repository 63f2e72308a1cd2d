import Folio.Layout
import Folio.Proofs.Reading.Lexer

/-!
Every token that is written reads as itself, whatever bytes it was made from.
-/

namespace Folio

namespace Reading

theorem isRegular_of_isDigit {byte : UInt8} (digit : isDigit byte) : isRegular byte := by
  have bounds := isDigit_iff.mp digit
  have notConst (other : UInt8) (outside : other.toNat < 48 ∨ 57 < other.toNat) :
      byte ≠ other := by
    intro same
    rw [same] at bounds
    omega
  simp [isRegular, isWhite, isDelimiter, notConst]

theorem stepBlank_of_isRegular {byte : UInt8} (tokens : List Token) (regular : isRegular byte) :
    Lexer.stepBlank tokens byte = some ⟨tokens, .word [byte]⟩ := by
  simp only [isRegular, Bool.and_eq_true, Bool.not_eq_true'] at regular
  obtain ⟨notWhite, notDelimiter⟩ := regular
  have notConst (other : UInt8) (delimiter : isDelimiter other) : byte ≠ other := by
    intro same
    rw [same, delimiter] at notDelimiter
    contradiction
  rw [Lexer.stepBlank, notWhite, notDelimiter]
  simp [notConst, isDelimiter]

theorem run_word_onward (tokens : List Token) (seen : Bytes) {text : Bytes}
    (regular : ∀ byte ∈ text, isRegular byte) :
    Lexer.run ⟨tokens, .word seen⟩ text = some ⟨tokens, .word (seen ++ text)⟩ := by
  induction text generalizing seen with
  | nil => rw [List.append_nil, Lexer.run_nil]
  | cons byte text ih =>
      rw [Lexer.run_cons, Lexer.step, if_pos (regular byte List.mem_cons_self), Option.bind_some,
        ih (seen ++ [byte]) (fun other member => regular other (List.mem_cons_of_mem _ member)),
        List.append_assoc, List.singleton_append]

theorem run_word (tokens : List Token) {text : Bytes} (nonempty : text ≠ [])
    (regular : ∀ byte ∈ text, isRegular byte) :
    Lexer.run ⟨tokens, .blank⟩ text = some ⟨tokens, .word text⟩ := by
  cases text with
  | nil => exact absurd rfl nonempty
  | cons byte text =>
      rw [Lexer.run_cons, Lexer.step, stepBlank_of_isRegular tokens (regular byte
        List.mem_cons_self), Option.bind_some,
        run_word_onward tokens [byte]
          (fun other member => regular other (List.mem_cons_of_mem _ member)),
        List.singleton_append]

theorem isRegular_of_mem_decimal (number : Nat) : ∀ byte ∈ decimal number, isRegular byte :=
  fun _ member => isRegular_of_isDigit (isDigit_of_mem_decimal member)

theorem run_decimal (tokens : List Token) (number : Nat) :
    Lexer.run ⟨tokens, .blank⟩ (decimal number) = some ⟨tokens, .word (decimal number)⟩ :=
  run_word tokens (decimal_ne_nil number) (isRegular_of_mem_decimal number)

theorem signedDecimal_ne_nil (number : Int) : signedDecimal number ≠ [] := by
  cases number with
  | ofNat number => exact decimal_ne_nil number
  | negSucc number => exact List.cons_ne_nil _ _

theorem isRegular_of_mem_signedDecimal (number : Int) :
    ∀ byte ∈ signedDecimal number, isRegular byte := by
  intro byte member
  cases number with
  | ofNat number => exact isRegular_of_mem_decimal number byte member
  | negSucc number =>
      rcases List.mem_cons.mp member with sign | digit
      · rw [sign]
        decide
      · exact isRegular_of_mem_decimal (number + 1) byte digit

theorem run_word_blank (tokens : List Token) (text rest : Bytes) :
    Lexer.run ⟨tokens, .word text⟩ (32 :: rest) =
      Lexer.run ⟨tokens ++ [.word text], .blank⟩ rest := rfl

theorem run_refToken (tokens : List Token) (target : Ref) :
    Lexer.run ⟨tokens, .blank⟩ target.token =
      some ⟨tokens ++ [.word (decimal target.number)] ++
        [.word (decimal target.generation.toNat)], .word (utf8 "R")⟩ := by
  rw [Ref.token, List.append_assoc, Lexer.run_append_of_run (run_decimal tokens _),
    List.cons_append, run_word_blank, Lexer.run_append_of_run (run_decimal _ _), run_word_blank]
  rfl

theorem hexDigit?_digitByte : ∀ digit < 16, hexDigit? (digitByte digit) = some digit := by
  decide

theorem ofNat_div_mod (byte : UInt8) :
    UInt8.ofNat (byte.toNat / 16 * 16 + byte.toNat % 16) = byte := by
  rw [Nat.mul_comm, Nat.div_add_mod, UInt8.ofNat_toNat]

theorem run_nameHexByte (tokens : List Token) (seen : Bytes) (byte : UInt8) :
    Lexer.run ⟨tokens, .nameHigh seen⟩ (hexByte byte) = some ⟨tokens, .name (seen ++ [byte])⟩ := by
  have small : byte.toNat < 256 := byte.toNat_lt
  rw [hexByte, Lexer.run_cons, Lexer.step, hexDigit?_digitByte _ (by omega), Option.map_some,
    Option.bind_some, Lexer.run_cons, Lexer.step, hexDigit?_digitByte _ (by omega),
    Option.map_some, Option.bind_some, Lexer.run_nil, ofNat_div_mod]

theorem isRegular_of_unescaped {byte : UInt8}
    (unescaped : ¬(isNameDelimiter byte ∨ byte < 0x21 ∨ 0x7E < byte)) :
    byte ≠ 0x23 ∧ isRegular byte := by
  simp only [not_or] at unescaped
  obtain ⟨notDelimiter, notLow, -⟩ := unescaped
  have notConst (other : UInt8) (escaped : isNameDelimiter other ∨ other < 0x21) :
      byte ≠ other := by
    intro same
    rw [← same] at escaped
    exact escaped.elim notDelimiter notLow
  exact ⟨notConst 0x23 (by decide), by simp [isRegular, isWhite, isDelimiter, notConst,
    isNameDelimiter]⟩

theorem run_nameByte (tokens : List Token) (seen : Bytes) (byte : UInt8) :
    Lexer.run ⟨tokens, .name seen⟩ (nameByte byte) = some ⟨tokens, .name (seen ++ [byte])⟩ := by
  by_cases escaped : isNameDelimiter byte ∨ byte < 0x21 ∨ 0x7E < byte
  · rw [nameByte, if_pos escaped, Lexer.run_cons]
    exact run_nameHexByte tokens seen byte
  · obtain ⟨notSign, regular⟩ := isRegular_of_unescaped escaped
    rw [nameByte, if_neg escaped, Lexer.run_cons, Lexer.step, if_neg notSign, if_pos regular]
    rfl

theorem run_nameBytes (tokens : List Token) (seen bytes : Bytes) :
    Lexer.run ⟨tokens, .name seen⟩ (bytes.flatMap nameByte) =
      some ⟨tokens, .name (seen ++ bytes)⟩ := by
  induction bytes generalizing seen with
  | nil => rw [List.flatMap_nil, List.append_nil, Lexer.run_nil]
  | cons byte bytes ih =>
      rw [List.flatMap_cons, Lexer.run_append_of_run (run_nameByte tokens seen byte), ih,
        List.append_assoc, List.singleton_append]

theorem run_nameToken (tokens : List Token) (name : Name) :
    Lexer.run ⟨tokens, .blank⟩ name.token = some ⟨tokens, .name name.bytes⟩ :=
  run_nameBytes tokens [] name.bytes

theorem octalDigit?_digitByte : ∀ digit < 8, octalDigit? (digitByte digit) = some digit := by
  decide

theorem run_octalByte (tokens : List Token) (depth : Nat) (seen : Bytes) (byte : UInt8) :
    Lexer.run ⟨tokens, .escape depth seen⟩ (octalByte byte) =
      some ⟨tokens, .str depth (seen ++ [byte])⟩ := by
  have small : byte.toNat < 256 := byte.toNat_lt
  have sum : (byte.toNat / 64 * 8 + byte.toNat / 8 % 8) * 8 + byte.toNat % 8 = byte.toNat := by
    omega
  simp only [octalByte, Lexer.run_cons, Lexer.step, Lexer.stepEscape, Lexer.stepOctal,
    octalDigit?_digitByte _ (show byte.toNat / 64 < 8 by omega),
    octalDigit?_digitByte _ (show byte.toNat / 8 % 8 < 8 by omega),
    octalDigit?_digitByte _ (show byte.toNat % 8 < 8 by omega), Option.bind_some, Lexer.run_nil,
    sum, UInt8.ofNat_toNat]

theorem run_stringByte (tokens : List Token) (depth : Nat) (seen : Bytes) (byte : UInt8) :
    Lexer.run ⟨tokens, .str depth seen⟩ (stringByte byte) =
      some ⟨tokens, .str depth (seen ++ [byte])⟩ := by
  rw [stringByte]
  split
  · next same => rw [same]; rfl
  split
  · next same => rw [same]; rfl
  split
  · next same => rw [same]; rfl
  next notBackslash notOpen notClose =>
  split
  · exact run_octalByte tokens depth seen byte
  · next printable =>
    have notReturn : byte ≠ 13 := by
      intro same
      rw [same] at printable
      exact printable (by decide)
    simp only [Lexer.run_cons, Lexer.step, Lexer.stepString, notBackslash, notOpen, notClose,
      notReturn, if_false, Option.bind_some, Lexer.run_nil]

theorem run_stringBytes (tokens : List Token) (depth : Nat) (seen bytes : Bytes) :
    Lexer.run ⟨tokens, .str depth seen⟩ (bytes.flatMap stringByte) =
      some ⟨tokens, .str depth (seen ++ bytes)⟩ := by
  induction bytes generalizing seen with
  | nil => rw [List.flatMap_nil, List.append_nil, Lexer.run_nil]
  | cons byte bytes ih =>
      rw [List.flatMap_cons, Lexer.run_append_of_run (run_stringByte tokens depth seen byte), ih,
        List.append_assoc, List.singleton_append]

theorem run_literalString (tokens : List Token) (bytes : Bytes) :
    Lexer.run ⟨tokens, .blank⟩ (literalString bytes) = some ⟨tokens ++ [.str bytes], .blank⟩ :=
  Lexer.run_append_of_run (run_stringBytes tokens 0 [] bytes)

def HexPair (pair : Bytes) (byte : UInt8) : Prop :=
  ∃ high low first second, pair = [high, low] ∧ hexDigit? high = some first ∧
    hexDigit? low = some second ∧ UInt8.ofNat (first * 16 + second) = byte

theorem hexPair_hexByte (byte : UInt8) : HexPair (hexByte byte) byte := by
  have small : byte.toNat < 256 := byte.toNat_lt
  exact ⟨_, _, _, _, rfl, hexDigit?_digitByte _ (by omega), hexDigit?_digitByte _ (by omega),
    ofNat_div_mod byte⟩

def lowerDigit (digit : Nat) : UInt8 :=
  if digitByte digit < 65 then digitByte digit else digitByte digit + 32

theorem hexDigit?_lowerDigit : ∀ digit < 16, hexDigit? (lowerDigit digit) = some digit := by
  decide

theorem hexPair_hexByteLower (byte : UInt8) : HexPair (hexByteLower byte) byte := by
  have small : byte.toNat < 256 := byte.toNat_lt
  have digits : hexByteLower byte =
      [lowerDigit (byte.toNat / 16), lowerDigit (byte.toNat % 16)] := rfl
  exact ⟨_, _, _, _, digits, hexDigit?_lowerDigit _ (by omega),
    hexDigit?_lowerDigit _ (by omega), ofNat_div_mod byte⟩

theorem ne_of_hexDigit? {byte other : UInt8} {digit : Nat} (spells : hexDigit? byte = some digit)
    (nondigit : hexDigit? other = none) : byte ≠ other := by
  intro same
  rw [same, nondigit] at spells
  contradiction

theorem isWhite_of_hexDigit? {byte : UInt8} {digit : Nat}
    (spells : hexDigit? byte = some digit) : isWhite byte = false := by
  have notConst (other : UInt8) (nondigit : hexDigit? other = none) : byte ≠ other :=
    ne_of_hexDigit? spells nondigit
  simp [isWhite, notConst, hexDigit?, isDigit]

theorem run_hexPair (tokens : List Token) (seen : Bytes) {pair : Bytes} {byte : UInt8}
    (spells : HexPair pair byte) :
    Lexer.run ⟨tokens, .hexHigh seen⟩ pair = some ⟨tokens, .hexHigh (seen ++ [byte])⟩ := by
  obtain ⟨high, low, first, second, rfl, spellsHigh, spellsLow, rfl⟩ := spells
  have highOpen : high ≠ 0x3E := ne_of_hexDigit? spellsHigh (by decide)
  have lowOpen : low ≠ 0x3E := ne_of_hexDigit? spellsLow (by decide)
  simp only [Lexer.run_cons, Lexer.step, Lexer.stepHex, highOpen, lowOpen,
    isWhite_of_hexDigit? spellsHigh, isWhite_of_hexDigit? spellsLow, spellsHigh, spellsLow,
    if_false, Bool.false_eq_true, Option.map_some, Option.bind_some, Lexer.run_nil]

section

variable {spell : UInt8 → Bytes}

theorem run_hexBytes (spells : ∀ byte, HexPair (spell byte) byte) (tokens : List Token)
    (seen bytes : Bytes) :
    Lexer.run ⟨tokens, .hexHigh seen⟩ (bytes.flatMap spell) =
      some ⟨tokens, .hexHigh (seen ++ bytes)⟩ := by
  induction bytes generalizing seen with
  | nil => rw [List.flatMap_nil, List.append_nil, Lexer.run_nil]
  | cons byte bytes ih =>
      rw [List.flatMap_cons, Lexer.run_append_of_run (run_hexPair tokens seen (spells byte)), ih,
        List.append_assoc, List.singleton_append]

/-- After the opening bracket a digit cannot make it the bracket of a dictionary. -/
theorem run_less (spells : ∀ byte, HexPair (spell byte) byte) (tokens : List Token)
    (bytes rest : Bytes) :
    Lexer.run ⟨tokens, .less⟩ (bytes.flatMap spell ++ 0x3E :: rest) =
      Lexer.run ⟨tokens, .hexHigh []⟩ (bytes.flatMap spell ++ 0x3E :: rest) := by
  cases bytes with
  | nil => rfl
  | cons byte bytes =>
      obtain ⟨high, low, first, second, same, spellsHigh, -, -⟩ := spells byte
      have stepped : Lexer.step ⟨tokens, .less⟩ high = Lexer.step ⟨tokens, .hexHigh []⟩ high :=
        if_neg (ne_of_hexDigit? spellsHigh (by decide))
      rw [List.flatMap_cons, same, List.cons_append, List.cons_append, Lexer.run_cons,
        Lexer.run_cons, stepped]

theorem run_hexString (spells : ∀ byte, HexPair (spell byte) byte) (tokens : List Token)
    (bytes : Bytes) :
    Lexer.run ⟨tokens, .blank⟩ (0x3C :: bytes.flatMap spell ++ [0x3E]) =
      some ⟨tokens ++ [.hex bytes], .blank⟩ := by
  rw [List.cons_append, Lexer.run_cons]
  show Lexer.run ⟨tokens, .less⟩ (bytes.flatMap spell ++ [0x3E]) = _
  rw [run_less spells, Lexer.run_append_of_run (run_hexBytes spells tokens [] bytes)]
  rfl

end

theorem run_digestToken (tokens : List Token) (bytes : Bytes) :
    Lexer.run ⟨tokens, .blank⟩ (digestToken bytes) = some ⟨tokens ++ [.hex bytes], .blank⟩ :=
  run_hexString hexPair_hexByteLower tokens bytes

end Reading

end Folio
