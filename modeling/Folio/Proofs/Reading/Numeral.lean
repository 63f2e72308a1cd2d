import Folio.Proofs.Reading.Object
import Folio.Proofs.Reading.Spelling

/-!
Every number is written as a numeral, and a whole number reads as itself.
-/

namespace Folio

namespace Reading

theorem isMagnitude_of_digits {digits : Bytes} (nonempty : digits ≠ [])
    (allDigits : ∀ byte ∈ digits, isDigit byte) : isMagnitude digits := by
  have noPoint : 46 ∉ digits := fun member => absurd (allDigits 46 member) (by decide)
  obtain ⟨byte, member⟩ := List.exists_mem_of_ne_nil digits nonempty
  simp only [isMagnitude, Bool.and_eq_true, List.all_eq_true, List.any_eq_true, Bool.or_eq_true,
    decide_eq_true_eq, List.count_eq_zero_of_not_mem noPoint]
  exact ⟨⟨fun byte member => .inl (allDigits byte member), byte, member, allDigits byte member⟩,
    Nat.zero_le 1⟩

theorem isMagnitude_point {whole fraction : Bytes} (nonempty : whole ++ fraction ≠ [])
    (allDigits : ∀ byte ∈ whole ++ fraction, isDigit byte) :
    isMagnitude (whole ++ 46 :: fraction) := by
  have noPoint : 46 ∉ whole ++ fraction := fun member => absurd (allDigits 46 member) (by decide)
  obtain ⟨byte, member⟩ := List.exists_mem_of_ne_nil _ nonempty
  have onePoint : (whole ++ 46 :: fraction).count 46 = 1 := by
    have none := List.count_eq_zero_of_not_mem noPoint
    rw [List.count_append] at none
    rw [List.count_append, List.count_cons_self]
    omega
  simp only [isMagnitude, Bool.and_eq_true, List.all_eq_true, List.any_eq_true, Bool.or_eq_true,
    decide_eq_true_eq, onePoint]
  refine ⟨⟨?_, byte, ?_, allDigits byte member⟩, Nat.le_refl 1⟩
  · intro byte member
    rcases List.mem_append.mp member with inWhole | inRest
    · exact .inl (allDigits byte (List.mem_append_left _ inWhole))
    · cases inRest with
      | head => exact .inr rfl
      | tail _ inFraction => exact .inl (allDigits byte (List.mem_append_right _ inFraction))
  · rcases List.mem_append.mp member with inWhole | inFraction
    · exact List.mem_append_left _ inWhole
    · exact List.mem_append_right _ (List.mem_cons_of_mem _ inFraction)

theorem unsigned_of_isMagnitude {text : Bytes} (magnitude : isMagnitude text) :
    unsigned text = text := by
  cases text with
  | nil => rfl
  | cons byte rest =>
      have digitOrPoint : isDigit byte ∨ byte = 46 := by
        simp only [isMagnitude, Bool.and_eq_true, List.all_eq_true, Bool.or_eq_true,
          beq_iff_eq] at magnitude
        exact magnitude.1.1 byte List.mem_cons_self
      have noSign : ¬(byte = 43 ∨ byte = 45) := by
        rintro (same | same)
        · rw [same] at digitOrPoint
          exact absurd digitOrPoint (by decide)
        · rw [same] at digitOrPoint
          exact absurd digitOrPoint (by decide)
      rw [unsigned, if_neg noSign]

theorem isNumeral_of_isMagnitude {text : Bytes} (magnitude : isMagnitude text) :
    isNumeral text := by
  rw [isNumeral, unsigned_of_isMagnitude magnitude]
  exact magnitude

theorem isNumeral_minus {text : Bytes} (magnitude : isMagnitude text) : isNumeral (45 :: text) :=
  magnitude

theorem isRegular_of_isMagnitude {text : Bytes} (magnitude : isMagnitude text) :
    ∀ byte ∈ text, isRegular byte := by
  intro byte member
  simp only [isMagnitude, Bool.and_eq_true, List.all_eq_true, Bool.or_eq_true,
    beq_iff_eq] at magnitude
  rcases magnitude.1.1 byte member with digit | point
  · exact isRegular_of_isDigit digit
  · rw [point]
    decide

theorem ne_nil_of_isNumeral {text : Bytes} (numeral : isNumeral text) : text ≠ [] := by
  intro empty
  rw [empty] at numeral
  exact absurd numeral (by decide)

theorem isRegular_of_isNumeral {text : Bytes} (numeral : isNumeral text) :
    ∀ byte ∈ text, isRegular byte := by
  have regular := isRegular_of_isMagnitude numeral
  cases text with
  | nil => exact regular
  | cons first rest =>
      by_cases sign : first = 43 ∨ first = 45
      · rw [unsigned, if_pos sign] at regular
        intro byte member
        cases member with
        | head =>
            rcases sign with same | same
            · rw [same]
              decide
            · rw [same]
              decide
        | tail _ inRest => exact regular byte inRest
      · rw [unsigned, if_neg sign] at regular
        exact regular

theorem ne_of_isNumeral {text other : Bytes} (numeral : isNumeral text)
    (keyword : isNumeral other = false) : text ≠ other := by
  intro same
  rw [same, keyword] at numeral
  contradiction

theorem stepWord_of_isNumeral {text : Bytes} (parser : Parser) (numeral : isNumeral text) :
    parser.stepWord text = some (parser.push (.number text (integer? text))) := by
  rw [Parser.stepWord, if_neg (ne_of_isNumeral numeral (by decide)), Object.ofWord?,
    if_neg (ne_of_isNumeral numeral (by decide)), if_neg (ne_of_isNumeral numeral (by decide)),
    if_neg (ne_of_isNumeral numeral (by decide)), if_pos numeral]
  rfl

theorem isMagnitude_decimal (number : Nat) : isMagnitude (decimal number) :=
  isMagnitude_of_digits (decimal_ne_nil number) fun _ member => isDigit_of_mem_decimal member

theorem isNumeral_signedDecimal (number : Int) : isNumeral (signedDecimal number) := by
  cases number with
  | ofNat number => exact isNumeral_of_isMagnitude (isMagnitude_decimal number)
  | negSucc number => exact isNumeral_minus (isMagnitude_decimal (number + 1))

theorem head?_decimal_ne_minus (number : Nat) : (decimal number).head? ≠ some 45 := by
  intro head
  exact absurd (isDigit_of_mem_decimal (List.mem_of_head? head)) (by decide)

theorem integer?_decimal (number : Nat) :
    integer? (decimal number) = some (number : Int) := by
  have digits : unsigned (decimal number) = decimal number :=
    unsigned_of_isMagnitude (isMagnitude_decimal number)
  rw [integer?, digits, if_pos ⟨decimal_ne_nil number,
    List.all_eq_true.mpr fun _ member => isDigit_of_mem_decimal member⟩,
    if_neg (head?_decimal_ne_minus number), numberOf_decimal]

theorem integer?_signedDecimal (number : Int) :
    integer? (signedDecimal number) = some number := by
  cases number with
  | ofNat number => exact integer?_decimal number
  | negSucc number =>
      have digits : unsigned (45 :: decimal (number + 1)) = decimal (number + 1) := rfl
      rw [signedDecimal, integer?, digits, if_pos ⟨decimal_ne_nil _,
        List.all_eq_true.mpr fun _ member => isDigit_of_mem_decimal member⟩, List.head?_cons,
        if_pos rfl, numberOf_decimal]
      rfl

theorem toNat_of_isDigit {char : Char} (digit : char.isDigit) :
    48 ≤ char.toNat ∧ char.toNat ≤ 57 := by
  simpa [Char.isDigit, UInt32.le_iff_toNat_le] using digit

theorem isDigit_byte {char : Char} (digit : char.isDigit) : isDigit (UInt8.ofNat char.toNat) := by
  have bounds := toNat_of_isDigit digit
  rw [isDigit_iff, UInt8.toNat_ofNat']
  omega

/-- The digits of a number in positional notation, before the point and after it. -/
theorem positional_eq (digits : Nat) (exponent : Int) :
    ∃ whole fraction, whole ++ fraction ≠ [] ∧ (∀ char ∈ whole ++ fraction, char.isDigit) ∧
      (Single.positional digits exponent = whole ++ fraction ∨
        Single.positional digits exponent = whole ++ '.' :: fraction) := by
  have shown (char : Char) (member : char ∈ Nat.toDigits 10 digits) : char.isDigit :=
    Nat.isDigit_of_mem_toDigits (by decide) (by decide) member
  rw [Single.positional]
  split
  · refine ⟨Nat.toDigits 10 digits, List.replicate exponent.toNat '0', ?_, ?_, .inl rfl⟩
    · exact List.append_ne_nil_of_left_ne_nil Nat.toDigits_ne_nil _
    · intro char member
      rcases List.mem_append.mp member with inDigits | inZeros
      · exact shown char inDigits
      · rw [List.eq_of_mem_replicate inZeros]
        decide
  · refine ⟨_, _, ?_, ?_, .inr rfl⟩
    · rw [List.take_append_drop, List.leftpad]
      exact List.append_ne_nil_of_right_ne_nil _ Nat.toDigits_ne_nil
    · intro char member
      rw [List.take_append_drop, List.leftpad] at member
      rcases List.mem_append.mp member with inZeros | inDigits
      · rw [List.eq_of_mem_replicate inZeros]
        decide
      · exact shown char inDigits

theorem isMagnitude_positional (digits : Nat) (exponent : Int) :
    isMagnitude ((Single.positional digits exponent).map fun char => UInt8.ofNat char.toNat) := by
  obtain ⟨whole, fraction, nonempty, allDigits, shape⟩ := positional_eq digits exponent
  have allBytes : ∀ byte ∈ (whole ++ fraction).map (fun char => UInt8.ofNat char.toNat),
      isDigit byte := by
    intro byte member
    obtain ⟨char, inDigits, same⟩ := List.mem_map.mp member
    rw [← same]
    exact isDigit_byte (allDigits char inDigits)
  have someByte : (whole ++ fraction).map (fun char => UInt8.ofNat char.toNat) ≠ [] := by
    rw [ne_eq, List.map_eq_nil_iff]
    exact nonempty
  rcases shape with plain | pointed
  · rw [plain]
    exact isMagnitude_of_digits someByte allBytes
  · rw [pointed, List.map_append, List.map_cons]
    rw [List.map_append] at allBytes someByte
    exact isMagnitude_point someByte allBytes

theorem isNumeral_token (number : Single) : isNumeral number.token := by
  rw [Single.token, Single.finiteText]
  generalize number.shortest = shortest
  obtain ⟨digits, exponent⟩ := shortest
  have magnitude : isMagnitude ((if number.magnitudeBits = 0 then ['0']
      else Single.positional digits exponent).map fun char => UInt8.ofNat char.toNat) := by
    split
    · decide
    · exact isMagnitude_positional digits exponent
  split
  · split
    · exact isNumeral_minus magnitude
    · exact isNumeral_of_isMagnitude magnitude
  · exact isNumeral_of_isMagnitude (isMagnitude_decimal 0)

theorem utf8_ofList_of_ascii {chars : List Char} (ascii : ∀ char ∈ chars, char.toNat < 128) :
    utf8 (String.ofList chars) = chars.map fun char => UInt8.ofNat char.toNat := by
  rw [utf8, String.toList_ofList]
  induction chars with
  | nil => rfl
  | cons char chars ih =>
      have small : char.toNat < 128 := ascii char List.mem_cons_self
      have size : char.utf8Size = 1 := by
        rw [Char.utf8Size, if_pos]
        exact UInt32.le_iff_toNat_le.mpr (Nat.le_of_lt_succ small)
      rw [List.flatMap_cons, String.utf8EncodeChar_eq_singleton size, List.map_cons,
        ih fun other member => ascii other (List.mem_cons_of_mem _ member)]
      rfl

theorem ascii_finiteText (number : Single) : ∀ char ∈ number.finiteText, char.toNat < 128 := by
  rw [Single.finiteText]
  generalize number.shortest = shortest
  obtain ⟨digits, exponent⟩ := shortest
  have ascii_of_digit (char : Char) (digit : char.isDigit) : char.toNat < 128 := by
    have bounds := toNat_of_isDigit digit
    omega
  have magnitude : ∀ char ∈ if number.magnitudeBits = 0 then ['0']
      else Single.positional digits exponent, char.toNat < 128 := by
    split
    · intro char member
      rw [List.mem_singleton.mp member]
      decide
    · obtain ⟨whole, fraction, -, allDigits, shape⟩ := positional_eq digits exponent
      intro char member
      rcases shape with plain | pointed
      · rw [plain] at member
        exact ascii_of_digit char (allDigits char member)
      · rw [pointed, List.mem_append, List.mem_cons] at member
        rcases member with inWhole | point | inFraction
        · exact ascii_of_digit char (allDigits char (List.mem_append_left _ inWhole))
        · rw [point]
          decide
        · exact ascii_of_digit char (allDigits char (List.mem_append_right _ inFraction))
  split
  · intro char member
    rcases List.mem_cons.mp member with sign | inMagnitude
    · rw [sign]
      decide
    · exact magnitude char inMagnitude
  · exact magnitude

/-- A number is written as it is shown, one that is not finite as zero. -/
theorem token_eq_text (number : Single) :
    number.token = utf8 (if number.isFinite then number.text else "0") := by
  rw [Single.token]
  split
  · next finite =>
    have small : number.magnitudeBits < Single.infinityBits := of_decide_eq_true finite
    have notNaN : number.isNaN = false := decide_eq_false (Nat.not_lt.mpr (Nat.le_of_lt small))
    have notInfinite : number.isInfinite = false :=
      beq_eq_false_iff_ne.mpr (Nat.ne_of_lt small)
    rw [Single.text, notNaN, notInfinite]
    exact (utf8_ofList_of_ascii (ascii_finiteText number)).symm
  · rfl

end Reading

end Folio
