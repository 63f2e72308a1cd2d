import Folio.Bytes

/-!
Decimal numbers read back: what digits spell, and how many of them there are. The lines that they
stand in end with their only line feed.
-/

namespace Folio

def isDigit (byte : UInt8) : Bool :=
  48 ≤ byte && byte ≤ 57

def numberOf (digits : Bytes) : Nat :=
  digits.foldl (fun number digit => number * 10 + (digit.toNat - 48)) 0

def IsLine (bytes : Bytes) : Prop :=
  ∃ text : Bytes, 10 ∉ text ∧ bytes = text ++ [10]

theorem toNat_digitChar_byte {digit : Nat} (hdigit : digit < 10) :
    (UInt8.ofNat (Nat.digitChar digit).toNat).toNat = 48 + digit := by
  rw [Nat.toNat_digitChar_of_lt_ten hdigit, UInt8.toNat_ofNat']
  omega

theorem isDigit_iff {byte : UInt8} : isDigit byte ↔ 48 ≤ byte.toNat ∧ byte.toNat ≤ 57 := by
  simp [isDigit, UInt8.le_iff_toNat_le]

theorem decimal_of_lt_ten {number : Nat} (hnumber : number < 10) :
    decimal number = [UInt8.ofNat (Nat.digitChar number).toNat] := by
  simp [decimal, Nat.toDigits_of_lt_base hnumber]

theorem decimal_of_ten_le {number : Nat} (hnumber : 10 ≤ number) :
    decimal number =
      decimal (number / 10) ++ [UInt8.ofNat (Nat.digitChar (number % 10)).toNat] := by
  simp [decimal, Nat.toDigits_of_base_le (by omega : 1 < 10) hnumber]

theorem decimal_ne_nil (number : Nat) : decimal number ≠ [] := by
  simp [decimal]

theorem isDigit_of_mem_decimal {number : Nat} {byte : UInt8} (hbyte : byte ∈ decimal number) :
    isDigit byte := by
  induction number using Nat.strongRecOn with
  | ind number ih =>
      rcases Nat.lt_or_ge number 10 with hsmall | hlarge
      · rw [decimal_of_lt_ten hsmall, List.mem_singleton] at hbyte
        rw [hbyte, isDigit_iff, toNat_digitChar_byte hsmall]
        omega
      · rw [decimal_of_ten_le hlarge, List.mem_append, List.mem_singleton] at hbyte
        rcases hbyte with hfront | hlast
        · exact ih (number / 10) (by omega) hfront
        · rw [hlast, isDigit_iff, toNat_digitChar_byte (Nat.mod_lt _ (by omega))]
          omega

theorem numberOf_append_singleton (digits : Bytes) (digit : UInt8) :
    numberOf (digits ++ [digit]) = numberOf digits * 10 + (digit.toNat - 48) := by
  simp [numberOf]

@[simp] theorem numberOf_decimal (number : Nat) : numberOf (decimal number) = number := by
  induction number using Nat.strongRecOn with
  | ind number ih =>
      rcases Nat.lt_or_ge number 10 with hsmall | hlarge
      · rw [decimal_of_lt_ten hsmall]
        simp only [numberOf, List.foldl_cons, List.foldl_nil, toNat_digitChar_byte hsmall]
        omega
      · rw [decimal_of_ten_le hlarge, numberOf_append_singleton, ih (number / 10) (by omega),
          toNat_digitChar_byte (Nat.mod_lt _ (by omega))]
        omega

theorem length_decimal_le {number width : Nat} (hwidth : 0 < width)
    (hnumber : number < Nat.pow 10 width) : (decimal number).length ≤ width := by
  rw [decimal, List.length_map]
  exact (Nat.length_toDigits_le_iff (by omega) hwidth).mpr hnumber

theorem length_paddedDecimal {number width : Nat} (hwidth : 0 < width)
    (hnumber : number < Nat.pow 10 width) : (paddedDecimal width number).length = width := by
  rw [paddedDecimal, List.length_leftpad]
  exact Nat.max_eq_left (length_decimal_le hwidth hnumber)

theorem paddedDecimal_ne_nil (width number : Nat) : paddedDecimal width number ≠ [] := by
  rw [paddedDecimal, List.leftpad]
  exact List.append_ne_nil_of_right_ne_nil _ (decimal_ne_nil number)

theorem isDigit_of_mem_paddedDecimal {number width : Nat} {byte : UInt8}
    (hbyte : byte ∈ paddedDecimal width number) : isDigit byte := by
  rw [paddedDecimal, List.leftpad, List.mem_append] at hbyte
  rcases hbyte with hzero | hdigit
  · rw [List.eq_of_mem_replicate hzero]
    decide
  · exact isDigit_of_mem_decimal hdigit

theorem numberOf_replicate_zero_append (count : Nat) (digits : Bytes) :
    numberOf (List.replicate count 48 ++ digits) = numberOf digits := by
  induction count with
  | zero => rfl
  | succ count ih =>
      rw [List.replicate_succ, List.cons_append, ← ih]
      rfl

theorem numberOf_paddedDecimal (width number : Nat) :
    numberOf (paddedDecimal width number) = number := by
  rw [paddedDecimal, List.leftpad, numberOf_replicate_zero_append, numberOf_decimal]

end Folio
