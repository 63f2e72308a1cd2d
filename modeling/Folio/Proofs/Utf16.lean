import Folio.Text.Utf16

/-!
Characters in two-byte units read back.
-/

namespace Folio

namespace Utf16

theorem unitsOfBytes?_wordBytes_append (unit : UInt16) (rest : Bytes) :
    unitsOfBytes? (wordBytes unit ++ rest) = (unitsOfBytes? rest).map (unit :: ·) := by
  have small : unit.toNat < 65536 := unit.toNat_lt
  have whole : unit.toNat / 256 % 256 * 256 + unit.toNat % 256 % 256 = unit.toNat := by omega
  show (unitsOfBytes? rest).map (UInt16.ofNat ((UInt8.ofNat (unit.toNat / 256)).toNat * 256 +
    (UInt8.ofNat (unit.toNat % 256)).toNat) :: ·) = _
  rw [UInt8.toNat_ofNat', UInt8.toNat_ofNat', whole, UInt16.ofNat_toNat]

theorem unitsOfBytes?_flatMap_wordBytes (units : List UInt16) :
    unitsOfBytes? (units.flatMap wordBytes) = some units := by
  induction units with
  | nil => rfl
  | cons unit units ih =>
      rw [List.flatMap_cons, unitsOfBytes?_wordBytes_append, ih, Option.map_some]

theorem toNat_char (char : Char) :
    char.toNat < 0xD800 ∨ 0xDFFF < char.toNat ∧ char.toNat < 0x110000 :=
  char.valid

theorem decodeUnits?_units_append (char : Char) (rest : List UInt16) :
    decodeUnits? (units char ++ rest) = (decodeUnits? rest).map (char :: ·) := by
  have valid := toNat_char char
  rw [units]
  by_cases plain : char.toNat < 0x10000
  · have unit : (UInt16.ofNat char.toNat).toNat = char.toNat := by
      rw [UInt16.toNat_ofNat', Nat.mod_eq_of_lt (by omega)]
    have single : (UInt16.ofNat char.toNat).toNat < 0xD800 ∨
        0xDFFF < (UInt16.ofNat char.toNat).toNat := by omega
    rw [if_pos plain, List.singleton_append, decodeUnits?.eq_def]
    simp only
    rw [if_pos single, unit, Char.ofNat_toNat]
  · have high : (UInt16.ofNat (0xD800 + (char.toNat - 0x10000) / 0x400)).toNat =
        0xD800 + (char.toNat - 0x10000) / 0x400 := by
      rw [UInt16.toNat_ofNat', Nat.mod_eq_of_lt (by omega)]
    have low : (UInt16.ofNat (0xDC00 + (char.toNat - 0x10000) % 0x400)).toNat =
        0xDC00 + (char.toNat - 0x10000) % 0x400 := by
      rw [UInt16.toNat_ofNat', Nat.mod_eq_of_lt (by omega)]
    have double : ¬(0xD800 + (char.toNat - 0x10000) / 0x400 < 0xD800 ∨
        0xDFFF < 0xD800 + (char.toNat - 0x10000) / 0x400) := by omega
    have paired : 0xD800 + (char.toNat - 0x10000) / 0x400 < 0xDC00 ∧
        0xDC00 ≤ 0xDC00 + (char.toNat - 0x10000) % 0x400 ∧
          0xDC00 + (char.toNat - 0x10000) % 0x400 ≤ 0xDFFF := by omega
    have whole : 0x10000 + (0xD800 + (char.toNat - 0x10000) / 0x400 - 0xD800) * 0x400 +
        (0xDC00 + (char.toNat - 0x10000) % 0x400 - 0xDC00) = char.toNat := by omega
    rw [if_neg plain, List.cons_append, List.singleton_append, decodeUnits?.eq_def]
    simp only [high, low]
    rw [if_neg double, if_pos paired, whole, Char.ofNat_toNat]

theorem decodeUnits?_flatMap_units (text : List Char) :
    decodeUnits? (text.flatMap units) = some text := by
  induction text with
  | nil => rfl
  | cons char text ih =>
      rw [List.flatMap_cons, decodeUnits?_units_append, ih, Option.map_some]

end Utf16

end Folio
