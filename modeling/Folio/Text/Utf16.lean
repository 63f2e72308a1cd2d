import Folio.Bytes

/-!
UTF-16, most significant byte first.
-/

namespace Folio

namespace Utf16

/-- One unit, or a surrogate pair for a character beyond the first plane. -/
def units (char : Char) : List UInt16 :=
  if char.toNat < 0x10000 then [UInt16.ofNat char.toNat]
  else
    let offset := char.toNat - 0x10000
    [UInt16.ofNat (0xD800 + offset / 0x400), UInt16.ofNat (0xDC00 + offset % 0x400)]

def mark : Bytes :=
  [0xFE, 0xFF]

def encode (text : String) : Bytes :=
  mark ++ (text.toList.flatMap units).flatMap wordBytes

/-- The characters of a sequence of units, unless a surrogate stands alone. -/
def decodeUnits? : List UInt16 → Option (List Char)
  | [] => some []
  | unit :: rest =>
      if unit.toNat < 0xD800 ∨ 0xDFFF < unit.toNat then
        (decodeUnits? rest).map (Char.ofNat unit.toNat :: ·)
      else
        match rest with
        | low :: rest =>
            if unit.toNat < 0xDC00 ∧ 0xDC00 ≤ low.toNat ∧ low.toNat ≤ 0xDFFF then
              (decodeUnits? rest).map
                (Char.ofNat (0x10000 + (unit.toNat - 0xD800) * 0x400 + (low.toNat - 0xDC00)) :: ·)
            else none
        | [] => none

/-- The units of a byte sequence, unless a byte is left over. -/
def unitsOfBytes? : Bytes → Option (List UInt16)
  | [] => some []
  | [_] => none
  | high :: low :: rest =>
      (unitsOfBytes? rest).map (UInt16.ofNat (high.toNat * 256 + low.toNat) :: ·)

def decode? (bytes : Bytes) : Option String :=
  (unitsOfBytes? bytes).bind fun units => (decodeUnits? units).map String.ofList

end Utf16

end Folio
