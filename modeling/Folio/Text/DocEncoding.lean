import Folio.Bytes

/-!
PDFDocEncoding, a one-byte code for Latin text. Most codes equal the code point; the others are
listed.
-/

namespace Folio

namespace DocEncoding

def isOwnCode (point : Nat) : Bool :=
  point == 0x09 || point == 0x0A || point == 0x0D
    || (0x20 ≤ point && point ≤ 0x7E)
    || (0xA1 ≤ point && point ≤ 0xAC)
    || (0xAE ≤ point && point ≤ 0xFF)

def listed : List (Nat × UInt8) :=
  [(0x02D8, 0x18), (0x02C7, 0x19), (0x02C6, 0x1A), (0x02D9, 0x1B),
    (0x02DD, 0x1C), (0x02DB, 0x1D), (0x02DA, 0x1E), (0x02DC, 0x1F),
    (0x2022, 0x80), (0x2020, 0x81), (0x2021, 0x82), (0x2026, 0x83),
    (0x2014, 0x84), (0x2013, 0x85), (0x0192, 0x86), (0x2044, 0x87),
    (0x2039, 0x88), (0x203A, 0x89), (0x2212, 0x8A), (0x2030, 0x8B),
    (0x201E, 0x8C), (0x201C, 0x8D), (0x201D, 0x8E), (0x2018, 0x8F),
    (0x2019, 0x90), (0x201A, 0x91), (0x2122, 0x92), (0xFB01, 0x93),
    (0xFB02, 0x94), (0x0141, 0x95), (0x0152, 0x96), (0x0160, 0x97),
    (0x0178, 0x98), (0x017D, 0x99), (0x0131, 0x9A), (0x0142, 0x9B),
    (0x0153, 0x9C), (0x0161, 0x9D), (0x017E, 0x9E), (0x20AC, 0xA0)]

def encodeChar (char : Char) : Option UInt8 :=
  if isOwnCode char.toNat then some (UInt8.ofNat char.toNat) else listed.lookup char.toNat

/-- One byte per character, or the first character that has no code. -/
def encodeChars : List Char → Except Char Bytes
  | [] => .ok []
  | char :: rest =>
      match encodeChar char with
      | none => .error char
      | some byte => (encodeChars rest).map (byte :: ·)

def encode (text : String) : Except Char Bytes :=
  encodeChars text.toList

def message (char : Char) : String :=
  "Codepoint U+" ++ String.ofList ((Nat.toDigits 16 char.toNat).leftpad 4 '0') ++
    " is not valid in PDFDocEncoding"

end DocEncoding

end Folio
