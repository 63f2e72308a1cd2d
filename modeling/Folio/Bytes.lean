/-!
Byte sequences, and the digits in which the file format writes numbers.
-/

namespace Folio

abbrev Bytes := List UInt8

def utf8 (text : String) : Bytes :=
  text.toList.flatMap String.utf8EncodeChar

@[simp] theorem utf8_empty : utf8 "" = [] := rfl

/-- The byte that shows a digit below sixteen, letters in upper case. -/
def digitByte (digit : Nat) : UInt8 :=
  UInt8.ofNat (if digit < 10 then 48 + digit else 55 + digit)

def decimal (number : Nat) : Bytes :=
  (Nat.toDigits 10 number).map fun digit => UInt8.ofNat digit.toNat

def signedDecimal : Int → Bytes
  | .ofNat number => decimal number
  | .negSucc number => 45 :: decimal (number + 1)

def paddedDecimal (width number : Nat) : Bytes :=
  (decimal number).leftpad width 48

def octalByte (byte : UInt8) : Bytes :=
  [digitByte (byte.toNat / 64), digitByte (byte.toNat / 8 % 8), digitByte (byte.toNat % 8)]

def hexByte (byte : UInt8) : Bytes :=
  [digitByte (byte.toNat / 16), digitByte (byte.toNat % 16)]

def hexByteLower (byte : UInt8) : Bytes :=
  (hexByte byte).map fun digit => if digit < 65 then digit else digit + 32

def groupsOf {α : Type} (size : Nat) : (count : Nat) → List α → List (List α)
  | 0, _ => []
  | count + 1, entries => entries.take size :: groupsOf size count (entries.drop size)

def wordBytes (word : UInt16) : Bytes :=
  [UInt8.ofNat (word.toNat / 256), UInt8.ofNat (word.toNat % 256)]

/-- The number that a sequence of bytes spells in base 256. -/
def bigEndian (bytes : Bytes) : Nat :=
  bytes.foldl (fun value byte => value * 256 + byte.toNat) 0

/-- The `count` bytes from `offset` on, if they are all there; the offset may not lie outside. -/
def slice? (bytes : Bytes) (offset count : Nat) : Option Bytes :=
  let found := (bytes.drop offset).take count
  if found.length = count ∧ (count ≠ 0 ∨ offset ≤ bytes.length) then some found else none

theorem slice?_eq (bytes : Bytes) (offset count : Nat) :
    slice? bytes offset count =
      if offset + count ≤ bytes.length then some ((bytes.drop offset).take count) else none := by
  have fits : ((bytes.drop offset).take count).length = count ∧
      (count ≠ 0 ∨ offset ≤ bytes.length) ↔ offset + count ≤ bytes.length := by
    rw [List.length_take, List.length_drop]
    omega
  simp only [slice?, fits]

def littleEndian : (width : Nat) → Nat → Bytes
  | 0, _ => []
  | width + 1, number => UInt8.ofNat number :: littleEndian width (number / 256)

end Folio
