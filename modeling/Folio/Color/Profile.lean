import Folio.Color
import Folio.Error

/-!
The header of an ICC colour profile.
-/

namespace Folio

/-- What a document needs to know about a profile. -/
structure IccProfile where
  space : DeviceSpace
  majorVersion : Nat
  minorVersion : Nat
deriving DecidableEq, Repr

namespace IccProfile

def headerSize : Nat :=
  128

def spaceOf? (signature : Bytes) : Option DeviceSpace :=
  if signature = utf8 "GRAY" then some .gray
  else if signature = utf8 "RGB " then some .rgb
  else if signature = utf8 "CMYK" then some .cmyk
  else none

def parse (bytes : Bytes) : Except ProfileError IccProfile :=
  if bytes.length < headerSize then .error (.tooShort bytes.length)
  else if (bytes.drop 36).take 4 ≠ utf8 "acsp" then .error .badSignature
  else
    let signature := (bytes.drop 16).take 4
    match spaceOf? signature with
    | none => .error (.unsupportedSpace signature)
    | some space => .ok ⟨space, (bytes.getD 8 0).toNat, (bytes.getD 9 0).toNat / 16⟩

end IccProfile

end Folio
