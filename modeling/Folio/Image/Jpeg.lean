import Folio.Color

/-!
The frame header of a JPEG file, which says all that is needed to embed the file as it is.
-/

namespace Folio

structure JpegInfo where
  width : Nat
  height : Nat
  bitsPerComponent : Nat
  space : DeviceSpace
  inverted : Bool
deriving DecidableEq, Repr

namespace Jpeg

def isFrame (marker : UInt8) : Bool :=
  0xC0 ≤ marker && marker ≤ 0xCF && marker != 0xC4 && marker != 0xC8 && marker != 0xCC

def isLast (marker : UInt8) : Bool :=
  marker == 0xD9 || marker == 0xDA

def isAdobe (marker : UInt8) (body : Bytes) : Bool :=
  marker == 0xEE && body.take 5 == utf8 "Adobe"

def spaceOf? (components : UInt8) : Option DeviceSpace :=
  if components = 1 then some .gray
  else if components = 3 then some .rgb
  else if components = 4 then some .cmyk
  else none

def frame? (adobe : Bool) : Bytes → Option JpegInfo
  | bits :: high :: low :: wide :: narrow :: components :: _ =>
      (spaceOf? components).map fun space =>
        ⟨bigEndian [wide, narrow], bigEndian [high, low], bits.toNat, space,
          adobe && space == .cmyk⟩
  | _ => none

/--
Skips segments up to the first frame. Each has a marker, which fill bytes may precede, and a length
that counts its own two bytes.
-/
def scan? (adobe : Bool) : Bytes → Option JpegInfo
  | lead :: marker :: high :: low :: rest =>
      if lead ≠ 0xFF then none
      else if marker = 0xFF then scan? adobe (marker :: high :: low :: rest)
      else
        let length := bigEndian [high, low]
        let body := rest.take (length - 2)
        if length < 2 ∨ rest.length < length - 2 then none
        else if isFrame marker then frame? adobe body
        else if isLast marker then none
        else scan? (adobe || isAdobe marker body) (rest.drop (length - 2))
  | _ => none
termination_by bytes => bytes.length
decreasing_by all_goals simp; try omega

end Jpeg

/-- The frame header of a JPEG file, unless the bytes are something else. -/
def jpegInfo? : Bytes → Option JpegInfo
  | 0xFF :: 0xD8 :: rest => Jpeg.scan? false rest
  | _ => none

end Folio
