import Folio.Color
import Folio.Error

/-!
Images of eight bits for each sample, with an optional alpha channel apart.
-/

namespace Folio

structure RasterImage where
  width : Nat
  height : Nat
  space : DeviceSpace
  data : Bytes
  alpha : Option Bytes
  /-- The profile to use in place of the device space. -/
  profile : Option (Id .iccColorSpace)
deriving DecidableEq, Repr

namespace RasterImage

def pixels (image : RasterImage) : Nat :=
  image.width * image.height

def expectedSamples (image : RasterImage) : Nat :=
  image.pixels * image.space.components

/-- Counts of samples stay below this number, the first that does not fit a machine word. -/
def countLimit : Nat :=
  0x10000000000000000

/-- The samples must match the dimensions, and the dimensions must allow them to be counted. -/
def validate (image : RasterImage) : Except LoadError Unit :=
  if countLimit ≤ image.expectedSamples then .error (.invalidImage .tooManySamples)
  else if image.data.length ≠ image.expectedSamples then
    .error (.invalidImage (.samples image.expectedSamples image.data.length))
  else
    match image.alpha with
    | none => .ok ()
    | some alpha =>
        if alpha.length = image.pixels then .ok ()
        else .error (.invalidImage (.alphaSamples image.pixels alpha.length))

end RasterImage

end Folio
