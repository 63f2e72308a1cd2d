import Folio.Error

/-!
Images of one bit for each pixel. Rows are padded to whole bytes, the leftmost pixel is the most
significant bit, and a clear bit is black.
-/

namespace Folio

structure BilevelImage where
  width : Nat
  height : Nat
  data : Bytes
deriving DecidableEq, Repr

namespace BilevelImage

def rowBytes (width : Nat) : Nat :=
  (width + 7) / 8

/-- The bits of at most eight gray levels: set from middle gray on, clear for missing levels. -/
def packByte (levels : Bytes) : UInt8 :=
  UInt8.ofNat ((List.range 8).foldl (fun value place =>
    2 * value + if 0x80 ≤ levels.getD place 0 then 1 else 0) 0)

def packRow : (count : Nat) → Bytes → Bytes
  | 0, _ => []
  | count + 1, levels => packByte (levels.take 8) :: packRow count (levels.drop 8)

def packRows (width : Nat) : (height : Nat) → Bytes → Bytes
  | 0, _ => []
  | height + 1, levels =>
      packRow (rowBytes width) (if width ≤ levels.length then levels.take width else []) ++
        packRows width height (levels.drop width)

/-- Whether the gray levels hold a whole row below the last row of the image. -/
def overflows (width height : Nat) (levels : Bytes) : Bool :=
  0 < width && width * (height + 1) ≤ levels.length

def ofGray? (width height : Nat) (levels : Bytes) : Option BilevelImage :=
  if overflows width height levels then none
  else some ⟨width, height, packRows width height levels⟩

def expectedSize (image : BilevelImage) : Nat :=
  rowBytes image.width * image.height

def validate (image : BilevelImage) : Except LoadError Unit :=
  if image.data.length = image.expectedSize then .ok ()
  else .error (.invalidImage (.bilevelRows image.expectedSize image.data.length))

end BilevelImage

end Folio
