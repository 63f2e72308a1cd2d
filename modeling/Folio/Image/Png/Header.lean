import Folio.Image.Pixmap
import Folio.Image.Png.Chunk

/-!
What the chunks before the image data tell of it. A chunk that is no condition for showing the
image is passed over where it is damaged, out of place or said again; data of frames may not stand
there.
-/

namespace Folio

namespace Png

inductive ColorType where
  | gray
  | rgb
  | indexed
  | grayAlpha
  | rgbAlpha
deriving DecidableEq, Repr

namespace ColorType

def ofByte? (byte : UInt8) : Option ColorType :=
  if byte = 0 then some .gray
  else if byte = 2 then some .rgb
  else if byte = 3 then some .indexed
  else if byte = 4 then some .grayAlpha
  else if byte = 6 then some .rgbAlpha
  else none

def depths : ColorType → List Nat
  | .gray => [1, 2, 4, 8, 16]
  | .indexed => [1, 2, 4, 8]
  | _ => [8, 16]

def components : ColorType → Nat
  | .gray | .indexed => 1
  | .grayAlpha => 2
  | .rgb => 3
  | .rgbAlpha => 4

end ColorType

structure Header where
  width : Nat
  height : Nat
  depth : Nat
  colorType : ColorType
  interlaced : Bool
deriving DecidableEq, Repr

def header? (data : Bytes) : Option Header := do
  let width := bigEndian (← slice? data 0 4)
  let height := bigEndian (← slice? data 4 4)
  match data.drop 8 with
  | [depth, colorType, 0, 0, interlace] =>
      let colorType ← ColorType.ofByte? colorType
      if width = 0 ∨ height = 0 ∨ ¬ depth.toNat ∈ colorType.depths ∨ 1 < interlace then none
      else some ⟨width, height, depth.toNat, colorType, interlace == 1⟩
  | _ => none

structure Metadata where
  header : Header
  palette : Option Bytes
  transparency : Option Bytes
  hasCodePoints : Bool
  frame : Option Nat
deriving DecidableEq, Repr

namespace Metadata

/-- Alpha values belong to a palette, a transparent colour to an image without alpha samples. -/
def allowsTransparency (metadata : Metadata) (data : Bytes) : Bool :=
  metadata.transparency.isNone &&
    match metadata.header.colorType with
    | .gray => 2 ≤ data.length
    | .rgb => 6 ≤ data.length
    | .indexed => metadata.palette.isSome
    | .grayAlpha | .rgbAlpha => false

def nextFrame (metadata : Metadata) : Nat :=
  match metadata.frame with
  | none => 0
  | some frame => frame + 1

/-- The number of a frame that covers the whole image and comes next. -/
def frame? (metadata : Metadata) (chunk : Chunk) : Option Nat :=
  let number (offset count : Nat) := bigEndian ((chunk.data.drop offset).take count)
  if chunk.fits ∧ number 0 4 = metadata.nextFrame ∧ number 4 4 = metadata.header.width ∧
      number 8 4 = metadata.header.height ∧ number 12 4 = 0 ∧ number 16 4 = 0 ∧
      number 24 1 ≤ 2 ∧ number 25 1 ≤ 1 then
    some metadata.nextFrame
  else none

/-- Code points are for samples of red, green and blue, in the narrow or in the full range. -/
def validCodePoints : Bytes → Bool
  | [_, _, matrix, range] => matrix == 0 && range ≤ 1
  | _ => false

def chunk? (metadata : Metadata) (chunk : Chunk) : Option Metadata :=
  if chunk.isCritical then
    if chunk.isA "PLTE" && chunk.sound && chunk.fits && metadata.palette.isNone then
      some { metadata with palette := some chunk.data }
    else none
  else if !chunk.sound then some metadata
  else if chunk.isA "fcTL" then
    (metadata.frame? chunk).map fun frame => { metadata with frame := some frame }
  else if !chunk.fits then some metadata
  else if chunk.isA "tRNS" then
    if metadata.allowsTransparency chunk.data then
      some { metadata with transparency := some chunk.data }
    else some metadata
  else if chunk.isA "cICP" then
    if metadata.palette.isSome || metadata.hasCodePoints then some metadata
    else if validCodePoints chunk.data then some { metadata with hasCodePoints := true }
    else none
  else some metadata

end Metadata

/-- The metadata of an image, and what follows from the first chunk with image data on. -/
def metadata? : (count : Nat) → Metadata → Bytes → Option (Metadata × Bytes)
  | 0, _, _ => none
  | count + 1, metadata, bytes => do
      let kind ← slice? bytes 4 4
      if kind = utf8 "IDAT" then some (metadata, bytes)
      else if kind = utf8 "fdAT" then none
      else
        let (chunk, rest) ← chunk? bytes
        metadata? count (← metadata.chunk? chunk) rest

/--
The data of the chunks with image data at the front, part by part. All of them must be sound, and
the head of another chunk must follow.
-/
def imageData? : (count : Nat) → Bytes → Option (List Bytes)
  | 0, _ => none
  | count + 1, bytes => do
      if (← slice? bytes 4 4) ≠ utf8 "IDAT" then some []
      else
        let (chunk, rest) ← chunk? bytes
        if chunk.sound then some (chunk.data :: (← imageData? count rest)) else none

end Png

end Folio
