import Folio.Image.Png.Rows
import Folio.Inflate

/-!
Portable network graphics as pixmaps. Colours of a palette stand for themselves, and samples of
fewer than eight bits are spread over the whole range.
-/

namespace Folio

namespace Png

def isBilevel (bytes : Bytes) : Bool :=
  bytes.take 8 == signature && slice? bytes 12 4 == some (utf8 "IHDR") &&
    slice? bytes 24 2 == some [1, 0]

def widen (depth sample : Nat) : UInt8 :=
  if depth = 16 then Pixmap.narrow sample
  else UInt8.ofNat (sample * (255 / ((1 <<< depth) - 1)))

def paletteColor (palette : Bytes) (index : Nat) : Bytes :=
  (slice? palette (3 * index) 3).getD [0, 0, 0]

/-- The alpha of a colour; a palette with fewer colours than alpha values has none at all. -/
def paletteAlpha (palette alpha : Bytes) (index : Nat) : UInt8 :=
  if alpha.length ≤ palette.length / 3 then alpha.getD index 255 else 255

def keyOf (header : Header) (data : Bytes) : Bytes :=
  if header.depth = 16 then data
  else (groupsOf 2 header.colorType.components data).flatMap fun word => word.drop 1

def storedPixel (header : Header) (pixel : List Nat) : Bytes :=
  pixel.flatMap fun sample =>
    if header.depth = 16 then wordBytes (UInt16.ofNat sample) else [UInt8.ofNat sample]

/-- A pixel of eight bits for each sample, with alpha where the image tells of transparency. -/
def color? (metadata : Metadata) (pixel : List Nat) : Option Bytes :=
  let header := metadata.header
  match header.colorType, metadata.transparency with
  | .indexed, transparency => do
      let palette ← metadata.palette
      some (pixel.flatMap fun index => paletteColor palette index ++
        (transparency.map fun alpha => paletteAlpha palette alpha index).toList)
  | _, transparency =>
      some (pixel.map (widen header.depth) ++
        (transparency.map fun data =>
          if storedPixel header pixel = keyOf header data then 0 else 255).toList)

def channelsOf (metadata : Metadata) : Channels :=
  let solid := metadata.transparency.isNone
  match metadata.header.colorType with
  | .gray => if solid then .gray else .grayAlpha
  | .grayAlpha => .grayAlpha
  | .rgb | .indexed => if solid then .rgb else .rgbAlpha
  | .rgbAlpha => .rgbAlpha

def decode? (bytes : Bytes) : Option Pixmap := do
  let (first, rest) ← chunk? (bytes.drop 8)
  let header ← if first.isA "IHDR" && first.sound then header? first.data else none
  let (metadata, rest) ← metadata? rest.length ⟨header, none, none, false, none⟩ rest
  let parts ← imageData? rest.length rest
  let pixels ← pixels? header (← Inflate.decode? header.dataLength parts)
  let colors ← pixels.mapM (color? metadata)
  some ⟨header.width, header.height, channelsOf metadata, isBilevel bytes, colors.flatten⟩

end Png

end Folio
