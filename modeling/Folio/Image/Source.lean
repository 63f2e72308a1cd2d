import Folio.Image.Bilevel
import Folio.Image.Jpeg
import Folio.Image.Png
import Folio.Image.Pnm
import Folio.Image.Raster

/-!
Reading image files. JPEG files stay as they are, images of one bit for each pixel stay at one bit,
and all others become samples of eight bits with their alpha channel apart.
-/

namespace Folio

/-- An image that is ready to be added to a document. -/
inductive ImageSource where
  | jpeg (info : JpegInfo) (data : Bytes)
  | raster (image : RasterImage)
  | bilevel (image : BilevelImage)
deriving DecidableEq, Repr

namespace ImageSource

/-- Decodes a file of a format that is told by its first bytes. -/
def pixmap? (bytes : Bytes) : Option Pixmap :=
  if bytes.take 8 = Png.signature then Png.decode? bytes
  else if Pnm.recognizes bytes then Pnm.decode? bytes
  else none

def rasterOf (image : Pixmap) : RasterImage :=
  let raster (space : DeviceSpace) (data : Bytes) (alpha : Option Bytes) : RasterImage :=
    ⟨image.width, image.height, space, data, alpha, none⟩
  let colors (size : Nat) : Bytes := image.pixels.flatMap fun pixel => pixel.take size
  let alpha (size : Nat) : Option Bytes := some (image.pixels.flatMap fun pixel => pixel.drop size)
  match image.channels with
  | .gray => raster .gray image.samples none
  | .rgb => raster .rgb image.samples none
  | .grayAlpha => raster .gray (colors 1) (alpha 1)
  | .rgbAlpha => raster .rgb (colors 3) (alpha 3)

def grayOf (image : Pixmap) : Bytes :=
  image.pixels.flatMap fun pixel => pixel.take 1

def ofPixmap? (image : Pixmap) : Option ImageSource :=
  if image.bilevel then
    (BilevelImage.ofGray? image.width image.height (grayOf image)).map .bilevel
  else some (.raster (rasterOf image))

def decode (bytes : Bytes) : Except LoadError ImageSource :=
  match jpegInfo? bytes with
  | some info => .ok (.jpeg info bytes)
  | none =>
      match (pixmap? bytes).bind ofPixmap? with
      | some source => .ok source
      | none => .error .image

/-- Reads an image file, given its contents where there are any. -/
def load (contents : Option Bytes) : Except LoadError ImageSource :=
  match contents with
  | none => .error .unreadable
  | some bytes => decode bytes

end ImageSource

end Folio
