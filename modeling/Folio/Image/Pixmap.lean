import Folio.Bytes

/-!
Decoded images before they are prepared for a document.
-/

namespace Folio

inductive Channels where
  | gray
  | grayAlpha
  | rgb
  | rgbAlpha
deriving DecidableEq, Repr

namespace Channels

def count : Channels → Nat
  | .gray => 1
  | .grayAlpha => 2
  | .rgb => 3
  | .rgbAlpha => 4

end Channels

/-- An image of eight bits for each sample. -/
structure Pixmap where
  width : Nat
  height : Nat
  channels : Channels
  /-- Whether the image was stored with one bit for each pixel. -/
  bilevel : Bool
  samples : Bytes
deriving DecidableEq, Repr

namespace Pixmap

def narrow (sample : Nat) : UInt8 :=
  UInt8.ofNat ((sample + 128) / 257)

def pixels (image : Pixmap) : List Bytes :=
  groupsOf image.channels.count (image.width * image.height) image.samples

end Pixmap

end Folio
