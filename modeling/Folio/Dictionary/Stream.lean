import Folio.Dictionary.Color

/-!
Streams: the entries that describe their data, and the entries that say how much data follows.
-/

namespace Folio

namespace Dictionary

/-- Registry, ordering and supplement of a character collection. -/
structure CidSystemInfo where
  registry : Bytes
  ordering : Bytes
  supplement : Nat
deriving DecidableEq, Repr

namespace CidSystemInfo

def identity : CidSystemInfo :=
  ⟨utf8 "Adobe", utf8 "Identity", 0⟩

def value (info : CidSystemInfo) : Value :=
  .dict [.field "Registry" (.str info.registry), .field "Ordering" (.str info.ordering),
    .field "Supplement" (.nat info.supplement)]

end CidSystemInfo

structure ImageHead where
  width : Nat
  height : Nat
  space : ColorSpace
  bitsPerComponent : Nat
  softMask : Option Ref
deriving DecidableEq, Repr

def ImageHead.entries (image : ImageHead) : List Entry :=
  [.kind "XObject", .field "Subtype" (.name "Image"), .field "Width" (.nat image.width),
      .field "Height" (.nat image.height), .field "ColorSpace" image.space.value,
      .field "BitsPerComponent" (.nat image.bitsPerComponent)] ++
    Entry.optional "SMask" (image.softMask.map .ref)

inductive StreamHead where
  | plain
  | image (head : ImageHead)
  | imageMask (width height : Nat)
  | colorProfile (components : Nat) (alternate : Option ColorSpace)
  | fontProgram (size : Nat)
  | embeddedFile (size : Nat) (subtype : Option Name)
  | cmap (name : Name) (info : CidSystemInfo)
deriving DecidableEq, Repr

def StreamHead.entries : StreamHead → List Entry
  | .plain => []
  | .image head => head.entries
  | .imageMask width height =>
      [.kind "XObject", .field "Subtype" (.name "Image"), .field "Width" (.nat width),
        .field "Height" (.nat height), .field "ImageMask" (.bool true),
        .field "BitsPerComponent" (.nat 1)]
  | .colorProfile components alternate =>
      [.field "N" (.nat components)] ++
        Entry.optional "Alternate" (alternate.map ColorSpace.value)
  | .fontProgram size => [.field "Length1" (.nat size)]
  | .embeddedFile size subtype =>
      [.kind "EmbeddedFile"] ++ Entry.optional "Subtype" (subtype.map .name) ++
        [.field "Params" (.dict [.field "Size" (.nat size)])]
  | .cmap name info =>
      [.kind "CMap", .field "CMapName" (.name name), .field "CIDSystemInfo" info.value]

def storedStream (entries : List Entry) (filter : Option Name) (length : Nat) : Value :=
  .dict (entries ++ [.field "Length" (.nat length)] ++
    Entry.optional "Filter" (filter.map .name))

def deflatedStream (entries : List Entry) (length plainLength : Nat) : Value :=
  .dict (entries ++ [.field "Length" (.nat length), .field "Filter" (.name "FlateDecode"),
    .field "DL" (.nat plainLength)])

end Dictionary

end Folio
