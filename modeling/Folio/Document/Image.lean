import Folio.Document.Font
import Folio.Image.Source

/-!
Images of a document. An alpha channel becomes an image of its own.
-/

namespace Folio

namespace Document

def registerImage (target : Ref) : Build (Id .image) :=
  modifyGet fun doc =>
    let (id, images) := doc.images.register target
    (id, { doc with images })

def jpegEntries (info : JpegInfo) : List Entry :=
  let head : Dictionary.ImageHead :=
    ⟨info.width, info.height, info.space.colorSpace, info.bitsPerComponent, none⟩
  head.entries ++
    if info.inverted then [.field "Decode" (.arr ([1, 0, 1, 0, 1, 0, 1, 0].map Value.nat))] else []

/-- A JPEG file is never deflated. -/
def addJpeg (info : JpegInfo) (data : Bytes) : Build (Id .image) := do
  registerImage (← Build.allocate (.stored (jpegEntries info) (some "DCTDecode") data))

def addBilevelImage (image : BilevelImage) : Build (Id .image) := do
  Build.loaded "image" image.validate
  let head : Dictionary.ImageHead := ⟨image.width, image.height, .gray, 1, none⟩
  registerImage (← Build.stream head.entries image.data)

def addMaskImage (image : BilevelImage) : Build (Id .image) := do
  Build.loaded "image" image.validate
  let head := Dictionary.StreamHead.imageMask image.width image.height
  registerImage (← Build.stream head.entries image.data)

def imageSpace (doc : Document) (image : RasterImage) : Except Error Dictionary.ColorSpace :=
  match image.profile with
  | none => .ok image.space.colorSpace
  | some profile => (doc.colors.profileRef profile).map .ref

def softMask (image : RasterImage) : Build (Option Ref) := do
  match image.alpha with
  | none => return none
  | some alpha =>
      let head : Dictionary.ImageHead := ⟨image.width, image.height, .gray, 8, none⟩
      return some (← Build.stream head.entries alpha)

def addImage (image : RasterImage) : Build (Id .image) := do
  Build.loaded "image" image.validate
  let space ← Build.ofExcept ((← get).imageSpace image)
  let mask ← softMask image
  let head : Dictionary.ImageHead := ⟨image.width, image.height, space, 8, mask⟩
  registerImage (← Build.stream head.entries image.data)

def addImageSource : ImageSource → Build (Id .image)
  | .jpeg info data => addJpeg info data
  | .raster image => addImage image
  | .bilevel image => addBilevelImage image

def loadImage (path : String) (contents : Option Bytes) : Build (Id .image) := do
  addImageSource (← Build.loaded path (ImageSource.load contents))

def loadMaskImage (path : String) (contents : Option Bytes) : Build (Id .image) := do
  match ← Build.loaded path (ImageSource.load contents) with
  | .bilevel image => addMaskImage image
  | _ => throw (.load path (.invalidImage .notBilevel))

def imageRef (doc : Document) (id : Id .image) : Except Error Ref :=
  doc.images.get id

end Document

end Folio
