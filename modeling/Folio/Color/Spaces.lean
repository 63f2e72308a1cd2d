import Folio.Color.Profile
import Folio.Dictionary.Graphics
import Folio.Registry
import Folio.Store

/-!
The colour spaces of a document: profiles, `Lab` spaces and colorants. A profile that was loaded
before is found again by its fingerprint and then by its bytes; `Folio.Color.Buckets` keeps the
profiles of each fingerprint together.
-/

namespace Folio

structure ProfileItem where
  stream : Ref
  space : Ref
  profile : IccProfile
  fingerprint : Bytes
deriving DecidableEq, Repr

structure SeparationItem where
  space : Ref
  /-- The colour of the full tint where the colorant is not at hand. -/
  fallback : Color
deriving DecidableEq, Repr

structure ColorSpaces where
  /-- The space of colours that the document writes of its own accord. -/
  output : DeviceSpace
  /-- Called only for a colour that is not in the target space already. -/
  converter : Color → DeviceSpace → Color
  fingerprint : Bytes → Bytes
  compress : Bool
  profiles : Registry .iccColorSpace ProfileItem
  labs : Registry .labColorSpace Ref
  separations : Registry .separation SeparationItem

namespace ColorSpaces

def empty (output : DeviceSpace) (converter : Color → DeviceSpace → Color)
    (fingerprint : Bytes → Bytes) (compress : Bool) : ColorSpaces :=
  ⟨output, converter, fingerprint, compress, .empty, .empty, .empty⟩

def findProfile? (spaces : ColorSpaces) (store : Store) (bytes : Bytes) :
    Option (Id .iccColorSpace) :=
  (spaces.profiles.toList.find? fun (_, item) =>
    item.fingerprint == spaces.fingerprint bytes &&
      (store.get? item.stream).bind Record.data? == some bytes).map Prod.fst

def addProfile (spaces : ColorSpaces) (store : Store) (bytes : Bytes) :
    Except Error (Id .iccColorSpace × ColorSpaces × Store) :=
  match IccProfile.parse bytes with
  | .error fault => .error (.load "ICC profile" (.profile fault))
  | .ok profile =>
      let head := Dictionary.StreamHead.colorProfile profile.space.components
        (some profile.space.colorSpace)
      let (stream, store) := store.allocate (.stream spaces.compress head.entries bytes)
      let family := Dictionary.ColorSpaceFamily.iccBased stream
      let (space, store) := store.allocate (.object family.value)
      let (id, profiles) := spaces.profiles.register
        ⟨stream, space, profile, spaces.fingerprint bytes⟩
      .ok (id, { spaces with profiles }, store)

def loadProfile (spaces : ColorSpaces) (store : Store) (bytes : Bytes) :
    Except Error (Id .iccColorSpace × ColorSpaces × Store) :=
  match spaces.findProfile? store bytes with
  | some id => .ok (id, spaces, store)
  | none => spaces.addProfile store bytes

def profileRef (spaces : ColorSpaces) (id : Id .iccColorSpace) : Except Error Ref :=
  (spaces.profiles.get id).map ProfileItem.space

def profileStream (spaces : ColorSpaces) (id : Id .iccColorSpace) : Except Error Ref :=
  (spaces.profiles.get id).map ProfileItem.stream

def profileSpace (spaces : ColorSpaces) (id : Id .iccColorSpace) : Except Error DeviceSpace :=
  (spaces.profiles.get id).map fun item => item.profile.space

def addLab (spaces : ColorSpaces) (store : Store) (params : Dictionary.LabParams) :
    Id .labColorSpace × ColorSpaces × Store :=
  let (space, store) := store.allocate (.object (Dictionary.ColorSpaceFamily.lab params).value)
  let (id, labs) := spaces.labs.register space
  (id, { spaces with labs }, store)

def labRef (spaces : ColorSpaces) (id : Id .labColorSpace) : Except Error Ref :=
  spaces.labs.get id

def tint (fallback : Color) : Dictionary.Function :=
  .exponential [0, 1] (fallback.components.map fun _ => 0) fallback.components 1

def addSeparation (spaces : ColorSpaces) (store : Store) (name : String) (fallback : Color) :
    Id .separation × ColorSpaces × Store :=
  let (function, store) := store.allocate (.object (tint fallback).value)
  let family := Dictionary.ColorSpaceFamily.separation name fallback.space.colorSpace function
  let (space, store) := store.allocate (.object family.value)
  let (id, separations) := spaces.separations.register ⟨space, fallback⟩
  (id, { spaces with separations }, store)

def separationRef (spaces : ColorSpaces) (id : Id .separation) : Except Error Ref :=
  (spaces.separations.get id).map SeparationItem.space

def separationFallback (spaces : ColorSpaces) (id : Id .separation) : Except Error Color :=
  (spaces.separations.get id).map SeparationItem.fallback

def convert (spaces : ColorSpaces) (color : Color) (target : DeviceSpace) : Color :=
  color.convertWith spaces.converter target

def toOutput (spaces : ColorSpaces) (color : Color) : Color :=
  spaces.convert color spaces.output

def summary (spaces : ColorSpaces) : String :=
  "ColorManager \x7b output: " ++ spaces.output.name ++ ", icc: " ++
    toString spaces.profiles.size ++ ", labs: " ++ toString spaces.labs.size ++
    ", separations: " ++ toString spaces.separations.size ++ " \x7d"

end ColorSpaces

end Folio
