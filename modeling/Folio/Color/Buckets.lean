import Folio.Color.Spaces
import Folio.Sorted

/-!
Buckets of profiles. Each fingerprint keeps the profiles that share it, and only those are compared
with bytes that are loaded.
-/

namespace Folio

abbrev ProfileBuckets :=
  List (Bytes × List (Id .iccColorSpace))

namespace ColorSpaces

def searchBucket (spaces : ColorSpaces) (store : Store) (bytes : Bytes) :
    List (Id .iccColorSpace) → Except Error (Option (Id .iccColorSpace))
  | [] => .ok none
  | id :: rest => do
      let item ← spaces.profiles.get id
      if (store.get? item.stream).bind Record.data? == some bytes then return some id
      spaces.searchBucket store bytes rest

/-- Loads a profile. A new one is put last into the bucket of its fingerprint. -/
def loadWithBuckets (spaces : ColorSpaces) (buckets : ProfileBuckets) (store : Store)
    (bytes : Bytes) : Except Error (Id .iccColorSpace × ColorSpaces × ProfileBuckets × Store) := do
  let fingerprint := spaces.fingerprint bytes
  match ← spaces.searchBucket store bytes (Sorted.under fingerprint buckets) with
  | some id => return (id, spaces, buckets, store)
  | none =>
      let (id, spaces, store) ← spaces.addProfile store bytes
      return (id, spaces, Sorted.push fingerprint id buckets, store)

end ColorSpaces

end Folio
