import Folio.Color.Buckets
import Folio.Proofs.Profiles
import Folio.Proofs.Sorted

/-!
Profiles are found by their buckets as they are found among all profiles, whatever is asked of a
document.
-/

namespace Folio

namespace ColorSpaces

def buckets (spaces : ColorSpaces) : ProfileBuckets :=
  Sorted.pushAll [] (spaces.profiles.toList.map fun entry => (entry.2.fingerprint, entry.1))

variable {spaces : ColorSpaces} {store : Store} {bytes : Bytes}

theorem under_buckets (spaces : ColorSpaces) (fingerprint : Bytes) :
    Sorted.under fingerprint spaces.buckets =
      (spaces.profiles.toList.filter fun entry => fingerprint = entry.2.fingerprint).map
        Prod.fst := by
  rw [buckets, Sorted.under_pushAll, List.filter_map, List.map_map]
  rfl

theorem buckets_register (spaces : ColorSpaces) (item : ProfileItem) :
    ColorSpaces.buckets { spaces with profiles := (spaces.profiles.register item).2 } =
      Sorted.push item.fingerprint spaces.profiles.nextId spaces.buckets := by
  rw [buckets, Registry.toList_register, List.map_append, Sorted.pushAll, List.foldl_append]
  rfl

/-- A profile that is registered comes last in the bucket of its fingerprint and in no other. -/
theorem under_buckets_register (spaces : ColorSpaces) (item : ProfileItem) (fingerprint : Bytes) :
    Sorted.under fingerprint
        (ColorSpaces.buckets { spaces with profiles := (spaces.profiles.register item).2 }) =
      if fingerprint = item.fingerprint then
        Sorted.under item.fingerprint spaces.buckets ++ [spaces.profiles.nextId]
      else Sorted.under fingerprint spaces.buckets := by
  rw [buckets_register, Sorted.under_push]

theorem searchBucket_eq (entries : List (Id .iccColorSpace × ProfileItem))
    (known : ∀ entry ∈ entries, spaces.profiles.get? entry.1 = some entry.2) :
    spaces.searchBucket store bytes
        ((entries.filter fun entry => spaces.fingerprint bytes = entry.2.fingerprint).map
          Prod.fst) =
      .ok ((entries.find? fun entry => entry.2.fingerprint == spaces.fingerprint bytes &&
        (store.get? entry.2.stream).bind Record.data? == some bytes).map Prod.fst) := by
  induction entries with
  | nil => rfl
  | cons entry rest ih =>
      obtain ⟨first, others⟩ := List.forall_mem_cons.mp known
      rw [List.filter_cons, List.find?_cons]
      by_cases same : spaces.fingerprint bytes = entry.2.fingerprint
      · rw [if_pos (decide_eq_true same), List.map_cons, searchBucket,
          Registry.get_eq_ok_iff.mpr first, same, beq_self_eq_true, Bool.true_and, ← same]
        simp only [bind, Except.bind]
        cases (store.get? entry.2.stream).bind Record.data? == some bytes with
        | true => rfl
        | false => exact ih others
      · rw [if_neg (by rwa [decide_eq_true_eq]), beq_eq_false_iff_ne.mpr (Ne.symm same),
          Bool.false_and]
        exact ih others

theorem searchBucket_buckets (spaces : ColorSpaces) (store : Store) (bytes : Bytes) :
    spaces.searchBucket store bytes (Sorted.under (spaces.fingerprint bytes) spaces.buckets) =
      .ok (spaces.findProfile? store bytes) := by
  rw [under_buckets]
  exact searchBucket_eq _ fun entry listed => Registry.mem_toList_iff.mp listed

theorem buckets_of_addProfile {id : Id .iccColorSpace} {after : ColorSpaces} {grown : Store}
    (added : spaces.addProfile store bytes = .ok (id, after, grown)) :
    after.buckets = Sorted.push (spaces.fingerprint bytes) id spaces.buckets := by
  rw [addProfile] at added
  split at added
  · contradiction
  · cases added
    exact spaces.buckets_register _

/-- Loading with buckets has the same outcome, and keeps the buckets in step with the profiles. -/
theorem loadWithBuckets_eq (spaces : ColorSpaces) (store : Store) (bytes : Bytes) :
    spaces.loadWithBuckets spaces.buckets store bytes =
      (spaces.loadProfile store bytes).map fun (id, after, grown) =>
        (id, after, after.buckets, grown) := by
  rw [loadWithBuckets, searchBucket_buckets, loadProfile]
  cases spaces.findProfile? store bytes with
  | some id => rfl
  | none =>
      cases added : spaces.addProfile store bytes with
      | error error => rfl
      | ok outcome =>
          obtain ⟨id, after, grown⟩ := outcome
          simp only [bind, Except.bind, pure, Except.pure, Except.map,
            buckets_of_addProfile added]

end ColorSpaces

namespace Document

/-- The outcome of an operation, where profiles are looked for in buckets beside the document. -/
def applyWithBuckets (doc : Document) (buckets : ProfileBuckets) :
    Operation → Except Error Answer × Document × ProfileBuckets
  | .loadProfile bytes =>
      match doc.colors.loadWithBuckets buckets doc.store bytes with
      | .error error => (.error error, doc, buckets)
      | .ok (id, colors, buckets, store) => (.ok (.ofId id), { doc with colors, store }, buckets)
  | operation => ((doc.apply operation).1, (doc.apply operation).2, buckets)

def runWithBuckets (doc : Document) (buckets : ProfileBuckets) :
    List Operation → List (Except Error Answer) × Document × ProfileBuckets
  | [] => ([], doc, buckets)
  | operation :: rest =>
      let (outcome, doc, buckets) := doc.applyWithBuckets buckets operation
      let (outcomes, doc, buckets) := doc.runWithBuckets buckets rest
      (outcome :: outcomes, doc, buckets)

theorem applyWithBuckets_eq (doc : Document) (operation : Operation) :
    doc.applyWithBuckets doc.colors.buckets operation =
      ((doc.apply operation).1, (doc.apply operation).2,
        (doc.apply operation).2.colors.buckets) := by
  by_cases loading : ∃ bytes, operation = .loadProfile bytes
  · obtain ⟨bytes, rfl⟩ := loading
    rw [applyWithBuckets, ColorSpaces.loadWithBuckets_eq]
    cases loaded : doc.colors.loadProfile doc.store bytes with
    | error error => simp [apply, perform, loadProfile, loaded, Except.map]
    | ok outcome => simp [apply, perform, loadProfile, loaded, Except.map]
  · have same := doc.sameProfiles_apply fun bytes equal => loading ⟨bytes, equal⟩
    rw [show (doc.apply operation).2.colors.buckets = doc.colors.buckets by
      rw [ColorSpaces.buckets, same.profiles]
      rfl]
    cases operation with
    | loadProfile bytes => exact absurd ⟨bytes, rfl⟩ loading
    | _ => rfl

theorem runWithBuckets_eq (doc : Document) (operations : List Operation) :
    doc.runWithBuckets doc.colors.buckets operations =
      ((doc.run operations).1, (doc.run operations).2, (doc.run operations).2.colors.buckets) := by
  induction operations generalizing doc with
  | nil => rfl
  | cons operation rest ih =>
      rw [runWithBuckets, applyWithBuckets_eq]
      simp only [ih, run]

/-- From the first operation on, a document without profiles and empty buckets stay in step. -/
theorem runWithBuckets_withColors (options : DocumentOptions)
    (converter : Color → DeviceSpace → Color) (fingerprint : Bytes → Bytes)
    (operations : List Operation) :
    (withColors options converter fingerprint).runWithBuckets [] operations =
      (((withColors options converter fingerprint).run operations).1,
        ((withColors options converter fingerprint).run operations).2,
        ((withColors options converter fingerprint).run operations).2.colors.buckets) :=
  (withColors options converter fingerprint).runWithBuckets_eq operations

end Document

end Folio
