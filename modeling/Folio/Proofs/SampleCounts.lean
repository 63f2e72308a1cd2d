import Folio.Proofs.Effects

/-!
Counts of samples in machine words. An image is valid if its samples are as many as its dimensions
ask for, and what a document stores of it is as long as the head of the stream says; only dimensions
whose samples cannot be counted in a word are refused without looking at the samples.
-/

namespace Folio

def wordProduct? (first second : Nat) : Option Nat :=
  if first * second < RasterImage.countLimit then some (first * second) else none

theorem wordProduct?_eq_some_iff {first second product : Nat} :
    wordProduct? first second = some product ↔
      first * second < RasterImage.countLimit ∧ first * second = product := by
  rw [wordProduct?]
  split
  · next fits => simp [fits]
  · next beyond => simp [beyond]

namespace RasterImage

/-- Compares the samples with what is counted, if the counting stays within machine words. -/
def check? (image : RasterImage) : Option (Except LoadError Unit) := do
  let pixels ← wordProduct? image.width image.height
  let expected ← wordProduct? pixels image.space.components
  if image.data.length ≠ expected then
    return .error (.invalidImage (.samples expected image.data.length))
  match image.alpha with
  | none => return .ok ()
  | some alpha =>
      if alpha.length ≠ pixels then
        return .error (.invalidImage (.alphaSamples pixels alpha.length))
      return .ok ()

variable {image : RasterImage}

theorem pixels_lt (width height : UInt32) {space : DeviceSpace} {data : Bytes}
    {alpha : Option Bytes} {profile : Option (Id .iccColorSpace)} :
    RasterImage.pixels ⟨width.toNat, height.toNat, space, data, alpha, profile⟩ < countLimit :=
  Nat.mul_lt_mul'' width.toNat_lt height.toNat_lt

theorem check?_eq (counted : image.pixels < countLimit) :
    image.check? = if countLimit ≤ image.expectedSamples then none else some image.validate := by
  have first : wordProduct? image.width image.height = some image.pixels :=
    wordProduct?_eq_some_iff.mpr ⟨counted, rfl⟩
  rw [check?, first, Option.bind_eq_bind, Option.bind_some, wordProduct?, ← expectedSamples,
    validate]
  by_cases beyond : countLimit ≤ image.expectedSamples
  · rw [if_neg (Nat.not_lt.mpr beyond), if_pos beyond]
    rfl
  · rw [if_pos (Nat.not_le.mp beyond), if_neg beyond, if_neg beyond, Option.bind_some]
    split
    · rfl
    · cases image.alpha with
      | none => rfl
      | some alpha =>
          dsimp only
          by_cases same : alpha.length = image.pixels
          · rw [if_pos same, if_neg (not_not_intro same)]
            rfl
          · rw [if_neg same, if_pos same]
            rfl

theorem check?_eq_none_iff (counted : image.pixels < countLimit) :
    image.check? = none ↔ countLimit ≤ image.expectedSamples := by
  rw [check?_eq counted]
  split
  · next beyond => exact iff_of_true rfl beyond
  · next fits => exact iff_of_false (Option.some_ne_none _) fits

/-- The samples of an image that are there are those that its dimensions ask for. -/
structure Complete (image : RasterImage) : Prop where
  data : image.data.length = image.width * image.height * image.space.components
  alpha : ∀ alpha, image.alpha = some alpha → alpha.length = image.width * image.height

theorem validate_eq_ok_iff :
    image.validate = .ok () ↔ image.expectedSamples < countLimit ∧ image.Complete := by
  rw [validate]
  by_cases beyond : countLimit ≤ image.expectedSamples
  · rw [if_pos beyond]
    exact iff_of_false (by simp) fun complete => Nat.not_lt.mpr beyond complete.1
  · rw [if_neg beyond]
    by_cases whole : image.data.length = image.expectedSamples
    · rw [if_neg (not_not_intro whole)]
      cases channel : image.alpha with
      | none =>
          refine iff_of_true rfl ⟨Nat.not_le.mp beyond, whole, fun alpha present => ?_⟩
          rw [channel] at present
          contradiction
      | some alpha =>
          dsimp only
          split
          · next same =>
            refine iff_of_true rfl ⟨Nat.not_le.mp beyond, whole, fun other present => ?_⟩
            rw [channel, Option.some_inj] at present
            rw [← present]
            exact same
          · next differs =>
            exact iff_of_false (by simp) fun complete => differs (complete.2.alpha alpha channel)
    · rw [if_pos whole]
      exact iff_of_false (by simp) fun complete => whole complete.2.data

end RasterImage

def Dictionary.ImageHead.dataSize (head : Dictionary.ImageHead) (components : Nat) : Nat :=
  (head.width * components * head.bitsPerComponent + 7) / 8 * head.height

theorem Dictionary.ImageHead.dataSize_bytes (head : Dictionary.ImageHead)
    (bytes : head.bitsPerComponent = 8) (components : Nat) :
    head.dataSize components = head.width * head.height * components := by
  have whole : (head.width * components * 8 + 7) / 8 = head.width * components := by omega
  rw [dataSize, bytes, whole, Nat.mul_right_comm]

def RasterImage.alphaHead (image : RasterImage) : Dictionary.ImageHead :=
  ⟨image.width, image.height, .gray, 8, none⟩

namespace Document

open Build

variable {doc after : Document} {image : RasterImage}

theorem run_addImage (image : RasterImage) (doc : Document) :
    (addImage image).run doc =
      match image.validate, doc.imageSpace image with
      | .error cause, _ => .error (.load "image" cause) doc
      | .ok (), .error error => .error error doc
      | .ok (), .ok space => .ok doc.images.nextId ((doc.withAlpha image).withImage
          (.stream doc.options.compress (doc.rasterHead image space).entries image.data)) := by
  rw [addImage]
  cases image.validate with
  | error cause => rfl
  | ok valid =>
      have loaded : (Build.loaded "image" (.ok valid)).run doc = .ok valid doc := rfl
      rw [run_bind_of_run loaded, run_bind_of_run (run_get doc)]
      cases doc.imageSpace image with
      | error error => rfl
      | ok space =>
          have known : (Build.ofExcept (.ok space)).run doc = .ok space doc := rfl
          rw [run_bind_of_run known, run_bind_of_run (run_softMask image doc)]
          rfl

/-- The records of an image: that of its alpha channel, if it has one, and its own. -/
def imageRecords (doc : Document) (image : RasterImage) (space : Dictionary.ColorSpace) :
    List Record :=
  image.alpha.toList.map (.stream doc.options.compress image.alphaHead.entries) ++
    [.stream doc.options.compress (doc.rasterHead image space).entries image.data]

theorem records_withAlpha (image : RasterImage) (doc : Document) :
    (doc.withAlpha image).store.records.toList = doc.store.records.toList ++
      image.alpha.toList.map (.stream doc.options.compress image.alphaHead.entries) := by
  rw [withAlpha]
  cases image.alpha with
  | none => exact (List.append_nil _).symm
  | some alpha => exact Array.toList_push

theorem records_withImage (record : Record) (doc : Document) :
    (doc.withImage record).store.records.toList = doc.store.records.toList ++ [record] :=
  Array.toList_push

/-- A document with the records of an image, whose data is as long as their heads ask for. -/
structure Stores (doc : Document) (image : RasterImage) (space : Dictionary.ColorSpace)
    (after : Document) : Prop where
  known : doc.imageSpace image = .ok space
  records : after.store.records.toList =
    doc.store.records.toList ++ doc.imageRecords image space
  data : image.data.length = (doc.rasterHead image space).dataSize image.space.components
  alpha : ∀ alpha, image.alpha = some alpha → alpha.length = image.alphaHead.dataSize 1
  /-- A profile for other samples than those of the image is not refused. -/
  profile : ∀ profile own, image.profile = some profile →
    doc.colors.profileSpace profile = .ok own →
      (image.data.length = (doc.rasterHead image space).dataSize own.components ↔
        own.components = image.space.components ∨ image.width * image.height = 0)

theorem stores_withImage {space : Dictionary.ColorSpace} (known : doc.imageSpace image = .ok space)
    (complete : image.Complete) :
    doc.Stores image space ((doc.withAlpha image).withImage
      (.stream doc.options.compress (doc.rasterHead image space).entries image.data)) where
  known := known
  records := by rw [records_withImage, records_withAlpha, List.append_assoc, imageRecords]
  data := by
    rw [Dictionary.ImageHead.dataSize_bytes _ rfl]
    exact complete.data
  alpha := by
    intro alpha present
    rw [Dictionary.ImageHead.dataSize_bytes _ rfl, Nat.mul_one]
    exact complete.alpha alpha present
  profile := by
    intro profile own _ _
    rw [Dictionary.ImageHead.dataSize_bytes _ rfl, complete.data, rasterHead]
    rcases Nat.eq_zero_or_pos (image.width * image.height) with empty | covered
    · simp [empty]
    · rw [Nat.mul_left_cancel_iff covered, eq_comm, or_iff_left (Nat.ne_of_gt covered)]

theorem apply_addImage_cases (doc : Document) (image : RasterImage) :
    (∃ error, doc.apply (.addImage image) = (.error error, doc)) ∨
      ∃ space after, doc.apply (.addImage image) = (.ok (.ofId doc.images.nextId), after) ∧
        doc.Stores image space after := by
  have ran := run_addImage image doc
  rw [apply, perform, map_eq_bind, EStateM.run_bind]
  cases valid : image.validate with
  | error cause =>
      rw [valid] at ran
      rw [ran]
      exact .inl ⟨_, rfl⟩
  | ok done =>
      rw [valid] at ran
      cases known : doc.imageSpace image with
      | error error =>
          rw [known] at ran
          rw [ran]
          exact .inl ⟨_, rfl⟩
      | ok space =>
          rw [known] at ran
          rw [ran]
          have complete := (RasterImage.validate_eq_ok_iff.mp valid).2
          exact .inr ⟨space, _, rfl, stores_withImage known complete⟩

end Document

namespace RasterImage

/-- What is counted of an image, and what a document makes of it. -/
structure Counted (image : RasterImage) : Prop where
  pixels : wordProduct? image.width image.height = some (image.width * image.height)
  overflow : image.check? = none ↔
    countLimit ≤ image.width * image.height * image.space.components
  checked : ∀ outcome, image.check? = some outcome → image.validate = outcome
  unchecked : image.check? = none → image.validate = .error (.invalidImage .tooManySamples)
  accepted : image.data.length < countLimit → (image.validate = .ok () ↔ image.Complete)
  stored : ∀ (doc after : Document) answer, doc.apply (.addImage image) = (.ok answer, after) →
    ∃ space, doc.Stores image space after
  refused : ∀ (doc after : Document) error,
    doc.apply (.addImage image) = (.error error, after) → after = doc

/-- Samples are counted in machine words, and what is stored of them is as long as it says. -/
theorem counted_ofWords (width height : UInt32) (space : DeviceSpace) (data : Bytes)
    (alpha : Option Bytes) (profile : Option (Id .iccColorSpace)) :
    Counted ⟨width.toNat, height.toNat, space, data, alpha, profile⟩ where
  pixels := wordProduct?_eq_some_iff.mpr ⟨pixels_lt width height, rfl⟩
  overflow := by
    rw [check?_eq_none_iff (pixels_lt width height)]
    exact Iff.rfl
  checked := by
    intro outcome found
    rw [check?_eq (pixels_lt width height)] at found
    split at found
    · contradiction
    · exact Option.some.inj found
  unchecked := fun missing =>
    if_pos ((check?_eq_none_iff (pixels_lt width height)).mp missing)
  accepted := by
    intro short
    rw [validate_eq_ok_iff]
    refine and_iff_right_of_imp fun complete => ?_
    rw [expectedSamples, RasterImage.pixels, ← complete.data]
    exact short
  stored := by
    intro doc after answer added
    obtain ⟨error, failed⟩ | ⟨space, last, ran, stores⟩ := doc.apply_addImage_cases _
    · rw [failed] at added
      cases added
    · rw [ran] at added
      cases added
      exact ⟨space, stores⟩
  refused := by
    intro doc after error failed
    obtain ⟨other, same⟩ | ⟨space, last, ran, -⟩ := doc.apply_addImage_cases _
    · rw [same] at failed
      cases failed
      rfl
    · rw [ran] at failed
      cases failed

def uncountable : RasterImage :=
  ⟨0x80000000, 0x80000000, .cmyk, [], none, none⟩

/-- The second product of the largest images is no machine word, so they are not looked at. -/
theorem check?_uncountable :
    uncountable.width = (0x80000000 : UInt32).toNat ∧
      uncountable.height = (0x80000000 : UInt32).toNat ∧
      wordProduct? uncountable.width uncountable.height = some 0x4000000000000000 ∧
      wordProduct? 0x4000000000000000 uncountable.space.components = none ∧
      uncountable.check? = none ∧
      uncountable.validate = .error (.invalidImage .tooManySamples) :=
  ⟨rfl, rfl, rfl, rfl, rfl, rfl⟩

end RasterImage

end Folio
