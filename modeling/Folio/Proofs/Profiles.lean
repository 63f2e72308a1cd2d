import Folio.Proofs.Contents

/-!
Colour profiles and the bytes they were loaded from. A document keeps no copy of a profile besides
the stream that it writes; still, loading the same bytes again gives the same identifier, and other
bytes give another, however the fingerprints fall.
-/

namespace Folio

namespace IccProfile

def signature : DeviceSpace → Bytes
  | .gray => utf8 "GRAY"
  | .rgb => utf8 "RGB "
  | .cmyk => utf8 "CMYK"

/-- A header that can be used, of a profile whose data is in a device space. -/
structure HasHeader (bytes : Bytes) (space : DeviceSpace) : Prop where
  size : 128 ≤ bytes.length
  mark : (bytes.drop 36).take 4 = utf8 "acsp"
  space : (bytes.drop 16).take 4 = signature space

theorem spaceOf?_signature (space : DeviceSpace) : spaceOf? (signature space) = some space := by
  cases space with
  | gray => decide
  | rgb => decide
  | cmyk => decide

theorem eq_signature_of_spaceOf? {found : Bytes} {space : DeviceSpace}
    (named : spaceOf? found = some space) : found = signature space := by
  rw [spaceOf?] at named
  split at named
  · next same =>
    cases named
    exact same
  split at named
  · next same =>
    cases named
    exact same
  split at named
  · next same =>
    cases named
    exact same
  · contradiction

theorem hasHeader_of_parse {bytes : Bytes} {profile : IccProfile}
    (parsed : parse bytes = .ok profile) : HasHeader bytes profile.space := by
  rw [parse] at parsed
  split at parsed
  · contradiction
  split at parsed
  · contradiction
  next size mark =>
  cases named : spaceOf? ((bytes.drop 16).take 4) with
  | none =>
      simp only [named] at parsed
      contradiction
  | some space =>
      simp only [named] at parsed
      cases parsed
      exact ⟨Nat.le_of_not_lt size, Decidable.of_not_not mark, eq_signature_of_spaceOf? named⟩

theorem exists_parse {bytes : Bytes} {space : DeviceSpace} (header : HasHeader bytes space) :
    ∃ profile, parse bytes = .ok profile ∧ profile.space = space := by
  have long : ¬ bytes.length < headerSize := Nat.not_lt.mpr header.size
  have marked : ¬ (bytes.drop 36).take 4 ≠ utf8 "acsp" := not_not_intro header.mark
  refine ⟨⟨space, (bytes.getD 8 0).toNat, (bytes.getD 9 0).toNat / 16⟩, ?_, rfl⟩
  rw [parse, if_neg long, if_neg marked, header.space]
  simp only [spaceOf?_signature]

end IccProfile

open IccProfile (HasHeader)

/-- The entries of a stream that holds a profile, besides those about its data. -/
def profileEntries (space : DeviceSpace) : List Entry :=
  [.field "N" (.nat space.components), .field "Alternate" space.colorSpace.value]

/-- An entry for the profile that was loaded from some bytes, and its two objects. -/
structure ProfileItem.StandsFor (item : ProfileItem) (bytes : Bytes) (spaces : ColorSpaces)
    (store : Store) : Prop where
  header : HasHeader bytes item.profile.space
  fingerprint : item.fingerprint = spaces.fingerprint bytes
  stream : store.get? item.stream =
    some (.stream spaces.compress (profileEntries item.profile.space) bytes)
  space : store.get? item.space = some (.object (.arr [.name "ICCBased", .ref item.stream]))

theorem ProfileItem.StandsFor.bytes_eq {item : ProfileItem} {bytes other : Bytes}
    {spaces : ColorSpaces} {store : Store} (stands : item.StandsFor bytes spaces store)
    (also : item.StandsFor other spaces store) : bytes = other := by
  have same := stands.stream.symm.trans also.stream
  cases compress : spaces.compress with
  | false =>
      rw [compress] at same
      cases same
      rfl
  | true =>
      rw [compress] at same
      cases same
      rfl

namespace ColorSpaces

/-- Every profile has its two objects, and no two profiles have the same bytes. -/
structure Holds (spaces : ColorSpaces) (store : Store) : Prop where
  held : ∀ {id : Id .iccColorSpace} {item : ProfileItem}, spaces.profiles.get? id = some item →
    ∃ bytes, item.StandsFor bytes spaces store
  unique : ∀ {id other : Id .iccColorSpace} {item another : ProfileItem} {bytes : Bytes},
    spaces.profiles.get? id = some item → item.StandsFor bytes spaces store →
    spaces.profiles.get? other = some another → another.StandsFor bytes spaces store → id = other

variable {spaces : ColorSpaces} {store : Store} {bytes : Bytes}

theorem data?_of_standsFor {item : ProfileItem} (stands : item.StandsFor bytes spaces store) :
    (store.get? item.stream).bind Record.data? = some bytes := by
  rw [stands.stream, Option.bind_some, Record.stream]
  cases spaces.compress with
  | false => rfl
  | true => rfl

theorem Holds.standsFor_of_findProfile? (holds : spaces.Holds store) {id : Id .iccColorSpace}
    (found : spaces.findProfile? store bytes = some id) :
    ∃ item, spaces.profiles.get? id = some item ∧ item.StandsFor bytes spaces store := by
  obtain ⟨⟨same, item⟩, searched, rfl⟩ := Option.map_eq_some_iff.mp found
  have known := Registry.mem_toList_iff.mp (List.mem_of_find?_eq_some searched)
  have passed := List.find?_some searched
  obtain ⟨held, stands⟩ := holds.held known
  simp only [data?_of_standsFor stands, Bool.and_eq_true, beq_iff_eq] at passed
  cases passed.2
  exact ⟨item, known, stands⟩

theorem Holds.findProfile?_eq_some_iff (holds : spaces.Holds store) {id : Id .iccColorSpace} :
    spaces.findProfile? store bytes = some id ↔
      ∃ item, spaces.profiles.get? id = some item ∧ item.StandsFor bytes spaces store := by
  refine ⟨holds.standsFor_of_findProfile?, ?_⟩
  rintro ⟨item, known, stands⟩
  cases found : spaces.findProfile? store bytes with
  | none =>
      have passed := List.find?_eq_none.mp (Option.map_eq_none_iff.mp found) (id, item)
        (Registry.mem_toList_iff.mpr known)
      simp [stands.fingerprint, data?_of_standsFor stands] at passed
  | some other =>
      obtain ⟨another, also, standsAlso⟩ := holds.standsFor_of_findProfile? found
      exact congrArg some (holds.unique also standsAlso known stands)

end ColorSpaces

theorem ProfileItem.StandsFor.of_kept {item : ProfileItem} {bytes : Bytes}
    {spaces after : ColorSpaces} {store grown : Store} {allowed : Record → Prop}
    (stands : item.StandsFor bytes spaces store)
    (fingerprint : after.fingerprint = spaces.fingerprint)
    (compress : after.compress = spaces.compress) (adds : store.Adds allowed grown) :
    item.StandsFor bytes after grown where
  header := stands.header
  fingerprint := stands.fingerprint.trans (congrFun fingerprint bytes).symm
  stream := by
    rw [compress]
    exact adds.kept stands.stream
  space := adds.kept stands.space

namespace Document

variable {doc after : Document} {bytes : Bytes} {id : Id .iccColorSpace}

def profileItem (doc : Document) (bytes : Bytes) (profile : IccProfile) : ProfileItem :=
  ⟨doc.nextRef, .first (doc.store.size + 2), profile, doc.colors.fingerprint bytes⟩

/-- The document with a profile: the stream of its bytes, and the space that names the stream. -/
def withProfile (doc : Document) (bytes : Bytes) (profile : IccProfile) : Document :=
  { (doc.push (.stream doc.colors.compress (profileEntries profile.space) bytes)).push
      (.object (.arr [.name "ICCBased", .ref doc.nextRef])) with
    colors := { doc.colors with
      profiles := (doc.colors.profiles.register (doc.profileItem bytes profile)).2 } }

def Loaded (doc : Document) (bytes : Bytes) (id : Id .iccColorSpace) : Prop :=
  ∃ item, doc.colors.profiles.get? id = some item ∧ item.StandsFor bytes doc.colors doc.store

theorem apply_loadProfile_again (holds : doc.colors.Holds doc.store)
    (loaded : doc.Loaded bytes id) : doc.apply (.loadProfile bytes) = (.ok (.ofId id), doc) := by
  have found := holds.findProfile?_eq_some_iff.mpr loaded
  simp [apply, perform, loadProfile, ColorSpaces.loadProfile, found]

theorem apply_loadProfile_first (fresh : doc.colors.findProfile? doc.store bytes = none)
    {profile : IccProfile} (parsed : IccProfile.parse bytes = .ok profile) :
    doc.apply (.loadProfile bytes) =
      (.ok (.ofId doc.colors.profiles.nextId), doc.withProfile bytes profile) := by
  simp [apply, perform, loadProfile, ColorSpaces.loadProfile, ColorSpaces.addProfile, fresh,
    parsed, withProfile, profileItem, push, nextRef, Registry.register, Store.allocate,
    Store.size, profileEntries, Dictionary.StreamHead.entries, Entry.optional,
    Dictionary.ColorSpaceFamily.value]

theorem apply_loadProfile_refused (fresh : doc.colors.findProfile? doc.store bytes = none)
    {fault : ProfileError} (refused : IccProfile.parse bytes = .error fault) :
    doc.apply (.loadProfile bytes) = (.error (.load "ICC profile" (.profile fault)), doc) := by
  simp [apply, perform, loadProfile, ColorSpaces.loadProfile, ColorSpaces.addProfile, fresh,
    refused]

theorem adds_withProfile (doc : Document) (bytes : Bytes) (profile : IccProfile) :
    doc.store.Adds (fun _ => True) (doc.withProfile bytes profile).store :=
  (doc.store.adds_allocate trivial).trans (Store.adds_allocate _ trivial)

theorem standsFor_profileItem {profile : IccProfile}
    (parsed : IccProfile.parse bytes = .ok profile) :
    (doc.profileItem bytes profile).StandsFor bytes (doc.withProfile bytes profile).colors
      (doc.withProfile bytes profile).store where
  header := IccProfile.hasHeader_of_parse parsed
  fingerprint := rfl
  stream := Store.get?_allocate_of_get? _ (doc.store.get?_allocate_new _)
  space := by
    refine (Store.get?_allocate _ _ _).trans (if_pos ?_)
    rw [size_push]
    rfl

theorem standsFor_withProfile {item : ProfileItem} {other : Bytes} (profile : IccProfile)
    (stands : item.StandsFor other doc.colors doc.store) :
    item.StandsFor other (doc.withProfile bytes profile).colors
      (doc.withProfile bytes profile).store :=
  stands.of_kept rfl rfl (doc.adds_withProfile bytes profile)

theorem get?_profiles_withProfile (doc : Document) (bytes : Bytes) (profile : IccProfile)
    (id : Id .iccColorSpace) :
    (doc.withProfile bytes profile).colors.profiles.get? id =
      if id = doc.colors.profiles.nextId then some (doc.profileItem bytes profile)
      else doc.colors.profiles.get? id :=
  Registry.get?_register ..

theorem loaded_withProfile_iff (holds : doc.colors.Holds doc.store) {profile : IccProfile}
    (parsed : IccProfile.parse bytes = .ok profile) {other : Bytes} :
    (doc.withProfile bytes profile).Loaded other id ↔
      doc.Loaded other id ∨ bytes = other ∧ doc.colors.profiles.nextId = id := by
  constructor
  · rintro ⟨item, known, stands⟩
    rw [get?_profiles_withProfile] at known
    split at known
    · next new =>
      cases known
      exact .inr ⟨(standsFor_profileItem parsed).bytes_eq stands, new.symm⟩
    · obtain ⟨held, before⟩ := holds.held known
      cases (standsFor_withProfile profile before).bytes_eq stands
      exact .inl ⟨item, known, before⟩
  · rintro (⟨item, known, stands⟩ | ⟨rfl, rfl⟩)
    · refine ⟨item, ?_, standsFor_withProfile profile stands⟩
      rw [get?_profiles_withProfile, if_neg (Registry.ne_nextId_of_get? known)]
      exact known
    · exact ⟨_, (get?_profiles_withProfile ..).trans (if_pos rfl), standsFor_profileItem parsed⟩

theorem holds_withProfile (holds : doc.colors.Holds doc.store)
    (fresh : doc.colors.findProfile? doc.store bytes = none) {profile : IccProfile}
    (parsed : IccProfile.parse bytes = .ok profile) :
    (doc.withProfile bytes profile).colors.Holds (doc.withProfile bytes profile).store where
  held := by
    intro id item known
    rw [get?_profiles_withProfile] at known
    split at known
    · cases known
      exact ⟨bytes, standsFor_profileItem parsed⟩
    · obtain ⟨other, stands⟩ := holds.held known
      exact ⟨other, standsFor_withProfile profile stands⟩
  unique := by
    intro first second item another other found stands known also
    have unseen {id : Id .iccColorSpace} : ¬ doc.Loaded bytes id := by
      intro loaded
      rw [holds.findProfile?_eq_some_iff.mpr loaded] at fresh
      contradiction
    rcases (loaded_withProfile_iff holds parsed).mp ⟨item, found, stands⟩ with
      ⟨held, before, own⟩ | ⟨rfl, rfl⟩
    · rcases (loaded_withProfile_iff holds parsed).mp ⟨another, known, also⟩ with
        ⟨_, beforeAlso, ownAlso⟩ | ⟨rfl, rfl⟩
      · exact holds.unique before own beforeAlso ownAlso
      · exact absurd ⟨held, before, own⟩ unseen
    · rcases (loaded_withProfile_iff holds parsed).mp ⟨another, known, also⟩ with
        loaded | ⟨-, rfl⟩
      · exact absurd loaded unseen
      · rfl

structure SameProfiles (before after : Document) : Prop where
  profiles : after.colors.profiles = before.colors.profiles
  fingerprint : after.colors.fingerprint = before.colors.fingerprint
  compress : after.colors.compress = before.colors.compress
  store : before.store.Adds (fun record => record.isProper) after.store

theorem sameProfiles_of_effect {product : Operation.Product} {answer : Answer}
    (other : product ≠ .id .iccColorSpace) (effect : doc.Effect product answer after) :
    doc.SameProfiles after := by
  have adds := (change_of_effect effect).adds
  cases effect with
  | profile bytes id colors store loaded => contradiction
  | glyph id item glyph char found present =>
      obtain ⟨store, fonts, encoding, same⟩ :=
        doc.onlyFonts_withGlyph id item glyph char
      rw [same] at adds ⊢
      exact ⟨rfl, rfl, rfl, adds⟩
  | _ => exact ⟨rfl, rfl, rfl, adds⟩

theorem SameProfiles.refl (doc : Document) : doc.SameProfiles doc :=
  ⟨rfl, rfl, rfl, .refl _⟩

theorem SameProfiles.standsFor {item : ProfileItem} (same : doc.SameProfiles after)
    (stands : item.StandsFor bytes doc.colors doc.store) :
    item.StandsFor bytes after.colors after.store :=
  stands.of_kept same.fingerprint same.compress same.store

theorem SameProfiles.loaded_iff (same : doc.SameProfiles after)
    (holds : doc.colors.Holds doc.store) : after.Loaded bytes id ↔ doc.Loaded bytes id := by
  constructor
  · rintro ⟨item, known, stands⟩
    rw [same.profiles] at known
    obtain ⟨other, before⟩ := holds.held known
    cases (same.standsFor before).bytes_eq stands
    exact ⟨item, known, before⟩
  · rintro ⟨item, known, stands⟩
    refine ⟨item, ?_, same.standsFor stands⟩
    rw [same.profiles]
    exact known

theorem SameProfiles.holds (same : doc.SameProfiles after) (holds : doc.colors.Holds doc.store) :
    after.colors.Holds after.store where
  held := by
    intro id item known
    rw [same.profiles] at known
    obtain ⟨bytes, stands⟩ := holds.held known
    exact ⟨bytes, same.standsFor stands⟩
  unique := by
    intro first second item another bytes found stands known also
    obtain ⟨held, before, own⟩ := (same.loaded_iff holds).mp ⟨item, found, stands⟩
    obtain ⟨_, beforeAlso, ownAlso⟩ := (same.loaded_iff holds).mp ⟨another, known, also⟩
    exact holds.unique before own beforeAlso ownAlso

theorem product_ne_of_loadProfile {operation : Operation}
    (other : ∀ bytes, operation ≠ .loadProfile bytes) :
    operation.product ≠ .id .iccColorSpace := by
  cases operation with
  | loadProfile bytes => exact absurd rfl (other bytes)
  | _ => simp [Operation.product]

theorem sameProfiles_apply (doc : Document) {operation : Operation}
    (other : ∀ bytes, operation ≠ .loadProfile bytes) :
    doc.SameProfiles (doc.apply operation).2 :=
  apply_induction (.refl doc) (sameProfiles_of_effect (product_ne_of_loadProfile other))

theorem loads_iff {other : Bytes} {given : Id .iccColorSpace} :
    ((.loadProfile bytes, .ok (.ofId id)) : Operation × Except Error Answer) =
        (.loadProfile other, .ok (.ofId given)) ↔ bytes = other ∧ id = given := by
  constructor
  · intro same
    obtain ⟨asked, answered⟩ := Prod.ext_iff.mp same
    cases asked
    exact ⟨rfl, Id.eq_of_index_eq (Answer.id.inj (Except.ok.inj answered))⟩
  · rintro ⟨rfl, rfl⟩
    rfl

theorem apply_profiles (holds : doc.colors.Holds doc.store) (operation : Operation) :
    (doc.apply operation).2.colors.Holds (doc.apply operation).2.store ∧
      ∀ {bytes id}, (doc.apply operation).2.Loaded bytes id ↔
        doc.Loaded bytes id ∨
          (operation, (doc.apply operation).1) = (.loadProfile bytes, .ok (.ofId id)) := by
  by_cases loads : ∃ bytes, operation = .loadProfile bytes
  · obtain ⟨bytes, rfl⟩ := loads
    cases found : doc.colors.findProfile? doc.store bytes with
    | some again =>
        have loaded : doc.Loaded bytes again := holds.findProfile?_eq_some_iff.mp found
        rw [apply_loadProfile_again holds loaded]
        refine ⟨holds, fun {other id} => ⟨.inl, ?_⟩⟩
        rintro (before | same)
        · exact before
        · obtain ⟨rfl, rfl⟩ := loads_iff.mp same
          exact loaded
    | none =>
        cases parsed : IccProfile.parse bytes with
        | error fault =>
            rw [apply_loadProfile_refused found parsed]
            refine ⟨holds, fun {other id} => ⟨.inl, ?_⟩⟩
            rintro (before | same)
            · exact before
            · cases same
        | ok profile =>
            rw [apply_loadProfile_first found parsed]
            refine ⟨holds_withProfile holds found parsed, fun {other id} => ?_⟩
            rw [loaded_withProfile_iff holds parsed, loads_iff]
  · have other (bytes : Bytes) : operation ≠ .loadProfile bytes := fun same => loads ⟨bytes, same⟩
    have same := doc.sameProfiles_apply other
    refine ⟨same.holds holds, fun {bytes id} => ?_⟩
    rw [same.loaded_iff holds]
    refine ⟨.inl, ?_⟩
    rintro (before | asked)
    · exact before
    · exact absurd (Prod.ext_iff.mp asked).1 (other bytes)

/-- An identifier that a run hands out for the profile of some bytes. -/
def Loads (doc : Document) (operations : List Operation) (bytes : Bytes)
    (id : Id .iccColorSpace) : Prop :=
  (.loadProfile bytes, .ok (.ofId id)) ∈ operations.zip (doc.run operations).1

theorem run_profiles (holds : doc.colors.Holds doc.store) (operations : List Operation) :
    (doc.run operations).2.colors.Holds (doc.run operations).2.store ∧
      ∀ {bytes id}, (doc.run operations).2.Loaded bytes id ↔
        doc.Loaded bytes id ∨ doc.Loads operations bytes id := by
  induction operations generalizing doc with
  | nil =>
      refine ⟨holds, fun {bytes id} => ⟨.inl, ?_⟩⟩
      rintro (before | member)
      · exact before
      · cases member
  | cons operation rest ih =>
      obtain ⟨holdsNext, loadedNext⟩ := apply_profiles holds operation
      obtain ⟨holdsLast, loadedLast⟩ := ih holdsNext
      refine ⟨holdsLast, fun {bytes id} => ?_⟩
      have split : doc.Loads (operation :: rest) bytes id ↔
          (operation, (doc.apply operation).1) = (.loadProfile bytes, .ok (.ofId id)) ∨
            (doc.apply operation).2.Loads rest bytes id := by
        rw [Loads, run, List.zip_cons_cons, List.mem_cons, eq_comm]
        rfl
      rw [split, ← or_assoc, ← loadedNext]
      exact loadedLast

/-- How a run loads profiles, and how the document that it leaves behind would load one more. -/
structure LoadsExactly (doc : Document) (operations : List Operation) : Prop where
  /-- Two answers are the same exactly if the bytes were. -/
  same_iff : ∀ {bytes other : Bytes} {id given : Id .iccColorSpace},
    doc.Loads operations bytes id → doc.Loads operations other given →
      (id = given ↔ bytes = other)
  again : ∀ {bytes : Bytes} {id : Id .iccColorSpace}, doc.Loads operations bytes id →
    (doc.run operations).2.apply (.loadProfile bytes) = (.ok (.ofId id), (doc.run operations).2)
  first : ∀ {bytes : Bytes} {space : DeviceSpace}, (∀ id, ¬doc.Loads operations bytes id) →
    HasHeader bytes space →
      ∃ profile, profile.space = space ∧
        (doc.run operations).2.apply (.loadProfile bytes) =
          (.ok (.ofId (doc.run operations).2.colors.profiles.nextId),
            (doc.run operations).2.withProfile bytes profile)
  fails_iff : ∀ {bytes : Bytes},
    (∃ error, ((doc.run operations).2.apply (.loadProfile bytes)).1 = .error error) ↔
      ∀ space, ¬HasHeader bytes space
  unchanged : ∀ {bytes : Bytes} {error : Error},
    ((doc.run operations).2.apply (.loadProfile bytes)).1 = .error error →
      ((doc.run operations).2.apply (.loadProfile bytes)).2 = (doc.run operations).2
  recorded : ∀ {bytes : Bytes} {id : Id .iccColorSpace}, doc.Loads operations bytes id →
    ∃ (space : DeviceSpace) (stream target : Ref), HasHeader bytes space ∧
      (doc.run operations).2.colors.profileSpace id = .ok space ∧
      (doc.run operations).2.colors.profileStream id = .ok stream ∧
      (doc.run operations).2.profileRef id = .ok target ∧
      (doc.run operations).2.store.get? stream = some (.stream
        (doc.run operations).2.colors.compress (profileEntries space) bytes) ∧
      (doc.run operations).2.store.get? target =
        some (.object (.arr [.name "ICCBased", .ref stream]))

theorem exists_of_loaded (loaded : doc.Loaded bytes id) :
    ∃ (space : DeviceSpace) (stream target : Ref), HasHeader bytes space ∧
      doc.colors.profileSpace id = .ok space ∧ doc.colors.profileStream id = .ok stream ∧
      doc.profileRef id = .ok target ∧
      doc.store.get? stream =
        some (.stream doc.colors.compress (profileEntries space) bytes) ∧
      doc.store.get? target = some (.object (.arr [.name "ICCBased", .ref stream])) := by
  obtain ⟨item, known, stands⟩ := loaded
  have got := Registry.get_eq_ok_iff.mpr known
  refine ⟨item.profile.space, item.stream, item.space, stands.header, ?_, ?_, ?_, stands.stream,
    stands.space⟩
  · rw [ColorSpaces.profileSpace, got, Except.map]
  · rw [ColorSpaces.profileStream, got, Except.map]
  · rw [profileRef, ColorSpaces.profileRef, got, Except.map]

theorem eq_iff_of_loaded (holds : doc.colors.Holds doc.store) {other : Bytes}
    {given : Id .iccColorSpace} (loaded : doc.Loaded bytes id) (also : doc.Loaded other given) :
    id = given ↔ bytes = other := by
  obtain ⟨item, known, stands⟩ := loaded
  obtain ⟨another, knownAlso, standsAlso⟩ := also
  constructor
  · rintro rfl
    rw [known] at knownAlso
    cases knownAlso
    exact stands.bytes_eq standsAlso
  · rintro rfl
    exact holds.unique known stands knownAlso standsAlso

/-- A profile is refused exactly for its header, whether or not its fingerprint is known. -/
theorem fails_loadProfile_iff (holds : doc.colors.Holds doc.store) :
    (∃ error, (doc.apply (.loadProfile bytes)).1 = .error error) ↔
      ∀ space, ¬HasHeader bytes space := by
  cases found : doc.colors.findProfile? doc.store bytes with
  | some id =>
      have loaded : doc.Loaded bytes id := holds.findProfile?_eq_some_iff.mp found
      rw [apply_loadProfile_again holds loaded]
      obtain ⟨item, -, stands⟩ := loaded
      constructor
      · rintro ⟨error, failed⟩
        contradiction
      · intro refused
        exact absurd stands.header (refused _)
  | none =>
      cases parsed : IccProfile.parse bytes with
      | error fault =>
          rw [apply_loadProfile_refused found parsed]
          refine ⟨fun _ space header => ?_, fun _ => ⟨_, rfl⟩⟩
          obtain ⟨profile, read, -⟩ := IccProfile.exists_parse header
          rw [parsed] at read
          contradiction
      | ok profile =>
          rw [apply_loadProfile_first found parsed]
          constructor
          · rintro ⟨error, failed⟩
            contradiction
          · intro refused
            exact absurd (IccProfile.hasHeader_of_parse parsed) (refused _)

section Start

variable (options : DocumentOptions) (converter : Color → DeviceSpace → Color)
  (fingerprint : Bytes → Bytes)

theorem get?_profiles_withColors (id : Id .iccColorSpace) :
    (withColors options converter fingerprint).colors.profiles.get? id = none :=
  rfl

theorem holds_withColors : (withColors options converter fingerprint).colors.Holds
    (withColors options converter fingerprint).store where
  held := by
    intro id item found
    rw [get?_profiles_withColors] at found
    contradiction
  unique := by
    intro id other item another bytes found
    rw [get?_profiles_withColors] at found
    contradiction

theorem not_loaded_withColors :
    ¬(withColors options converter fingerprint).Loaded bytes id := by
  rintro ⟨item, known, -⟩
  rw [get?_profiles_withColors] at known
  contradiction

end Start

/--
Profiles are told apart by their bytes, whatever stands in for the fingerprint and whatever else is
asked of the document in between.
-/
theorem loadsExactly_withColors (options : DocumentOptions)
    (converter : Color → DeviceSpace → Color) (fingerprint : Bytes → Bytes)
    (operations : List Operation) :
    (withColors options converter fingerprint).LoadsExactly operations := by
  obtain ⟨holds, loaded⟩ := run_profiles (holds_withColors options converter fingerprint) operations
  simp only [not_loaded_withColors, false_or] at loaded
  exact {
    same_iff := fun loads also => eq_iff_of_loaded holds (loaded.mpr loads) (loaded.mpr also)
    again := fun loads => apply_loadProfile_again holds (loaded.mpr loads)
    first := by
      intro bytes space new header
      obtain ⟨profile, parsed, same⟩ := IccProfile.exists_parse header
      refine ⟨profile, same, apply_loadProfile_first ?_ parsed⟩
      cases found : ColorSpaces.findProfile? _ _ bytes with
      | none => rfl
      | some id => exact absurd (loaded.mp (holds.findProfile?_eq_some_iff.mp found)) (new id)
    fails_iff := fails_loadProfile_iff holds
    unchanged := fun failed => eq_of_apply_error (Prod.ext failed rfl)
    recorded := fun loads => exists_of_loaded (loaded.mpr loads) }

def bareProfile (space : DeviceSpace) : Bytes :=
  List.replicate 16 0 ++ IccProfile.signature space ++ List.replicate 16 0 ++ utf8 "acsp" ++
    List.replicate 88 0

/-- Two profiles in turn, of which one comes again, and one that is cut short. -/
def profilesInTurn : List Operation :=
  [.loadProfile (bareProfile .gray), .loadProfile (bareProfile .rgb), .pageCount,
    .loadProfile ((bareProfile .cmyk).take 127), .loadProfile (bareProfile .gray)]

set_option maxRecDepth 2000 in
theorem loadsExactly_withColors_oneFingerprint :
    (withColors .standard Color.convertDevice fun _ => []).Loads profilesInTurn
        (bareProfile .gray) ⟨0⟩ ∧
      (withColors .standard Color.convertDevice fun _ => []).Loads profilesInTurn
        (bareProfile .rgb) ⟨1⟩ ∧
      bareProfile .gray ≠ bareProfile .rgb ∧
      ((withColors .standard Color.convertDevice fun _ => []).run profilesInTurn).2.apply
          (.loadProfile (bareProfile .rgb)) =
        (.ok (.id 1), ((withColors .standard Color.convertDevice fun _ => []).run
          profilesInTurn).2) := by
  have gray : (withColors .standard Color.convertDevice fun _ => []).Loads profilesInTurn
      (bareProfile .gray) ⟨0⟩ := List.Mem.head _
  have rgb : (withColors .standard Color.convertDevice fun _ => []).Loads profilesInTurn
      (bareProfile .rgb) ⟨1⟩ := List.Mem.tail _ (List.Mem.head _)
  have exactly :=
    loadsExactly_withColors .standard Color.convertDevice (fun _ => []) profilesInTurn
  refine ⟨gray, rgb, fun same => ?_, exactly.again rgb⟩
  cases (exactly.same_iff gray rgb).mpr same

end Document

end Folio
