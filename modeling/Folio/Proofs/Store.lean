import Folio.Store

/-!
How a store changes: complete objects stay where they are, and new ones come after them.
-/

namespace Folio

namespace Record

def isComplete : Record → Bool
  | .reserved => false
  | _ => true

def StandsAlone (record : Record) : Prop :=
  record = .reserved ∨ ∃ value, record = .object value

/-- A record that says what is written: no object is null, and only JPEG comes with a filter. -/
def isProper : Record → Bool
  | .object .null => false
  | .stored _ (some filter) _ => filter == "DCTDecode"
  | _ => true

/-- A record that is complete as it stands: an object or a stream. -/
def isPlain (record : Record) : Bool :=
  record.isProper && match record with
    | .object _ => true
    | .stored .. => true
    | .deflated .. => true
    | _ => false

theorem isProper_of_isPlain {record : Record} (plain : record.isPlain) : record.isProper :=
  (Bool.and_eq_true_iff.mp plain).1

@[simp] theorem isPlain_stream (compress : Bool) (entries : List Entry) (data : Bytes) :
    (stream compress entries data).isPlain := by
  cases compress with
  | false => rfl
  | true => rfl

end Record

namespace Store

theorem get?_allocate (store : Store) (record : Record) (target : Ref) :
    (store.allocate record).2.get? target =
      if target.number = store.size + 1 then some record else store.get? target := by
  unfold get? allocate
  cases target.number with
  | zero => simp
  | succ index => simp [Array.getElem?_push, size]

theorem number_le_size {store : Store} {target : Ref} {record : Record}
    (hget : store.get? target = some record) : target.number ≤ store.size := by
  unfold get? at hget
  split at hget
  · contradiction
  · rename_i index hindex
    obtain ⟨hlt, -⟩ := Array.getElem?_eq_some_iff.mp hget
    simp only [size]
    omega

theorem get?_allocate_of_get? {store : Store} {target : Ref} {held : Record} (record : Record)
    (found : store.get? target = some held) :
    (store.allocate record).2.get? target = some held := by
  have bound := number_le_size found
  rw [get?_allocate, if_neg (by omega)]
  exact found

theorem get?_first (store : Store) (index : Nat) :
    store.get? (.first (index + 1)) = store.records.toList[index]? :=
  (Array.getElem?_toList ..).symm

theorem map_snd_toList (store : Store) : store.toList.map Prod.snd = store.records.toList := by
  rw [toList, List.map_map]
  exact List.zipIdx_map_fst 0 _

theorem mem_toList_iff {store : Store} {target : Ref} {record : Record} :
    (target, record) ∈ store.toList ↔
      target = .first target.number ∧ store.get? target = some record := by
  constructor
  · intro listed
    obtain ⟨⟨held, index⟩, member, same⟩ := List.mem_map.mp listed
    cases same
    refine ⟨rfl, ?_⟩
    rw [get?_first]
    exact (List.mem_zipIdx_iff_getElem?).mp member
  · rintro ⟨numbered, found⟩
    cases number : target.number with
    | zero =>
        rw [get?, number] at found
        contradiction
    | succ index =>
        rw [number] at numbered
        rw [numbered, get?_first] at found
        rw [numbered]
        exact List.mem_map.mpr ⟨(record, index), List.mem_zipIdx_iff_getElem?.mpr found, rfl⟩

theorem isReserved_iff {store : Store} {target : Ref} :
    store.isReserved target ↔ store.get? target = some .reserved := by
  unfold isReserved
  split <;> simp_all

@[simp] theorem size_fill (store : Store) (target : Ref) (record : Record) :
    (store.fill target record).2.size = store.size := by
  unfold fill
  split <;> simp [size]

theorem get?_fill (store : Store) (filled : Ref) (record : Record) (target : Ref) :
    (store.fill filled record).2.get? target =
      if target.number = filled.number ∧ store.isReserved filled then some record
      else store.get? target := by
  unfold fill
  by_cases hreserved : store.isReserved filled
  · have hget := isReserved_iff.mp hreserved
    simp only [hreserved, if_true, and_true]
    unfold get? at hget ⊢
    cases hfilled : filled.number with
    | zero => simp [hfilled] at hget
    | succ place =>
        simp only [hfilled] at hget
        obtain ⟨hlt, -⟩ := Array.getElem?_eq_some_iff.mp hget
        cases target.number with
        | zero => simp
        | succ index =>
            simp only [Nat.add_sub_cancel, Array.getElem?_setIfInBounds, Nat.add_right_cancel_iff]
            by_cases hsame : place = index
            · subst hsame
              simp [hlt]
            · simp [hsame, Ne.symm hsame]
  · simp [hreserved]

theorem number_pos_of_isReserved {store : Store} {target : Ref}
    (reserved : store.isReserved target) : 0 < target.number := by
  have found := isReserved_iff.mp reserved
  rw [get?] at found
  cases number : target.number with
  | zero =>
      rw [number] at found
      contradiction
  | succ index => exact Nat.succ_pos index

theorem isReserved_fill_of_ne {store : Store} {filled target : Ref} (record : Record)
    (apart : target.number ≠ filled.number) :
    (store.fill filled record).2.isReserved target = store.isReserved target := by
  rw [isReserved, isReserved, get?_fill, if_neg fun same => apart same.1]

theorem fill_comm (store : Store) {first second : Ref} (apart : first.number ≠ second.number)
    (record other : Record) :
    ((store.fill first record).2.fill second other).2 =
      ((store.fill second other).2.fill first record).2 := by
  have heldSecond : (store.fill first record).2.isReserved second = store.isReserved second :=
    isReserved_fill_of_ne record (Ne.symm apart)
  have heldFirst : (store.fill second other).2.isReserved first = store.isReserved first :=
    isReserved_fill_of_ne other apart
  rw [fill, heldSecond, fill.eq_1 (store.fill second other).2, heldFirst]
  by_cases firstReserved : store.isReserved first
  · by_cases secondReserved : store.isReserved second
    · have firstPos := number_pos_of_isReserved firstReserved
      have secondPos := number_pos_of_isReserved secondReserved
      simp only [fill, firstReserved, secondReserved, if_true, mk.injEq]
      exact Array.setIfInBounds_comm _ _ (by omega)
    · simp only [fill, firstReserved, secondReserved, if_true, Bool.false_eq_true, if_false]
  · by_cases secondReserved : store.isReserved second
    · simp only [fill, firstReserved, secondReserved, if_true, Bool.false_eq_true, if_false]
    · simp only [fill, firstReserved, secondReserved, Bool.false_eq_true, if_false]

/-- Complete objects are kept, and those that are new stand alone. -/
structure Grows (before after : Store) : Prop where
  size_le : before.size ≤ after.size
  kept : ∀ {target record}, before.get? target = some record → record.isComplete →
    after.get? target = some record
  added : ∀ {target record}, after.get? target = some record →
    before.get? target = some record ∨ record.StandsAlone

theorem Grows.refl (store : Store) : store.Grows store :=
  ⟨Nat.le_refl _, fun hget _ => hget, .inl⟩

theorem Grows.trans {first second third : Store} (hfirst : first.Grows second)
    (hsecond : second.Grows third) : first.Grows third where
  size_le := Nat.le_trans hfirst.size_le hsecond.size_le
  kept := fun hget hcomplete => hsecond.kept (hfirst.kept hget hcomplete) hcomplete
  added := fun hget => (hsecond.added hget).elim hfirst.added .inr

theorem grows_allocate (store : Store) {record : Record} (halone : record.StandsAlone) :
    store.Grows (store.allocate record).2 where
  size_le := by
    rw [size_allocate]
    omega
  kept := by
    intro target held hget _
    have hle := number_le_size hget
    rw [get?_allocate, if_neg (by omega)]
    exact hget
  added := by
    intro target held hget
    rw [get?_allocate] at hget
    split at hget
    · exact .inr (Option.some.inj hget ▸ halone)
    · exact .inl hget

theorem grows_fill (store : Store) (filled : Ref) {record : Record}
    (halone : record.StandsAlone) : store.Grows (store.fill filled record).2 where
  size_le := Nat.le_of_eq (store.size_fill filled record).symm
  kept := by
    intro target held hget hcomplete
    rw [get?_fill, if_neg]
    · exact hget
    · rintro ⟨hnumber, hreserved⟩
      have hfilled := isReserved_iff.mp hreserved
      have hsame : store.get? target = store.get? filled := by
        simp only [get?, hnumber]
      rw [← hsame, hget] at hfilled
      cases Option.some.inj hfilled
      contradiction
  added := by
    intro target held hget
    rw [get?_fill] at hget
    split at hget
    · exact .inr (Option.some.inj hget ▸ halone)
    · exact .inl hget

/-- Objects are kept, and those that are new are of an allowed kind. -/
structure Adds (allowed : Record → Prop) (before after : Store) : Prop where
  kept : ∀ {target : Ref} {record : Record}, before.get? target = some record →
    after.get? target = some record
  added : ∀ {target : Ref} {record : Record}, after.get? target = some record →
    before.get? target = some record ∨ allowed record

variable {allowed : Record → Prop}

theorem Adds.refl (store : Store) : store.Adds allowed store :=
  ⟨id, .inl⟩

theorem Adds.trans {first second third : Store} (adds : first.Adds allowed second)
    (further : second.Adds allowed third) : first.Adds allowed third where
  kept := further.kept ∘ adds.kept
  added := fun found => (further.added found).elim adds.added .inr

theorem Adds.mono {before after : Store} {wider : Record → Prop}
    (adds : before.Adds allowed after) (implies : ∀ {record}, allowed record → wider record) :
    before.Adds wider after where
  kept := adds.kept
  added := fun found => (adds.added found).imp_right implies

theorem adds_allocate (store : Store) {record : Record} (fits : allowed record) :
    store.Adds allowed (store.allocate record).2 where
  kept := get?_allocate_of_get? record
  added := by
    intro target held found
    rw [get?_allocate] at found
    split at found
    · exact .inr (Option.some.inj found ▸ fits)
    · exact .inl found

theorem exists_get?_of_le {store : Store} {target : Ref} (positive : 0 < target.number)
    (bound : target.number ≤ store.size) : ∃ record, store.get? target = some record := by
  rw [get?]
  cases number : target.number with
  | zero => omega
  | succ index =>
      rw [number] at bound
      exact ⟨store.records[index], Array.getElem?_eq_getElem bound⟩

theorem Adds.size_le {before after : Store} (adds : before.Adds allowed after) :
    before.size ≤ after.size := by
  rcases Nat.eq_zero_or_pos before.size with empty | positive
  · omega
  · have last : 0 < (Ref.first before.size).number := positive
    obtain ⟨record, found⟩ := exists_get?_of_le last (Nat.le_refl before.size)
    exact number_le_size (adds.kept found)

theorem Adds.get?_of_get? {before after : Store} {target : Ref} {record : Record}
    (adds : before.Adds allowed after) (barred : ¬allowed record)
    (found : after.get? target = some record) : before.get? target = some record :=
  (adds.added found).resolve_right barred

end Store

end Folio
