import Folio.Font.Slots

/-!
The slots of a font over time: a glyph that has a slot keeps it, a subset is opened exactly when one
more is needed, and no subset is empty or holds more glyphs than there are codes.
-/

namespace Folio

/-- A glyph that was asked for again: a character that was named for it stays. -/
structure AssignedGlyph.Continues (later held : AssignedGlyph) : Prop where
  glyph : later.glyph = held.glyph
  char : held.char.isSome → later.char = held.char

theorem AssignedGlyph.Continues.refl (held : AssignedGlyph) : held.Continues held :=
  ⟨rfl, fun _ => rfl⟩

theorem AssignedGlyph.Continues.trans {first second third : AssignedGlyph}
    (continued : second.Continues first) (further : third.Continues second) :
    third.Continues first where
  glyph := further.glyph.trans continued.glyph
  char := by
    intro named
    have same := continued.char named
    rw [← same] at named
    exact (further.char named).trans same

namespace Slots

theorem continues_noteChar (char : Option Char) (held : AssignedGlyph) :
    (noteChar char held).Continues held where
  glyph := rfl
  char := by
    intro named
    obtain ⟨first, spelled⟩ := Option.isSome_iff_exists.mp named
    rw [noteChar, spelled]
    rfl

theorem isSome_char_noteChar {char : Option Char} (held : AssignedGlyph) (named : char.isSome) :
    (noteChar char held).char.isSome := by
  rw [noteChar]
  cases held.char with
  | none => exact named
  | some first => rfl

structure Extends (before after : Slots) : Prop where
  capacity : after.capacity = before.capacity
  kept : ∀ {place : Nat} {held : AssignedGlyph}, before.assigned[place]? = some held →
    ∃ later, after.assigned[place]? = some later ∧ later.Continues held

theorem Extends.refl (slots : Slots) : slots.Extends slots :=
  ⟨rfl, fun found => ⟨_, found, .refl _⟩⟩

theorem Extends.trans {first second third : Slots} (extended : first.Extends second)
    (further : second.Extends third) : first.Extends third where
  capacity := further.capacity.trans extended.capacity
  kept := by
    intro place held found
    obtain ⟨middle, foundMiddle, continued⟩ := extended.kept found
    obtain ⟨later, foundLater, continuedLater⟩ := further.kept foundMiddle
    exact ⟨later, foundLater, continued.trans continuedLater⟩

theorem extends_note (slots : Slots) (place : Nat) (char : Option Char) :
    slots.Extends (slots.note place char) where
  capacity := rfl
  kept := by
    intro other held found
    rw [note, Array.getElem?_modify]
    by_cases same : place = other
    · rw [if_pos same, found]
      exact ⟨noteChar char held, rfl, continues_noteChar char held⟩
    · rw [if_neg same]
      exact ⟨held, found, .refl held⟩

theorem extends_append (slots : Slots) (glyph : GlyphId) (char : Option Char)
    (new : slots.places[glyph]? = none) : slots.Extends (slots.append glyph char new) where
  capacity := rfl
  kept := by
    intro place held found
    obtain ⟨bound, -⟩ := Array.getElem?_eq_some_iff.mp found
    rw [append, Array.getElem?_push, if_neg (Nat.ne_of_lt bound)]
    exact ⟨held, found, .refl held⟩

/-- What becomes of the slots when a glyph is asked for. -/
inductive Assigns (slots : Slots) (glyph : GlyphId) (char : Option Char) :
    Slot × Bool × Slots → Prop
  | old (place : Nat) (held : AssignedGlyph) (found : slots.assigned[place]? = some held)
      (same : held.glyph = glyph) :
      Assigns slots glyph char (slots.slotAt place, false, slots.note place char)
  | new (fresh : slots.places[glyph]? = none) :
      Assigns slots glyph char (slots.slotAt slots.assigned.size,
        slots.assigned.size % slots.capacity == 0, slots.append glyph char fresh)

theorem assigns_assign (slots : Slots) (glyph : GlyphId) (char : Option Char) :
    Assigns slots glyph char (slots.assign glyph char) := by
  unfold assign
  split
  · next place held =>
    obtain ⟨assigned, found, same⟩ :=
      Option.map_eq_some_iff.mp ((slots.places_eq_some_iff glyph place).mp held)
    exact .old place assigned found same
  · next fresh => exact .new fresh

theorem extends_assign (slots : Slots) (glyph : GlyphId) (char : Option Char) :
    slots.Extends (slots.assign glyph char).2.2 := by
  have assigns := slots.assigns_assign glyph char
  generalize slots.assign glyph char = outcome at assigns ⊢
  cases assigns with
  | old place held found same => exact slots.extends_note place char
  | new fresh => exact slots.extends_append glyph char fresh

/-- The glyph is in the slot that it was given, with a character if one was named. -/
theorem exists_place_assign (slots : Slots) (glyph : GlyphId) (char : Option Char) :
    ∃ place held, (slots.assign glyph char).1 = slots.slotAt place ∧
      (slots.assign glyph char).2.2.assigned[place]? = some held ∧ held.glyph = glyph ∧
        (char.isSome → held.char.isSome) := by
  have assigns := slots.assigns_assign glyph char
  generalize slots.assign glyph char = outcome at assigns ⊢
  cases assigns with
  | old place held found same =>
      refine ⟨place, noteChar char held, rfl, ?_, same, isSome_char_noteChar held⟩
      rw [note, Array.getElem?_modify, if_pos rfl, found]
      rfl
  | new fresh =>
      refine ⟨slots.assigned.size, ⟨glyph, char⟩, rfl, ?_, rfl, id⟩
      rw [append, Array.getElem?_push, if_pos rfl]

/-- One more subset is needed exactly when the places so far fill whole subsets. -/
theorem subsets_succ (places capacity : Nat) (positive : 0 < capacity) :
    (places + 1 + capacity - 1) / capacity =
      (places + capacity - 1) / capacity + if places % capacity = 0 then 1 else 0 := by
  have split := Nat.div_add_mod places capacity
  have bound := Nat.mod_lt places positive
  have shift (rest : Nat) : (capacity * (places / capacity) + rest) / capacity =
      places / capacity + rest / capacity := Nat.mul_add_div positive _ _
  have next : (places + 1 + capacity - 1) / capacity = places / capacity + 1 := by
    have total : places + 1 + capacity - 1 =
        capacity * (places / capacity) + (places % capacity + capacity) := by omega
    rw [total, shift, Nat.add_div_right _ positive, Nat.div_eq_of_lt bound]
  by_cases full : places % capacity = 0
  · have total : places + capacity - 1 =
        capacity * (places / capacity) + (capacity - 1) := by omega
    have last : (capacity - 1) / capacity = 0 := Nat.div_eq_of_lt (by omega)
    rw [next, total, shift, last, if_pos full]
  · have total : places + capacity - 1 =
        capacity * (places / capacity) + (places % capacity - 1 + capacity) := by omega
    have last : (places % capacity - 1) / capacity = 0 := Nat.div_eq_of_lt (by omega)
    rw [next, total, shift, Nat.add_div_right _ positive, last, if_neg full]

theorem div_eq_subsets {places capacity : Nat} (positive : 0 < capacity)
    (full : places % capacity = 0) :
    places / capacity = (places + capacity - 1) / capacity := by
  have split := Nat.div_add_mod places capacity
  have now : places + capacity - 1 =
      capacity * (places / capacity) + (capacity - 1) := by omega
  have last : (capacity - 1) / capacity = 0 := Nat.div_eq_of_lt (by omega)
  rw [now, Nat.mul_add_div positive, last, Nat.add_zero]

theorem subsetCount_assign (slots : Slots) (glyph : GlyphId) (char : Option Char) :
    (slots.assign glyph char).2.2.subsetCount =
      slots.subsetCount + if (slots.assign glyph char).2.1 then 1 else 0 := by
  have assigns := slots.assigns_assign glyph char
  generalize slots.assign glyph char = outcome at assigns ⊢
  cases assigns with
  | old place held found same =>
      simp only [subsetCount, note, Array.size_modify, Bool.false_eq_true, if_false,
        Nat.add_zero]
  | new fresh =>
      simp only [subsetCount, append, Array.size_push, beq_iff_eq]
      exact subsets_succ slots.assigned.size slots.capacity slots.capacity_pos

theorem subset_of_opened (slots : Slots) (glyph : GlyphId) (char : Option Char)
    (opened : (slots.assign glyph char).2.1) :
    (slots.assign glyph char).1.subset = slots.subsetCount := by
  have assigns := slots.assigns_assign glyph char
  generalize slots.assign glyph char = outcome at assigns opened ⊢
  cases assigns with
  | old place held found same => exact Bool.noConfusion opened
  | new fresh =>
      exact div_eq_subsets slots.capacity_pos (beq_iff_eq.mp opened)

theorem subsetCount_ofCapacity (capacity : Nat) : (ofCapacity capacity).subsetCount = 0 := by
  have positive := (ofCapacity capacity).capacity_pos
  refine Nat.div_eq_of_lt ?_
  show 0 + (ofCapacity capacity).capacity - 1 < (ofCapacity capacity).capacity
  omega

theorem subset?_eq_some_iff {slots : Slots} {index : Nat} {glyphs : List AssignedGlyph} :
    slots.subset? index = some glyphs ↔
      index * slots.capacity < slots.assigned.size ∧
        (slots.assigned.toList.drop (index * slots.capacity)).take slots.capacity = glyphs := by
  have opened : index < slots.subsetCount ↔ index * slots.capacity < slots.assigned.size := by
    have positive := slots.capacity_pos
    rw [subsetCount, Nat.lt_iff_add_one_le, Nat.le_div_iff_mul_le positive, Nat.add_mul]
    omega
  rw [subset?]
  by_cases bound : index < slots.subsetCount
  · rw [if_pos bound, Option.some_inj]
    exact ⟨fun same => ⟨opened.mp bound, same⟩, fun found => found.2⟩
  · rw [if_neg bound]
    exact ⟨fun absent => Option.noConfusion rfl (heq_of_eq absent),
      fun found => absurd (opened.mpr found.1) bound⟩

/-- A subset that is open has a glyph, and no more than there are codes. -/
theorem length_of_subset? {slots : Slots} {index : Nat} {glyphs : List AssignedGlyph}
    (found : slots.subset? index = some glyphs) :
    1 ≤ glyphs.length ∧ glyphs.length ≤ slots.capacity := by
  obtain ⟨bound, same⟩ := subset?_eq_some_iff.mp found
  have positive := slots.capacity_pos
  rw [← same, List.length_take, List.length_drop, Array.length_toList]
  omega

theorem lt_subsetCount_of_subset? {slots : Slots} {index : Nat} {glyphs : List AssignedGlyph}
    (found : slots.subset? index = some glyphs) : index < slots.subsetCount := by
  rw [subset?] at found
  split at found
  · next bound => exact bound
  · contradiction

theorem exists_subset?_of_place {slots : Slots} {place : Nat} {held : AssignedGlyph}
    (found : slots.assigned[place]? = some held) :
    ∃ glyphs, slots.subset? (slots.slotAt place).subset = some glyphs ∧
      glyphs[(slots.slotAt place).position]? = some held := by
  obtain ⟨bound, -⟩ := Array.getElem?_eq_some_iff.mp found
  have split := Nat.div_add_mod place slots.capacity
  have inside := Nat.mod_lt place slots.capacity_pos
  have start : place / slots.capacity * slots.capacity =
      slots.capacity * (place / slots.capacity) :=
    Nat.mul_comm _ _
  refine ⟨_, subset?_eq_some_iff.mpr ⟨?_, rfl⟩, ?_⟩
  · show place / slots.capacity * slots.capacity < slots.assigned.size
    omega
  · show ((slots.assigned.toList.drop (place / slots.capacity * slots.capacity)).take
      slots.capacity)[place % slots.capacity]? = some held
    rw [List.getElem?_take_of_lt inside, List.getElem?_drop, start, split]
    rw [Array.getElem?_toList]
    exact found

/-- The glyphs that have slots, in the order in which they took them. -/
def glyphs (slots : Slots) : List GlyphId :=
  slots.assigned.toList.map AssignedGlyph.glyph

@[simp] theorem length_glyphs (slots : Slots) : slots.glyphs.length = slots.assigned.size := by
  rw [glyphs, List.length_map, Array.length_toList]

theorem places_iff_glyphs {slots : Slots} {glyph : GlyphId} {place : Nat} :
    slots.places[glyph]? = some place ↔ slots.glyphs[place]? = some glyph := by
  rw [slots.places_eq_some_iff, glyphs, List.getElem?_map, Array.getElem?_toList]

theorem eq_of_glyphs {slots : Slots} {glyph : GlyphId} {place other : Nat}
    (found : slots.glyphs[place]? = some glyph) (also : slots.glyphs[other]? = some glyph) :
    place = other := by
  rw [← places_iff_glyphs] at found also
  exact Option.some.inj (found.symm.trans also)

theorem Extends.glyphs {before after : Slots} {glyph : GlyphId} {place : Nat}
    (extended : before.Extends after) (found : before.glyphs[place]? = some glyph) :
    after.glyphs[place]? = some glyph := by
  rw [Slots.glyphs, List.getElem?_map, Array.getElem?_toList] at found ⊢
  obtain ⟨held, taken, rfl⟩ := Option.map_eq_some_iff.mp found
  obtain ⟨later, kept, continued⟩ := extended.kept taken
  rw [kept, Option.map_some, continued.glyph]

theorem glyphs_note (slots : Slots) (place : Nat) (char : Option Char) :
    (slots.note place char).glyphs = slots.glyphs := by
  refine List.ext_getElem? fun index => ?_
  rw [glyphs, glyphs, List.getElem?_map, List.getElem?_map, note, Array.getElem?_toList,
    Array.getElem?_toList, Array.getElem?_modify]
  split
  · rw [Option.map_map]
    rfl
  · rfl

theorem glyphs_assign (slots : Slots) (glyph : GlyphId) (char : Option Char) :
    (slots.assign glyph char).2.2.glyphs =
      if glyph ∈ slots.glyphs then slots.glyphs else slots.glyphs ++ [glyph] := by
  have assigns := slots.assigns_assign glyph char
  generalize slots.assign glyph char = outcome at assigns ⊢
  cases assigns with
  | old place held found same =>
      have taken : glyph ∈ slots.glyphs := by
        refine List.mem_map.mpr ⟨held, ?_, same⟩
        exact List.mem_iff_getElem?.mpr ⟨place, (Array.getElem?_toList ..).trans found⟩
      rw [if_pos taken]
      exact slots.glyphs_note place char
  | new fresh =>
      have free : glyph ∉ slots.glyphs := by
        intro taken
        obtain ⟨place, found⟩ := List.mem_iff_getElem?.mp taken
        rw [places_iff_glyphs.mpr found] at fresh
        contradiction
      rw [if_neg free, glyphs, append, Array.toList_push, List.map_append]
      rfl

theorem get?_congr {first second : Slots} (glyphs : first.glyphs = second.glyphs)
    (capacity : first.capacity = second.capacity) : first.get? = second.get? := by
  funext glyph
  have places : first.places[glyph]? = second.places[glyph]? := by
    refine Option.ext fun place => ?_
    rw [places_iff_glyphs, places_iff_glyphs, glyphs]
  have slotAt : first.slotAt = second.slotAt := by
    funext place
    rw [Slots.slotAt, Slots.slotAt, capacity]
  rw [get?, get?, place?, place?, places, slotAt]

theorem exists_place_of_assign (slots : Slots) (glyph : GlyphId) (char : Option Char) :
    ∃ place, (slots.assign glyph char).1 = slots.slotAt place ∧
      (slots.assign glyph char).2.2.glyphs[place]? = some glyph := by
  obtain ⟨place, held, slot, found, same, -⟩ := slots.exists_place_assign glyph char
  refine ⟨place, slot, ?_⟩
  rw [glyphs, List.getElem?_map, Array.getElem?_toList, found, Option.map_some, same]

end Slots

end Folio
