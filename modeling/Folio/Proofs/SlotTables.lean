import Folio.Proofs.Slots

/-!
The slots of a font in tables: a table of glyphs and one of texts for each subset, and a code of one
byte for each glyph. Every place that is looked up is there, and every code fits its byte.
-/

namespace Folio

namespace Slots

theorem subset?_eq (slots : Slots) (index : Nat) :
    slots.subset? index =
      if index * slots.capacity < slots.assigned.size then
        some ((slots.assigned.toList.drop (index * slots.capacity)).take slots.capacity)
      else none := by
  split
  · next inside => exact subset?_eq_some_iff.mpr ⟨inside, rfl⟩
  · next outside =>
    refine Option.eq_none_iff_forall_ne_some.mpr fun glyphs found => ?_
    exact outside (subset?_eq_some_iff.mp found).1

theorem getElem?_subset? (slots : Slots) (index position : Nat) :
    (slots.subset? index).bind (·[position]?) =
      if position < slots.capacity then slots.assigned[index * slots.capacity + position]?
      else none := by
  rw [subset?_eq]
  split
  · rw [Option.bind_some, List.getElem?_take, List.getElem?_drop, Array.getElem?_toList]
  · next outside =>
    have beyond : slots.assigned[index * slots.capacity + position]? = none :=
      Array.getElem?_eq_none (by omega)
    rw [beyond, ite_self]
    rfl

/-- A glyph that takes the next place comes last in its subset, or opens it. -/
theorem subset?_append (slots : Slots) {glyph : GlyphId} {char : Option Char}
    (fresh : slots.places[glyph]? = none) (index : Nat) :
    (slots.append glyph char fresh).subset? index =
      if index = (slots.slotAt slots.assigned.size).subset then
        some ((slots.subset? index).getD [] ++ [⟨glyph, char⟩])
      else slots.subset? index := by
  have positive := slots.capacity_pos
  have bound := Nat.mod_lt slots.assigned.size positive
  have parts := Nat.div_add_mod slots.assigned.size slots.capacity
  have size : slots.assigned.toList.length = slots.assigned.size := Array.length_toList
  rw [subset?_eq, subset?_eq, append, Array.size_push, Array.toList_push, slotAt]
  dsimp only
  generalize slots.assigned.size / slots.capacity = full at *
  rw [Nat.mul_comm] at parts
  -- filled subsets end before the new place, the one it lies in ends with it, others start behind
  rcases Nat.lt_trichotomy index full with before | rfl | behind
  · have whole : index * slots.capacity + slots.capacity ≤ full * slots.capacity := by
      rw [← Nat.succ_mul]
      exact Nat.mul_le_mul_right _ before
    rw [if_pos (by omega), if_neg (by omega), if_pos (by omega),
      List.drop_append_of_le_length (by omega),
      List.take_append_of_le_length (by rw [List.length_drop]; omega)]
  · rw [if_pos (by omega), if_pos rfl, List.drop_append_of_le_length (by omega),
      List.take_of_length_le (by simp; omega)]
    split
    · rw [Option.getD_some, List.take_of_length_le (by rw [List.length_drop]; omega)]
    · rw [List.drop_of_length_le (by omega)]
      rfl
  · have whole : full * slots.capacity + slots.capacity ≤ index * slots.capacity := by
      rw [← Nat.succ_mul]
      exact Nat.mul_le_mul_right _ behind
    rw [if_neg (by omega), if_neg (by omega), if_neg (by omega)]

theorem take_drop_modify {α : Type} (items : List α) (change : α → α) (start count place : Nat) :
    ((items.modify place change).drop start).take count =
      if start ≤ place ∧ place ≤ start + count - 1 ∧ 0 < count then
        ((items.drop start).take count).modify (place - start) change
      else (items.drop start).take count := by
  refine List.ext_getElem? fun index => ?_
  by_cases inside : index < count
  · rw [List.getElem?_take_of_lt inside, List.getElem?_drop, List.getElem?_modify]
    by_cases reached : start ≤ place ∧ place ≤ start + count - 1 ∧ 0 < count
    · have same : place = start + index ↔ place - start = index := by omega
      rw [if_pos reached, List.getElem?_modify, List.getElem?_take_of_lt inside,
        List.getElem?_drop]
      simp only [same]
    · have apart : place ≠ start + index := by omega
      rw [if_neg reached, List.getElem?_take_of_lt inside, List.getElem?_drop]
      simp [apart]
  · rw [List.getElem?_eq_none (by simp; omega), List.getElem?_eq_none (by split <;> simp <;> omega)]

theorem subset?_note (slots : Slots) (place : Nat) (char : Option Char) (index : Nat) :
    (slots.note place char).subset? index =
      if index = (slots.slotAt place).subset then
        (slots.subset? index).map (·.modify (slots.slotAt place).position (noteChar char))
      else slots.subset? index := by
  have positive := slots.capacity_pos
  have parts := Nat.div_add_mod place slots.capacity
  have reached : index = place / slots.capacity ↔ index * slots.capacity ≤ place ∧
      place ≤ index * slots.capacity + slots.capacity - 1 ∧ 0 < slots.capacity := by
    rw [eq_comm, Nat.div_eq_iff positive, and_iff_left positive]
  rw [subset?_eq, subset?_eq, note, Array.size_modify, Array.toList_modify, take_drop_modify,
    slotAt]
  simp only [← reached]
  by_cases own : index = place / slots.capacity
  · have position : place - index * slots.capacity = place % slots.capacity := by
      rw [own, Nat.mul_comm]
      omega
    simp only [if_pos own, position]
    split
    · rfl
    · rfl
  · simp only [if_neg own]

theorem subsetCount_eq (slots : Slots) :
    slots.subsetCount = (slots.slotAt slots.assigned.size).subset +
      if (slots.slotAt slots.assigned.size).position = 0 then 0 else 1 := by
  have positive := slots.capacity_pos
  have next := subsets_succ slots.assigned.size slots.capacity positive
  rw [Nat.add_right_comm, Nat.add_sub_cancel, Nat.add_div_right _ positive] at next
  rw [subsetCount, slotAt]
  dsimp only
  split at next
  · next full =>
    rw [if_pos full]
    omega
  · next begun =>
    rw [if_neg begun]
    omega

theorem get?_append (slots : Slots) {glyph : GlyphId} {char : Option Char}
    (fresh : slots.places[glyph]? = none) (other : GlyphId) :
    (slots.append glyph char fresh).get? other =
      if glyph = other then some (slots.slotAt slots.assigned.size) else slots.get? other := by
  have compared : compare glyph other = .eq ↔ glyph = other :=
    Std.LawfulEqCmp.compare_eq_iff_eq
  rw [get?, get?, place?, place?, append, Std.TreeMap.getElem?_insert]
  simp only [compared]
  split
  · rfl
  · rfl

/-- The subset that the next place lies in, as far as it is filled. -/
theorem length_last (slots : Slots) :
    ((slots.subset? (slots.slotAt slots.assigned.size).subset).getD []).length =
      (slots.slotAt slots.assigned.size).position := by
  have parts := Nat.div_add_mod slots.assigned.size slots.capacity
  have bound := Nat.mod_lt slots.assigned.size slots.capacity_pos
  rw [Nat.mul_comm] at parts
  rw [subset?_eq, slotAt]
  dsimp only
  split
  · rw [Option.getD_some, List.length_take, List.length_drop, Array.length_toList]
    omega
  · rw [Option.getD_none, List.length_nil]
    omega

theorem length_of_full {slots : Slots} {index : Nat} {glyphs : List AssignedGlyph}
    (found : slots.subset? index = some glyphs)
    (before : index < (slots.slotAt slots.assigned.size).subset) :
    glyphs.length = slots.capacity := by
  have filled := Nat.div_mul_le_self slots.assigned.size slots.capacity
  have whole : (index + 1) * slots.capacity ≤
      slots.assigned.size / slots.capacity * slots.capacity := Nat.mul_le_mul_right _ before
  rw [Nat.succ_mul] at whole
  obtain ⟨-, rfl⟩ := subset?_eq_some_iff.mp found
  rw [List.length_take, List.length_drop, Array.length_toList]
  omega

theorem noteChar_none : noteChar none = id := by
  funext held
  cases held with
  | mk glyph char =>
      cases char with
      | none => rfl
      | some first => rfl

end Slots

structure SubsetTable where
  glyphs : Array GlyphId
  texts : Array (List Char)

structure ByteSlot where
  subset : Nat
  position : UInt8
deriving DecidableEq

structure SlotTables where
  capacity : Nat
  places : Std.TreeMap GlyphId ByteSlot
  subsets : Array SubsetTable

namespace SubsetTable

def empty : SubsetTable :=
  ⟨#[], #[]⟩

def push (table : SubsetTable) (glyph : GlyphId) (char : Option Char) : SubsetTable :=
  ⟨table.glyphs.push glyph, table.texts.push char.toList⟩

def note? (table : SubsetTable) (position : Nat) (char : Char) : Option SubsetTable := do
  let text ← table.texts[position]?
  let noted := if text.isEmpty then [char] else text
  return { table with texts := table.texts.setIfInBounds position noted }

def ofGlyphs (glyphs : List AssignedGlyph) : SubsetTable :=
  ⟨(glyphs.map AssignedGlyph.glyph).toArray, (glyphs.map AssignedGlyph.text).toArray⟩

theorem push_ofGlyphs (glyphs : List AssignedGlyph) (glyph : GlyphId) (char : Option Char) :
    (ofGlyphs glyphs).push glyph char = ofGlyphs (glyphs ++ [⟨glyph, char⟩]) := by
  simp [ofGlyphs, push, AssignedGlyph.text]

theorem text_noteChar (held : AssignedGlyph) (char : Char) :
    (Slots.noteChar (some char) held).text = if held.text.isEmpty then [char] else held.text := by
  rw [AssignedGlyph.text, AssignedGlyph.text, Slots.noteChar]
  cases held.char with
  | none => rfl
  | some first => rfl

theorem note?_ofGlyphs {glyphs : List AssignedGlyph} {position : Nat} {held : AssignedGlyph}
    (found : glyphs[position]? = some held) (char : Char) :
    (ofGlyphs glyphs).note? position char =
      some (ofGlyphs (glyphs.modify position (Slots.noteChar (some char)))) := by
  have text : (ofGlyphs glyphs).texts[position]? = some held.text := by
    simp [ofGlyphs, found]
  have noted : glyphs.modify position (Slots.noteChar (some char)) =
      glyphs.set position (Slots.noteChar (some char) held) := by
    have : Inhabited AssignedGlyph := ⟨held⟩
    rw [List.modify_eq_set, found, Option.getD_some]
  have sameGlyphs : (glyphs.map AssignedGlyph.glyph).set position held.glyph =
      glyphs.map AssignedGlyph.glyph := by
    refine List.ext_getElem? fun index => ?_
    rw [List.getElem?_set, List.getElem?_map, List.length_map]
    split
    · next here =>
      obtain ⟨inside, -⟩ := List.getElem?_eq_some_iff.mp found
      rw [if_pos inside, ← here, found, Option.map_some]
    · rfl
  rw [note?, text, noted, ofGlyphs, ofGlyphs, List.map_set, List.map_set, Slots.glyph_noteChar,
    sameGlyphs, text_noteChar]
  simp

end SubsetTable

def Slot.toByteSlot (slot : Slot) : ByteSlot :=
  ⟨slot.subset, .ofNat slot.position⟩

theorem Slots.position_lt (slots : Slots) (place : Nat) :
    (slots.slotAt place).position < slots.capacity :=
  Nat.mod_lt place slots.capacity_pos

theorem Slots.toNat_position (slots : Slots) (place : Nat) :
    (slots.slotAt place).toByteSlot.position.toNat = (slots.slotAt place).position := by
  have bound := slots.position_lt place
  have largest : slots.capacity ≤ 255 := slots.capacity_le_largest
  exact Nat.mod_eq_of_lt (by omega)

namespace SlotTables

def ofCapacity (capacity : Nat) : SlotTables :=
  ⟨max 1 (min Slots.largestCapacity capacity), ∅, #[]⟩

def setSubset (tables : SlotTables) (index : Nat) (table : SubsetTable) : SlotTables :=
  { tables with subsets := tables.subsets.setIfInBounds index table }

def note? (tables : SlotTables) (slot : ByteSlot) : Option Char → Option SlotTables
  | none => some tables
  | some char => do
      let table ← tables.subsets[slot.subset]?
      return tables.setSubset slot.subset (← table.note? slot.position.toNat char)

def isFull (tables : SlotTables) : Bool :=
  tables.subsets.back?.all fun last => tables.capacity ≤ last.glyphs.size

def opened (tables : SlotTables) : SlotTables :=
  if tables.isFull then { tables with subsets := tables.subsets.push .empty } else tables

def append? (tables : SlotTables) (glyph : GlyphId) (char : Option Char) :
    Option (ByteSlot × SlotTables) := do
  let last := tables.subsets.size - 1
  let current ← tables.subsets[last]?
  let slot : ByteSlot := ⟨last, .ofNat current.glyphs.size⟩
  let after := tables.setSubset last (current.push glyph char)
  return (slot, { after with places := tables.places.insert glyph slot })

def assign? (tables : SlotTables) (glyph : GlyphId) (char : Option Char) :
    Option (ByteSlot × Bool × SlotTables) :=
  match tables.places[glyph]? with
  | some slot => (tables.note? slot char).map fun after => (slot, false, after)
  | none =>
      (tables.opened.append? glyph char).map fun (slot, after) => (slot, tables.isFull, after)

structure Represents (tables : SlotTables) (slots : Slots) : Prop where
  capacity : tables.capacity = slots.capacity
  places : ∀ glyph, tables.places[glyph]? = (slots.get? glyph).map Slot.toByteSlot
  subsets : ∀ index, tables.subsets[index]? = (slots.subset? index).map .ofGlyphs

variable {tables : SlotTables} {slots : Slots}

theorem represents_ofCapacity (capacity : Nat) :
    (ofCapacity capacity).Represents (.ofCapacity capacity) where
  capacity := rfl
  places := by simp [ofCapacity, Slots.ofCapacity, Slots.get?, Slots.place?]
  subsets := by simp [ofCapacity, Slots.ofCapacity, Slots.subset?_eq]

theorem Represents.size (represents : tables.Represents slots) :
    tables.subsets.size = slots.subsetCount := by
  have same (index : Nat) : tables.subsets.size ≤ index ↔ slots.subsetCount ≤ index := by
    rw [← Array.getElem?_eq_none_iff, represents.subsets, Option.map_eq_none_iff, Slots.subset?]
    split
    · next inside => exact iff_of_false (Option.some_ne_none _) (Nat.not_le.mpr inside)
    · next outside => exact iff_of_true rfl (Nat.not_lt.mp outside)
  exact Nat.le_antisymm ((same _).mpr (Nat.le_refl _)) ((same _).mp (Nat.le_refl _))

theorem Represents.size_texts (represents : tables.Represents slots) {table : SubsetTable}
    (member : table ∈ tables.subsets) :
    table.texts.size = table.glyphs.size := by
  obtain ⟨index, bound, rfl⟩ := Array.mem_iff_getElem.mp member
  have same := represents.subsets index
  rw [Array.getElem?_eq_getElem bound] at same
  obtain ⟨glyphs, -, own⟩ := Option.map_eq_some_iff.mp same.symm
  rw [← own]
  simp [SubsetTable.ofGlyphs]

/-- A table takes the place of another, as a subset takes that of one. -/
theorem getElem?_setSubset {after : Slots} {place : Nat} {glyphs : List AssignedGlyph}
    (inside : place < tables.subsets.size)
    (others : ∀ index, index ≠ place →
      tables.subsets[index]? = (after.subset? index).map .ofGlyphs)
    (own : after.subset? place = some glyphs) (index : Nat) :
    (tables.setSubset place (.ofGlyphs glyphs)).subsets[index]? =
      (after.subset? index).map .ofGlyphs := by
  rw [setSubset, Array.getElem?_setIfInBounds]
  by_cases same : place = index
  · subst same
    rw [if_pos rfl, if_pos inside, own, Option.map_some]
  · rw [if_neg same, others index (Ne.symm same)]

theorem Represents.note_none (represents : tables.Represents slots) (place : Nat) :
    tables.Represents (slots.note place none) where
  capacity := represents.capacity
  places := represents.places
  subsets := by
    intro index
    rw [represents.subsets, Slots.subset?_note, Slots.noteChar_none]
    split
    · simp
    · rfl

theorem Represents.note? (represents : tables.Represents slots) {place : Nat}
    {held : AssignedGlyph} (found : slots.assigned[place]? = some held) (char : Option Char) :
    ∃ after, tables.note? (slots.slotAt place).toByteSlot char = some after ∧
      after.Represents (slots.note place char) := by
  cases char with
  | none => exact ⟨tables, rfl, represents.note_none place⟩
  | some char =>
      obtain ⟨glyphs, subset, member⟩ := Slots.exists_subset?_of_place found
      have table : tables.subsets[(slots.slotAt place).subset]? = some (.ofGlyphs glyphs) := by
        rw [represents.subsets, subset, Option.map_some]
      have code := slots.toNat_position place
      obtain ⟨inside, -⟩ := Array.getElem?_eq_some_iff.mp table
      let changed := glyphs.modify (slots.slotAt place).position (Slots.noteChar (some char))
      refine ⟨tables.setSubset (slots.slotAt place).subset (.ofGlyphs changed), ?_,
        represents.capacity, represents.places, fun index => ?_⟩
      · rw [Slot.toByteSlot] at code ⊢
        rw [SlotTables.note?, code, table, Option.bind_eq_bind, Option.bind_some,
          SubsetTable.note?_ofGlyphs member char]
        rfl
      · refine getElem?_setSubset inside (fun index other => ?_) ?_ index
        · rw [represents.subsets, Slots.subset?_note, if_neg other]
        · rw [Slots.subset?_note, if_pos rfl, subset]
          rfl

theorem Represents.isFull (represents : tables.Represents slots) :
    tables.isFull = ((slots.slotAt slots.assigned.size).position == 0) := by
  have count := slots.subsetCount_eq
  have length := slots.length_last
  have bound := slots.position_lt slots.assigned.size
  rw [SlotTables.isFull, Array.back?_eq_getElem?, represents.size, represents.subsets,
    represents.capacity]
  by_cases full : (slots.slotAt slots.assigned.size).position = 0
  · rw [if_pos full, Nat.add_zero] at count
    rw [beq_iff_eq.mpr full]
    cases last : slots.subset? (slots.subsetCount - 1) with
    | none => rfl
    | some glyphs =>
        have inside := Slots.lt_subsetCount_of_subset? last
        have filled := Slots.length_of_full last (by omega)
        simp [SubsetTable.ofGlyphs, filled]
  · rw [if_neg full] at count
    rw [beq_eq_false_iff_ne.mpr full, count, Nat.add_sub_cancel]
    cases last : slots.subset? (slots.slotAt slots.assigned.size).subset with
    | none =>
        rw [last] at length
        exact absurd length.symm full
    | some glyphs =>
        rw [last, Option.getD_some] at length
        simp [SubsetTable.ofGlyphs, length, bound]

/-- With room for one more glyph, the last table is that of the subset that the glyph comes to. -/
structure HasRoom (tables : SlotTables) (slots : Slots) : Prop where
  size : tables.subsets.size = (slots.slotAt slots.assigned.size).subset + 1
  last : tables.subsets[(slots.slotAt slots.assigned.size).subset]? =
    some (.ofGlyphs ((slots.subset? (slots.slotAt slots.assigned.size).subset).getD []))
  others : ∀ index, index ≠ (slots.slotAt slots.assigned.size).subset →
    tables.subsets[index]? = (slots.subset? index).map .ofGlyphs

theorem Represents.hasRoom_opened (represents : tables.Represents slots) :
    tables.opened.HasRoom slots := by
  have count := slots.subsetCount_eq
  have size := represents.size
  have length := slots.length_last
  rw [opened, represents.isFull]
  by_cases full : (slots.slotAt slots.assigned.size).position = 0
  · rw [if_pos full, Nat.add_zero] at count
    rw [if_pos (beq_iff_eq.mpr full)]
    rw [full, List.length_eq_zero_iff] at length
    refine ⟨?_, ?_, fun index other => ?_⟩
    · rw [Array.size_push, size, count]
    · rw [Array.getElem?_push, if_pos (count ▸ size).symm, length]
      rfl
    · rw [Array.getElem?_push, if_neg (fun same => other (same.trans (size.trans count))),
        represents.subsets]
  · rw [if_neg full] at count
    rw [if_neg (mt beq_iff_eq.mp full)]
    refine ⟨size.trans count, ?_, fun index _ => represents.subsets index⟩
    rw [represents.subsets]
    cases last : slots.subset? (slots.slotAt slots.assigned.size).subset with
    | some glyphs => rfl
    | none =>
        rw [last] at length
        exact absurd length.symm full

@[simp] theorem capacity_opened (tables : SlotTables) :
    tables.opened.capacity = tables.capacity := by
  rw [opened]
  split
  · rfl
  · rfl

@[simp] theorem places_opened (tables : SlotTables) : tables.opened.places = tables.places := by
  rw [opened]
  split
  · rfl
  · rfl

/-- A new glyph is put behind the others of the last subset, or into one that is opened for it. -/
theorem Represents.append? (represents : tables.Represents slots) {glyph : GlyphId}
    (char : Option Char) (fresh : slots.places[glyph]? = none) :
    ∃ after, tables.opened.append? glyph char =
        some ((slots.slotAt slots.assigned.size).toByteSlot, after) ∧
      after.Represents (slots.append glyph char fresh) := by
  have room := represents.hasRoom_opened
  let last := (slots.slotAt slots.assigned.size).subset
  let held := (slots.subset? last).getD []
  have code : (SubsetTable.ofGlyphs held).glyphs.size =
      (slots.slotAt slots.assigned.size).position := by
    rw [SubsetTable.ofGlyphs, List.size_toArray, List.length_map]
    exact slots.length_last
  let table := SubsetTable.ofGlyphs (held ++ [⟨glyph, char⟩])
  refine ⟨⟨tables.opened.capacity, tables.opened.places.insert glyph
    (slots.slotAt slots.assigned.size).toByteSlot, (tables.opened.setSubset last table).subsets⟩,
    ?_, ?_, fun other => ?_, fun index => ?_⟩
  · rw [SlotTables.append?, room.size, Nat.add_sub_cancel, room.last, Option.bind_eq_bind,
      Option.bind_some, SubsetTable.push_ofGlyphs]
    simp only [held, last] at code
    rw [code]
    rfl
  · rw [capacity_opened]
    exact represents.capacity
  · have compared : compare glyph other = .eq ↔ glyph = other :=
      Std.LawfulEqCmp.compare_eq_iff_eq
    rw [Std.TreeMap.getElem?_insert, places_opened, represents.places, Slots.get?_append]
    simp only [compared]
    split
    · rfl
    · rfl
  · refine getElem?_setSubset (room.size ▸ Nat.lt_succ_self _) (fun index other => ?_) ?_ index
    · rw [room.others index other, Slots.subset?_append, if_neg other]
    · rw [Slots.subset?_append, if_pos rfl]

/-- What `Slots.assign` says of slots, the tables say of them too, and every place is there. -/
theorem Represents.assign? (represents : tables.Represents slots) (glyph : GlyphId)
    (char : Option Char) :
    ∃ after, tables.assign? glyph char =
        some ((slots.assign glyph char).1.toByteSlot, (slots.assign glyph char).2.1, after) ∧
      after.Represents (slots.assign glyph char).2.2 := by
  have assigns := slots.assigns_assign glyph char
  generalize slots.assign glyph char = outcome at assigns ⊢
  cases assigns with
  | old place held found same =>
      have known : slots.places[glyph]? = some place := by
        rw [slots.places_eq_some_iff, found, Option.map_some, same]
      have slot : tables.places[glyph]? = some (slots.slotAt place).toByteSlot := by
        rw [represents.places, Slots.get?, Slots.place?, known]
        rfl
      obtain ⟨after, noted, becomes⟩ := represents.note? found char
      refine ⟨after, ?_, becomes⟩
      simp only [SlotTables.assign?, slot, noted]
      rfl
  | new fresh =>
      have slot : tables.places[glyph]? = none := by
        rw [represents.places, Slots.get?, Slots.place?, fresh]
        rfl
      obtain ⟨after, appended, becomes⟩ := represents.append? char fresh
      refine ⟨after, ?_, becomes⟩
      simp only [SlotTables.assign?, slot, appended, represents.isFull]
      rfl

def assignAll? (tables : SlotTables) (requests : List (GlyphId × Option Char)) :
    Option SlotTables :=
  requests.foldlM (fun tables request => (tables.assign? request.1 request.2).map (·.2.2)) tables

end SlotTables

namespace Slots

def assignAll (slots : Slots) (requests : List (GlyphId × Option Char)) : Slots :=
  requests.foldl (fun slots request => (slots.assign request.1 request.2).2.2) slots

end Slots

theorem SlotTables.Represents.assignAll? {tables : SlotTables} {slots : Slots}
    (represents : tables.Represents slots) (requests : List (GlyphId × Option Char)) :
    ∃ after, tables.assignAll? requests = some after ∧
      after.Represents (slots.assignAll requests) := by
  induction requests generalizing tables slots with
  | nil => exact ⟨tables, rfl, represents⟩
  | cons request rest ih =>
      obtain ⟨next, assigned, becomes⟩ := represents.assign? request.1 request.2
      obtain ⟨after, others, last⟩ := ih becomes
      refine ⟨after, ?_, last⟩
      rw [SlotTables.assignAll?, List.foldlM_cons, assigned]
      exact others

end Folio
