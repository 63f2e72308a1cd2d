import Folio.Proofs.SlotTables
import Mathlib.Logic.ExistsUnique

/-!
The slots of a font after requests for glyphs: a glyph is looked up where its subset holds it, every
subset but the last is filled, and a glyph stands for the first character that was named for it.
-/

namespace Folio

namespace Slots

variable {slots : Slots} {glyph : GlyphId}

def at? (slots : Slots) (slot : Slot) : Option AssignedGlyph :=
  (slots.subset? slot.subset).bind (·[slot.position]?)

theorem at?_slotAt (slots : Slots) (place : Nat) :
    slots.at? (slots.slotAt place) = slots.assigned[place]? := by
  rw [at?, getElem?_subset?, if_pos (slots.position_lt place), slotAt, Nat.mul_comm,
    Nat.div_add_mod]

theorem slotAt_of_at? {slot : Slot} {held : AssignedGlyph} (found : slots.at? slot = some held) :
    slots.slotAt (slot.subset * slots.capacity + slot.position) = slot := by
  rw [at?, getElem?_subset?] at found
  split at found
  · next inside =>
    rw [slotAt, Nat.mul_comm, Nat.mul_add_div slots.capacity_pos, Nat.div_eq_of_lt inside,
      Nat.mul_add_mod, Nat.mod_eq_of_lt inside, Nat.add_zero]
  · contradiction

theorem get?_eq_some_iff {slot : Slot} :
    slots.get? glyph = some slot ↔ (slots.at? slot).map AssignedGlyph.glyph = some glyph := by
  rw [get?, place?, Option.map_eq_some_iff]
  constructor
  · rintro ⟨place, known, rfl⟩
    rw [at?_slotAt]
    exact (slots.places_eq_some_iff glyph place).mp known
  · intro stands
    obtain ⟨held, found, -⟩ := Option.map_eq_some_iff.mp stands
    have same := slotAt_of_at? found
    refine ⟨_, (slots.places_eq_some_iff glyph _).mpr ?_, same⟩
    rw [← at?_slotAt, same]
    exact stands

theorem isSome_get? : (slots.get? glyph).isSome ↔ glyph ∈ slots.glyphs := by
  rw [get?, Option.isSome_map, place?, Option.isSome_iff_exists, List.mem_iff_getElem?]
  exact exists_congr fun place => places_iff_glyphs

theorem existsUnique_at? (taken : glyph ∈ slots.glyphs) :
    ∃! slot, (slots.at? slot).map AssignedGlyph.glyph = some glyph := by
  obtain ⟨slot, found⟩ := Option.isSome_iff_exists.mp (isSome_get?.mpr taken)
  refine ⟨slot, get?_eq_some_iff.mp found, fun other stands => ?_⟩
  have also := get?_eq_some_iff.mpr stands
  exact Option.some.inj (also.symm.trans found)

theorem get?_assign (slots : Slots) (glyph : GlyphId) (char : Option Char) :
    (slots.assign glyph char).2.2.get? glyph = some (slots.assign glyph char).1 := by
  obtain ⟨place, slot, found⟩ := slots.exists_place_of_assign glyph char
  have capacity := (slots.extends_assign glyph char).capacity
  rw [get?, place?, places_iff_glyphs.mpr found, Option.map_some, slot, slotAt, slotAt, capacity]

theorem isSome_subset? {index : Nat} :
    (slots.subset? index).isSome ↔ index < slots.subsetCount := by
  rw [subset?]
  split
  · next inside => exact iff_of_true rfl inside
  · next outside => exact iff_of_false Bool.false_ne_true outside

theorem length_of_not_last {index : Nat} {glyphs : List AssignedGlyph}
    (found : slots.subset? index = some glyphs) (before : index + 1 < slots.subsetCount) :
    glyphs.length = slots.capacity := by
  refine length_of_full found ?_
  rw [subsetCount_eq] at before
  split at before
  · exact Nat.lt_of_succ_lt before
  · exact Nat.lt_of_succ_lt_succ before

theorem padded_eq {glyphs : List AssignedGlyph} {capacity : Nat}
    (bound : glyphs.length ≤ capacity) :
    padded glyphs capacity =
      (List.range capacity).map fun position => glyphs[position]?.map AssignedGlyph.glyph := by
  refine List.ext_getElem? fun position => ?_
  rw [padded, List.getElem?_append, List.length_map, List.getElem?_map, List.getElem?_map,
    List.getElem?_replicate]
  by_cases held : position < glyphs.length
  · rw [if_pos held, List.getElem?_range (by omega), Option.map_some,
      List.getElem?_eq_getElem held]
    rfl
  · rw [if_neg held]
    by_cases inside : position < capacity
    · rw [if_pos (by omega), List.getElem?_range inside, Option.map_some,
        List.getElem?_eq_none (Nat.not_lt.mp held)]
      rfl
    · rw [if_neg (by omega), List.getElem?_eq_none (by rw [List.length_range]; omega)]
      rfl

theorem opened_iff (slots : Slots) (glyph : GlyphId) (char : Option Char) :
    (slots.assign glyph char).2.1 = true ↔
      slots.subsetCount < (slots.assign glyph char).2.2.subsetCount := by
  rw [subsetCount_assign]
  split
  · next opened => exact iff_of_true opened (Nat.lt_succ_self _)
  · next kept => exact iff_of_false kept (Nat.lt_irrefl _)

variable {requests : List (GlyphId × Option Char)}

def charsOf (glyph : GlyphId) (requests : List (GlyphId × Option Char)) : List Char :=
  requests.filterMap fun request => if request.1 = glyph then request.2 else none

theorem head?_charsOf_append (glyph : GlyphId) (requests : List (GlyphId × Option Char))
    (asked : GlyphId) (char : Option Char) :
    (charsOf glyph (requests ++ [(asked, char)])).head? =
      ((charsOf glyph requests).head? <|> if asked = glyph then char else none) := by
  rw [charsOf, List.filterMap_append, List.head?_append, ← charsOf]
  by_cases same : asked = glyph
  · cases char with
    | none => simp [same]
    | some first => simp [same]
  · simp [same]

theorem charsOf_eq_nil (absent : glyph ∉ requests.map Prod.fst) : charsOf glyph requests = [] := by
  refine List.filterMap_eq_nil_iff.mpr fun request member => if_neg fun same => ?_
  exact absent (List.mem_map.mpr ⟨request, member, same⟩)

/-- Slots that hold what was asked for, each glyph with the first character named for it. -/
structure Holds (slots : Slots) (requests : List (GlyphId × Option Char)) : Prop where
  glyphs : ∀ glyph, glyph ∈ slots.glyphs ↔ glyph ∈ requests.map Prod.fst
  char : ∀ {place : Nat} {held : AssignedGlyph}, slots.assigned[place]? = some held →
    held.char = (charsOf held.glyph requests).head?

theorem holds_ofCapacity (capacity : Nat) : (ofCapacity capacity).Holds [] where
  glyphs := fun _ => Iff.rfl
  char := fun found => Option.noConfusion rfl (heq_of_eq found)

theorem Holds.glyphs_assign (holds : slots.Holds requests) (glyph : GlyphId) (char : Option Char)
    (other : GlyphId) :
    other ∈ (slots.assign glyph char).2.2.glyphs ↔
      other ∈ (requests ++ [(glyph, char)]).map Prod.fst := by
  rw [Slots.glyphs_assign, List.map_append, List.mem_append, ← holds.glyphs]
  split
  · next taken =>
    refine ⟨.inl, fun either => either.elim id fun last => ?_⟩
    rw [List.mem_singleton.mp last]
    exact taken
  · exact List.mem_append

/-- The characters of a glyph that is not the one asked for are those of before. -/
theorem Holds.char_other (holds : slots.Holds requests) {place : Nat} {held : AssignedGlyph}
    (found : slots.assigned[place]? = some held) {asked : GlyphId} (other : asked ≠ held.glyph)
    (char : Option Char) :
    held.char = (charsOf held.glyph (requests ++ [(asked, char)])).head? := by
  rw [head?_charsOf_append, if_neg other, ← holds.char found]
  cases held.char with
  | none => rfl
  | some first => rfl

theorem Holds.assign (holds : slots.Holds requests) (glyph : GlyphId) (char : Option Char) :
    (slots.assign glyph char).2.2.Holds (requests ++ [(glyph, char)]) where
  glyphs := holds.glyphs_assign glyph char
  char := by
    have assigns := slots.assigns_assign glyph char
    generalize slots.assign glyph char = outcome at assigns ⊢
    intro place held found
    cases assigns with
    | old own before foundOwn same =>
        rw [note, Array.getElem?_modify] at found
        split at found
        · next here =>
          rw [← here, foundOwn, Option.map_some, Option.some_inj] at found
          rw [← found, glyph_noteChar, head?_charsOf_append, if_pos same.symm, noteChar,
            ← holds.char foundOwn]
        · next elsewhere =>
          refine holds.char_other found (fun equal => elsewhere ?_) char
          have known := (slots.places_eq_some_iff glyph own).mpr (by rw [foundOwn, ← same]; rfl)
          have also := (slots.places_eq_some_iff glyph place).mpr (by rw [found, equal]; rfl)
          exact Option.some.inj (known.symm.trans also)
    | new fresh =>
        rw [append, Array.getElem?_push] at found
        split at found
        · have absent : glyph ∉ slots.glyphs := fun taken => by
            rw [← isSome_get?, get?, place?, fresh] at taken
            contradiction
          rw [holds.glyphs] at absent
          rw [← Option.some.inj found, head?_charsOf_append, if_pos rfl, charsOf_eq_nil absent]
          rfl
        · refine holds.char_other found (fun equal => ?_) char
          have known := (slots.places_eq_some_iff glyph place).mpr (by rw [found, equal]; rfl)
          exact Option.noConfusion rfl (heq_of_eq (fresh.symm.trans known))

theorem Holds.assignAll (holds : slots.Holds requests)
    (further : List (GlyphId × Option Char)) :
    (slots.assignAll further).Holds (requests ++ further) := by
  induction further generalizing slots requests with
  | nil =>
      rw [List.append_nil]
      exact holds
  | cons request rest ih =>
      rw [List.append_cons]
      exact ih (holds.assign request.1 request.2)

theorem holds_assignAll (capacity : Nat) (requests : List (GlyphId × Option Char)) :
    ((ofCapacity capacity).assignAll requests).Holds requests :=
  (holds_ofCapacity capacity).assignAll requests

theorem extends_assignAll (slots : Slots) (requests : List (GlyphId × Option Char)) :
    slots.Extends (slots.assignAll requests) := by
  induction requests generalizing slots with
  | nil => exact .refl slots
  | cons request rest ih => exact (slots.extends_assign request.1 request.2).trans (ih _)

theorem Holds.text_at? (holds : slots.Holds requests) {slot : Slot} {held : AssignedGlyph}
    (found : slots.at? slot = some held) :
    held.text = (charsOf held.glyph requests).take 1 := by
  rw [← slotAt_of_at? found, at?_slotAt] at found
  rw [AssignedGlyph.text, holds.char found]
  cases charsOf held.glyph requests with
  | nil => rfl
  | cons first rest => rfl

end Slots

namespace SlotTables

variable {tables : SlotTables} {slots : Slots}

theorem Represents.lookup (represents : tables.Represents slots) {glyph : GlyphId}
    {slot : ByteSlot} :
    tables.places[glyph]? = some slot ↔
      (tables.subsets[slot.subset]?).bind (·.glyphs[slot.position.toNat]?) = some glyph := by
  have stands : (tables.subsets[slot.subset]?).bind (·.glyphs[slot.position.toNat]?) =
      (slots.at? ⟨slot.subset, slot.position.toNat⟩).map AssignedGlyph.glyph := by
    rw [represents.subsets, Slots.at?]
    cases slots.subset? slot.subset with
    | none => rfl
    | some glyphs => simp [SubsetTable.ofGlyphs]
  rw [stands, ← Slots.get?_eq_some_iff, represents.places, Option.map_eq_some_iff]
  constructor
  · rintro ⟨wide, found, rfl⟩
    obtain ⟨place, -, rfl⟩ := Option.map_eq_some_iff.mp found
    rw [slots.toNat_position]
    exact found
  · intro found
    exact ⟨_, found, congrArg (ByteSlot.mk _) (UInt8.ofNat_toNat ..)⟩

/-- Tables in which glyphs are looked up as in slots, before a request and after it. -/
structure Serves (tables : SlotTables) (slots : Slots) : Prop extends
    tables.Represents slots where
  lookup : ∀ (glyph : GlyphId) (slot : ByteSlot), tables.places[glyph]? = some slot ↔
    (tables.subsets[slot.subset]?).bind (·.glyphs[slot.position.toNat]?) = some glyph
  texts : ∀ table ∈ tables.subsets, table.texts.size = table.glyphs.size
  /-- All places that a request looks up are there. -/
  assigned : ∀ glyph char, ∃ after,
    tables.assign? glyph char =
        some ((slots.assign glyph char).1.toByteSlot, (slots.assign glyph char).2.1, after) ∧
      after.Represents (slots.assign glyph char).2.2
  code : ∀ glyph char, (slots.assign glyph char).1.toByteSlot.position.toNat =
    (slots.assign glyph char).1.position

theorem Represents.serves (represents : tables.Represents slots) : tables.Serves slots where
  toRepresents := represents
  lookup := fun _ _ => represents.lookup
  texts := fun _ => represents.size_texts
  assigned := represents.assign?
  code := by
    intro glyph char
    obtain ⟨place, slot, -⟩ := slots.exists_place_of_assign glyph char
    rw [slot]
    exact slots.toNat_position place

end SlotTables

namespace Slots

/-- What requests for glyphs make of a font that has so many codes in each of its subsets. -/
structure Distributes (codes : Nat) (requests : List (GlyphId × Option Char))
    (slots : Slots) : Prop where
  capacity : slots.capacity = max 1 (min largestCapacity codes)
  lookup : ∀ glyph slot,
    slots.get? glyph = some slot ↔ (slots.at? slot).map AssignedGlyph.glyph = some glyph
  asked : ∀ glyph, (slots.get? glyph).isSome ↔ glyph ∈ requests.map Prod.fst
  once : ∀ glyph, glyph ∈ requests.map Prod.fst →
    ∃! slot, (slots.at? slot).map AssignedGlyph.glyph = some glyph
  subsets : ∀ index, (slots.subset? index).isSome ↔ index < slots.subsetCount
  occupied : ∀ index glyphs, slots.subset? index = some glyphs →
    1 ≤ glyphs.length ∧ glyphs.length ≤ slots.capacity
  filled : ∀ index glyphs, slots.subset? index = some glyphs → index + 1 < slots.subsetCount →
    glyphs.length = slots.capacity
  text : ∀ slot held, slots.at? slot = some held →
    held.text = (charsOf held.glyph requests).take 1
  /-- No further requests move a glyph or replace its text. -/
  kept : ∀ further, slots.Extends (slots.assignAll further)
  answered : ∀ glyph char,
    (slots.assign glyph char).2.2.get? glyph = some (slots.assign glyph char).1
  opened : ∀ glyph char, (slots.assign glyph char).2.1 = true ↔
    slots.subsetCount < (slots.assign glyph char).2.2.subsetCount
  padded : ∀ index glyphs, slots.subset? index = some glyphs →
    padded glyphs slots.capacity = (List.range slots.capacity).map fun position =>
      glyphs[position]?.map AssignedGlyph.glyph
  tables : ∃ tables, (SlotTables.ofCapacity codes).assignAll? requests = some tables ∧
    tables.Serves slots

/-- Whatever is asked for, the glyphs are distributed over subsets as the requests say. -/
theorem distributes_assignAll (codes : Nat) (requests : List (GlyphId × Option Char)) :
    ((ofCapacity codes).assignAll requests).Distributes codes requests where
  capacity := ((ofCapacity codes).extends_assignAll requests).capacity
  lookup := fun _ _ => get?_eq_some_iff
  asked := fun glyph => isSome_get?.trans ((holds_assignAll codes requests).glyphs glyph)
  once := fun glyph wanted =>
    existsUnique_at? (((holds_assignAll codes requests).glyphs glyph).mpr wanted)
  subsets := fun _ => isSome_subset?
  occupied := fun _ _ => length_of_subset?
  filled := fun _ _ => length_of_not_last
  text := fun _ _ => (holds_assignAll codes requests).text_at?
  kept := extends_assignAll _
  answered := get?_assign _
  opened := opened_iff _
  padded := fun _ _ found => padded_eq (length_of_subset? found).2
  tables := by
    obtain ⟨tables, reached, represents⟩ :=
      (SlotTables.represents_ofCapacity codes).assignAll? requests
    exact ⟨tables, reached, represents.serves⟩

end Slots

end Folio
