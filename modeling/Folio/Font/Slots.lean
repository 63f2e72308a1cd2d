import Folio.Font.Metrics
import Std.Data.TreeMap.Lemmas

/-!
The places of the glyphs of a font. Glyphs take places in the order of their first use; a subset is
a run of as many places as there are codes, so the place gives subset and code.
-/

namespace Folio

/-- A subset of a font, and the code of a glyph within it. -/
structure Slot where
  subset : Nat
  position : Nat
deriving DecidableEq, Repr

structure AssignedGlyph where
  glyph : GlyphId
  /-- The character that the glyph stands for, where one was named. -/
  char : Option Char
deriving DecidableEq, Repr

def AssignedGlyph.text (assigned : AssignedGlyph) : List Char :=
  assigned.char.toList

/-- One-byte codes, less the one that stands for the missing glyph. -/
def Slots.largestCapacity : Nat :=
  255

structure Slots where
  capacity : Nat
  capacity_pos : 0 < capacity
  capacity_le_largest : capacity ≤ Slots.largestCapacity
  assigned : Array AssignedGlyph
  places : Std.TreeMap GlyphId Nat
  places_eq_some_iff : ∀ glyph place,
    places[glyph]? = some place ↔ assigned[place]?.map AssignedGlyph.glyph = some glyph

namespace Slots

def ofCapacity (capacity : Nat) : Slots where
  capacity := max 1 (min largestCapacity capacity)
  capacity_pos := Nat.lt_of_lt_of_le Nat.zero_lt_one (Nat.le_max_left _ _)
  capacity_le_largest := Nat.max_le.mpr ⟨by decide, Nat.min_le_left _ _⟩
  assigned := #[]
  places := ∅
  places_eq_some_iff := by simp

/-- The slot of the glyph that was assigned at a place in the order. -/
def slotAt (slots : Slots) (place : Nat) : Slot :=
  ⟨place / slots.capacity, place % slots.capacity⟩

/-- The place of a glyph in the order of first use. -/
def place? (slots : Slots) (glyph : GlyphId) : Option Nat :=
  slots.places[glyph]?

def get? (slots : Slots) (glyph : GlyphId) : Option Slot :=
  (slots.place? glyph).map slots.slotAt

def subsetCount (slots : Slots) : Nat :=
  (slots.assigned.size + slots.capacity - 1) / slots.capacity

def subset? (slots : Slots) (index : Nat) : Option (List AssignedGlyph) :=
  if index < slots.subsetCount then
    some ((slots.assigned.toList.drop (index * slots.capacity)).take slots.capacity)
  else none

def noteChar (char : Option Char) (held : AssignedGlyph) : AssignedGlyph :=
  { held with char := held.char <|> char }

theorem glyph_noteChar (char : Option Char) (held : AssignedGlyph) :
    (noteChar char held).glyph = held.glyph := rfl

/-- The slots after a character was named for the glyph at a place. -/
def note (slots : Slots) (place : Nat) (char : Option Char) : Slots :=
  { slots with
    assigned := slots.assigned.modify place (noteChar char)
    places_eq_some_iff := by
      intro glyph other
      rw [slots.places_eq_some_iff, Array.getElem?_modify]
      split
      · simp [Option.map_map, Function.comp_def, glyph_noteChar]
      · rfl }

theorem getElem?_places_ne_size (slots : Slots) (glyph : GlyphId) :
    slots.places[glyph]? ≠ some slots.assigned.size := by
  simp [slots.places_eq_some_iff]

def append (slots : Slots) (glyph : GlyphId) (char : Option Char)
    (hnew : slots.places[glyph]? = none) : Slots :=
  { slots with
    assigned := slots.assigned.push ⟨glyph, char⟩
    places := slots.places.insert glyph slots.assigned.size
    places_eq_some_iff := by
      intro other place
      rw [Std.TreeMap.getElem?_insert, Array.getElem?_push]
      by_cases hsame : glyph = other
      · subst hsame
        by_cases hplace : place = slots.assigned.size
        · simp [hplace]
        · have hold := slots.places_eq_some_iff glyph place
          simp only [hnew, reduceCtorEq, false_iff] at hold
          simp [hplace, hold, Ne.symm hplace]
      · have hcompare : compare glyph other ≠ .eq := fun heq =>
          hsame (Std.LawfulEqCmp.eq_of_compare heq)
        by_cases hplace : place = slots.assigned.size
        · subst hplace
          simp [hcompare, hsame, getElem?_places_ne_size]
        · simp [hcompare, hplace, slots.places_eq_some_iff] }

/--
The slot of a glyph, whether a subset was opened for it, and the slots afterwards. A glyph keeps
its slot, and the first character that it was asked for with.
-/
def assign (slots : Slots) (glyph : GlyphId) (char : Option Char) : Slot × Bool × Slots :=
  match hplace : slots.places[glyph]? with
  | some place => (slots.slotAt place, false, slots.note place char)
  | none =>
      let place := slots.assigned.size
      (slots.slotAt place, place % slots.capacity == 0, slots.append glyph char hplace)

/-- The glyphs of a subset and then as many empty places as `capacity` has room for. -/
def padded (subset : List AssignedGlyph) (capacity : Nat) : List (Option GlyphId) :=
  (subset.map fun held => some held.glyph) ++ List.replicate (capacity - subset.length) none

end Slots

end Folio
