import Folio.Font.TrueType.Tables
import Folio.Single

/-!
Tables of changes to the advances of glyphs and to the measures of a font. They list changes in
sets, and for each set the regions where its changes hold.
-/

namespace Folio

namespace TrueType

/-- The part of an axis where a change holds. -/
structure AxisRegion where
  first : Int
  peak : Int
  last : Int
deriving DecidableEq, Repr

/--
Whether a change holds in full at the default of the axis; otherwise it does not hold there at all.
A region without order or around the default sets no limit.
-/
def AxisRegion.holds (region : AxisRegion) : Bool :=
  region.peak < region.first || region.last < region.peak ||
    (region.first < 0 && 0 < region.last) || region.peak == 0

def axisRegion (record : Bytes) : AxisRegion :=
  ⟨signed (bigEndian (record.take 2)), signed (bigEndian ((record.drop 2).take 2)),
    signed (bigEndian (record.drop 4))⟩

structure ChangeSets where
  table : Bytes
  offsets : List Nat
  axes : Nat
  regions : Array AxisRegion
deriving DecidableEq, Repr

def changeSets? (table : Bytes) : Option ChangeSets := do
  if (← word? table 0) ≠ 1 then none
  else
    let regionOffset ← long? table 2
    let offsets ← records? table 8 4 (← word? table 6)
    let axes ← word? table regionOffset
    let count := axes * (← word? table (regionOffset + 2))
    let regions ← if 0xFFFF < count then none else records? table (regionOffset + 4) 6 count
    some ⟨table, offsets.map bigEndian, axes, (regions.map axisRegion).toArray⟩

namespace ChangeSets

def holds (sets : ChangeSets) (axes region : Nat) : Bool :=
  (List.range axes).all fun axis => sets.regions[region * sets.axes + axis]?.any AxisRegion.holds

def row? (row : Bytes) (size wide : Nat) : (regions : List Nat) → Option (List (Nat × Int))
  | [] => some []
  | region :: regions => do
      let width := if wide = 0 then size else 2 * size
      let number := bigEndian (← slice? row 0 width)
      let limit := 1 <<< (8 * width)
      let change : Int := if 2 * number < limit then number else (number : Int) - limit
      some ((region, change) :: (← row? (row.drop width) size (wide - 1) regions))

def change? (sets : ChangeSets) (axes set row : Nat) : Option Single := do
  let table := sets.table.drop (← sets.offsets[set]?)
  let rows ← word? table 0
  let sizes ← word? table 2
  let regions ← records? table 6 2 (← word? table 4)
  let size := if sizes < 0x8000 then 1 else 2
  let wide := sizes % 0x8000
  if rows ≤ row ∨ regions.length < wide then none
  else
    let start := 6 + 2 * regions.length + row * (size * (wide + regions.length))
    let changes ← row? (table.drop start) size wide (regions.map bigEndian)
    some (changes.foldl (fun total (region, change) =>
      if sets.holds axes region then total + Single.ofInt change else total) 0)

end ChangeSets

structure AdvanceChanges where
  sets : ChangeSets
  /-- What leads from glyphs to rows of sets, from there on to the end of its table. -/
  places : Option Bytes
deriving DecidableEq, Repr

def advanceChanges? (table : Bytes) : Option AdvanceChanges := do
  if (← long? table 0) ≠ 0x00010000 ∨ table.length < 20 then none
  else
    let sets ← changeSets? (table.drop (← long? table 4))
    let placesOffset ← long? table 8
    some ⟨sets, if placesOffset = 0 then none else some (table.drop placesOffset)⟩

/-- The set and the row for a glyph; glyphs that are not listed share the last place. -/
def listedPlace? (places : Bytes) (glyph : Nat) : Option (Nat × Nat) := do
  let format ← slice? places 0 1
  let entry := bigEndian (← slice? places 1 1)
  let (count, start) ←
    if format = [0] then some (← word? places 2, 4) else some (← long? places 2, 6)
  if count = 0 then none
  else
    let size := entry / 16 % 4 + 1
    let bits := entry % 16 + 1
    let place := bigEndian (← slice? places (start + size * min glyph (count - 1)) size)
    if 0xFFFF < place >>> bits then none else some (place >>> bits, place % (1 <<< bits))

/-- The change to the advance of a glyph. Without a list of places a glyph has the row it names. -/
def AdvanceChanges.change? (changes : AdvanceChanges) (axes glyph : Nat) : Option Single := do
  let (set, row) ←
    match changes.places with
    | some places => listedPlace? places glyph
    | none => some (0, glyph)
  changes.sets.change? axes set row

structure MeasureChanges where
  sets : ChangeSets
  /-- Tags in ascending order, each with a set and a row. -/
  records : List Bytes
deriving DecidableEq, Repr

def measureChanges? (table : Bytes) : Option MeasureChanges := do
  let count ← word? table 8
  let setsOffset ← word? table 10
  if (← long? table 0) ≠ 0x00010000 ∨ (← word? table 6) ≠ 8 ∨ count = 0 ∨ setsOffset = 0 then none
  else some ⟨← changeSets? (table.drop setsOffset), ← records? table 12 8 count⟩

def MeasureChanges.change? (changes : MeasureChanges) (axes : Nat) (tag : String) :
    Option Single := do
  let record ← Bisection.find? (fun record : Bytes => compare (bigEndian (record.take 4))
    (bigEndian (utf8 tag))) changes.records.toArray
  changes.sets.change? axes (bigEndian ((record.drop 4).take 2)) (bigEndian (record.drop 6))

end TrueType

end Folio
