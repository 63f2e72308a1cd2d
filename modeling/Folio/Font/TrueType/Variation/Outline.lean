import Folio.Font.TrueType.Tables
import Folio.Single

/-!
Changes to the points of outlines. Four points that follow those of an outline stand for its
advance and its height; the second of them moves the advance.
-/

namespace Folio

namespace TrueType

/-- Where outlines begin and end, as far as a font has glyphs. -/
def locations? (longOffsets : Bool) (glyphCount : Nat) (table : Bytes) : Option (List Nat) := do
  let size := if longOffsets then 4 else 2
  let available := table.length / size
  if 0xFFFF < available then none
  else
    let listed ← records? table 0 size (min available (min (glyphCount + 1) 0xFFFF))
    some (listed.map fun entry => if longOffsets then bigEndian entry else 2 * bigEndian entry)

/-- How many points a composite outline has: one for each component. -/
def componentCount (outline : Bytes) : (fuel offset : Nat) → Nat
  | 0, _ => 0
  | fuel + 1, offset =>
      match word? outline offset, word? outline (offset + 2) with
      | some flags, some _ =>
          let next := offset + 4 +
            (if flags.testBit 1 then if flags.testBit 0 then 4 else 2 else 0) +
            (if flags.testBit 7 then 8 else if flags.testBit 6 then 4
              else if flags.testBit 3 then 2 else 0)
          if outline.length < next then 0
          else if flags.testBit 5 then componentCount outline fuel next + 1
          else 1
      | _, _ => 0

/-- How many bytes a coordinate takes whose flags tell that it is short or that it is left out. -/
def coordinateSize (short same : Bool) : Nat :=
  if short then 1 else if same then 0 else 2

def coordinates? (outline : Bytes) : (fuel offset count : Nat) → Option (Nat × Nat)
  | _, offset, 0 => some (offset, 0)
  | 0, _, _ => none
  | fuel + 1, offset, count => do
      let flags := bigEndian (← slice? outline offset 1)
      let (repeats, next) ←
        if flags.testBit 3 then some (bigEndian (← slice? outline (offset + 1) 1) + 1, offset + 2)
        else some (1, offset + 1)
      if count < repeats then none
      else
        let size := coordinateSize (flags.testBit 1) (flags.testBit 4) +
          coordinateSize (flags.testBit 2) (flags.testBit 5)
        let (stop, rest) ← coordinates? outline fuel next (count - repeats)
        some (stop, repeats * size + rest)

/-- How many points an outline of contours has; a single point does not count. -/
def simplePointCount? (outline : Bytes) (contours : Nat) : Option Nat := do
  let ends ← records? outline 10 2 contours
  let count := bigEndian (← ends.getLast?) + 1
  if 0xFFFF < count then none
  else if count = 1 then some 0
  else
    let flags := 12 + 2 * contours + (← word? outline (10 + 2 * contours))
    let (stop, size) ← coordinates? outline count flags count
    if (slice? outline stop size).isSome then some count else none

/-- How many points an outline has, none if it cannot be read. -/
def pointCount (outlines : Bytes) (locations : List Nat) (glyph : Nat) : Nat :=
  let found : Option Nat := do
    let first ← locations[glyph]?
    let last ← locations[glyph + 1]?
    let outline ← if first < last then slice? outlines first (last - first) else none
    let contours ← signedWord? outline 0
    if 0 < contours then simplePointCount? outline contours.toNat
    else if contours < 0 then some (componentCount outline outline.length 10)
    else none
  found.getD 0

structure GlyphChanges where
  axes : Nat
  /-- Peaks of regions that glyphs share, axis by axis. -/
  sharedPeaks : List Int
  /-- Where the changes of each glyph begin and end. -/
  offsets : List Nat
  changes : Bytes
deriving DecidableEq, Repr

structure OutlineChanges where
  outlines : Bytes
  locations : List Nat
  changes : GlyphChanges
deriving DecidableEq, Repr

def numbersOf (records : List Bytes) : List Int :=
  records.map fun record => signed (bigEndian record)

def glyphChanges? (table : Bytes) : Option GlyphChanges := do
  let axes ← word? table 4
  let sharedCount := axes * (← word? table 6)
  let sharedOffset ← long? table 8
  let glyphCount ← word? table 12
  let long := (← word? table 14) % 2 == 1
  let changesOffset ← long? table 16
  if (← long? table 0) ≠ 0x00010000 ∨ axes = 0 ∨ 0xFFFF < sharedCount ∨ glyphCount = 0xFFFF ∨
      table.length < changesOffset then none
  else
    let peaks ← records? table sharedOffset 2 sharedCount
    let offsets ← records? table 20 (if long then 4 else 2) (glyphCount + 1)
    some ⟨axes, numbersOf peaks,
      offsets.map fun entry => if long then bigEndian entry else 2 * bigEndian entry,
      table.drop changesOffset⟩

/-- Numbers of points that changes are for, each as the distance to the one before. -/
def packedPoints? : (count : Nat) → (fuel : Nat) → Bytes → Option (List Nat × Bytes)
  | 0, _, bytes => some ([], bytes)
  | _, 0, _ | _, _, [] => none
  | count + 1, fuel + 1, control :: bytes => do
      let run := control.toNat % 128 + 1
      let size := if control < 128 then 1 else 2
      let found ← records? bytes 0 size run
      if count + 1 < run then none
      else
        let (points, rest) ← packedPoints? (count + 1 - run) fuel (bytes.drop (size * run))
        some (found.map bigEndian ++ points, rest)

/-- The points that changes are for, and what follows them; no list of points is for all. -/
def pointNumbers? : Bytes → Option (Option (List Nat) × Bytes)
  | [] => none
  | count :: bytes => do
      let (count, bytes) ←
        if count < 128 then some (count.toNat, bytes)
        else
          match bytes with
          | low :: bytes => some (count.toNat % 128 * 256 + low.toNat, bytes)
          | [] => none
      if count = 0 then some (none, bytes)
      else
        let (points, rest) ← packedPoints? count count bytes
        some (some points, rest)

/-- For consecutive points whether there is a change. All points after the last one have changes. -/
def changedPoints : (count skipped : Nat) → List Nat → List Bool
  | 0, _, _ => []
  | count + 1, skipped + 1, points => false :: changedPoints count skipped points
  | count + 1, 0, point :: points => true :: changedPoints count (point - 1) points
  | count + 1, 0, [] => true :: changedPoints count 0 []

def packedChanges : (fuel : Nat) → Bytes → List Int
  | 0, _ | _, [] => []
  | fuel + 1, control :: bytes =>
      let run := control.toNat % 64 + 1
      if 128 ≤ control then List.replicate run 0 ++ packedChanges fuel bytes
      else if 64 ≤ control then
        let found := groupsOf 2 (min run (bytes.length / 2)) bytes
        numbersOf found ++
          if found.length < run then [] else packedChanges fuel (bytes.drop (2 * run))
      else
        (bytes.take run).map (fun byte =>
          if byte < 128 then (byte.toNat : Int) else (byte.toNat : Int) - 256) ++
          packedChanges fuel (bytes.drop run)

def changePlace (points : Option (List Nat)) (point : Nat) : Bool × Nat :=
  match points with
  | none => (true, point)
  | some points =>
      let changed := changedPoints (point + 1) (points.headD 0) (points.drop 1)
      (changed[point]?.getD false, (changed.take point).count true)

/--
The change across of one of `count` points. All changes across stand before those along; a point
that lacks one of them stays where it is.
-/
def pointChange (count point : Nat) (points : Option (List Nat)) (packed : Bytes) : Int :=
  let listed := (points.map List.length).getD count
  let changes := packedChanges packed.length packed
  let (changed, place) := changePlace points point
  if changed ∧ place + listed < changes.length then changes.getD place 0 else 0

def regionHolds (peaks : List Int) (limits : Option (List Int × List Int)) : Bool :=
  peaks.zipIdx.all fun (peak, axis) => peak == 0 ||
    match limits with
    | none => false
    | some (firsts, lasts) =>
        let first := firsts.getD axis 0
        let last := lasts.getD axis 0
        peak < first || last < peak || (first < 0 && 0 < last)

structure ChangeHead where
  size : Nat
  holds : Bool
  /-- Whether the set has a list of points of its own. -/
  hasPoints : Bool
deriving DecidableEq, Repr

def changeHead? (changes : GlyphChanges) (bytes : Bytes) : Option (ChangeHead × Bytes) := do
  let size ← word? bytes 0
  let index ← word? bytes 2
  let axes := changes.axes
  let numbers? (offset : Nat) : Option (List Int) := (records? bytes offset 2 axes).map numbersOf
  let (peaks, next) ←
    if index.testBit 15 then some (← numbers? 4, 4 + 2 * axes)
    else
      let start := index % 0x1000 * axes
      if changes.sharedPeaks.length < start + axes then none
      else some ((changes.sharedPeaks.drop start).take axes, 4)
  let (limits, next) ←
    if index.testBit 14 then
      some (some (← numbers? next, ← numbers? (next + 2 * axes)), next + 4 * axes)
    else some (none, next)
  some (⟨size, regionHolds peaks limits, index.testBit 13⟩, bytes.drop next)

/-- The change across of one of `points` points, summed up over the sets that hold. -/
def changeSum? (changes : GlyphChanges) (points point : Nat) (shared : Option (List Nat)) :
    (count : Nat) → (heads packed : Bytes) → (sum : Single) → Option Single
  | 0, _, _, sum => some sum
  | count + 1, heads, packed, sum => do
      let (head, heads) ← changeHead? changes heads
      let next := packed.drop head.size
      if !head.holds then changeSum? changes points point shared count heads next sum
      else
        let (listed, rest) ← if head.hasPoints then pointNumbers? packed else some (shared, packed)
        let used := packed.length - rest.length
        let own ← if head.size < used then none else slice? rest 0 (head.size - used)
        changeSum? changes points point shared count heads next
          (sum + Single.ofInt (pointChange points point listed own))

def GlyphChanges.change? (changes : GlyphChanges) (glyph points point : Nat) : Option Single := do
  let first ← changes.offsets[glyph]?
  let last ← changes.offsets[glyph + 1]?
  if first = last then some 0
  else
    let bytes ← if last < first then none else slice? changes.changes first (last - first)
    let flags ← word? bytes 0
    let offset ← word? bytes 2
    let count := flags % 0x1000
    if count = 0 ∨ 32 < count ∨ bytes.length < offset then none
    else
      let packed := bytes.drop offset
      let (shared, packed) ← if flags.testBit 15 then pointNumbers? packed else some (none, packed)
      changeSum? changes points point shared count (bytes.drop 4) packed 0

/-- The change to the advance of a glyph: that of the second of the four points at the end. -/
def OutlineChanges.advanceChange? (outline : OutlineChanges) (axes glyph : Nat) :
    Option Single :=
  let count := pointCount outline.outlines outline.locations glyph
  if axes = outline.changes.axes then outline.changes.change? glyph (count + 4) (count + 1)
  else none

end TrueType

end Folio
