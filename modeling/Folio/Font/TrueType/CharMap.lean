import Folio.Font.TrueType.Tables

/-!
The maps from characters to glyphs in a TrueType file. A file may have several of them, in forms
that differ in how they list characters.
-/

namespace Folio

namespace TrueType

/-- First and last character of a range, with a glyph. -/
structure CharGroup where
  first : Nat
  last : Nat
  glyph : Nat
deriving DecidableEq, Repr

inductive CharMap where
  /-- A glyph for each of the first 256 characters. -/
  | single (glyphs : Bytes)
  /-- Headers for the first of two bytes, as they stand in the table. -/
  | double (table : Bytes)
  /-- Segments of the first plane, as they stand in the table. -/
  | segments (table : Bytes) (count : Nat)
  /-- Glyphs of consecutive characters up to a last one that the form can name. -/
  | trimmed (first limit : Nat) (glyphs : Bytes)
  /-- Groups in ascending order whose glyphs are consecutive, too. -/
  | groups (groups : List CharGroup)
  | shared (groups : List CharGroup)
  /-- A form that does not tell the glyphs of characters. -/
  | other
deriving DecidableEq, Repr

/-- The size of the headers for the first of two bytes, which the largest key tells. -/
def doubleHeaders? (table : Bytes) : Option Bytes := do
  let keys ← records? table 6 2 256
  let largest := keys.foldl (fun largest key => max largest (bigEndian key / 8)) 0
  slice? table 518 (8 * (largest + 1))

def segmentCount? (table : Bytes) : Option Nat := do
  let doubled ← word? table 6
  let count := doubled / 2
  if count = 0 ∨ (slice? table 14 (8 * count + 2)).isNone then none else some count

def charGroups? (table : Bytes) : Option (List CharGroup) := do
  let groups ← records? table 16 12 (← long? table 12)
  some (groups.map fun group =>
    ⟨bigEndian (group.take 4), bigEndian ((group.drop 4).take 4), bigEndian (group.drop 8)⟩)

def charMap? (table : Bytes) : Option CharMap := do
  let format ← word? table 0
  if format = 0 then (slice? table 6 256).map .single
  else if format = 2 then (doubleHeaders? table).map fun _ => .double table
  else if format = 4 then (segmentCount? table).map (.segments table)
  else if format = 6 then
    let glyphs ← slice? table 10 (2 * (← word? table 8))
    some (.trimmed (← word? table 6) 0xFFFF glyphs)
  else if format = 10 then
    let glyphs ← slice? table 20 (2 * (← long? table 16))
    some (.trimmed (← long? table 12) 0xFFFFFFFF glyphs)
  else if format = 12 then (charGroups? table).map .groups
  else if format = 13 then (charGroups? table).map .shared
  else if format = 14 then (slice? table 10 (11 * (← long? table 6))).map fun _ => .other
  else if format = 8 then some .other
  else none

def glyphOf? (glyph : Nat) : Option Nat :=
  if glyph ≤ 0xFFFF then some glyph else none

def doubleGlyph? (table : Bytes) (point : Nat) : Option Nat := do
  let low := point % 0x100
  let key ← if point < 0xFF then some 0 else word? table (6 + 2 * (point / 0x100))
  let position := 518 + 8 * (key / 8)
  let first ← word? table position
  let count ← word? table (position + 2)
  let delta ← signedWord? table (position + 4)
  let offset ← word? table (position + 6)
  if 0xFFFF < first + count ∨ low < first ∨ first + count ≤ low then none
  else
    let listed ← word? table (position + 6 + offset + 2 * (low - first))
    let glyph := ((listed : Int) + delta).tmod 0x10000
    if listed = 0 ∨ glyph < 0 then none else some glyph.toNat

def segmentGlyph? (table : Bytes) (count index first point : Nat) : Option Nat := do
  let delta ← word? table (16 + 4 * count + 2 * index)
  let position := 16 + 6 * count + 2 * index
  let offset ← word? table position
  if offset = 0 then some ((point + delta) % 0x10000)
  else if offset = 0xFFFF ∨ 0xFFFF < 2 * (point - first) then none
  else
    let listed ← word? table ((position + 2 * (point - first) + offset) % 0x10000)
    let glyph := (listed + delta) % 0x10000
    if listed = 0 ∨ 0x8000 ≤ glyph then none else some glyph

def segmentsGlyph? (table : Bytes) (count point start stop : Nat) : Option Nat :=
  if h : start < stop then do
    let index := (start + stop) / 2
    if (← word? table (14 + 2 * index)) < point then
      segmentsGlyph? table count point (index + 1) stop
    else
      let first ← word? table (16 + 2 * count + 2 * index)
      if point < first then segmentsGlyph? table count point start index
      else segmentGlyph? table count index first point
  else none
termination_by stop - start
decreasing_by all_goals omega

namespace CharGroup

def has (group : CharGroup) (point : Nat) : Bool :=
  group.first ≤ point && point ≤ group.last

def order (point : Nat) (group : CharGroup) : Ordering :=
  if point < group.first then .gt else if group.last < point then .lt else .eq

end CharGroup

def CharMap.glyph? (map : CharMap) (point : Nat) : Option Nat :=
  match map with
  | .single glyphs => do
      let glyph ← glyphs[point]?
      if glyph = 0 then none else some glyph.toNat
  | .double table => if 0xFFFF < point then none else doubleGlyph? table point
  | .segments table count =>
      if 0xFFFF < point then none else segmentsGlyph? table count point 0 count
  | .trimmed first limit glyphs =>
      if point < first ∨ limit < point then none else word? glyphs (2 * (point - first))
  | .groups listed => do
      let group ← Bisection.find? (CharGroup.order point) listed.toArray
      if 0xFFFFFFFF < group.glyph + point then none
      else glyphOf? (group.glyph + point - group.first)
  | .shared listed => do
      let group ← listed.find? fun group => group.has point
      glyphOf? group.glyph
  | .other => none

structure CharMapRecord where
  platform : Nat
  encoding : Nat
  map : CharMap
deriving DecidableEq, Repr

def charMaps (bytes : Bytes) : List CharMapRecord :=
  let found : Option (List CharMapRecord) := do
    let count ← word? bytes 2
    let records ← records? bytes 4 8 count
    some (takeSome (records.map fun record => do
      let platform ← word? record 0
      let encoding ← word? record 2
      let map ← charMap? (bytes.drop (← long? record 4))
      if 4 < platform then none else some ⟨platform, encoding, map⟩))
  found.getD []

def CharMapRecord.isUnicode (record : CharMapRecord) : Bool :=
  record.platform == 0 ||
    (record.platform == 3 && (record.encoding == 1 ||
      (record.encoding == 10 && match record.map with
        | .groups _ | .shared _ => true
        | _ => false)))

end TrueType

end Folio
