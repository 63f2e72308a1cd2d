import Folio.Font.TrueType.Variation.Advance
import Folio.Font.TrueType.Variation.Outline

/-!
Fonts that vary along axes, with every axis at its default. Changes that are told to hold there, or
for which no axis counts, are made to advances and measures.
-/

namespace Folio

namespace TrueType

structure Variation where
  axes : Nat
  advances : Option AdvanceChanges
  /-- Changes to advances that come with those to outlines. -/
  outlines : Option OutlineChanges
  measures : Option MeasureChanges
deriving DecidableEq, Repr

/-- How many axes a font has; there is at least one, and no more than 64 are looked at. -/
def axisCount? (bytes : Bytes) : Option Nat := do
  if (← long? bytes 0) ≠ 0x00010000 then none
  else
    let offset ← word? bytes 4
    let count ← word? bytes 8
    if count = 0 ∨ (slice? bytes offset (20 * count)).isNone then none else some (min count 64)

/-- What a font tells of its variation, if it varies at all. -/
def variation? (directory : Directory) (head : Head) (glyphCount : Nat) : Option Variation := do
  let axes ← (directory.table? "fvar").bind axisCount?
  some {
    axes := axes
    advances := (directory.table? "HVAR").bind advanceChanges?
    outlines := do
      let outlines ← directory.table? "glyf"
      let locations ← (directory.table? "loca").bind (locations? head.longOffsets glyphCount)
      let changes ← (directory.table? "gvar").bind glyphChanges?
      some ⟨outlines, locations, changes⟩
    measures := (directory.table? "MVAR").bind measureChanges? }

namespace Variation

/-- The advance of a glyph with the change to it, rounded; none if it is no advance any more. -/
def advance? (variation : Variation) (glyph advance : Nat) : Option Nat :=
  let change :=
    match variation.advances, variation.outlines with
    | some changes, _ => changes.change? variation.axes glyph
    | none, some changes => changes.advanceChange? variation.axes glyph
    | none, none => none
  match change with
  | none => some advance
  | some change =>
      let changed := (Single.ofInt advance + (change + 0.5)).truncate
      if 0 ≤ changed ∧ changed ≤ 0xFFFF then some changed.toNat else none

/-- A measure with the change to it, unless the change leads too far. -/
def measure (variation : Variation) (tag : String) (value : Int) : Int :=
  let change := (variation.measures.bind fun changes => changes.change? variation.axes tag).getD 0
  let changed := (Single.ofInt value + change).truncate
  if -0x8000 ≤ changed ∧ changed ≤ 0x7FFF then changed else value

end Variation

end TrueType

end Folio
