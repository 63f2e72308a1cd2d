import Folio.Geometry

/-!
Measures that hold for a whole font, in the units of the font.
-/

namespace Folio

/-- The number of a glyph in a font program; zero stands for a missing glyph. -/
abbrev GlyphId := UInt16

namespace FontFlags

def fixedPitch : Nat := 1

def symbolic : Nat := 4

def italic : Nat := 64

end FontFlags

structure FontMetrics where
  unitsPerEm : Nat
  ascender : Int
  descender : Int
  capHeight : Option Int
  box : Rect Int
  italicAngle : Single
  flags : Nat
deriving DecidableEq, Repr

namespace FontMetrics

/-- Font units to thousandths of an em, rounded; a font without units keeps its numbers. -/
def scale (metrics : FontMetrics) (measure : Int) : Int :=
  if metrics.unitsPerEm = 0 then measure
  else
    (Single.ofInt measure * 1000 / Single.ofInt metrics.unitsPerEm).roundClamped
      (-0x80000000) 0x7FFFFFFF

end FontMetrics

end Folio
