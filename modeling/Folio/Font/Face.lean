import Folio.Error
import Folio.Font.Metrics

/-!
Font faces that can be embedded.
-/

namespace Folio

structure Face where
  /-- The name that the font goes by in a document. -/
  name : String
  glyph? : Char → Option GlyphId
  /-- The horizontal advance of a glyph, in font units. -/
  advance? : GlyphId → Option Nat
  metrics : FontMetrics
  /-- A font program with the missing glyph first and the given glyphs after it. -/
  subset : List GlyphId → Except LoadError Bytes

end Folio
