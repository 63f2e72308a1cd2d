import Folio.Proofs.FinishedFont
import Folio.Proofs.Unrefused

/-!
The codes of embedded fonts, from the request for a glyph to the finished file: what a document
made of any operations says of its subsets, and that a slot selects the glyph it was given for.
-/

namespace Folio

namespace Document

variable {doc : Document}

/-- A face with a glyph for every character of the first plane, all of one width. -/
def monospaceFace : Face where
  name := "Monospace"
  glyph? char := some (UInt16.ofNat char.toNat)
  advance? _ := some 1229
  metrics := ⟨2048, 1800, -400, none, ⟨0, -400, 1229, 1800⟩, 0, FontFlags.fixedPitch⟩
  subset glyphs := .ok (glyphs.flatMap wordBytes)

def pairOptions : DocumentOptions :=
  { DocumentOptions.standard with subsetCapacity := 2 }

end Document

end Folio
