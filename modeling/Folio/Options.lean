import Folio.Color
import Folio.Dictionary.Page
import Folio.Font.Slots

/-!
Settings that hold for a whole document.
-/

namespace Folio

structure DocumentOptions where
  title : Option String
  author : Option String
  subject : Option String
  keywords : Option String
  creator : Option String
  producer : Option String
  language : Option String
  /-- The boxes of pages that do not bring their own. -/
  pageBoxes : PageBoxes
  /-- The space of colours that the document writes of its own accord. -/
  outputSpace : DeviceSpace
  compress : Bool
  subsetCapacity : Nat
  /-- Whether there is a structure tree even without structure items. -/
  tagged : Bool
deriving DecidableEq, Repr

namespace DocumentOptions

def standard : DocumentOptions where
  title := none
  author := none
  subject := none
  keywords := none
  creator := none
  producer := some "pdf-forge 0.1.0"
  language := none
  pageBoxes := .standard
  outputSpace := .rgb
  compress := true
  subsetCapacity := Slots.largestCapacity
  tagged := false

end DocumentOptions

end Folio
