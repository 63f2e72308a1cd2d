import Folio.Text.DocEncoding
import Folio.Text.Utf16

/-!
Text strings: the bytes under which a file stores text that is shown to its reader.
-/

namespace Folio

/-- PDFDocEncoding where every character has a code, UTF-16 with its mark otherwise. -/
def textString (text : String) : Bytes :=
  match DocEncoding.encode text with
  | .ok bytes => bytes
  | .error _ => Utf16.encode text

end Folio
