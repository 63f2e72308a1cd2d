import Folio.Bytes

/-!
The encoding that all embedded subsets share: code `c` selects the character identifier `c + 1`.
-/

namespace Folio

namespace OneByte

def name : String :=
  "PdfForge-OneByte-Identity"

def opening : Bytes :=
  utf8 "/CIDInit /ProcSet findresource begin\n12 dict begin\nbegincmap\n/CIDSystemInfo <<\n" ++
    utf8 "  /Registry (Adobe)\n  /Ordering (Identity)\n  /Supplement 0\n>> def\n" ++
    utf8 "/CMapName /" ++ utf8 name ++ utf8 " def\n/CMapType 1 def\n" ++
    utf8 "1 begincodespacerange\n<00> <FF>\nendcodespacerange\n"

def closing : Bytes :=
  utf8 "endcmap\nCMapName currentdict /CMap defineresource pop\nend\nend\n"

/-- The encoding for the codes below `capacity`, of which there are at least one and at most 256. -/
def bytes (capacity : Nat) : Bytes :=
  let last := max 1 (min 256 capacity) - 1
  opening ++ utf8 "1 begincidrange\n<00> <" ++ hexByte (UInt8.ofNat last) ++
    utf8 "> 1\nendcidrange\n" ++ closing

end OneByte

end Folio
