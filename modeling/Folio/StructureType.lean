/-!
The types of structure elements. The format names some of them; a document may use others.
-/

namespace Folio

structure StructureType where
  name : String
deriving DecidableEq, Repr

namespace StructureType

def standard : List String :=
  ["Document", "Part", "Art", "Sect", "Div", "BlockQuote", "Caption", "TOC", "TOCI", "Index",
    "NonStruct", "Private", "P", "H", "H1", "H2", "H3", "H4", "H5", "H6", "L", "LI", "Lbl",
    "LBody", "Table", "TR", "TH", "TD", "THead", "TBody", "TFoot", "Span", "Quote", "Note",
    "Reference", "BibEntry", "Code", "Link", "Annot", "Ruby", "Warichu", "Figure", "Formula",
    "Form"]

/-- Whether the type is outside the set that the format names. -/
def isCustom (type : StructureType) : Bool :=
  !standard.contains type.name

end StructureType

end Folio
