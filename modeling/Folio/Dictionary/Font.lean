import Folio.Dictionary.Stream
import Folio.Geometry

/-!
Font dictionaries: the standard fonts, and the four objects that describe an embedded subset beside
its program.
-/

namespace Folio

namespace Dictionary

def type1Font (baseFont : Name) : Value :=
  .dict [.kind "Font", .field "Subtype" (.name "Type1"), .field "BaseFont" (.name baseFont)]

structure FontDescriptor where
  name : Name
  flags : Nat
  box : Rect Int
  italicAngle : Single
  ascent : Int
  descent : Int
  capHeight : Int
  stemWidth : Nat
  program : Option Ref
deriving DecidableEq, Repr

def FontDescriptor.value (font : FontDescriptor) : Value :=
  .dict ([.kind "FontDescriptor", .field "FontName" (.name font.name),
      .field "Flags" (.nat font.flags), .field "FontBBox" font.box.wholeValue,
      .field "ItalicAngle" (.real font.italicAngle), .field "Ascent" (.int font.ascent),
      .field "Descent" (.int font.descent), .field "CapHeight" (.int font.capHeight),
      .field "StemV" (.nat font.stemWidth)] ++
    Entry.optional "FontFile2" (font.program.map .ref))

structure Type0Font where
  baseFont : Name
  encoding : Ref
  descendant : Ref
  toUnicode : Ref
deriving DecidableEq, Repr

def Type0Font.value (font : Type0Font) : Value :=
  .dict [.kind "Font", .field "Subtype" (.name "Type0"), .field "BaseFont" (.name font.baseFont),
    .field "Encoding" (.ref font.encoding), .field "DescendantFonts" (.refs [font.descendant]),
    .field "ToUnicode" (.ref font.toUnicode)]

/-- A TrueType font addressed by character identifiers, with widths from identifier 1 on. -/
structure CidFont where
  baseFont : Name
  info : CidSystemInfo
  descriptor : Ref
  widths : List Nat
deriving DecidableEq, Repr

def CidFont.value (font : CidFont) : Value :=
  .dict [.kind "Font", .field "Subtype" (.name "CIDFontType2"),
    .field "BaseFont" (.name font.baseFont), .field "CIDSystemInfo" font.info.value,
    .field "FontDescriptor" (.ref font.descriptor), .field "DW" (.nat 0),
    .field "W" (.arr [.nat 1, .arr (font.widths.map .nat)]),
    .field "CIDToGIDMap" (.name "Identity")]

end Dictionary

end Folio
