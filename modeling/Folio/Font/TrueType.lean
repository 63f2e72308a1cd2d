import Folio.Font.Face
import Folio.Font.TrueType.CharMap
import Folio.Font.TrueType.Subset
import Folio.Font.TrueType.Variation
import Folio.Text.Utf16

/-!
Font faces that are read from TrueType files.
-/

namespace Folio

structure TrueTypeFont where
  size : Nat
  name : String
  metrics : FontMetrics
  charMaps : List TrueType.CharMapRecord
  advances : Option TrueType.Advances
  variation : Option TrueType.Variation
  directory : TrueType.Directory
deriving DecidableEq, Repr

namespace TrueType

def isSpace (char : Char) : Bool :=
  let point := char.toNat
  (9 ≤ point && point ≤ 13) || point == 0x20 || point == 0x85 || point == 0xA0 ||
    point == 0x1680 || (0x2000 ≤ point && point ≤ 0x200A) || point == 0x2028 || point == 0x2029 ||
    point == 0x202F || point == 0x205F || point == 0x3000

def withoutSpaces (text : String) : String :=
  String.ofList (text.toList.filter fun char => !isSpace char)

/-- The text of a name; a byte without its other half is dropped. -/
def NameRecord.text? (record : NameRecord) : Option String :=
  if record.isUnicode then Utf16.decode? (record.text.take (record.text.length / 2 * 2)) else none

/-- The first name for use in documents that can be read. -/
def postScriptName? (names : List NameRecord) : Option String :=
  names.findSome? fun record => if record.nameId = 6 then record.text? else none

/-- A measure of the font's own, or one of the system's where that is zero, with its change. -/
def measureOf (change : String → Int → Int) (own : Int) (typographic windows : String × Int) :
    Int :=
  if own ≠ 0 then own
  else if typographic.2 ≠ 0 then change typographic.1 typographic.2
  else change windows.1 windows.2

def extent (change : String → Int → Int) (horizontal : HorizontalHeader)
    (system : Option SystemMetrics) : Int × Int :=
  match system with
  | none => (horizontal.ascender, horizontal.descender)
  | some system =>
      if system.prefersTypographic then
        (change "hasc" system.typographicAscender, change "hdsc" system.typographicDescender)
      else
        (measureOf change horizontal.ascender ("hasc", system.typographicAscender)
            ("hcla", system.windowsAscender),
          measureOf change horizontal.descender ("hdsc", system.typographicDescender)
            ("hcld", system.windowsDescender))

def metrics (variation : Option Variation) (head : Head) (horizontal : HorizontalHeader)
    (system : Option SystemMetrics) (info : Option PostScriptInfo) : FontMetrics :=
  let change (tag : String) (value : Int) : Int := variation.elim value (·.measure tag value)
  let (ascender, descender) := extent change horizontal system
  let italic := system.any SystemMetrics.isItalic || info.any PostScriptInfo.italic
  let fixedPitch := info.any PostScriptInfo.fixedPitch
  { unitsPerEm := head.unitsPerEm
    ascender := ascender
    descender := descender
    capHeight := (system.bind SystemMetrics.capHeight).map (change "cpht")
    box := head.box
    italicAngle := if italic then -12 else 0
    flags := FontFlags.symbolic + (if fixedPitch then FontFlags.fixedPitch else 0) +
      (if italic then FontFlags.italic else 0) }

end TrueType

namespace TrueTypeFont

def parse (bytes : Bytes) (fallback : String) : Except LoadError TrueTypeFont :=
  let found : Option TrueTypeFont := do
    let directory ← TrueType.directory? bytes
    let head ← TrueType.head? (← directory.table? "head")
    let horizontal ← TrueType.horizontalHeader? (← directory.table? "hhea")
    let glyphCount ← TrueType.glyphCount? (← directory.table? "maxp")
    let names := ((directory.table? "name").map TrueType.names).getD []
    let system := (directory.table? "OS/2").bind TrueType.systemMetrics?
    let info := (directory.table? "post").bind TrueType.postScriptInfo?
    let variation := TrueType.variation? directory head glyphCount
    some {
      size := bytes.length
      name := TrueType.withoutSpaces ((TrueType.postScriptName? names).getD fallback)
      metrics := TrueType.metrics variation head horizontal system info
      charMaps := ((directory.table? "cmap").map TrueType.charMaps).getD []
      advances := (directory.table? "hmtx").bind
        (TrueType.advances? horizontal.metricCount glyphCount)
      variation := variation
      directory := directory }
  match found with
  | some font => .ok font
  | none => .error .font

/-- Reads a font file, given its contents where there are any. -/
def load (contents : Option Bytes) (fallback : String) : Except LoadError TrueTypeFont :=
  match contents with
  | none => .error .unreadable
  | some bytes => parse bytes fallback

/-- The glyph of a character in the first map that has it. -/
def glyph? (font : TrueTypeFont) (char : Char) : Option GlyphId :=
  font.charMaps.findSome? fun record =>
    if record.isUnicode then (record.map.glyph? char.toNat).map UInt16.ofNat else none

def advance? (font : TrueTypeFont) (glyph : GlyphId) : Option Nat :=
  (font.advances.bind fun advances => advances.get? glyph.toNat).bind fun advance =>
    font.variation.elim (some advance) (·.advance? glyph.toNat advance)

/-- A font program with the missing glyph first and the given glyphs after it. -/
def subset (font : TrueTypeFont) (glyphs : List GlyphId) : Except LoadError Bytes :=
  match TrueType.subset? font.directory (glyphs.map UInt16.toNat) with
  | some program => .ok program
  | none => .error (.subset "a table is missing or damaged")

def face (font : TrueTypeFont) : Face where
  name := font.name
  glyph? := font.glyph?
  advance? := font.advance?
  metrics := font.metrics
  subset := font.subset

def summary (font : TrueTypeFont) : String :=
  "TrueTypeFace \x7b name: " ++ quoted font.name ++ ", index: 0, len: " ++ toString font.size ++
    " \x7d"

end TrueTypeFont

end Folio
