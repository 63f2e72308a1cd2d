import Folio.Bisection
import Folio.Font.Metrics

/-!
The tables of a TrueType file that tell advances, names and measures.
-/

namespace Folio

namespace TrueType

def word? (bytes : Bytes) (offset : Nat) : Option Nat :=
  (slice? bytes offset 2).map bigEndian

def long? (bytes : Bytes) (offset : Nat) : Option Nat :=
  (slice? bytes offset 4).map bigEndian

def signed (word : Nat) : Int :=
  if word < 0x8000 then word else (word : Int) - 0x10000

def signedWord? (bytes : Bytes) (offset : Nat) : Option Int :=
  (word? bytes offset).map signed

def records? (bytes : Bytes) (offset size count : Nat) : Option (List Bytes) :=
  (slice? bytes offset (size * count)).map (groupsOf size count)

structure TableRecord where
  tag : Bytes
  contents : Option Bytes
deriving DecidableEq, Repr

structure Directory where
  tables : List TableRecord
deriving DecidableEq, Repr

def isFaceVersion (version : Nat) : Bool :=
  version == 0x00010000 || version == 0x74727565 || version == 0x4F54544F

/-- Where the first face of a file begins; only a collection lists its faces. -/
def faceOffset? (bytes : Bytes) : Option Nat := do
  if (← long? bytes 0) = 0x74746366 then
    let faces ← records? bytes 12 4 (← long? bytes 8)
    let offset := bigEndian (← faces.head?)
    if offset < 12 + 4 * faces.length then none else some offset
  else some 0

def directory? (bytes : Bytes) : Option Directory := do
  let face := bytes.drop (← faceOffset? bytes)
  let version ← long? face 0
  let records ← records? face 12 16 (← word? face 4)
  if isFaceVersion version then
    some ⟨records.map fun record =>
      ⟨record.take 4,
        slice? bytes (bigEndian ((record.drop 8).take 4)) (bigEndian (record.drop 12))⟩⟩
  else none

/-- The contents of a table; the last of several with one tag counts. -/
def Directory.table? (directory : Directory) (tag : String) : Option Bytes :=
  (directory.tables.reverse.find? fun record => record.tag == utf8 tag).bind TableRecord.contents

/-- The contents of a table that stands where a directory in ascending order has it. -/
def Directory.ordered? (directory : Directory) (tag : String) : Option Bytes :=
  (Bisection.find? (fun record : TableRecord => compare (bigEndian record.tag)
    (bigEndian (utf8 tag))) directory.tables.toArray).bind TableRecord.contents

structure Head where
  unitsPerEm : Nat
  box : Rect Int
  longOffsets : Bool
deriving DecidableEq, Repr

def head? (bytes : Bytes) : Option Head := do
  let unitsPerEm ← word? bytes 18
  let left ← signedWord? bytes 36
  let bottom ← signedWord? bytes 38
  let right ← signedWord? bytes 40
  let top ← signedWord? bytes 42
  let format ← word? bytes 50
  if bytes.length < 54 ∨ unitsPerEm < 16 ∨ 16384 < unitsPerEm ∨ 1 < format then none
  else some ⟨unitsPerEm, ⟨left, bottom, right, top⟩, format == 1⟩

structure HorizontalHeader where
  ascender : Int
  descender : Int
  metricCount : Nat
deriving DecidableEq, Repr

def horizontalHeader? (bytes : Bytes) : Option HorizontalHeader := do
  let ascender ← signedWord? bytes 4
  let descender ← signedWord? bytes 6
  let metricCount ← word? bytes 34
  some ⟨ascender, descender, metricCount⟩

/-- How many glyphs a font has; there is at least one. -/
def glyphCount? (bytes : Bytes) : Option Nat := do
  let version ← long? bytes 0
  let count ← word? bytes 4
  if (version = 0x00005000 ∨ version = 0x00010000) ∧ count ≠ 0 then some count else none

structure Advances where
  advances : List Nat
  /-- Glyphs that have an advance; the last one listed repeats. -/
  count : Nat
deriving DecidableEq, Repr

def advances? (metricCount glyphCount : Nat) (bytes : Bytes) : Option Advances := do
  let metrics ← records? bytes 0 4 metricCount
  if metricCount = 0 then none
  else
    some ⟨metrics.map fun metric => bigEndian (metric.take 2), max metricCount glyphCount⟩

def Advances.get? (advances : Advances) (glyph : Nat) : Option Nat :=
  if advances.count ≤ glyph then none
  else advances.advances[glyph]? <|> advances.advances.getLast?

structure SystemMetrics where
  version : Nat
  selection : Nat
  typographicAscender : Int
  typographicDescender : Int
  windowsAscender : Int
  windowsDescender : Int
  capHeight : Option Int
deriving DecidableEq, Repr

def systemMetrics? (bytes : Bytes) : Option SystemMetrics := do
  let version ← word? bytes 0
  let size ← [78, 86, 96, 96, 96, 100][version]?
  if bytes.length < size then none
  else
    some {
      version := version
      selection := ← word? bytes 62
      typographicAscender := ← signedWord? bytes 68
      typographicDescender := ← signedWord? bytes 70
      windowsAscender := ← signedWord? bytes 74
      windowsDescender := -(← signedWord? bytes 76)
      capHeight := if version < 2 then none else signedWord? bytes 88 }

namespace SystemMetrics

def isItalic (metrics : SystemMetrics) : Bool :=
  metrics.selection % 2 == 1

def prefersTypographic (metrics : SystemMetrics) : Bool :=
  4 ≤ metrics.version && metrics.selection / 128 % 2 == 1

end SystemMetrics

structure PostScriptInfo where
  italic : Bool
  fixedPitch : Bool
deriving DecidableEq, Repr

def postScriptInfo? (bytes : Bytes) : Option PostScriptInfo := do
  let version ← long? bytes 0
  let angle ← long? bytes 4
  let fixedPitch ← long? bytes 12
  let named :=
    match word? bytes 32 with
    | some count => (slice? bytes 34 (2 * count)).isSome
    | none => false
  if bytes.length < 32 then none
  else if version == 0x00020000 && !named then none
  else if version = 0x00010000 ∨ version = 0x00020000 ∨ version = 0x00025000 ∨
      version = 0x00030000 ∨ version = 0x00040000 then
    some ⟨angle != 0, fixedPitch != 0⟩
  else none

structure NameRecord where
  platform : Nat
  encoding : Nat
  nameId : Nat
  text : Bytes
deriving DecidableEq, Repr

def takeSome {α : Type} : List (Option α) → List α
  | some found :: rest => found :: takeSome rest
  | _ => []

def nameRecord? (storage record : Bytes) : Option NameRecord := do
  let platform ← word? record 0
  let encoding ← word? record 2
  let nameId ← word? record 6
  let text ← slice? storage (← word? record 10) (← word? record 8)
  if 4 < platform then none else some ⟨platform, encoding, nameId, text⟩

def names (bytes : Bytes) : List NameRecord :=
  let found : Option (List NameRecord) := do
    let version ← word? bytes 0
    let count ← word? bytes 2
    let storage ← word? bytes 4
    let start ←
      if version = 0 then some 6
      else if version = 1 then
        (word? bytes 6).bind fun languages =>
          if languages < 0x4000 then some (8 + 4 * languages) else none
      else none
    let records ← records? bytes start 12 count
    let storage := max storage (start + 12 * count)
    if bytes.length < storage then none
    else some (takeSome (records.map (nameRecord? (bytes.drop storage))))
  found.getD []

def NameRecord.isUnicode (record : NameRecord) : Bool :=
  record.platform == 0 || (record.platform == 3 && record.encoding ≤ 1)

end TrueType

end Folio
