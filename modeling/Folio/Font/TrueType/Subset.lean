import Folio.Font.TrueType.Tables

/-!
Font programs with a choice of glyphs. The glyphs of composite outlines follow the chosen ones.
-/

namespace Folio

namespace TrueType

def outline? (longOffsets : Bool) (locations outlines : Bytes) (glyph : Nat) : Option Bytes := do
  let (first, last) ←
    if longOffsets then
      some (← long? locations (4 * glyph), ← long? locations (4 * glyph + 4))
    else some (2 * (← word? locations (2 * glyph)), 2 * (← word? locations (2 * glyph + 2)))
  if last < first then none else slice? outlines first (last - first)

/-- The size of a component: flags, glyph, two numbers and a scale, of which there are three. -/
def componentSize (flags : Nat) : Nat :=
  4 + (if flags.testBit 0 then 4 else 2) +
    (if flags.testBit 3 then 2 else if flags.testBit 6 then 4 else if flags.testBit 7 then 8 else 0)

def componentsFrom (outline : Bytes) : (fuel offset : Nat) → List (Nat × Nat) × Bool
  | 0, _ => ([], false)
  | fuel + 1, offset =>
      match word? outline offset, word? outline (offset + 2) with
      | some flags, some glyph =>
          let next := offset + componentSize flags
          if outline.length < next then ([], false)
          else if flags.testBit 5 then
            let (components, complete) := componentsFrom outline fuel next
            ((offset + 2, glyph) :: components, complete)
          else ([(offset + 2, glyph)], true)
      | _, _ => ([], false)

def components (outline : Bytes) : List (Nat × Nat) × Bool :=
  match signedWord? outline 0 with
  | some contours => if contours < 0 then componentsFrom outline outline.length 10 else ([], true)
  | none => ([], outline.isEmpty)

/--
The glyphs in the order of a new program: those in `order`, then the components they need. The
component that was named last comes first.
-/
def closure (outline : Nat → Option Bytes) : (fuel : Nat) → (order pending : List Nat) →
    Option (List Nat)
  | 0, _, _ => none
  | _ + 1, order, [] => some order
  | fuel + 1, order, glyph :: pending => do
      let order := if order.contains glyph then order else order ++ [glyph]
      let needed := (components (← outline glyph)).1.map Prod.snd
      closure outline fuel order
        ((needed.filter fun glyph => !order.contains glyph).reverse ++ pending)

def setWord (bytes : Bytes) (offset value : Nat) : Bytes :=
  bytes.take offset ++ wordBytes (UInt16.ofNat value) ++ bytes.drop (offset + 2)

def aligned (bytes : Bytes) : Bytes :=
  bytes ++ List.replicate ((4 - bytes.length % 4) % 4) 0

def renumber? (order : List Nat) (outline : Bytes) : Option Bytes :=
  match components outline with
  | (found, true) =>
      some (aligned (found.foldl (fun outline (place, glyph) =>
        setWord outline place (order.idxOf glyph)) outline))
  | (_, false) => none

def longBytes (value : Nat) : Bytes :=
  (littleEndian 4 value).reverse

def locationTable (outlines : List Bytes) : Bytes :=
  let ends := outlines.foldl (fun (ends : List Nat × Nat) outline =>
    (ends.1 ++ [ends.2 + outline.length], ends.2 + outline.length)) ([0], 0)
  ends.1.flatMap longBytes

/-- Advance and bearing of a glyph; glyphs without an advance of their own have the `last`. -/
def metric? (count last : Nat) (metrics : Bytes) (glyph : Nat) : Option (Nat × Nat) := do
  if glyph < count then some (← word? metrics (4 * glyph), ← word? metrics (4 * glyph + 2))
  else some (last, ← word? metrics (4 * count + 2 * (glyph - count)))

/-- How many advances must be written if the last one stands for those equal to it at the end. -/
def advanceCount (metrics : List (Nat × Nat)) : Nat :=
  match metrics.reverse with
  | [] => 0
  | (last, _) :: before =>
      before.length + 1 - (before.takeWhile fun metric => metric.1 == last).length

/-- The metrics of glyphs in a new order, with the header that counts the advances. -/
def metricTables? (header metrics : Bytes) (order : List Nat) :
    Option (List (String × Bytes)) := do
  let count ← word? header 34
  let last ← if count = 0 then none else word? metrics (4 * (count - 1))
  let found ← order.mapM (metric? count last metrics)
  let kept := advanceCount found
  let bytes := found.zipIdx.flatMap fun ((advance, bearing), index) =>
    (if index < kept then wordBytes (UInt16.ofNat advance) else []) ++
      wordBytes (UInt16.ofNat bearing)
  some [("hhea", header.take (header.length - 2) ++ wordBytes (UInt16.ofNat kept)),
    ("hmtx", bytes)]

/-- Whether a name stays in a program: one of the first seven kinds in a Unicode encoding. -/
def keepsName (record : Bytes) : Bool :=
  let platform := bigEndian (record.take 2)
  let encoding := bigEndian ((record.drop 2).take 2)
  let kind := bigEndian ((record.drop 6).take 2)
  kind ≤ 6 && (platform == 0 || (platform == 3 && [0, 1, 10].contains encoding))

/-- Names are kept as they are; those that stay in a program must lie in the table. -/
def nameTable? (bytes : Bytes) : Option Bytes := do
  if (← word? bytes 0) ≠ 0 then some bytes
  else
    let records ← records? bytes 6 12 (← word? bytes 2)
    let storage ← word? bytes 4
    let readable := (records.filter keepsName).all fun record =>
      (slice? (bytes.drop storage) (bigEndian (record.drop 10))
        (bigEndian ((record.drop 8).take 2))).isSome
    if bytes.length < storage ∨ ¬ readable then none else some bytes

def countedTexts : (fuel : Nat) → Bytes → List Bytes
  | 0, _ | _, [] => []
  | fuel + 1, length :: bytes =>
      match slice? bytes 0 length.toNat with
      | some text => text :: countedTexts fuel (bytes.drop length.toNat)
      | none => []

/--
The names of glyphs in a new order; the first 258 names are those of a standard list. A name that
is missing becomes empty.
-/
def glyphNames? (indexes : List Nat) (texts : List Bytes) (order : List Nat) :
    Option (List Nat × List Bytes) :=
  order.foldlM (fun (found : List Nat × List Bytes) glyph => do
    let index ← indexes[glyph]?
    if index < 258 then some (found.1 ++ [index], found.2)
    else
      some (found.1 ++ [258 + found.2.length], found.2 ++ [texts.getD (index - 258) []])) ([], [])

/-- What is told to printers; only one version of it names glyphs. -/
def printerTable? (bytes : Bytes) (order : List Nat) : Option Bytes := do
  if (← long? bytes 0) ≠ 0x00020000 then some bytes
  else
    let indexes ← records? bytes 34 2 (← word? bytes 32)
    let rest := bytes.drop (34 + 2 * indexes.length)
    let (indexes, texts) ←
      glyphNames? (indexes.map bigEndian) (countedTexts rest.length rest) order
    some (bytes.take 32 ++ (order.length :: indexes).flatMap (wordBytes <| UInt16.ofNat ·) ++
      texts.flatMap fun text => UInt8.ofNat text.length :: text)

/-- The profile of a font, which tells the count of glyphs. -/
def profileTable? (bytes : Bytes) (count : Nat) : Option Bytes :=
  if bytes.length < 6 then none else some (setWord bytes 4 count)

/-- The sum of the words of a table, which is part of its record. -/
def tableSum (bytes : Bytes) : Nat :=
  let padded := aligned bytes
  (List.range (padded.length / 4)).foldl (fun total index =>
    total + bigEndian ((padded.drop (4 * index)).take 4)) 0 % 0x100000000

/-- A file of tables, which are in the order of their tags. -/
def assemble (tables : List (String × Bytes)) : Bytes :=
  let start := 12 + 16 * tables.length
  let offsets := tables.foldl (fun (offsets : List Nat × Nat) table =>
    (offsets.1 ++ [offsets.2], offsets.2 + (aligned table.2).length)) ([], start)
  let records := (tables.zip offsets.1).flatMap fun ((tag, bytes), offset) =>
    utf8 tag ++ longBytes (tableSum bytes) ++ longBytes offset ++ longBytes bytes.length
  let depth := Nat.log2 tables.length
  longBytes 0x00010000 ++ wordBytes (UInt16.ofNat tables.length) ++
    wordBytes (UInt16.ofNat (16 <<< depth)) ++ wordBytes (UInt16.ofNat depth) ++
    wordBytes (UInt16.ofNat (16 * tables.length - 16 <<< depth)) ++ records ++
    tables.flatMap fun table => aligned table.2

def fromTable? (directory : Directory) (tag : String)
    (tables : Bytes → Option (List (String × Bytes))) : Option (List (String × Bytes)) :=
  match directory.ordered? tag with
  | some bytes => tables bytes
  | none => some []

/--
A font program with the missing glyph first and the given glyphs after it. Outlines and header must
be there; a program without advances or the count of glyphs is of no use, but can be made.
-/
def subset? (directory : Directory) (glyphs : List Nat) : Option Bytes := do
  let header ← directory.ordered? "head"
  let locations ← directory.ordered? "loca"
  let outlines ← directory.ordered? "glyf"
  let outline := outline? ((← word? header 50) != 0) locations outlines
  let chosen := (0 :: glyphs).eraseDups
  let order ← closure outline (0x10000 * (outlines.length + 1) + glyphs.length + 2) chosen
    chosen.reverse
  let found ← order.mapM fun glyph => (outline glyph).bind (renumber? order)
  let from? := fromTable? directory
  let copied (tag : String) := from? tag fun bytes => some [(tag, bytes)]
  let tables ← [
    copied "cvt ", copied "fpgm",
    some [("glyf", found.flatten), ("head", setWord header 50 1)],
    from? "hmtx" fun metrics => do metricTables? (← directory.ordered? "hhea") metrics order,
    some [("loca", locationTable found)],
    from? "maxp" fun bytes => do some [("maxp", ← profileTable? bytes order.length)],
    from? "name" fun bytes => (nameTable? bytes).map fun names => [("name", names)],
    from? "post" fun bytes => (printerTable? bytes order).map fun names => [("post", names)],
    copied "prep"].mapM id
  some (assemble tables.flatten)

end TrueType

end Folio
