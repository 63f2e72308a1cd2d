import Folio.CMap.OneByte
import Folio.Dictionary.Font
import Folio.Document
import Folio.Font.TrueType
import Folio.Path

/-!
Fonts of a document. A glyph that is asked for takes a slot in a subset of its font, and a subset
gets its objects when its first slot is taken.
-/

namespace Folio

/-- The outcome of loading a resource, named in case of failure. -/
def Build.loaded {α : Type} (what : String) : Except LoadError α → Build α
  | .ok value => return value
  | .error cause => throw (.load what cause)

namespace Document

def addFont (face : Face) : Build (Id .font) :=
  modifyGet fun doc =>
    let (id, fonts) := doc.fonts.register ⟨face, .ofCapacity doc.options.subsetCapacity, []⟩
    (id, { doc with fonts })

def loadFont (path : String) (contents : Option Bytes) : Build (Id .font) := do
  let font ← Build.loaded path (TrueTypeFont.load contents (Path.stem path))
  addFont font.face

def font (id : Id .font) : Build FontItem := do
  Build.ofExcept ((← get).fonts.get id)

def setFont (id : Id .font) (item : FontItem) : Build Unit := do
  let doc ← get
  let fonts ← Build.ofExcept (doc.fonts.set id item)
  set { doc with fonts }

def faceGlyph (id : Id .font) (face : Face) (char : Char) : Except Error GlyphId :=
  match face.glyph? char with
  | some glyph => .ok glyph
  | none => .error (.glyphNotFound id.index char.toNat)

/-- Adds the encoding that font subsets share, unless it is there. -/
def ensureEncoding : Build Unit := do
  let doc ← get
  if doc.encoding.isNone then
    let capacity := (Slots.ofCapacity doc.options.subsetCapacity).capacity
    let head := Dictionary.StreamHead.cmap OneByte.name .identity
    let target ← Build.stream head.entries (OneByte.bytes capacity)
    modify fun doc => { doc with encoding := some target }

def openSubset (key : SubsetKey) : Build SubsetObjects := do
  let program ← Build.allocate (.subset .program key)
  let descriptor ← Build.allocate (.subset .descriptor key)
  let toUnicode ← Build.allocate (.subset .toUnicode key)
  let cidFont ← Build.allocate (.subset .cidFont key)
  let font ← Build.allocate (.subset .font key)
  return ⟨program, descriptor, toUnicode, cidFont, font⟩

def glyphSlot (id : Id .font) (glyph : GlyphId) (char : Option Char) : Build Slot := do
  let item ← font id
  if glyph = 0 then throw (.glyphNotFound id.index ((char.map Char.toNat).getD 0))
  ensureEncoding
  let (slot, opened, slots) := item.slots.assign glyph char
  let added ← if opened then (fun objects => [objects]) <$> openSubset ⟨id, slot.subset⟩
    else pure []
  setFont id { item with slots := slots, subsets := item.subsets ++ added }
  return slot

def charSlot (id : Id .font) (char : Char) : Build Slot := do
  let item ← font id
  let glyph ← Build.ofExcept (faceGlyph id item.face char)
  glyphSlot id glyph (some char)

def subsetFontRef (doc : Document) (id : Id .font) (subset : Nat) : Except Error Ref := do
  let item ← doc.fonts.get id
  match item.subsets[subset]? with
  | some objects => .ok objects.font
  | none => .error (.unknownResource .font id.index)

def fontSubsetCount (doc : Document) (id : Id .font) : Except Error Nat :=
  (doc.fonts.get id).map fun item => item.subsets.length

/-- The advance of a character in thousandths of an em; a glyph without an advance has zero. -/
def advanceWidth (doc : Document) (id : Id .font) (char : Char) : Except Error Single := do
  let item ← doc.fonts.get id
  let glyph ← faceGlyph id item.face char
  let advance := (item.face.advance? glyph).getD 0
  return Single.ofInt advance * 1000 / Single.ofInt (max 1 item.face.metrics.unitsPerEm)

def findBuiltinFont? (doc : Document) (font : StandardFont) : Option (Id .builtinFont) :=
  (doc.builtinFonts.toList.find? fun (_, held) => held.1 == font).map Prod.fst

/-- A standard font, which is added when it is first asked for. -/
def builtinFont (font : StandardFont) : Build (Id .builtinFont) := do
  match (← get).findBuiltinFont? font with
  | some id => return id
  | none =>
      let target ← Build.object (Dictionary.type1Font font.baseFont)
      modifyGet fun doc =>
        let (id, builtinFonts) := doc.builtinFonts.register (font, target)
        (id, { doc with builtinFonts })

def builtinFontRef (doc : Document) (id : Id .builtinFont) : Except Error Ref :=
  (doc.builtinFonts.get id).map Prod.snd

end Document

end Folio
