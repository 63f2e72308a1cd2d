import Folio.Proofs.Finished
import Folio.Proofs.FontRun
import Folio.Proofs.Reading.ToUnicode

/-!
A font subset in a finished file. Its objects count alike: code `p` has the identifier `p + 1`, the
width at place `p`, the text that was recorded for the glyph at place `p`, and, as identifiers are
glyph numbers in the embedded program, glyph `p + 1` after the missing one.
-/

namespace Folio

open Reading

/-- The objects of a subset in a file, and what its streams hold. -/
structure FinishedSubset where
  font : Value
  cidFont : Value
  descriptor : Value
  widths : List Nat
  program : Bytes
  toUnicode : Bytes
  encoding : Bytes

/-- The width of a glyph in thousandths of an em: none without an advance, and none below zero. -/
def Face.width (face : Face) (glyph : GlyphId) : Nat :=
  match face.advance? glyph with
  | none => 0
  | some advance => (max 0 (face.metrics.scale advance)).toNat

namespace FinishedSubset

def cid? (finished : FinishedSubset) (code : UInt8) : Option Int :=
  (cmap? finished.encoding).bind (·.cid? code)

def text? (finished : FinishedSubset) (code : UInt8) : Option (List Char) :=
  (cmap? finished.toUnicode).bind (·.text? code)

/-- The objects are bodies of a file, and lead from the font to all others. -/
structure In (finished : FinishedSubset) (bodies : List Body)
    (stream : List Entry → Bytes → Body) (objects : SubsetObjects) (encoding : Ref) : Prop where
  font : Body.at? bodies objects.font = some (.value finished.font)
  font_subtype : finished.font.entry? "Subtype" = some (.name "Type0")
  font_encoding : finished.font.entry? "Encoding" = some (.ref encoding)
  font_descendants : finished.font.entry? "DescendantFonts" = some (.refs [objects.cidFont])
  font_toUnicode : finished.font.entry? "ToUnicode" = some (.ref objects.toUnicode)
  cidFont : Body.at? bodies objects.cidFont = some (.value finished.cidFont)
  cidFont_subtype : finished.cidFont.entry? "Subtype" = some (.name "CIDFontType2")
  cidFont_descriptor :
    finished.cidFont.entry? "FontDescriptor" = some (.ref objects.descriptor)
  cidFont_widths : finished.cidFont.entry? "W" =
    some (.arr [.nat 1, .arr (finished.widths.map .nat)])
  cidFont_glyphs : finished.cidFont.entry? "CIDToGIDMap" = some (.name "Identity")
  descriptor : Body.at? bodies objects.descriptor = some (.value finished.descriptor)
  descriptor_program : finished.descriptor.entry? "FontFile2" = some (.ref objects.program)
  program : Body.at? bodies objects.program = some
    (stream (Dictionary.StreamHead.fontProgram finished.program.length).entries finished.program)
  toUnicode : Body.at? bodies objects.toUnicode = some (stream [] finished.toUnicode)
  encoding : Body.at? bodies encoding = some
    (stream (Dictionary.StreamHead.cmap OneByte.name .identity).entries finished.encoding)

/-- What the objects say of the codes, for a subset with the given glyphs. -/
structure Agrees (finished : FinishedSubset) (capacity : Nat) (face : Face)
    (glyphs : List AssignedGlyph) : Prop where
  program : face.subset (glyphs.map AssignedGlyph.glyph) = .ok finished.program
  length_widths : finished.widths.length = capacity
  width : ∀ {position : Nat}, position < capacity →
    finished.widths[position]? = some (glyphs[position]?.elim 0 fun held => face.width held.glyph)
  cid : ∀ code : UInt8, finished.cid? code =
    if code.toNat < capacity then some ((code.toNat : Int) + 1) else none
  text : ∀ code : UInt8, finished.text? code =
    (glyphs[code.toNat]?.bind AssignedGlyph.char).map fun char => [char]

/--
A code that selects a glyph of the subset, with its width and its text. The program has the missing
glyph first and the glyphs that it was made with after it, and identifiers are their numbers in it.
-/
structure Shows (finished : FinishedSubset) (face : Face) (glyphs : List AssignedGlyph)
    (code : UInt8) (held : AssignedGlyph) : Prop where
  program : face.subset (glyphs.map AssignedGlyph.glyph) = .ok finished.program
  cid : finished.cid? code = some ((code.toNat : Int) + 1)
  glyph : (0 :: glyphs.map AssignedGlyph.glyph)[code.toNat + 1]? = some held.glyph
  width : finished.widths[code.toNat]? = some (face.width held.glyph)
  text : finished.text? code = held.char.map fun char => [char]

theorem Agrees.shows {finished : FinishedSubset} {capacity : Nat} {face : Face}
    {glyphs : List AssignedGlyph} (agrees : finished.Agrees capacity face glyphs)
    (bounded : glyphs.length ≤ capacity) {code : UInt8} {held : AssignedGlyph}
    (found : glyphs[code.toNat]? = some held) : finished.Shows face glyphs code held := by
  obtain ⟨inside, -⟩ := List.getElem?_eq_some_iff.mp found
  have below : code.toNat < capacity := Nat.lt_of_lt_of_le inside bounded
  refine ⟨agrees.program, ?_, ?_, ?_, ?_⟩
  · rw [agrees.cid, if_pos below]
  · rw [List.getElem?_cons_succ, List.getElem?_map, found, Option.map_some]
  · rw [agrees.width below, found, Option.elim_some]
  · rw [agrees.text, found, Option.bind_some]

end FinishedSubset

namespace Document

variable {doc : Document} {key : SubsetKey} {item : FontItem} {glyphs : List AssignedGlyph}
  {objects : SubsetObjects}

theorem openSubset?_eq (found : doc.fonts.get? key.font = some item)
    (opened : item.slots.subset? key.subset = some glyphs)
    (held : item.subsets[key.subset]? = some objects) :
    doc.openSubset? key = .ok ⟨item, glyphs, objects⟩ := by
  have got := Registry.get_eq_ok_iff.mpr found
  simp only [openSubset?, got, opened, held, bind, Except.bind]

variable {subset : OpenSubset} {deflate : Bytes → Bytes} {body : Body}

theorem exists_program_of_subsetBody (opened : doc.openSubset? key = .ok subset)
    (lowered : doc.subsetBody deflate .program key = .ok body) :
    ∃ program, subset.font.face.subset (subset.glyphs.map AssignedGlyph.glyph) = .ok program := by
  simp only [subsetBody, opened, subsetProgram, bind, Except.bind] at lowered
  cases made : subset.font.face.subset (subset.glyphs.map AssignedGlyph.glyph) with
  | error cause =>
      rw [made] at lowered
      contradiction
  | ok program => exact ⟨program, rfl⟩

theorem subsetBody_program {program : Bytes} (opened : doc.openSubset? key = .ok subset)
    (made : subset.font.face.subset (subset.glyphs.map AssignedGlyph.glyph) = .ok program) :
    doc.subsetBody deflate .program key = .ok (.ofStream deflate doc.options.compress
      (Dictionary.StreamHead.fontProgram program.length).entries none program) := by
  simp only [subsetBody, opened, subsetProgram, made, bind, Except.bind]
  rfl

theorem subsetBody_descriptor (opened : doc.openSubset? key = .ok subset) :
    doc.subsetBody deflate .descriptor key = .ok (.value (fontDescriptor key subset).value) := by
  rw [subsetBody, opened]
  rfl

theorem subsetBody_toUnicode (opened : doc.openSubset? key = .ok subset) :
    doc.subsetBody deflate .toUnicode key = .ok (.ofStream deflate doc.options.compress [] none
      (ToUnicode.ofTexts (subset.glyphs.map AssignedGlyph.text)).bytes) := by
  rw [subsetBody, opened]
  rfl

theorem subsetBody_cidFont (opened : doc.openSubset? key = .ok subset) :
    doc.subsetBody deflate .cidFont key = .ok (.value (cidFont key subset).value) := by
  rw [subsetBody, opened]
  rfl

theorem subsetBody_font {encoding : Ref} (opened : doc.openSubset? key = .ok subset)
    (shared : doc.encoding = some encoding) :
    doc.subsetBody deflate .font key = .ok (.value (Dictionary.Type0Font.value
      ⟨subsetName key subset.font.face, encoding, subset.objects.cidFont,
        subset.objects.toUnicode⟩)) := by
  simp only [subsetBody, opened, type0Font, shared, bind, Except.bind]
  rfl

theorem body_encodingRecord (roots : Roots) :
    doc.body roots deflate (encodingRecord doc.options) =
      .ok (.ofStream deflate doc.options.compress
        (Dictionary.StreamHead.cmap OneByte.name .identity).entries none
          (OneByte.bytes (Slots.ofCapacity doc.options.subsetCapacity).capacity)) := by
  rw [encodingRecord, Record.stream]
  cases doc.options.compress with
  | false => rfl
  | true => rfl

theorem FontsAgree.length_glyphs (agree : doc.FontsAgree)
    (found : doc.fonts.get? key.font = some item)
    (opened : item.slots.subset? key.subset = some glyphs) :
    1 ≤ glyphs.length ∧ glyphs.length ≤ max 1 (min 255 doc.options.subsetCapacity) := by
  have bounds := Slots.length_of_subset? opened
  rw [agree.capacity found] at bounds
  exact bounds

theorem FontsAgree.exists_objects (agree : doc.FontsAgree)
    (found : doc.fonts.get? key.font = some item)
    (opened : item.slots.subset? key.subset = some glyphs) :
    ∃ objects encoding, item.subsets[key.subset]? = some objects ∧
      doc.encoding = some encoding := by
  have bound := Slots.lt_subsetCount_of_subset? opened
  rw [← agree.count found] at bound
  cases shared : doc.encoding with
  | none =>
      rw [agree.unopened shared found] at bound
      contradiction
  | some encoding => exact ⟨_, encoding, List.getElem?_eq_getElem bound, rfl⟩

theorem FontsAgree.exists_number (agree : doc.FontsAgree)
    (found : doc.fonts.get? key.font = some item)
    (held : item.subsets[key.subset]? = some objects) (part : SubsetPart) :
    ∃ number, objects.ref part = .first number ∧
      ∀ other, doc.store.get? (.first other) = some (.subset part key) ↔ other = number := by
  have stored := agree.held found held part
  have unique {other : Nat} (also : doc.store.get? (.first other) = some (.subset part key)) :
      objects.ref part = .first other := by
    obtain ⟨known, objectsAlso, foundAlso, heldAlso, spelled⟩ := agree.only also
    rw [found] at foundAlso
    cases foundAlso
    rw [held] at heldAlso
    cases heldAlso
    exact spelled
  have first : objects.ref part = .first (objects.ref part).number := unique stored
  refine ⟨(objects.ref part).number, first, fun other => ⟨fun also => ?_, fun same => ?_⟩⟩
  · rw [unique also]
    rfl
  · rw [same]
    exact stored

theorem FontsAgree.generation_ref (agree : doc.FontsAgree)
    (found : doc.fonts.get? key.font = some item)
    (held : item.subsets[key.subset]? = some objects) (part : SubsetPart) :
    (objects.ref part).generation = 0 := by
  obtain ⟨number, first, -⟩ := agree.exists_number found held part
  rw [first]
  rfl

def finishedSubset (doc : Document) (key : SubsetKey) (subset : OpenSubset) (encoding : Ref)
    (program : Bytes) : FinishedSubset where
  font := Dictionary.Type0Font.value ⟨subsetName key subset.font.face, encoding,
    subset.objects.cidFont, subset.objects.toUnicode⟩
  cidFont := (Document.cidFont key subset).value
  descriptor := (fontDescriptor key subset).value
  widths := (Slots.padded subset.glyphs subset.font.slots.capacity).map
    (glyphWidth subset.font.face)
  program := program
  toUnicode := (ToUnicode.ofTexts (subset.glyphs.map AssignedGlyph.text)).bytes
  encoding := OneByte.bytes (Slots.ofCapacity doc.options.subsetCapacity).capacity

theorem FontsAgree.finishedSubset_in {closed : Document} {roots : Roots} {bodies : List Body}
    {encoding : Ref} {program : Bytes} (agree : doc.FontsAgree) (grows : doc.Grows closed)
    (written : doc.Written closed roots deflate bodies)
    (shared : doc.encoding = some encoding)
    (found : doc.fonts.get? key.font = some item)
    (opened : item.slots.subset? key.subset = some glyphs)
    (held : item.subsets[key.subset]? = some objects)
    (made : item.face.subset (glyphs.map AssignedGlyph.glyph) = .ok program) :
    (doc.finishedSubset key ⟨item, glyphs, objects⟩ encoding program).In bodies
      (fun entries => .ofStream deflate doc.options.compress entries none) objects encoding := by
  have openSubset := openSubset?_eq found opened held
  have place (part : SubsetPart) {body : Body}
      (lowered : doc.subsetBody deflate part key = .ok body) :
      Body.at? bodies (objects.ref part) = some body := by
    obtain ⟨other, place, loweredClosed⟩ :=
      written (agree.generation_ref found held part) (agree.held found held part) rfl
    rw [grows.rest] at loweredClosed
    have same := loweredClosed.symm.trans lowered
    cases same
    exact place
  have complete : (encodingRecord doc.options).isComplete := by
    rw [encodingRecord, Record.stream]
    split
    · rfl
    · rfl
  obtain ⟨generation, stored⟩ := agree.encoding shared
  obtain ⟨body, placeEncoding, loweredEncoding⟩ := written generation stored complete
  have options : closed.options = doc.options := by rw [grows.rest]
  rw [← options, body_encodingRecord, options] at loweredEncoding
  cases loweredEncoding
  exact {
    font := place .font (subsetBody_font openSubset shared)
    font_subtype := rfl
    font_encoding := rfl
    font_descendants := rfl
    font_toUnicode := rfl
    cidFont := place .cidFont (subsetBody_cidFont openSubset)
    cidFont_subtype := rfl
    cidFont_descriptor := rfl
    cidFont_widths := rfl
    cidFont_glyphs := rfl
    descriptor := place .descriptor (subsetBody_descriptor openSubset)
    descriptor_program := rfl
    program := place .program (subsetBody_program openSubset made)
    toUnicode := place .toUnicode (subsetBody_toUnicode openSubset)
    encoding := placeEncoding }

end Document

end Folio
