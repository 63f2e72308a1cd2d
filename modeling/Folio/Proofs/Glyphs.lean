import Folio.Document.Font
import Folio.Proofs.Build
import Folio.Proofs.Registry

/-!
What asking for a glyph does to a document: the encoding is there afterwards, the glyph has its
slot, and a subset that was opened for it has its five objects, one after the other.
-/

namespace Folio

namespace SubsetObjects

def firstAt (number : Nat) : SubsetObjects :=
  ⟨.first number, .first (number + 1), .first (number + 2), .first (number + 3),
    .first (number + 4)⟩

def ref (objects : SubsetObjects) : SubsetPart → Ref
  | .program => objects.program
  | .descriptor => objects.descriptor
  | .toUnicode => objects.toUnicode
  | .cidFont => objects.cidFont
  | .font => objects.font

end SubsetObjects

namespace Document

def encodingRecord (options : DocumentOptions) : Record :=
  .stream options.compress (Dictionary.StreamHead.cmap OneByte.name .identity).entries
    (OneByte.bytes (Slots.ofCapacity options.subsetCapacity).capacity)

def encoded (doc : Document) : Document :=
  if doc.encoding.isNone then
    { doc.push (encodingRecord doc.options) with encoding := some doc.nextRef }
  else doc

def withSubset (doc : Document) (key : SubsetKey) : Document :=
  ((((doc.push (.subset .program key)).push (.subset .descriptor key)).push
    (.subset .toUnicode key)).push (.subset .cidFont key)).push (.subset .font key)

def withFont (doc : Document) (id : Id .font) (item : FontItem) : Document :=
  { doc with fonts := doc.fonts.replaced id item }

/-- A font after a glyph took its slot and `added` was opened for it. -/
def assignedItem (item : FontItem) (glyph : GlyphId) (char : Option Char)
    (added : List SubsetObjects) : FontItem :=
  { item with slots := (item.slots.assign glyph char).2.2, subsets := item.subsets ++ added }

def withGlyph (doc : Document) (id : Id .font) (item : FontItem) (glyph : GlyphId)
    (char : Option Char) : Document :=
  if (item.slots.assign glyph char).2.1 then
    (doc.encoded.withSubset ⟨id, (item.slots.assign glyph char).1.subset⟩).withFont id
      (assignedItem item glyph char [.firstAt (doc.encoded.store.size + 1)])
  else doc.encoded.withFont id (assignedItem item glyph char [])

theorem run_ensureEncoding (doc : Document) : ensureEncoding.run doc = .ok () doc.encoded := by
  rw [encoded]
  cases held : doc.encoding with
  | none => simp [ensureEncoding, held, encodingRecord]
  | some target => simp [ensureEncoding, held]

theorem run_openSubset (key : SubsetKey) (doc : Document) :
    (openSubset key).run doc =
      .ok (.firstAt (doc.store.size + 1)) (doc.withSubset key) := by
  simp [openSubset, SubsetObjects.firstAt, withSubset, nextRef]

theorem run_font {doc : Document} {id : Id .font} {item : FontItem}
    (found : doc.fonts.get? id = some item) : (font id).run doc = .ok item doc := by
  have got := Registry.get_eq_ok_iff.mpr found
  simp [font, got]

theorem run_setFont {doc : Document} {id : Id .font} (item : FontItem)
    (contained : doc.fonts.contains id) :
    (setFont id item).run doc = .ok () (doc.withFont id item) := by
  have replaced := Registry.set_of_contains item contained
  simp [setFont, replaced, withFont]

@[simp] theorem fonts_encoded (doc : Document) : doc.encoded.fonts = doc.fonts := by
  rw [encoded]
  split
  · rfl
  · rfl

@[simp] theorem options_encoded (doc : Document) : doc.encoded.options = doc.options := by
  rw [encoded]
  split
  · rfl
  · rfl

def OnlyFonts (before after : Document) : Prop :=
  ∃ store fonts encoding, after = { before with store, fonts, encoding }

theorem OnlyFonts.trans {first second third : Document} (only : first.OnlyFonts second)
    (further : second.OnlyFonts third) : first.OnlyFonts third := by
  obtain ⟨store, fonts, encoding, rfl⟩ := only
  obtain ⟨grown, later, last, rfl⟩ := further
  exact ⟨grown, later, last, rfl⟩

theorem onlyFonts_push (doc : Document) (record : Record) : doc.OnlyFonts (doc.push record) :=
  ⟨_, _, _, rfl⟩

theorem onlyFonts_encoded (doc : Document) : doc.OnlyFonts doc.encoded := by
  rw [encoded]
  split
  · exact ⟨_, _, some doc.nextRef, rfl⟩
  · exact ⟨_, _, _, rfl⟩

theorem onlyFonts_withSubset (doc : Document) (key : SubsetKey) :
    doc.OnlyFonts (doc.withSubset key) :=
  ((((doc.onlyFonts_push _).trans (onlyFonts_push _ _)).trans (onlyFonts_push _ _)).trans
    (onlyFonts_push _ _)).trans (onlyFonts_push _ _)

theorem onlyFonts_withFont (doc : Document) (id : Id .font) (item : FontItem) :
    doc.OnlyFonts (doc.withFont id item) :=
  ⟨_, _, _, rfl⟩

theorem onlyFonts_withGlyph (doc : Document) (id : Id .font) (item : FontItem) (glyph : GlyphId)
    (char : Option Char) : doc.OnlyFonts (doc.withGlyph id item glyph char) := by
  rw [withGlyph]
  split
  · exact (doc.onlyFonts_encoded.trans (onlyFonts_withSubset _ _)).trans
      (onlyFonts_withFont _ _ _)
  · exact doc.onlyFonts_encoded.trans (onlyFonts_withFont _ _ _)

theorem run_glyphSlot {doc : Document} {id : Id .font} {item : FontItem} {glyph : GlyphId}
    (char : Option Char) (found : doc.fonts.get? id = some item) (present : glyph ≠ 0) :
    (glyphSlot id glyph char).run doc =
      .ok (item.slots.assign glyph char).1 (doc.withGlyph id item glyph char) := by
  have contained := Registry.contains_of_get? found
  cases opened : (item.slots.assign glyph char).2.1 with
  | false =>
      have after : doc.encoded.fonts.contains id := by rwa [fonts_encoded]
      simp [glyphSlot, run_font found, present, run_ensureEncoding, opened, run_setFont _ after,
        withGlyph, assignedItem]
  | true =>
      have after : (doc.encoded.withSubset ⟨id, (item.slots.assign glyph char).1.subset⟩
          ).fonts.contains id := by
        show doc.encoded.fonts.contains id
        rwa [fonts_encoded]
      simp [glyphSlot, run_font found, present, run_ensureEncoding, opened, run_openSubset,
        run_setFont _ after, withGlyph, assignedItem]

section Outcomes

open Build

theorem run_font_eq_ok {doc after : Document} {id : Id .font} {item : FontItem}
    (ran : (font id).run doc = .ok item after) :
    doc.fonts.get? id = some item ∧ after = doc := by
  rw [font, run_bind_of_run (run_get doc)] at ran
  obtain ⟨got, same⟩ := run_ofExcept_eq_ok ran
  exact ⟨Registry.get_eq_ok_iff.mp got, same⟩

theorem run_glyphSlot_eq_ok {doc after : Document} {id : Id .font} {glyph : GlyphId}
    {char : Option Char} {slot : Slot} (ran : (glyphSlot id glyph char).run doc = .ok slot after) :
    ∃ item, doc.fonts.get? id = some item ∧ glyph ≠ 0 ∧
      slot = (item.slots.assign glyph char).1 ∧ after = doc.withGlyph id item glyph char := by
  have whole := ran
  rw [glyphSlot] at ran
  obtain ⟨item, middle, gotFont, rest⟩ := run_bind_eq_ok ran
  obtain ⟨found, rfl⟩ := run_font_eq_ok gotFont
  by_cases present : glyph = 0
  · simp [present] at rest
  · rw [run_glyphSlot char found present] at whole
    cases whole
    exact ⟨item, found, present, rfl, rfl⟩

theorem run_charSlot_eq_ok {doc after : Document} {id : Id .font} {char : Char} {slot : Slot}
    (ran : (charSlot id char).run doc = .ok slot after) :
    ∃ item glyph, doc.fonts.get? id = some item ∧ item.face.glyph? char = some glyph ∧
      glyph ≠ 0 ∧ slot = (item.slots.assign glyph (some char)).1 ∧
        after = doc.withGlyph id item glyph (some char) := by
  rw [charSlot] at ran
  obtain ⟨item, middle, gotFont, rest⟩ := run_bind_eq_ok ran
  obtain ⟨found, rfl⟩ := run_font_eq_ok gotFont
  obtain ⟨glyph, last, gotGlyph, assigned⟩ := run_bind_eq_ok rest
  obtain ⟨shown, rfl⟩ := run_ofExcept_eq_ok gotGlyph
  obtain ⟨held, known, present, spelled, became⟩ := run_glyphSlot_eq_ok assigned
  rw [found] at known
  cases known
  refine ⟨item, glyph, found, ?_, present, spelled, became⟩
  rw [faceGlyph] at shown
  cases glyphOf : item.face.glyph? char with
  | none =>
      rw [glyphOf] at shown
      contradiction
  | some other =>
      rw [glyphOf] at shown
      cases shown
      rfl

end Outcomes

end Document

end Folio
