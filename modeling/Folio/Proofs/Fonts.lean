import Folio.Proofs.Changes
import Folio.Proofs.Slots

/-!
The fonts of a document and the objects of their subsets: only what adds a font or takes a slot
touches them, whatever else is asked of the document.
-/

namespace Folio

def Record.isSubset : Record → Bool
  | .subset _ _ => true
  | _ => false

theorem Record.not_isSubset_of_isPlain {record : Record} (plain : record.isPlain) :
    record.isSubset = false := by
  cases record with
  | object value => rfl
  | stored entries filter data => rfl
  | deflated entries data => rfl
  | _ => contradiction

namespace Document

/-- Changes that leave fonts alone, and add no objects of subsets. -/
structure SameFonts (before after : Document) : Prop where
  options : after.options = before.options
  fonts : after.fonts = before.fonts
  encoding : after.encoding = before.encoding
  store : before.store.Adds (fun record => record.isSubset = false) after.store

theorem SameFonts.get?_subset {before after : Document} (same : before.SameFonts after)
    {target : Ref} {part : SubsetPart} {key : SubsetKey}
    (found : after.store.get? target = some (.subset part key)) :
    before.store.get? target = some (.subset part key) :=
  same.store.get?_of_get? Bool.noConfusion found

theorem sameFonts_push (doc : Document) {record : Record} (other : record.isSubset = false) :
    doc.SameFonts (doc.push record) :=
  ⟨rfl, rfl, rfl, doc.store.adds_allocate other⟩

theorem Plain.sameFonts {before after : Document} (plain : before.Plain after) :
    before.SameFonts after where
  options := by rw [plain.same]
  fonts := by rw [plain.same]
  encoding := by rw [plain.same]
  store := plain.store.mono Record.not_isSubset_of_isPlain

theorem sameFonts_withPage (doc : Document) (source : PageSource) :
    doc.SameFonts (doc.withPage source) where
  options := rfl
  fonts := rfl
  encoding := rfl
  store := doc.adds_withPage source Record.not_isSubset_of_isPlain rfl

inductive FontStep (doc : Document) : Document → Prop
  | same {after : Document} (same : doc.SameFonts after) : FontStep doc after
  | font (face : Face) :
      FontStep doc { doc with fonts := (doc.fonts.register
        ⟨face, .ofCapacity doc.options.subsetCapacity, []⟩).2 }
  | glyph (id : Id .font) (item : FontItem) (glyph : GlyphId) (char : Option Char)
      (found : doc.fonts.get? id = some item) :
      FontStep doc (doc.withGlyph id item glyph char)

theorem fontStep_of_change {doc after : Document} (change : doc.Change after) :
    doc.FontStep after := by
  cases change with
  | plain plain => exact .same plain.sameFonts
  | font face => exact .font face
  | glyph id item glyph char found => exact .glyph id item glyph char found
  | outputIntent intent known => exact .same ⟨rfl, rfl, rfl, .refl _⟩
  | annot rect kind color known =>
      exact .same ⟨rfl, rfl, rfl, doc.store.adds_allocate rfl⟩
  | checkbox checkbox known => exact .same ⟨rfl, rfl, rfl, doc.store.adds_allocate rfl⟩
  | structureItem kind parent attributes known =>
      exact .same ⟨rfl, rfl, rfl, doc.store.adds_allocate rfl⟩
  | page source checked => exact .same (doc.sameFonts_withPage source)
  | outlineItem item page known => exact .same ⟨rfl, rfl, rfl, .refl _⟩

theorem fontStep_apply (doc : Document) (operation : Operation) :
    doc.FontStep (doc.apply operation).2 :=
  fontStep_of_change (doc.change_apply operation)

end Document

end Folio
