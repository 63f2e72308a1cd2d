import Folio.Proofs.CompressedFile
import Folio.Proofs.Reading.RoundTrip

/-!
Entries that were rendered ahead of time, set into a dictionary at the margin. They stand there as
entries do that are added to the dictionary one by one.
-/

namespace Folio

namespace Value

/-- At the margin a dictionary is its entries, as they stand alone, between brackets. -/
theorem render_dict {entries : List Entry} (nonempty : entries ≠ []) (pending : Bool) :
    Mark.render ⟨0, pending⟩ (dict entries).marks =
      utf8 "<<\n" ++ (Entry.bytesOfAll entries ++ utf8 ">>") := by
  have closing (layout : Layout) (margin : layout.indent = 0) :
      Mark.render layout [.margin, .text (utf8 ">>"), .pending false] = utf8 ">>" := by
    simp [Mark.render, Mark.shown, margin]
  calc Mark.render ⟨0, pending⟩ (dict entries).marks
      = utf8 "<<\n" ++ Mark.render ⟨0, pending⟩ (Entry.marksOfAll entries ++
          [.margin, .text (utf8 ">>"), .pending false]) := by
        rw [marks_dict nonempty, List.append_assoc]
        rfl
    _ = utf8 "<<\n" ++ (Entry.bytesOfAll entries ++ utf8 ">>") := by
        rw [Mark.render_append, Entry.render_marksOfAll,
          closing _ (Entry.indent_after_marksOfAll _ entries)]
        rfl

theorem after_dict (layout : Layout) (entries : List Entry) :
    Mark.after layout (dict entries).marks = ⟨layout.indent, false⟩ := by
  have margin := indent_after_marks layout (dict entries)
  have pending : (Mark.after layout (dict entries).marks).pending = false := by
    cases entries with
    | nil => rfl
    | cons entry rest =>
        rw [marks_dict (List.cons_ne_nil _ _), Mark.after_append]
        rfl
  generalize Mark.after layout (dict entries).marks = after at margin pending ⊢
  obtain ⟨indent, flag⟩ := after
  cases margin
  cases pending
  rfl

/-- A dictionary that begins with entries that were rendered ahead of time at the margin. -/
def spliced (additions further : List Addition) : Value :=
  .dict (.raw (Entry.bytesOfAll (Addition.entriesOfAll additions)) ::
    Addition.entriesOfAll further)

def embedded (additions further : List Addition) : Value :=
  .dict (Addition.entriesOfAll (.embed additions :: further))

theorem render_spliced (additions further : List Addition) (pending : Bool) :
    Mark.render ⟨0, pending⟩ (spliced additions further).marks =
      utf8 "<<\n" ++ (Entry.bytesOfAll (Addition.entriesOfAll (.embed additions :: further)) ++
        utf8 ">>") := by
  rw [spliced, render_dict (List.cons_ne_nil _ _), ← List.singleton_append,
    Entry.bytesOfAll_append, Entry.bytesOfAll_raw, Addition.entriesOfAll, Addition.entries,
    Entry.bytesOfAll_append]

theorem render_spliced_eq_iff (additions further : List Addition) (pending : Bool) :
    Mark.render ⟨0, pending⟩ (spliced additions further).marks =
        Mark.render ⟨0, pending⟩ (embedded additions further).marks ↔
      Addition.entriesOfAll (.embed additions :: further) ≠ [] := by
  rw [render_spliced, embedded]
  refine ⟨fun same empty => ?_, fun nonempty => (render_dict nonempty pending).symm⟩
  rw [empty] at same
  exact absurd same (by cases pending <;> decide)

/--
Entries that were rendered ahead of time make the same dictionary as those that are embedded, if
any entry follows, and leave the same layout, whatever was written before.
-/
theorem splices_rendered (additions further : List Addition) (pending : Bool)
    (follows : Addition.entriesOfAll further ≠ []) :
    Mark.render ⟨0, pending⟩ (spliced additions further).marks =
        Mark.render ⟨0, pending⟩ (embedded additions further).marks ∧
      Mark.after ⟨0, pending⟩ (spliced additions further).marks =
        Mark.after ⟨0, pending⟩ (embedded additions further).marks := by
  have nonempty : Addition.entriesOfAll (.embed additions :: further) ≠ [] :=
    List.append_ne_nil_of_right_ne_nil _ follows
  refine ⟨(render_spliced_eq_iff additions further pending).mpr nonempty, ?_⟩
  rw [spliced, embedded, after_dict, after_dict]

/-- Additions that add nothing are rendered as nothing, and still make the same dictionary. -/
theorem splices_rendered_empty :
    Addition.entriesOfAll [.field "Length" (.nat 5)] ≠ [] ∧
      Entry.bytesOfAll (Addition.entriesOfAll [.optional "A" none, .unlessEmpty "B" []]) = [] ∧
      Mark.render ⟨0, true⟩ (spliced [.optional "A" none, .unlessEmpty "B" []]
          [.field "Length" (.nat 5)]).marks =
        Mark.render ⟨0, true⟩ (embedded [.optional "A" none, .unlessEmpty "B" []]
          [.field "Length" (.nat 5)]).marks ∧
      Mark.after ⟨0, true⟩ (spliced [.optional "A" none, .unlessEmpty "B" []]
          [.field "Length" (.nat 5)]).marks =
        Mark.after ⟨0, true⟩ (embedded [.optional "A" none, .unlessEmpty "B" []]
          [.field "Length" (.nat 5)]).marks :=
  ⟨List.cons_ne_nil _ _, rfl, splices_rendered _ _ true (List.cons_ne_nil _ _)⟩

end Value

end Folio
