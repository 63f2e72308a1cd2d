import Folio.Proofs.FileLayout

/-!
A destination that takes everything it is offered: a document that can be completed, and whose
records can all be lowered, is written to its end.
-/

namespace Folio

namespace Sink

def TakesAll (sink : Sink) : Prop :=
  sink.room = none

theorem takesAll_unbounded : unbounded.TakesAll :=
  rfl

theorem TakesAll.writeAll {sink : Sink} (takes : sink.TakesAll) (bytes : Bytes) :
    (sink.writeAll bytes).1 = bytes ∧ (sink.writeAll bytes).2.TakesAll := by
  obtain ⟨taken, room⟩ := sink.writeAll_eq bytes
  rw [takes] at taken room
  exact ⟨taken, room⟩

end Sink

/-- A step that did not fail, and whose destination goes on taking everything. -/
structure Step.Goes (step : Step) : Prop where
  failure : step.failure = none
  sink : step.writer.sink.TakesAll

theorem Step.Goes.andThen {step : Step} {next : Writer → Step} (goes : step.Goes)
    (further : ∀ {writer : Writer}, writer.sink.TakesAll → (next writer).Goes) :
    (step.andThen next).Goes := by
  have later := further goes.sink
  rw [Step.andThen_of_failure_eq_none goes.failure]
  exact ⟨later.failure, later.sink⟩

theorem takes_andThen {step : Step} {next : Writer → Step}
    (takes : step.writer.sink.TakesAll)
    (further : ∀ {writer : Writer}, writer.sink.TakesAll → (next writer).writer.sink.TakesAll) :
    (step.andThen next).writer.sink.TakesAll := by
  cases done : step.failure with
  | some error => rwa [Step.andThen_of_failure_eq_some done]
  | none =>
      rw [Step.andThen_of_failure_eq_none done]
      exact further takes

namespace Writer

variable {writer : Writer}

theorem goes_done (takes : writer.sink.TakesAll) : (Step.done writer).Goes :=
  ⟨rfl, takes⟩

theorem goes_put (takes : writer.sink.TakesAll) (bytes : Bytes) : (writer.put bytes).Goes := by
  obtain ⟨out, takesAfter⟩ := takes.writeAll bytes
  rw [put_eq]
  exact ⟨if_pos (congrArg List.length out), takesAfter⟩

theorem goes_write (takes : writer.sink.TakesAll) (marks : List Mark) :
    (writer.write marks).Goes := by
  induction marks generalizing writer with
  | nil => exact goes_done takes
  | cons mark rest ih =>
      exact (goes_put takes _).andThen fun takesAfter => ih takesAfter

theorem goes_object (takes : writer.sink.TakesAll) (target : Ref) (body : Body) :
    (writer.object target body).Goes :=
  (goes_write takes _).andThen fun takesAfter => goes_done takesAfter

end Writer

namespace Document

open Writer

/-- The failure that a list of outcomes comes to first, if there is one. -/
def firstError : List (Except Error Body) → Option Error
  | [] => none
  | .ok _ :: rest => firstError rest
  | .error error :: _ => some error

theorem firstError_eq_none {records : List Record} {lower : Record → Except Error Body}
    (lowers : ∀ record ∈ records, (lower record).toBool) :
    firstError (records.map lower) = none := by
  induction records with
  | nil => rfl
  | cons record rest ih =>
      have first := lowers record List.mem_cons_self
      rw [List.map_cons]
      cases lowered : lower record with
      | error error =>
          rw [lowered] at first
          contradiction
      | ok body => exact ih fun other listed => lowers other (List.mem_cons_of_mem _ listed)

theorem failure_writeObjects {lower : Record → Except Error Body} {entries : List (Ref × Record)}
    {writer : Writer} (takes : writer.sink.TakesAll) :
    (writeObjects lower entries writer).failure =
      firstError ((entries.map Prod.snd).map lower) := by
  induction entries generalizing writer with
  | nil => rfl
  | cons entry rest ih =>
      rw [writeObjects, List.map_cons, List.map_cons]
      cases lower entry.2 with
      | error error => rfl
      | ok body =>
          have goes := goes_object takes entry.1 body
          simp only [Step.andThen_of_failure_eq_none goes.failure]
          exact ih goes.sink

theorem takes_writeObjects (lower : Record → Except Error Body) (entries : List (Ref × Record))
    {writer : Writer} (takes : writer.sink.TakesAll) :
    (writeObjects lower entries writer).writer.sink.TakesAll := by
  induction entries generalizing writer with
  | nil => exact takes
  | cons entry rest ih =>
      rw [writeObjects]
      cases lower entry.2 with
      | error error => exact takes
      | ok body => exact takes_andThen (goes_object takes entry.1 body).sink ih

theorem goes_writeEnd {writer : Writer} (takes : writer.sink.TakesAll) (roots : Roots)
    (means : Means) : (writeEnd roots means writer).Goes :=
  (goes_put takes _).andThen fun takes => (goes_put takes _).andThen fun takes =>
    (goes_write takes _).andThen fun takes => goes_put takes _

/-- Nothing but a record that cannot be lowered keeps a file from its end. -/
theorem failure_write (doc : Document) (roots : Roots) (means : Means) {sink : Sink}
    (takes : sink.TakesAll) :
    (doc.write roots means (.start sink)).failure =
      firstError (doc.store.records.toList.map (doc.body roots means.deflate)) := by
  have opened : ((Writer.start sink).put header).Goes := goes_put takes header
  have objects : (writeObjects (doc.body roots means.deflate) doc.store.toList
      ((Writer.start sink).put header).writer).failure = _ := failure_writeObjects opened.sink
  have further := takes_writeObjects (doc.body roots means.deflate) doc.store.toList opened.sink
  rw [write, Step.andThen_of_failure_eq_none opened.failure, ← Store.map_snd_toList, ← objects]
  cases failed : (writeObjects (doc.body roots means.deflate) doc.store.toList
      ((Writer.start sink).put header).writer).failure with
  | none =>
      rw [Step.andThen_of_failure_eq_none failed]
      exact (goes_writeEnd further roots means).failure
  | some error =>
      rw [Step.andThen_of_failure_eq_some failed]
      exact failed

def lowers (doc : Document) (deflate : Bytes → Bytes) : Bool :=
  match close.run doc with
  | .error _ _ => false
  | .ok roots closed =>
      closed.store.toList.all fun entry => (closed.body roots deflate entry.2).toBool

theorem failure_finalize_unbounded {doc : Document} {means : Means}
    (whole : doc.lowers means.deflate) : (doc.finalize means .unbounded).failure = none := by
  rw [lowers] at whole
  cases closing : close.run doc with
  | error error after =>
      rw [closing] at whole
      contradiction
  | ok roots closed =>
      rw [closing] at whole
      rw [finalize_eq_write closing, failure_write closed roots means Sink.takesAll_unbounded,
        ← Store.map_snd_toList]
      apply firstError_eq_none
      intro record listed
      obtain ⟨entry, held, rfl⟩ := List.mem_map.mp listed
      exact List.all_eq_true.mp whole entry held

end Document

end Folio
