import Folio.Writer

/-!
What a writer does that was never refused: the bytes and the state after them do not depend on how
the destination took them.
-/

namespace Folio

namespace Sink

/-- A write takes no more than it is offered and there is room for, and something if it can. -/
theorem taken_spec (sink : Sink) {size : Nat} (offered : 0 < size) :
    sink.taken size ≤ size ∧ (∀ room, sink.room = some room → sink.taken size ≤ room) ∧
      (sink.taken size = 0 → sink.room = some 0) := by
  have atOnce : ∃ count, 0 < count ∧ count ≤ size ∧
      sink.taken size = sink.room.elim count (min count) := by
    rw [taken]
    cases sink.portion sink.writes with
    | none => exact ⟨size, offered, Nat.le_refl _, by cases sink.room <;> rfl⟩
    | some most =>
        exact ⟨min size (max 1 most), by omega, Nat.min_le_left _ _, by cases sink.room <;> rfl⟩
  obtain ⟨count, positive, bounded, taken⟩ := atOnce
  rw [taken]
  cases sink.room with
  | none =>
      refine ⟨bounded, nofun, fun empty => ?_⟩
      rw [Option.elim_none] at empty
      omega
  | some left =>
      rw [Option.elim_some]
      refine ⟨by omega, fun room same => ?_, fun empty => ?_⟩
      · cases same
        exact Nat.min_le_right _ _
      · exact congrArg some (by omega)

/-- What is taken of bytes depends on the room alone, however the destination splits them. -/
theorem offer_eq {attempts : Nat} {bytes : Bytes} (enough : bytes.length ≤ attempts)
    (sink : Sink) :
    (sink.offer attempts bytes).1 = sink.room.elim bytes (bytes.take ·) ∧
      (sink.offer attempts bytes).2.room = sink.room.map (· - bytes.length) := by
  have nothing : ∀ sink : Sink, [] = sink.room.elim [] (List.take · ([] : Bytes)) ∧
      sink.room = sink.room.map (· - ([] : Bytes).length) := by
    intro sink
    cases sink.room with
    | none => exact ⟨rfl, rfl⟩
    | some room => exact ⟨List.take_nil.symm, rfl⟩
  induction attempts generalizing sink bytes with
  | zero =>
      rw [List.eq_nil_of_length_eq_zero (Nat.le_zero.mp enough)]
      exact nothing sink
  | succ attempts ih =>
      cases bytes with
      | nil => exact nothing sink
      | cons byte rest =>
          obtain ⟨bounded, inside, empty⟩ :=
            sink.taken_spec (show 0 < (byte :: rest).length from Nat.succ_pos _)
          simp only [offer]
          generalize sink.taken (byte :: rest).length = count at bounded inside empty ⊢
          by_cases full : count = 0
          · rw [if_pos full, afterWrite, empty full, full]
            exact ⟨rfl, congrArg some (Nat.zero_sub _).symm⟩
          · have shorter : ((byte :: rest).drop count).length ≤ attempts := by
              rw [List.length_drop]
              omega
            obtain ⟨more, left⟩ := ih shorter (sink.afterWrite count)
            rw [if_neg full, more, left, afterWrite]
            cases room : sink.room with
            | none => exact ⟨List.take_append_drop _ _, rfl⟩
            | some whole =>
                have within := inside whole room
                simp only [Option.map_some, Option.elim_some, List.length_drop]
                rw [← List.take_add, Nat.add_sub_cancel' within]
                exact ⟨rfl, congrArg some (by omega)⟩

theorem writeAll_eq (sink : Sink) (bytes : Bytes) :
    (sink.writeAll bytes).1 = sink.room.elim bytes (bytes.take ·) ∧
      (sink.writeAll bytes).2.room = sink.room.map (· - bytes.length) :=
  offer_eq (Nat.le_refl _) sink

theorem writeAll_eq_of_length_eq {sink : Sink} {bytes : Bytes}
    (hlength : (sink.writeAll bytes).1.length = bytes.length) :
    (sink.writeAll bytes).1 = bytes := by
  obtain ⟨taken, -⟩ := sink.writeAll_eq bytes
  rw [taken] at hlength ⊢
  cases room : sink.room with
  | none => rfl
  | some room =>
      rw [room] at hlength
      rw [Option.elim_some, List.length_take] at hlength
      exact List.take_of_length_le (by omega)

end Sink

namespace Step

theorem andThen_of_failure_eq_none {step : Step} {next : Writer → Step}
    (hstep : step.failure = none) :
    step.andThen next =
      ⟨step.out ++ (next step.writer).out, (next step.writer).writer,
        (next step.writer).failure⟩ := by
  rw [andThen, hstep]

theorem andThen_of_failure_eq_some {step : Step} {error : Error}
    (stopped : step.failure = some error) (next : Writer → Step) : step.andThen next = step := by
  rw [andThen, stopped]

theorem failure_eq_none_of_andThen {step : Step} {next : Writer → Step}
    (hall : (step.andThen next).failure = none) :
    step.failure = none ∧ (next step.writer).failure = none := by
  cases hstep : step.failure with
  | some error =>
      rw [andThen, hstep] at hall
      rw [hstep] at hall
      contradiction
  | none =>
      rw [andThen_of_failure_eq_none hstep] at hall
      exact ⟨rfl, hall⟩

end Step

namespace Writer

/-- The writer after bytes that went out in full, up to what became of the destination. -/
structure Wrote (before : Writer) (step : Step) (bytes : Bytes) (layout : Layout) (xref : Xref) :
    Prop where
  out : step.out = bytes
  failure : step.failure = none
  layout : step.writer.layout = layout
  offset : step.writer.offset = before.offset + bytes.length
  xref : step.writer.xref = xref

theorem Wrote.andThen {before : Writer} {step : Step} {next : Writer → Step}
    {first second : Bytes} {layout layoutAfter : Layout} {xref xrefAfter : Xref}
    (hstep : Wrote before step first layout xref)
    (hnext : Wrote step.writer (next step.writer) second layoutAfter xrefAfter) :
    Wrote before (step.andThen next) (first ++ second) layoutAfter xrefAfter := by
  rw [Step.andThen_of_failure_eq_none hstep.failure]
  refine ⟨?_, hnext.failure, hnext.layout, ?_, hnext.xref⟩
  · simp only [hstep.out, hnext.out]
  · simp only [hnext.offset, hstep.offset, List.length_append]
    omega

theorem wrote_done (writer : Writer) :
    Wrote writer (.done writer) [] writer.layout writer.xref :=
  ⟨rfl, rfl, rfl, rfl, rfl⟩

theorem put_eq (writer : Writer) (bytes : Bytes) :
    writer.put bytes =
      ⟨(writer.sink.writeAll bytes).1,
        { writer with
          offset := writer.offset + (writer.sink.writeAll bytes).1.length
          sink := (writer.sink.writeAll bytes).2 },
        if (writer.sink.writeAll bytes).1.length = bytes.length then none else some .io⟩ := rfl

theorem wrote_put {writer : Writer} {bytes : Bytes}
    (hok : (writer.put bytes).failure = none) :
    Wrote writer (writer.put bytes) bytes writer.layout writer.xref := by
  rw [put_eq] at hok ⊢
  have hlength : (writer.sink.writeAll bytes).1.length = bytes.length := by
    by_cases heq : (writer.sink.writeAll bytes).1.length = bytes.length
    · exact heq
    · simp [heq] at hok
  refine ⟨Sink.writeAll_eq_of_length_eq hlength, hok, rfl, ?_, rfl⟩
  simp only [hlength]

theorem wrote_table {writer : Writer} (hok : writer.table.failure = none) :
    Wrote writer writer.table writer.xref.text writer.layout writer.xref :=
  wrote_put hok

theorem wrote_write {writer : Writer} {marks : List Mark}
    (hok : (writer.write marks).failure = none) :
    Wrote writer (writer.write marks) (Mark.render writer.layout marks)
      (Mark.after writer.layout marks) writer.xref := by
  induction marks generalizing writer with
  | nil => exact wrote_done writer
  | cons mark rest ih =>
      obtain ⟨hfirst, hrest⟩ := Step.failure_eq_none_of_andThen hok
      have hput := wrote_put hfirst
      have hlater := ih hrest
      have hnext : Wrote (writer.put (mark.shown writer.layout)).writer
          (write { (writer.put (mark.shown writer.layout)).writer with
            layout := mark.next (writer.put (mark.shown writer.layout)).writer.layout } rest)
          (Mark.render (mark.next writer.layout) rest)
          (Mark.after (mark.next writer.layout) rest) writer.xref := by
        refine ⟨?_, hlater.failure, ?_, hlater.offset, ?_⟩
        · rw [hlater.out, hput.layout]
        · rw [hlater.layout, hput.layout]
        · rw [hlater.xref, hput.xref]
      exact hput.andThen hnext

theorem Wrote.record {before : Writer} {step : Step} {bytes : Bytes} {layout : Layout}
    {xref : Xref} (hstep : Wrote before step bytes layout xref) (target : Ref) (offset : Nat) :
    Wrote before
      (step.andThen fun after =>
        .done { after with xref := after.xref.record target offset })
      bytes layout (xref.record target offset) := by
  rw [Step.andThen_of_failure_eq_none hstep.failure]
  refine ⟨?_, rfl, hstep.layout, hstep.offset, ?_⟩
  · rw [Step.done, List.append_nil, hstep.out]
  · rw [Step.done, hstep.xref]

theorem wrote_object {writer : Writer} {target : Ref} {body : Body}
    (hok : (writer.object target body).failure = none) :
    Wrote writer (writer.object target body)
      (Mark.render writer.layout (objectMarks target body))
      (Mark.after writer.layout (objectMarks target body))
      (writer.xref.record target writer.offset) := by
  obtain ⟨hwrite, -⟩ := Step.failure_eq_none_of_andThen hok
  exact (wrote_write hwrite).record target writer.offset

end Writer

end Folio
