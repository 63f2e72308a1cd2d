import Folio.Proofs.Writing
import Folio.Proofs.XrefSlots

/-!
The cross-reference section after any calls of a writer: objects in any order, with any numbers,
once or many times, and anything else between them.
-/

namespace Folio

namespace Xref

theorem size_le_iff {xref : Xref} (ascending : Sorted.Ascending xref.rows) {bound : Nat} :
    xref.size ≤ bound ↔ ∀ pair ∈ xref.rows, pair.1 < bound := by
  rw [size]
  cases last : xref.rows.getLast? with
  | none =>
      rw [List.getLast?_eq_none_iff.mp last]
      simp
  | some pair =>
      obtain ⟨before, split⟩ := List.getLast?_eq_some_iff.mp last
      have least : ∀ other ∈ before, other.1 < pair.1 := by
        rw [split] at ascending
        exact fun other listed => Nat.compare_eq_lt.mp
          ((List.pairwise_append.mp ascending).2.2 other listed pair List.mem_cons_self)
      rw [split]
      constructor
      · intro most other listed
        rcases List.mem_append.mp listed with earlier | same
        · exact Nat.lt_trans (least other earlier) most
        · rwa [List.mem_singleton.mp same]
      · exact fun all => all pair (List.mem_append_right _ List.mem_cons_self)

theorem size_record {xref : Xref} (ascending : Sorted.Ascending xref.rows) (target : Ref)
    (offset : Nat) : (xref.record target offset).size = max xref.size (target.number + 1) := by
  have further : Sorted.Ascending (xref.record target offset).rows :=
    Sorted.ascending_insert ascending
  have bounds (bound : Nat) : (xref.record target offset).size ≤ bound ↔
      max xref.size (target.number + 1) ≤ bound := by
    rw [size_le_iff further, Nat.max_le, size_le_iff ascending]
    have keys (other : Nat) : other ∈ (xref.record target offset).rows.map Prod.fst ↔
        other = target.number ∨ other ∈ xref.rows.map Prod.fst :=
      Sorted.mem_keys_insert_iff ascending
    constructor
    · intro all
      refine ⟨fun pair listed => ?_, ?_⟩
      · obtain ⟨other, found, same⟩ :=
          List.mem_map.mp ((keys _).mpr (.inr (List.mem_map_of_mem listed)))
        exact same ▸ all other found
      · obtain ⟨other, found, same⟩ := List.mem_map.mp ((keys _).mpr (.inl rfl))
        exact same ▸ all other found
    · rintro ⟨all, new⟩ pair listed
      rcases (keys _).mp (List.mem_map_of_mem listed) with same | earlier
      · exact same ▸ new
      · obtain ⟨other, found, same⟩ := List.mem_map.mp earlier
        exact same ▸ all other found
  exact Nat.le_antisymm ((bounds _).mpr (Nat.le_refl _)) ((bounds _).mp (Nat.le_refl _))

end Xref

namespace Writer

inductive Call where
  | object (target : Ref) (body : Body)
  | other (marks : List Mark)

def Call.step (writer : Writer) : Call → Step
  | .object target body => writer.object target body
  | .other marks => writer.write marks

/-- What went out so far, where objects begin that went out in full, and the writer. -/
structure Session where
  out : Bytes
  objects : List (Ref × Nat)
  writer : Writer

namespace Session

def start (sink : Sink) : Session :=
  ⟨[], [], .start sink⟩

/-- A call that fails counts for what it wrote, but not for an object. -/
def call (session : Session) (call : Call) : Session :=
  let step := call.step session.writer
  let objects := match call with
    | .object target _ =>
        if step.failure = none then [(target, session.out.length)] else []
    | .other _ => []
  ⟨session.out ++ step.out, session.objects ++ objects, step.writer⟩

def after (sink : Sink) (calls : List Call) : Session :=
  calls.foldl call (start sink)

def row (object : Ref × Nat) : Nat × XrefRow :=
  (object.1.number, ⟨object.2, object.1.generation, false⟩)

def slots (session : Session) : XrefSlots :=
  session.objects.foldl (fun slots object => slots.fill object.1.number (row object).2) .start

end Session

/-- A step counts what it writes, and leaves the table alone. -/
structure Counts (before : Writer) (step : Step) : Prop where
  offset : step.writer.offset = before.offset + step.out.length
  xref : step.writer.xref = before.xref

theorem Counts.andThen {before : Writer} {step : Step} {next : Writer → Step}
    (first : Counts before step) (second : Counts step.writer (next step.writer)) :
    Counts before (step.andThen next) := by
  cases outcome : step.failure with
  | some error =>
      rw [Step.andThen_of_failure_eq_some outcome]
      exact first
  | none =>
      rw [Step.andThen_of_failure_eq_none outcome]
      refine ⟨?_, second.xref.trans first.xref⟩
      rw [second.offset, first.offset, List.length_append, Nat.add_assoc]

theorem counts_done (writer : Writer) : Counts writer (.done writer) := ⟨rfl, rfl⟩

theorem counts_put (writer : Writer) (bytes : Bytes) : Counts writer (writer.put bytes) :=
  ⟨rfl, rfl⟩

theorem counts_write (writer : Writer) (marks : List Mark) :
    Counts writer (writer.write marks) := by
  induction marks generalizing writer with
  | nil => exact counts_done writer
  | cons mark rest ih =>
      refine (counts_put writer _).andThen ?_
      obtain ⟨offset, xref⟩ := ih { (writer.put (mark.shown writer.layout)).writer with
        layout := mark.next (writer.put (mark.shown writer.layout)).writer.layout }
      exact ⟨offset, xref⟩

theorem object_spec (writer : Writer) (target : Ref) (body : Body) :
    (writer.object target body).writer.offset =
        writer.offset + (writer.object target body).out.length ∧
      (writer.object target body).writer.xref =
        if (writer.object target body).failure = none then
          writer.xref.record target writer.offset
        else writer.xref := by
  have counts := counts_write writer (objectMarks target body)
  rw [object]
  cases outcome : (writer.write (objectMarks target body)).failure with
  | some error =>
      rw [Step.andThen_of_failure_eq_some outcome, outcome]
      exact ⟨counts.offset, counts.xref⟩
  | none =>
      rw [Step.andThen_of_failure_eq_none outcome]
      refine ⟨?_, ?_⟩
      · simp only [Step.done, List.append_nil]
        exact counts.offset
      · simp only [Step.done, counts.xref, if_true]

namespace Session

structure Recorded (session : Session) : Prop where
  offset : session.writer.offset = session.out.length
  rows : session.writer.xref.rows = Sorted.insertAll Xref.start.rows (session.objects.map row)
  slots : session.writer.xref.rows = session.slots.rows 0
  size : session.writer.xref.size =
    (session.objects.map fun object => object.1.number).foldl max 0 + 1
  length : session.slots.length = session.writer.xref.size

theorem recorded_start (sink : Sink) : (start sink).Recorded :=
  ⟨rfl, rfl, rfl, rfl, rfl⟩

theorem Recorded.ascending {session : Session} (recorded : session.Recorded) :
    Sorted.Ascending session.writer.xref.rows := by
  rw [recorded.slots]
  exact XrefSlots.ascending_rows 0 session.slots

variable {session later : Session}

theorem Recorded.kept (recorded : session.Recorded) (objects : later.objects = session.objects)
    (xref : later.writer.xref = session.writer.xref)
    (offset : later.writer.offset = later.out.length) : later.Recorded := by
  have same : later.slots = session.slots := by rw [Session.slots, Session.slots, objects]
  refine ⟨offset, ?_, ?_, ?_, ?_⟩
  · rw [xref, objects, recorded.rows]
  · rw [xref, same, recorded.slots]
  · rw [xref, objects, recorded.size]
  · rw [xref, same, recorded.length]

theorem Recorded.added (recorded : session.Recorded) {target : Ref}
    (objects : later.objects = session.objects ++ [(target, session.out.length)])
    (xref : later.writer.xref = session.writer.xref.record target session.writer.offset)
    (offset : later.writer.offset = later.out.length) : later.Recorded := by
  have filled : later.slots =
      session.slots.fill target.number ⟨session.out.length, target.generation, false⟩ := by
    rw [Session.slots, objects, List.foldl_append]
    rfl
  have size : later.writer.xref.size = max session.writer.xref.size (target.number + 1) := by
    rw [xref, Xref.size_record recorded.ascending]
  refine ⟨offset, ?_, ?_, ?_, ?_⟩
  · rw [xref, objects, Xref.record, recorded.rows, recorded.offset, List.map_append,
      Sorted.insertAll, Sorted.insertAll, List.foldl_append]
    rfl
  · rw [xref, filled, XrefSlots.rows_fill, Xref.record, recorded.slots, recorded.offset,
      Nat.zero_add]
  · rw [size, objects, recorded.size, List.map_append, List.foldl_append]
    exact Nat.succ_max_succ _ _
  · rw [filled, XrefSlots.length_fill, recorded.length, size]

theorem Recorded.call (recorded : session.Recorded) (call : Call) :
    (session.call call).Recorded := by
  cases call with
  | other marks =>
      obtain ⟨offset, xref⟩ := counts_write session.writer marks
      refine recorded.kept (List.append_nil _) xref ?_
      rw [Session.call, List.length_append, ← recorded.offset]
      exact offset
  | object target body =>
      obtain ⟨offset, xref⟩ := object_spec session.writer target body
      have counted : (session.call (.object target body)).writer.offset =
          (session.call (.object target body)).out.length := by
        rw [Session.call, List.length_append, ← recorded.offset]
        exact offset
      by_cases complete : (session.writer.object target body).failure = none
      · rw [if_pos complete] at xref
        exact recorded.added (congrArg (session.objects ++ ·) (if_pos complete)) xref counted
      · rw [if_neg complete] at xref
        refine recorded.kept ?_ xref counted
        exact (congrArg (session.objects ++ ·) (if_neg complete)).trans (List.append_nil _)

theorem recorded_after (sink : Sink) (calls : List Call) : (after sink calls).Recorded := by
  have kept (calls : List Call) {session : Session} (recorded : session.Recorded) :
      (calls.foldl Session.call session).Recorded := by
    induction calls generalizing session with
    | nil => exact recorded
    | cons call rest ih => exact ih (recorded.call call)
  exact kept calls (recorded_start sink)

/-- The last object with a number stands for it; without one, zero heads the list of free ones. -/
def Says (session : Session) (number : Nat) (row : XrefRow) : Prop :=
  (∃ before target offset after,
    session.objects = before ++ (target, offset) :: after ∧ target.number = number ∧
      (∀ object ∈ after, object.1.number ≠ number) ∧ row = ⟨offset, target.generation, false⟩) ∨
  number = 0 ∧ (∀ object ∈ session.objects, object.1.number ≠ 0) ∧ row = ⟨0, 65535, true⟩

theorem Recorded.mem_rows_iff (recorded : session.Recorded) {number : Nat} {row : XrefRow} :
    (number, row) ∈ session.writer.xref.rows ↔ session.Says number row := by
  have start : Sorted.Ascending Xref.start.rows := List.pairwise_singleton _ _
  rw [recorded.rows, Sorted.mem_insertAll_iff start]
  have absent (objects : List (Ref × Nat)) : number ∉ (objects.map Session.row).map Prod.fst ↔
      ∀ object ∈ objects, object.1.number ≠ number := by
    simp [Session.row]
  refine or_congr ?_ ?_
  · constructor
    · rintro ⟨before, after, split, last⟩
      obtain ⟨earlier, rest, same, rfl, further⟩ := List.map_eq_append_iff.mp split
      obtain ⟨⟨target, offset⟩, later, rfl, found, rfl⟩ := List.map_eq_cons_iff.mp further
      obtain ⟨rfl, rfl⟩ := Prod.mk.inj found
      exact ⟨earlier, target, offset, later, same, rfl, (absent later).mp last, rfl⟩
    · rintro ⟨before, target, offset, after, split, rfl, last, rfl⟩
      refine ⟨before.map Session.row, after.map Session.row, ?_, (absent after).mpr last⟩
      rw [split, List.map_append]
      rfl
  · rw [absent, Xref.start, List.mem_singleton, Prod.mk.injEq]
    constructor
    · rintro ⟨⟨rfl, rfl⟩, never⟩
      exact ⟨rfl, never, rfl⟩
    · rintro ⟨rfl, never, rfl⟩
      exact ⟨⟨rfl, rfl⟩, never⟩

/-- A section with its subsections, as it stands behind what went out before. -/
structure Tabled (session : Session) (listed : List (Nat × List XrefRow)) : Prop where
  offset : session.writer.offset = session.out.length
  read : ∀ rest : Bytes, ¬rest.head?.any isDigit →
    Xref.read? ((session.out ++ (session.writer.table.out ++ rest)).drop session.writer.offset) =
      some (listed, rest)
  entries : ∀ number row, (number, row) ∈ Xref.entries listed ↔ session.Says number row
  spelled : session.writer.table.out = utf8 "xref\n" ++ listed.flatMap fun (first, rows) =>
    decimal first ++ [32] ++ decimal rows.length ++ [10] ++ rows.flatMap XrefRow.line
  twenty : ∀ run ∈ listed, ∀ row ∈ run.2, row.line.length = 20
  nonempty : ∀ run ∈ listed, run.2 ≠ []
  apart : listed.Pairwise fun run other => run.1 + run.2.length < other.1
  searched : session.slots.walk 0 = listed.map fun run => (run.1, run.2.length, run.2)
  size : session.writer.xref.size =
    1 + (session.objects.map fun object => object.1.number).foldl max 0
  length : session.slots.length = session.writer.xref.size

/--
The cross-reference section is read back as the last place of each object, whichever calls were
made before it.
-/
theorem tabled_after (sink : Sink) (calls : List Call)
    (small : ∀ object ∈ (after sink calls).objects, object.2 < 10000000000)
    (complete : (after sink calls).writer.table.failure = none) :
    ∃ listed, (after sink calls).Tabled listed := by
  have recorded := recorded_after sink calls
  generalize after sink calls = session at small complete recorded ⊢
  have out : session.writer.table.out = session.writer.xref.text := (wrote_table complete).out
  have offsets : ∀ row ∈ session.writer.xref.rows, row.2.offset < 10000000000 := by
    rintro ⟨number, row⟩ listed
    rcases recorded.mem_rows_iff.mp listed with
      ⟨before, target, offset, later, split, -, -, rfl⟩ | ⟨-, -, rfl⟩
    · exact small (target, offset) (split ▸ List.mem_append_right _ List.mem_cons_self)
    · exact Nat.zero_lt_succ _
  refine ⟨Xref.runs session.writer.xref.rows, recorded.offset, fun rest ends => ?_,
    fun number row => ?_, ?_, fun run listed row inside => XrefRow.length_line ?_,
    fun _ => Xref.ne_nil_of_mem_runs, Xref.pairwise_runs recorded.ascending, ?_,
    recorded.size.trans (Nat.add_comm _ _), recorded.length⟩
  · rw [recorded.offset, List.drop_left, out]
    exact Xref.read?_text offsets ends
  · rw [Xref.entries_runs, recorded.mem_rows_iff]
  · have shown : Xref.runText = fun (first, rows) =>
        decimal first ++ [32] ++ decimal rows.length ++ [10] ++ rows.flatMap XrefRow.line := by
      funext run
      simp [Xref.runText]
    rw [out, Xref.text, shown]
  · obtain ⟨number, found⟩ := Xref.exists_mem_of_mem_runs listed inside
    exact offsets _ found
  · rw [XrefSlots.walk_eq, recorded.slots]

/-- Numbers out of order, one of them twice, with a gap, and the number zero. -/
def disordered : List Call :=
  [.object ⟨7, 0⟩ (.value .null), .object ⟨0, 3⟩ (.value .null), .other [.text [37, 10]],
    .object ⟨7, 2⟩ (.stream (.dict []) (utf8 "xref")), .object ⟨1, 0⟩ (.value .null)]

theorem tabled_after_disordered :
    (∀ object ∈ (after .unbounded disordered).objects, object.2 < 10000000000) ∧
      (after .unbounded disordered).writer.table.failure = none ∧
      ∃ listed, (after .unbounded disordered).Tabled listed := by
  have small : ∀ object ∈ (after .unbounded disordered).objects, object.2 < 10000000000 := by
    decide +kernel
  have complete : (after .unbounded disordered).writer.table.failure = none := by decide +kernel
  exact ⟨small, complete, tabled_after .unbounded disordered small complete⟩

end Session

end Writer

end Folio
