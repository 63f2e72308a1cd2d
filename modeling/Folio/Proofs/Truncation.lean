import Folio.Proofs.FinishedFont
import Folio.Proofs.Lowered
import Folio.Proofs.Unrefused

/-!
Destinations that run full. What goes out is the beginning of what would have gone out, however
the destination splits it, and nothing is written after a failure.
-/

namespace Folio

/-- Two writers that are alike but for their destinations, of which one has a bound. -/
structure Writer.Like (room : Nat) (cut whole : Writer) : Prop where
  layout : cut.layout = whole.layout
  offset : cut.offset = whole.offset
  xref : cut.xref = whole.xref
  room : cut.sink.room = some room
  takes : whole.sink.TakesAll

/--
What becomes of a step if its destination has room for so many bytes, and what becomes of it
otherwise. Places that were noted before are kept, and those noted are the first of all.
-/
structure Step.Cuts (offset : Nat) (xref : Xref) (room : Nat) (cut whole : Step) : Prop where
  out : cut.out = whole.out.take room
  failure : cut.failure = if room < whole.out.length then some .io else whole.failure
  offset : cut.writer.offset = offset + cut.out.length
  kept : xref.rows <+: cut.writer.xref.rows
  rows : cut.writer.xref.rows <+: whole.writer.xref.rows
  takes : whole.writer.sink.TakesAll
  like : whole.out.length ≤ room → Writer.Like (room - whole.out.length) cut.writer whole.writer

namespace Step.Cuts

variable {offset room : Nat} {xref : Xref} {cut whole : Step}

theorem failure_of_short (cuts : Cuts offset xref room cut whole)
    (short : room < whole.out.length) : cut.failure = some .io := by
  rw [cuts.failure, if_pos short]

theorem failure_of_enough (cuts : Cuts offset xref room cut whole)
    (enough : whole.out.length ≤ room) : cut.failure = whole.failure := by
  rw [cuts.failure, if_neg (Nat.not_lt.mpr enough)]

/-- A step that ran full is also what becomes of the steps after it. -/
theorem append_short (cuts : Cuts offset xref room cut whole) (short : room < whole.out.length)
    {later : Step} (rows : whole.writer.xref.rows <+: later.writer.xref.rows)
    (takes : later.writer.sink.TakesAll) :
    Cuts offset xref room cut ⟨whole.out ++ later.out, later.writer, later.failure⟩ where
  out := by rw [cuts.out, List.take_append_of_le_length (Nat.le_of_lt short)]
  failure := by
    rw [cuts.failure_of_short short, List.length_append, if_pos (Nat.lt_add_right _ short)]
  offset := cuts.offset
  kept := cuts.kept
  rows := cuts.rows.trans rows
  takes := takes
  like := fun enough => by
    rw [List.length_append] at enough
    omega

theorem append (cuts : Cuts offset xref room cut whole) (enough : whole.out.length ≤ room)
    {cutLater later : Step}
    (further : Cuts cut.writer.offset cut.writer.xref (room - whole.out.length) cutLater later) :
    Cuts offset xref room ⟨cut.out ++ cutLater.out, cutLater.writer, cutLater.failure⟩
      ⟨whole.out ++ later.out, later.writer, later.failure⟩ where
  out := by
    simp only [cuts.out, further.out, List.take_append, List.take_of_length_le enough]
  failure := by
    simp only [further.failure, List.length_append, Nat.sub_lt_iff_lt_add' enough]
  offset := by
    simp only [further.offset, cuts.offset, List.length_append]
    omega
  kept := cuts.kept.trans further.kept
  rows := further.rows
  takes := further.takes
  like := fun enough => by
    rw [List.length_append] at enough ⊢
    rw [← Nat.sub_sub]
    exact further.like (by omega)

theorem andThen {next : Writer → Step} (cuts : Cuts offset xref room cut whole)
    (further : whole.failure = none → ∀ {left : Nat} {writer : Writer},
      Writer.Like left writer whole.writer →
        Cuts writer.offset writer.xref left (next writer) (next whole.writer)) :
    Cuts offset xref room (cut.andThen next) (whole.andThen next) := by
  cases done : whole.failure with
  | some error =>
      have stopped : ∃ cause, cut.failure = some cause := by
        rcases Nat.lt_or_ge room whole.out.length with short | enough
        · exact ⟨_, cuts.failure_of_short short⟩
        · exact ⟨error, (cuts.failure_of_enough enough).trans done⟩
      obtain ⟨cause, stopped⟩ := stopped
      rw [andThen_of_failure_eq_some stopped, andThen_of_failure_eq_some done]
      exact cuts
  | none =>
      rw [Step.andThen_of_failure_eq_none done]
      rcases Nat.lt_or_ge room whole.out.length with short | enough
      · -- What the next step notes does not depend on the destination: this one has no room.
        have full : Writer.Like 0 { whole.writer with sink := .limited 0 } whole.writer :=
          ⟨rfl, rfl, rfl, rfl, cuts.takes⟩
        have later := further done full
        rw [andThen_of_failure_eq_some (cuts.failure_of_short short)]
        exact cuts.append_short short (later.kept.trans later.rows) later.takes
      · rw [Step.andThen_of_failure_eq_none ((cuts.failure_of_enough enough).trans done)]
        exact cuts.append enough (further done (cuts.like enough))

end Step.Cuts

namespace Writer.Like

open Step

variable {room : Nat} {cut whole : Writer}

theorem still (like : Like room cut whole) (failure : Option Error) :
    Cuts cut.offset cut.xref room ⟨[], cut, failure⟩ ⟨[], whole, failure⟩ where
  out := List.take_nil.symm
  failure := (if_neg (Nat.not_lt_zero _)).symm
  offset := rfl
  kept := List.prefix_refl _
  rows := like.xref ▸ List.prefix_refl cut.xref.rows
  takes := like.takes
  like := fun _ => like

theorem put (like : Like room cut whole) (bytes : Bytes) :
    Cuts cut.offset cut.xref room (cut.put bytes) (whole.put bytes) := by
  obtain ⟨taken, left⟩ := cut.sink.writeAll_eq bytes
  obtain ⟨all, takes⟩ := like.takes.writeAll bytes
  rw [like.room] at taken left
  simp only [Option.elim_some, Option.map_some] at taken left
  rw [put_eq, put_eq, taken, all]
  exact {
    out := rfl
    failure := by
      simp only [List.length_take, if_true]
      by_cases short : room < bytes.length
      · rw [if_pos short, if_neg (by omega)]
      · rw [if_neg short, if_pos (by omega)]
    offset := rfl
    kept := List.prefix_refl _
    rows := like.xref ▸ List.prefix_refl cut.xref.rows
    takes := takes
    like := fun enough => by
      refine ⟨like.layout, ?_, like.xref, left, takes⟩
      simp only [List.take_of_length_le enough, like.offset] }

theorem withLayout (like : Like room cut whole) (change : Layout → Layout) :
    Like room { cut with layout := change cut.layout }
      { whole with layout := change whole.layout } :=
  ⟨congrArg change like.layout, like.offset, like.xref, like.room, like.takes⟩

theorem write (like : Like room cut whole) (marks : List Mark) :
    Cuts cut.offset cut.xref room (cut.write marks) (whole.write marks) := by
  induction marks generalizing room cut whole with
  | nil => exact like.still none
  | cons mark rest ih =>
      rw [Writer.write, Writer.write, like.layout]
      exact (like.put _).andThen fun _ _ _ further => ih (further.withLayout mark.next)

theorem object (like : Like room cut whole) (consecutive : Xref.Consecutive 0 whole.xref.rows)
    {target : Ref} (next : target.number = whole.xref.rows.length) (body : Body) :
    Cuts cut.offset cut.xref room (cut.object target body) (whole.object target body) := by
  have recorded : ∀ offset, (whole.xref.record target offset).rows =
      whole.xref.rows ++ [(target.number, ⟨offset, target.generation, false⟩)] := by
    intro offset
    rw [Xref.record_of_consecutive offset consecutive next]
  have written := like.write (objectMarks target body)
  rw [like.offset] at written
  rw [Writer.object, Writer.object, like.offset]
  refine written.andThen fun complete left writer further => ?_
  have xref := further.xref.trans (wrote_write complete).xref
  have grown : writer.xref.rows <+: (writer.xref.record target whole.offset).rows := by
    rw [xref, recorded]
    exact List.prefix_append _ _
  have noted : Like left { writer with xref := writer.xref.record target whole.offset }
      { (whole.write (objectMarks target body)).writer with
        xref := Xref.record (whole.write (objectMarks target body)).writer.xref target
          whole.offset } :=
    ⟨further.layout, further.offset, congrArg (Xref.record · target whole.offset) further.xref,
      further.room, further.takes⟩
  have still := noted.still none
  exact ⟨still.out, still.failure, still.offset, grown.trans still.kept, still.rows, still.takes,
    still.like⟩

end Writer.Like

namespace Document

open Step Writer

variable {room : Nat} {cut whole : Writer}

theorem cuts_writeObjects {lower : Record → Except Error Body} {records : List Record}
    {index : Nat} (like : Like room cut whole)
    (consecutive : Xref.Consecutive 0 whole.xref.rows)
    (count : whole.xref.rows.length = index + 1) :
    Cuts cut.offset cut.xref room (writeObjects lower (numbered index records) cut)
      (writeObjects lower (numbered index records) whole) := by
  induction records generalizing room cut whole index with
  | nil => exact like.still none
  | cons record rest ih =>
      rw [numbered_cons, writeObjects, writeObjects]
      cases lower record with
      | error error => exact like.still (some error)
      | ok body =>
          refine (like.object consecutive count.symm body).andThen fun complete _ _ further => ?_
          have xref := (wrote_object complete).xref
          rw [Xref.record_of_consecutive whole.offset consecutive count.symm] at xref
          refine ih further ?_ ?_
          · rw [xref]
            exact consecutive.append (by simp [Xref.Consecutive, Ref.first, count])
          · rw [xref, List.length_append, count]
            rfl

theorem cuts_writeEnd (like : Like room cut whole) (roots : Roots) (means : Means) :
    Cuts cut.offset cut.xref room (writeEnd roots means cut) (writeEnd roots means whole) := by
  have table := like.put whole.xref.text
  rw [like.offset, like.xref] at table
  rw [writeEnd, writeEnd, Writer.table, Writer.table, like.offset, like.xref]
  refine table.andThen fun _ _ after listed => ?_
  simp only [listed.xref]
  have keyword := listed.put (utf8 "trailer\n")
  rw [listed.xref] at keyword
  exact keyword.andThen fun _ _ _ further => (further.write _).andThen fun _ _ _ last => last.put _

theorem cuts_write {doc : Document} {roots : Roots} {means : Means} (like : Like room cut whole)
    (start : whole.xref = .start) :
    Cuts cut.offset cut.xref room (doc.write roots means cut) (doc.write roots means whole) := by
  refine (like.put header).andThen fun complete _ _ opened => ?_
  have xref := (wrote_put complete).xref.trans start
  have numbers : doc.store.toList = numbered 0 doc.store.records.toList := rfl
  rw [numbers]
  refine (cuts_writeObjects opened ?_ ?_).andThen fun _ _ _ further =>
    cuts_writeEnd further roots means
  · rw [xref]
    rfl
  · rw [xref]
    rfl

theorem cuts_finalize {doc : Document} {means : Means} {sink unbounded : Sink}
    (bounded : sink.room = some room) (takes : unbounded.TakesAll) :
    Cuts 0 .start room (doc.finalize means sink) (doc.finalize means unbounded) := by
  have like : Like room (.start sink) (.start unbounded) := ⟨rfl, rfl, rfl, bounded, takes⟩
  rw [finalize, finalize]
  cases close.run doc with
  | error error after => exact like.still (some error)
  | ok roots closed => exact cuts_write like rfl

def Unprogrammed (doc : Document) (key : SubsetKey) (error : Error) : Prop :=
  ∃ subset cause, doc.openSubset? key = .ok subset ∧
    subset.font.face.subset (subset.glyphs.map AssignedGlyph.glyph) = .error cause ∧
      error = .load ("subset " ++ toString key.subset ++ " of " ++ subset.font.face.name) cause

variable {doc : Document}

theorem FontsAgree.lowers (agree : doc.FontsAgree) (deflate : Bytes → Bytes) {number : Nat}
    {part : SubsetPart} {key : SubsetKey}
    (found : doc.store.get? (.first number) = some (.subset part key)) {error : Error}
    (failed : doc.subsetBody deflate part key = .error error) :
    part = .program ∧ doc.Unprogrammed key error := by
  obtain ⟨item, objects, foundItem, held, -⟩ := agree.only found
  obtain ⟨inside, -⟩ := List.getElem?_eq_some_iff.mp held
  rw [agree.count foundItem] at inside
  have opened := openSubset?_eq foundItem (if_pos inside) held
  cases part with
  | program =>
      cases made : item.face.subset _ with
      | ok program =>
          rw [subsetBody_program opened made] at failed
          contradiction
      | error cause =>
          simp only [subsetBody, opened, subsetProgram, made, bind, Except.bind] at failed
          exact ⟨rfl, _, cause, opened, made, (Except.error.inj failed).symm⟩
  | descriptor =>
      rw [subsetBody_descriptor opened] at failed
      contradiction
  | toUnicode =>
      rw [subsetBody_toUnicode opened] at failed
      contradiction
  | cidFont =>
      rw [subsetBody_cidFont opened] at failed
      contradiction
  | font =>
      cases shared : doc.encoding with
      | none =>
          rw [agree.unopened shared foundItem] at held
          contradiction
      | some encoding =>
          rw [subsetBody_font opened shared] at failed
          contradiction

theorem Closed.exists_structure {closed : Document} {roots : Roots}
    (closes : doc.Closed closed roots) {id : Id .structureItem} {item : StructureItem}
    (found : doc.structureItems.get? id = some item) : ∃ root, roots.structure? = some root := by
  have isSome := closes.structureIn.isSome
  rw [Registry.isEmpty_of_get? found] at isSome
  exact Option.isSome_iff_exists.mp isSome

/-- The one thing that can be wrong with a record is that a face gives no font program. -/
theorem Sound.eq_program_of_error (sound : doc.Sound) (agree : doc.FontsAgree)
    {closed : Document} {roots : Roots} (closes : doc.Closed closed roots)
    (deflate : Bytes → Bytes) {number : Nat} {record : Record}
    (found : closed.store.get? (.first number) = some record) {error : Error}
    (failed : closed.body roots deflate record = .error error) :
    ∃ key, record = .subset .program key ∧ closed.Unprogrammed key error := by
  rw [closes.same] at failed ⊢
  have failed : doc.body roots deflate record = .error error := failed
  rcases closes.adds.added found with before | ⟨value, rfl⟩
  · cases record with
    | reserved => contradiction
    | object value => contradiction
    | stored entries filter data => contradiction
    | deflated entries data => contradiction
    | subset part key =>
        obtain ⟨rfl, unprogrammed⟩ := agree.lowers deflate before failed
        exact ⟨key, rfl, unprogrammed⟩
    | page id =>
        obtain ⟨item, known, -⟩ := sound.pages.only before
        rw [sound.body_page deflate known] at failed
        contradiction
    | checkbox id =>
        obtain ⟨item, known, -⟩ := sound.widgets.only before
        obtain ⟨entry, -, -, lowered, -⟩ := sound.body_checkbox deflate known
        exact nomatch failed.symm.trans lowered
    | annot id =>
        obtain ⟨item, known, -⟩ := sound.annotations.only before
        exact (sound.body_annot deflate known).elim fun entry lowered =>
          nomatch failed.symm.trans lowered.1
    | structureItem id =>
        obtain ⟨item, known, -⟩ := sound.structureItems.only before
        obtain ⟨root, tagged⟩ := closes.exists_structure known
        exact (sound.body_structureItem deflate tagged known).elim fun entry lowered =>
          nomatch failed.symm.trans lowered.1
  · contradiction

/-- Objects are written up to the first record that cannot be lowered, and nothing after it. -/
theorem writeObjects_stops {lower : Record → Except Error Body} {records : List Record}
    {index : Nat} {writer : Writer} (takes : writer.sink.TakesAll)
    (margin : writer.layout.indent = 0) {error : Error}
    (failed : (writeObjects lower (numbered index records) writer).failure = some error) :
    ∃ (bodies : List Body) (record : Record),
      records[bodies.length]? = some record ∧ lower record = .error error ∧
        (records.take bodies.length).map lower = bodies.map .ok ∧
          (writeObjects lower (numbered index records) writer).out =
            (objectTexts (index + 1) (bodies.map Body.bytes)).flatten := by
  induction records generalizing index writer with
  | nil => contradiction
  | cons record rest ih =>
      rw [numbered_cons, writeObjects] at failed ⊢
      cases lowered : lower record with
      | error cause =>
          rw [lowered] at failed
          cases failed
          exact ⟨[], record, rfl, lowered, rfl, rfl⟩
      | ok body =>
          simp only [lowered] at failed ⊢
          have goes := goes_object takes (.first (index + 1)) body
          have wrote := wrote_object goes.failure
          rw [Step.andThen_of_failure_eq_none goes.failure] at failed ⊢
          have further : (writer.object (.first (index + 1)) body).writer.layout.indent = 0 := by
            rw [wrote.layout, indent_after_objectMarks, margin]
          obtain ⟨bodies, stopped, place, cannot, before, out⟩ := ih goes.sink further failed
          refine ⟨body :: bodies, stopped, place, cannot, ?_, ?_⟩
          · rw [List.length_cons, List.take_succ_cons, List.map_cons, List.map_cons, lowered,
              before]
          · simp only [out, wrote.out, render_objectMarks margin, List.map_cons, objectTexts,
              List.flatten_cons]

/--
A file that could not be finished: all objects before the font program of a subset are in it, and
the face gives no program for the subset.
-/
def EndsAtProgram (doc : Document) (means : Means) (file : Step) : Prop :=
  ∃ (roots : Roots) (closed : Document) (bodies : List Body) (key : SubsetKey) (error : Error),
    close.run doc = .ok roots closed ∧
      closed.store.get? (.first (bodies.length + 1)) = some (.subset .program key) ∧
      closed.Unprogrammed key error ∧
      (closed.store.records.toList.take bodies.length).map (closed.body roots means.deflate) =
        bodies.map .ok ∧
      file.failure = some error ∧
      file.out = header ++ (objectTexts 1 (bodies.map Body.bytes)).flatten

theorem Sound.endsAtProgram (sound : doc.Sound) (agree : doc.FontsAgree) {means : Means}
    {sink : Sink} (takes : sink.TakesAll) {error : Error}
    (failed : (doc.finalize means sink).failure = some error) :
    doc.EndsAtProgram means (doc.finalize means sink) := by
  obtain ⟨roots, closed, closing, closes⟩ := sound.exists_closed
  have opened : ((Writer.start sink).put header).Goes := goes_put takes header
  have margin : ((Writer.start sink).put header).writer.layout.indent = 0 := by
    rw [(wrote_put opened.failure).layout]
    rfl
  have numbers : closed.store.toList = numbered 0 closed.store.records.toList := rfl
  rw [finalize_eq_write closing, write, Step.andThen_of_failure_eq_none opened.failure,
    numbers] at failed ⊢
  cases objects : (writeObjects (closed.body roots means.deflate)
      (numbered 0 closed.store.records.toList) ((Writer.start sink).put header).writer).failure with
  | none =>
      have takesAfter := takes_writeObjects (closed.body roots means.deflate)
        (numbered 0 closed.store.records.toList) opened.sink
      have ended := (goes_writeEnd takesAfter roots means).failure
      rw [Step.andThen_of_failure_eq_none objects] at failed
      have none := failed.symm.trans ended
      contradiction
  | some cause =>
      rw [Step.andThen_of_failure_eq_some objects]
      obtain ⟨bodies, record, place, cannot, before, out⟩ :=
        writeObjects_stops opened.sink margin objects
      have found : closed.store.get? (.first (bodies.length + 1)) = some record := by
        rw [Store.get?_first, place]
      obtain ⟨key, rfl, unprogrammed⟩ :=
        sound.eq_program_of_error agree closes means.deflate found cannot
      refine ⟨roots, closed, bodies, key, cause, closing, found, unprogrammed, before, objects, ?_⟩
      simp only [out, (wrote_put opened.failure).out]

/--
What a destination that takes so many bytes has received of a file that goes out in full otherwise.
Places that were noted for the table are those of the file.
-/
structure Truncates (limit : Nat) (cut whole : Step) : Prop where
  out : cut.out = whole.out.take limit
  failure : cut.failure = if limit < whole.out.length then some .io else whole.failure
  offset : cut.writer.offset = cut.out.length
  rows : cut.writer.xref.rows <+: whole.writer.xref.rows

theorem truncates_finalize (doc : Document) (means : Means) {limit : Nat} {sink unbounded : Sink}
    (bounded : sink.room = some limit) (takes : unbounded.TakesAll) :
    Truncates limit (doc.finalize means sink) (doc.finalize means unbounded) := by
  have cuts : Cuts 0 .start limit (doc.finalize means sink) (doc.finalize means unbounded) :=
    cuts_finalize bounded takes
  exact ⟨cuts.out, cuts.failure, cuts.offset.trans (Nat.zero_add _), cuts.rows⟩

/--
Whatever was asked of a document, a destination with a bound receives the beginning of its file,
and the file itself stops short only of a font program that a face does not give.
-/
theorem truncates_run (options : DocumentOptions) (converter : Color → DeviceSpace → Color)
    (operations : List Operation) (means : Means) {unbounded : Sink}
    (reached : ((withConverter options converter).run operations).2 = doc)
    (takes : unbounded.TakesAll) :
    (∀ {limit : Nat} {sink : Sink}, sink.room = some limit →
      Truncates limit (doc.finalize means sink) (doc.finalize means unbounded)) ∧
      ((doc.finalize means unbounded).failure = none ∨
        doc.EndsAtProgram means (doc.finalize means unbounded)) := by
  refine ⟨fun bounded => doc.truncates_finalize means bounded takes, ?_⟩
  have sound := sound_run options converter operations
  have agree := (fontsAgree_withConverter options converter).run operations
  rw [reached] at sound agree
  cases failed : (doc.finalize means unbounded).failure with
  | none => exact .inl rfl
  | some error => exact .inr (sound.endsAtProgram agree takes failed)

def brokenFace : Face where
  name := "Broken"
  glyph? char := some (UInt16.ofNat char.toNat)
  advance? _ := some 500
  metrics := ⟨1000, 800, -200, none, ⟨0, -200, 500, 800⟩, 0, FontFlags.fixedPitch⟩
  subset _ := .error (.subset "broken")

def brokenOptions : DocumentOptions :=
  { DocumentOptions.standard with subsetCapacity := 2 }

def brokenDocument : Document :=
  ((withConverter brokenOptions Color.convertDevice).run
    [.addFont brokenFace, .charSlot ⟨0⟩ (Char.ofNat 65)]).2

theorem truncates_run_broken :
    (brokenDocument.finalize ⟨id, List.replicate 16 0⟩ ⟨some 20, fun _ => some 3, 0⟩).failure =
        some .io ∧
      (brokenDocument.finalize ⟨id, List.replicate 16 0⟩ ⟨some 20, fun _ => some 3, 0⟩).out =
        (brokenDocument.finalize ⟨id, List.replicate 16 0⟩ .unbounded).out.take 20 ∧
      brokenDocument.EndsAtProgram ⟨id, List.replicate 16 0⟩
        (brokenDocument.finalize ⟨id, List.replicate 16 0⟩ .unbounded) := by
  obtain ⟨truncates, ends⟩ := truncates_run brokenOptions Color.convertDevice
    [.addFont brokenFace, .charSlot ⟨0⟩ (Char.ofNat 65)] ⟨id, List.replicate 16 0⟩ rfl
    Sink.takesAll_unbounded
  obtain ⟨stopped, long⟩ :
      (brokenDocument.finalize ⟨id, List.replicate 16 0⟩ .unbounded).failure ≠ none ∧
        20 < (brokenDocument.finalize ⟨id, List.replicate 16 0⟩ .unbounded).out.length := by
    decide +kernel
  have cut : Truncates 20
      (brokenDocument.finalize ⟨id, List.replicate 16 0⟩ ⟨some 20, fun _ => some 3, 0⟩)
      (brokenDocument.finalize ⟨id, List.replicate 16 0⟩ .unbounded) := truncates rfl
  exact ⟨cut.failure.trans (if_pos long), cut.out, ends.resolve_left stopped⟩

end Document

end Folio
