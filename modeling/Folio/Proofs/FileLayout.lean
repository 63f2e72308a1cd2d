import Folio.Document.Operation
import Folio.Document.Output
import Folio.Proofs.Closing
import Folio.Proofs.CrossReference
import Folio.Proofs.Margin
import Folio.Proofs.Writing

/-!
The layout of a finished file: header, the objects in the order of their numbers, one line of the
cross-reference table for each of them with the place where it begins, and the trailer.
-/

namespace Folio

def objectText (number : Nat) (body : Bytes) : Bytes :=
  decimal number ++ utf8 " 0 obj\n" ++ body ++ utf8 "\nendobj\n"

def objectTexts : (first : Nat) → List Bytes → List Bytes
  | _, [] => []
  | first, body :: rest => objectText first body :: objectTexts (first + 1) rest

@[simp] theorem length_objectTexts (first : Nat) (bodies : List Bytes) :
    (objectTexts first bodies).length = bodies.length := by
  induction bodies generalizing first with
  | nil => rfl
  | cons body rest ih => simp [objectTexts, ih]

theorem render_objectMarks {layout : Layout} (hmargin : layout.indent = 0) (number : Nat)
    (body : Body) :
    Mark.render layout (Writer.objectMarks (.first number) body) =
      objectText number body.bytes := by
  have hstart : (⟨layout.indent, false⟩ : Layout) = .start := by rw [hmargin]; rfl
  have hhead : 32 :: decimal (0 : UInt16).toNat ++ utf8 " obj\n" = utf8 " 0 obj\n" := by decide
  simp only [Writer.objectMarks, Mark.render_append, Mark.render, Mark.shown, Mark.next,
    Ref.first, List.append_nil, List.nil_append, hstart,
    Body.bytes, objectText, ← hhead, List.append_assoc, List.cons_append]

theorem indent_after_objectMarks (layout : Layout) (target : Ref) (body : Body) :
    (Mark.after layout (Writer.objectMarks target body)).indent = layout.indent := by
  simp [Writer.objectMarks, Mark.after_append, Body.indent_after_marks]

def rowsOf : (number offset : Nat) → List Bytes → List (Nat × XrefRow)
  | _, _, [] => []
  | number, offset, text :: rest =>
      (number, ⟨offset, 0, false⟩) :: rowsOf (number + 1) (offset + text.length) rest

@[simp] theorem length_rowsOf (number offset : Nat) (texts : List Bytes) :
    (rowsOf number offset texts).length = texts.length := by
  induction texts generalizing number offset with
  | nil => rfl
  | cons text rest ih => simp [rowsOf, ih]

theorem consecutive_rowsOf (number offset : Nat) (texts : List Bytes) :
    Xref.Consecutive number (rowsOf number offset texts) := by
  induction texts generalizing number offset with
  | nil => rfl
  | cons text rest ih =>
      have hrest := ih (number + 1) (offset + text.length)
      simp only [Xref.Consecutive, rowsOf, List.map_cons, List.length_cons,
        List.range'_succ] at hrest ⊢
      rw [hrest]

theorem getElem?_rowsOf (number offset index : Nat) (texts : List Bytes)
    (hindex : index < texts.length) :
    (rowsOf number offset texts)[index]? =
      some (number + index, ⟨offset + (texts.take index).flatten.length, 0, false⟩) := by
  induction texts generalizing number offset index with
  | nil => exact absurd hindex (Nat.not_lt_zero index)
  | cons text rest ih =>
      cases index with
      | zero => rfl
      | succ index =>
          rw [rowsOf, List.getElem?_cons_succ,
            ih (number + 1) (offset + text.length) index (Nat.lt_of_succ_lt_succ hindex)]
          have hnumber : number + 1 + index = number + (index + 1) := by omega
          rw [hnumber, List.take_succ_cons, List.flatten_cons, List.length_append, Nat.add_assoc]

namespace Document

def numbered (index : Nat) (records : List Record) : List (Ref × Record) :=
  (records.zipIdx index).map fun (record, index) => (.first (index + 1), record)

theorem numbered_cons (index : Nat) (record : Record) (rest : List Record) :
    numbered index (record :: rest) =
      (.first (index + 1), record) :: numbered (index + 1) rest := rfl

/-- The writer after objects that went out in full, where `xref` had a line for each before. -/
theorem wrote_writeObjects {lower : Record → Except Error Body} {records : List Record}
    {index : Nat} {writer : Writer}
    (hmargin : writer.layout.indent = 0)
    (hrows : Xref.Consecutive 0 writer.xref.rows)
    (hcount : writer.xref.rows.length = index + 1)
    (hok : (writeObjects lower (numbered index records) writer).failure = none) :
    ∃ bodies : List Body, ∃ layout : Layout,
      records.map lower = bodies.map .ok ∧ layout.indent = 0 ∧
      writer.Wrote (writeObjects lower (numbered index records) writer)
        (objectTexts (index + 1) (bodies.map Body.bytes)).flatten layout
        ⟨writer.xref.rows ++
          rowsOf (index + 1) writer.offset
            (objectTexts (index + 1) (bodies.map Body.bytes))⟩ := by
  induction records generalizing index writer with
  | nil =>
      refine ⟨[], writer.layout, rfl, hmargin, ?_⟩
      simpa [objectTexts, rowsOf, numbered, writeObjects] using writer.wrote_done
  | cons record rest ih =>
      rw [numbered_cons, writeObjects] at hok
      cases hlower : lower record with
      | error error =>
          simp only [hlower] at hok
          contradiction
      | ok body =>
          simp only [hlower] at hok
          obtain ⟨hfirst, hlater⟩ := Step.failure_eq_none_of_andThen hok
          have hobject := Writer.wrote_object hfirst
          rw [render_objectMarks hmargin,
            Xref.record_of_consecutive writer.offset hrows hcount.symm] at hobject
          have hrowsAfter : Xref.Consecutive 0
              (writer.xref.rows ++ [((Ref.first (index + 1)).number,
                (⟨writer.offset, 0, false⟩ : XrefRow))]) :=
            hrows.append (by simp [Xref.Consecutive, Ref.first, hcount])
          obtain ⟨bodies, layout, hbodies, hlayout, hwrote⟩ :=
            @ih (index + 1) _
              (by rw [hobject.layout, indent_after_objectMarks, hmargin])
              (by rw [hobject.xref]; exact hrowsAfter)
              (by rw [hobject.xref]; simp [hcount]) hlater
          refine ⟨body :: bodies, layout, ?_, hlayout, ?_⟩
          · simp only [List.map_cons, hlower, hbodies]
          · rw [hobject.xref, hobject.offset] at hwrote
            have hall := hobject.andThen hwrote
            rw [numbered_cons, writeObjects]
            simp only [hlower]
            simpa [objectTexts, rowsOf, Ref.first] using hall

/-- A dictionary that begins with a key settles for itself whether a blank is due. -/
theorem render_dict_of_field {layout : Layout} (hmargin : layout.indent = 0) (key : Name)
    (value : Value) (entries : List Entry) :
    Mark.render layout (Value.dict (.field key value :: entries)).marks =
      (Value.dict (.field key value :: entries)).bytes := by
  cases layout with
  | mk indent pending =>
      cases hmargin
      rfl

def trailer (roots : Roots) (identifier : Bytes) (count : Nat) : Value :=
  .dict [.field "Size" (.nat (count + 1)), .field "Info" (.ref roots.info),
    .field "Root" (.ref roots.catalog),
    .field "ID" (.arr [.digest identifier, .digest identifier])]

theorem wrote_writeEnd {roots : Roots} {means : Means} {writer : Writer} (count : Nat)
    (hmargin : writer.layout.indent = 0)
    (hrows : Xref.Consecutive 0 writer.xref.rows)
    (hcount : writer.xref.rows.length = count + 1)
    (hok : (writeEnd roots means writer).failure = none) :
    (writeEnd roots means writer).out =
      writer.xref.text ++ (utf8 "trailer\n" ++ ((trailer roots means.identifier count).bytes ++
        (utf8 "\nstartxref\n" ++ decimal writer.offset ++ utf8 "\n%%EOF\n"))) := by
  obtain ⟨htable, hok⟩ := Step.failure_eq_none_of_andThen hok
  obtain ⟨hkeyword, hok⟩ := Step.failure_eq_none_of_andThen hok
  obtain ⟨htrailer, hplace⟩ := Step.failure_eq_none_of_andThen hok
  have hwroteTable := Writer.wrote_table htable
  have hwroteKeyword := Writer.wrote_put hkeyword
  have hwroteTrailer := Writer.wrote_write htrailer
  have hsize : writer.table.writer.xref.size = count + 1 := by
    rw [hwroteTable.xref, Xref.size_of_consecutive hrows, hcount]
  have hlayout : (writer.table.writer.put (utf8 "trailer\n")).writer.layout.indent = 0 := by
    rw [hwroteKeyword.layout, hwroteTable.layout, hmargin]
  have htext : Mark.render (writer.table.writer.put (utf8 "trailer\n")).writer.layout
      (Dictionary.Trailer.value ⟨writer.table.writer.xref.size, some roots.info, roots.catalog,
        means.identifier, means.identifier⟩).marks =
      (trailer roots means.identifier count).bytes := by
    rw [hsize]
    exact render_dict_of_field hlayout _ _ _
  have hall : writer.Wrote (writeEnd roots means writer) (_ ++ (_ ++ (_ ++ _))) _ _ :=
    hwroteTable.andThen
      (hwroteKeyword.andThen (hwroteTrailer.andThen (Writer.wrote_put hplace)))
  rw [hall.out, htext]

/--
How a file is laid out whose objects have the given bodies. Each line of the table but the first
holds the place where the object of that number begins.
-/
structure LaidOut (file : Bytes) (bodies lines : List Bytes) (roots : Roots)
    (identifier : Bytes) : Prop where
  length_header : header.length = 15
  sections : file =
    header ++ (objectTexts 1 bodies).flatten ++
      (utf8 "xref\n0 " ++ decimal (bodies.length + 1) ++ utf8 "\n" ++ lines.flatten) ++
      utf8 "trailer\n" ++ (trailer roots identifier bodies.length).bytes ++
      utf8 "\nstartxref\n" ++
        decimal (header ++ (objectTexts 1 bodies).flatten).length ++ utf8 "\n%%EOF\n"
  length_lines : lines.length = bodies.length + 1
  length_line : ∀ line ∈ lines, line.length = 20
  free_line : lines[0]? = some (utf8 "0000000000 65535 f \n")
  object_line : ∀ index < bodies.length, ∃ place : Bytes,
    lines[index + 1]? = some (place ++ utf8 " 00000 n \n") ∧
      place.length = 10 ∧ (∀ digit ∈ place, isDigit digit) ∧
      numberOf place = (header ++ ((objectTexts 1 bodies).take index).flatten).length

theorem line_of_object (place : Nat) :
    (⟨place, 0, false⟩ : XrefRow).line = paddedDecimal 10 place ++ utf8 " 00000 n \n" := by
  have hrest : (32 : UInt8) :: paddedDecimal 5 (0 : UInt16).toNat ++ [32, 0x6E, 32, 10] =
      utf8 " 00000 n \n" := by decide
  rw [← hrest]
  simp [XrefRow.line]

def tableLines (texts : List Bytes) : List Bytes :=
  (Xref.start.rows ++ rowsOf 1 header.length texts).map fun row => row.2.line

theorem offset_lt_of_mem {texts : List Bytes} {row : Nat × XrefRow} {bound : Nat}
    (hrow : row ∈ Xref.start.rows ++ rowsOf 1 header.length texts)
    (hbound : (header ++ texts.flatten).length < bound) : row.2.offset < bound := by
  rw [List.length_append] at hbound
  rcases List.mem_append.mp hrow with hfree | hobject
  · rw [List.mem_singleton.mp hfree]
    exact Nat.lt_of_le_of_lt (Nat.zero_le _) hbound
  · obtain ⟨index, hindex⟩ := List.mem_iff_getElem?.mp hobject
    obtain ⟨hlt, -⟩ := List.getElem?_eq_some_iff.mp hindex
    rw [length_rowsOf] at hlt
    rw [getElem?_rowsOf 1 header.length index texts hlt] at hindex
    have hsplit : texts.flatten.length =
        (texts.take index).flatten.length + (texts.drop index).flatten.length := by
      rw [← List.length_append, ← List.flatten_append, List.take_append_drop]
    rw [← Option.some.inj hindex]
    simp only
    omega

theorem laidOut_of_sections {file : Bytes} {bodies : List Bytes} {roots : Roots}
    {identifier : Bytes}
    (hfile : file =
      header ++ ((objectTexts 1 bodies).flatten ++
        (utf8 "xref\n" ++ (decimal 0 ++ 32 :: decimal (bodies.length + 1) ++ 10 ::
            (tableLines (objectTexts 1 bodies)).flatten) ++
          (utf8 "trailer\n" ++ ((trailer roots identifier bodies.length).bytes ++
            (utf8 "\nstartxref\n" ++
              decimal (header ++ (objectTexts 1 bodies).flatten).length ++
                utf8 "\n%%EOF\n"))))))
    (hsize : file.length < 10000000000) :
    LaidOut file bodies (tableLines (objectTexts 1 bodies)) roots identifier := by
  have hbound : (header ++ (objectTexts 1 bodies).flatten).length < 10000000000 := by
    rw [hfile, ← List.append_assoc, List.length_append] at hsize
    omega
  have hfree : (⟨0, 65535, true⟩ : XrefRow).line = utf8 "0000000000 65535 f \n" := by decide
  refine ⟨by decide, ?_, ?_, ?_, congrArg some hfree, ?_⟩
  · have hkeyword : utf8 "xref\n0 " = utf8 "xref\n" ++ (decimal 0 ++ [32]) := by decide
    have hend : utf8 "\n" = [10] := by decide
    rw [hfile, hkeyword, hend]
    simp only [List.append_assoc, List.cons_append, List.nil_append]
  · simp [tableLines, Xref.start]
  · intro line hline
    obtain ⟨row, hrow, rfl⟩ := List.mem_map.mp hline
    exact row.2.length_line (offset_lt_of_mem hrow hbound)
  · intro index hindex
    have hlt : index < (objectTexts 1 bodies).length := by rwa [length_objectTexts]
    have hrow := getElem?_rowsOf 1 header.length index (objectTexts 1 bodies) hlt
    refine ⟨paddedDecimal 10 (header.length +
      ((objectTexts 1 bodies).take index).flatten.length), ?_, ?_, ?_, ?_⟩
    · rw [← line_of_object]
      simp only [tableLines, Xref.start, List.cons_append, List.nil_append, List.map_cons,
        List.getElem?_cons_succ, List.getElem?_map, hrow, Option.map_some]
    · exact length_paddedDecimal (by omega)
        (offset_lt_of_mem (List.mem_append_right _ (List.mem_of_getElem? hrow)) hbound)
    · exact fun digit hdigit => isDigit_of_mem_paddedDecimal hdigit
    · rw [numberOf_paddedDecimal, List.length_append]

theorem finalize_eq_write {doc closed : Document} {roots : Roots}
    (closing : close.run doc = .ok roots closed) (means : Means) (sink : Sink) :
    doc.finalize means sink = closed.write roots means (.start sink) := by
  rw [finalize, closing]

theorem out_write {doc : Document} {roots : Roots} {means : Means} {sink : Sink}
    (hok : (doc.write roots means (.start sink)).failure = none) :
    ∃ bodies : List Body,
      doc.store.records.toList.map (doc.body roots means.deflate) = bodies.map .ok ∧
      (doc.write roots means (.start sink)).out =
        header ++ ((objectTexts 1 (bodies.map Body.bytes)).flatten ++
          (utf8 "xref\n" ++ (decimal 0 ++ 32 :: decimal (bodies.length + 1) ++ 10 ::
              (tableLines (objectTexts 1 (bodies.map Body.bytes))).flatten) ++
            (utf8 "trailer\n" ++ ((trailer roots means.identifier bodies.length).bytes ++
              (utf8 "\nstartxref\n" ++
                decimal (header ++ (objectTexts 1 (bodies.map Body.bytes)).flatten).length ++
                  utf8 "\n%%EOF\n"))))) := by
  obtain ⟨hheader, hok⟩ := Step.failure_eq_none_of_andThen hok
  obtain ⟨hobjects, hend⟩ := Step.failure_eq_none_of_andThen hok
  have hwroteHeader := Writer.wrote_put hheader
  have hnumbered : doc.store.toList = numbered 0 doc.store.records.toList := rfl
  rw [hnumbered] at hobjects hend
  obtain ⟨bodies, layout, hbodies, hmargin, hwroteObjects⟩ :=
    wrote_writeObjects (by rw [hwroteHeader.layout]; rfl) (by rw [hwroteHeader.xref]; rfl)
      (by rw [hwroteHeader.xref]; rfl) hobjects
  have hxref := hwroteObjects.xref
  rw [hwroteHeader.xref, hwroteHeader.offset] at hxref
  have hrows : Xref.Consecutive 0 (Xref.start.rows ++
      rowsOf 1 header.length (objectTexts 1 (bodies.map Body.bytes))) :=
    Xref.Consecutive.append rfl (consecutive_rowsOf ..)
  have hcount : (Xref.start.rows ++
      rowsOf 1 header.length (objectTexts 1 (bodies.map Body.bytes))).length =
        bodies.length + 1 := by
    simp [Xref.start]
  have htable : (writeObjects (doc.body roots means.deflate)
      (numbered 0 doc.store.records.toList) ((Writer.start sink).put header).writer).writer.xref =
        ⟨Xref.start.rows ++
          rowsOf 1 header.length (objectTexts 1 (bodies.map Body.bytes))⟩ := by
    rw [hxref, show (Writer.start sink).offset + header.length = header.length from
      Nat.zero_add _]
    rfl
  have hending := wrote_writeEnd bodies.length
    (by rw [hwroteObjects.layout, hmargin]) (by rw [htable]; exact hrows)
    (by rw [htable]; exact hcount) hend
  rw [htable, Xref.text_of_consecutive hrows (by simp [Xref.start]), hcount,
    hwroteObjects.offset, hwroteHeader.offset] at hending
  refine ⟨bodies, hbodies, ?_⟩
  rw [write, Step.andThen_of_failure_eq_none hheader, hnumbered,
    Step.andThen_of_failure_eq_none hobjects]
  simp only [hwroteHeader.out, hwroteObjects.out, hending, tableLines, List.length_append]
  rfl

/--
A finished file is laid out as its table says, whatever bytes its objects hold: the bodies are
those of the records of the complete document, in the order of their numbers.
-/
theorem finalize_laidOut {doc : Document} {means : Means} {sink : Sink}
    (hok : (doc.finalize means sink).failure = none)
    (hsize : (doc.finalize means sink).out.length < 10000000000) :
    ∃ (roots : Roots) (closed : Document) (bodies : List Body) (lines : List Bytes),
      close.run doc = .ok roots closed ∧ doc.Completes closed roots ∧
      bodies.length = closed.store.size ∧
      closed.store.records.toList.map (closed.body roots means.deflate) = bodies.map .ok ∧
      LaidOut (doc.finalize means sink).out (bodies.map Body.bytes) lines roots
        means.identifier := by
  cases hclose : close.run doc with
  | error error after =>
      rw [finalize, hclose] at hok
      contradiction
  | ok roots closed =>
      have hfinalize : doc.finalize means sink = closed.write roots means (.start sink) := by
        rw [finalize, hclose]
      rw [hfinalize] at hok hsize ⊢
      obtain ⟨bodies, hbodies, hout⟩ := out_write hok
      have hcount : bodies.length = closed.store.size := by
        have hlengths := congrArg List.length hbodies
        rw [List.length_map, List.length_map, Array.length_toList] at hlengths
        exact hlengths.symm
      refine ⟨roots, closed, bodies, tableLines (objectTexts 1 (bodies.map Body.bytes)), rfl,
        completes_of_run_close hclose, hcount, hbodies, laidOut_of_sections ?_ hsize⟩
      rw [hout, List.length_map]

def misleadingPage : PageSource where
  resources := utf8 "<< /Font 7 0 R >>\nendobj\n7 0 obj"
  contents := utf8 "endstream\nendobj\n7 0 obj\nxref\n"
  widgets := []
  annotations := []
  marked := []
  transition := none
  boxes := none

/-- A document with a page like that, which is stored as it is. -/
def misleadingDocument : Document :=
  ((withConverter { DocumentOptions.standard with compress := false }
    Color.convertDevice).run [.addPage misleadingPage]).2

/-- A destination that takes three bytes at a time, up to four thousand. -/
def narrowSink : Sink :=
  ⟨some 4000, fun _ => some 3, 0⟩

theorem finalize_laidOut_misleading :
    (misleadingDocument.finalize ⟨id, List.replicate 16 0⟩ narrowSink).failure = none ∧
      (misleadingDocument.finalize ⟨id, List.replicate 16 0⟩ narrowSink).out.length <
        10000000000 ∧
      ∃ (roots : Roots) (closed : Document) (bodies : List Body) (lines : List Bytes),
        close.run misleadingDocument = .ok roots closed ∧
        LaidOut (misleadingDocument.finalize ⟨id, List.replicate 16 0⟩ narrowSink).out
          (bodies.map Body.bytes) lines roots (List.replicate 16 0) := by
  have hok : (misleadingDocument.finalize ⟨id, List.replicate 16 0⟩ narrowSink).failure =
      none := by decide +kernel
  have hsize : (misleadingDocument.finalize ⟨id, List.replicate 16 0⟩ narrowSink).out.length <
      10000000000 := by decide +kernel
  obtain ⟨roots, closed, bodies, lines, hclose, -, -, -, hlaidOut⟩ := finalize_laidOut hok hsize
  exact ⟨hok, hsize, roots, closed, bodies, lines, hclose, hlaidOut⟩

end Document

end Folio
