import Folio.Error
import Folio.Layout
import Folio.Sink
import Folio.Xref

/-!
Writing objects to a destination that may run full. A writer knows the layout, how many bytes went
out and where each object began. A step that fails leaves the writer as it was when the
destination took no more.
-/

namespace Folio

structure Writer where
  layout : Layout
  offset : Nat
  xref : Xref
  sink : Sink

/-- What a part of the work wrote, the writer after it, and why it stopped short, if it did. -/
structure Step where
  out : Bytes
  writer : Writer
  failure : Option Error

namespace Step

def done (writer : Writer) : Step :=
  ⟨[], writer, none⟩

def failed (writer : Writer) (error : Error) : Step :=
  ⟨[], writer, some error⟩

def andThen (step : Step) (next : Writer → Step) : Step :=
  match step.failure with
  | some _ => step
  | none =>
      let later := next step.writer
      ⟨step.out ++ later.out, later.writer, later.failure⟩

end Step

namespace Writer

def start (sink : Sink) : Writer :=
  ⟨.start, 0, .start, sink⟩

def put (writer : Writer) (bytes : Bytes) : Step :=
  let (out, sink) := writer.sink.writeAll bytes
  ⟨out, { writer with offset := writer.offset + out.length, sink := sink },
    if out.length = bytes.length then none else some .io⟩

def write (writer : Writer) : List Mark → Step
  | [] => .done writer
  | mark :: rest =>
      (writer.put (mark.shown writer.layout)).andThen fun writer =>
        write { writer with layout := mark.next writer.layout } rest

def verbatim (writer : Writer) (bytes : Bytes) : Step :=
  writer.write (Value.verbatim bytes).marks

def objectMarks (target : Ref) (body : Body) : List Mark :=
  [.text (decimal target.number ++ 32 :: decimal target.generation.toNat ++ utf8 " obj\n"),
      .pending false] ++
    body.marks ++ [.text (utf8 "\nendobj\n")]

def object (writer : Writer) (target : Ref) (body : Body) : Step :=
  (writer.write (objectMarks target body)).andThen fun after =>
    .done { after with xref := after.xref.record target writer.offset }

def table (writer : Writer) : Step :=
  writer.put writer.xref.text

end Writer

end Folio
