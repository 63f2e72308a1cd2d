import Folio.Document.Lowering
import Folio.Writer

/-!
Writing a document: header, objects in ascending order, cross-reference table and trailer.
-/

namespace Folio

namespace Document

structure Means where
  deflate : Bytes → Bytes
  identifier : Bytes

/-- The version of the format, and a comment of bytes that show that the file is not plain text. -/
def header : Bytes :=
  utf8 "%PDF-1.7\n" ++ [0x25, 0xB4, 0xC8, 0xDC, 0xF0, 0x0A]

/-- Writes the objects of records that were lowered; a record that could not be ends the work. -/
def writeObjects {α : Type} (lower : α → Except Error Body) : List (Ref × α) → Writer → Step
  | [], writer => .done writer
  | (target, record) :: rest, writer =>
      match lower record with
      | .error error => .failed writer error
      | .ok body => (writer.object target body).andThen (writeObjects lower rest)

/-- Writes what follows the objects: the table, the trailer and the place of the table. -/
def writeEnd (roots : Roots) (means : Means) (writer : Writer) : Step :=
  writer.table.andThen fun after =>
    let trailer : Dictionary.Trailer :=
      ⟨after.xref.size, some roots.info, roots.catalog, means.identifier, means.identifier⟩
    (after.put (utf8 "trailer\n")).andThen fun after =>
      (after.write trailer.value.marks).andThen fun after =>
        after.put (utf8 "\nstartxref\n" ++ decimal writer.offset ++ utf8 "\n%%EOF\n")

def write (doc : Document) (roots : Roots) (means : Means) (writer : Writer) : Step :=
  (writer.put header).andThen fun writer =>
    (writeObjects (doc.body roots means.deflate) doc.store.toList writer).andThen
      (writeEnd roots means)

def finalize (doc : Document) (means : Means) (sink : Sink) : Step :=
  match close.run doc with
  | .error error _ => .failed (.start sink) error
  | .ok roots doc => doc.write roots means (.start sink)

end Document

end Folio
