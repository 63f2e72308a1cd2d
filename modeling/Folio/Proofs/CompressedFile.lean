import Folio.Proofs.Compression
import Folio.Proofs.Filling

/-!
The files of one document, written with its streams compressed and as they are.
-/

namespace Folio

open Build

namespace Document

variable {compress : Bool}

end Document

/-- The text of a stream with given lines between the brackets of its dictionary. -/
def streamText (lines data : Bytes) : Bytes :=
  utf8 "<<\n" ++ lines ++ utf8 ">>\nstream\n" ++ data ++ utf8 "\nendstream"

def lengthLine (length : Nat) : Bytes :=
  utf8 "  /Length " ++ decimal length ++ utf8 "\n"

def deflatedLines (plainLength : Nat) : Bytes :=
  utf8 "  /Filter/FlateDecode\n  /DL " ++ decimal plainLength ++ utf8 "\n"

namespace Entry

theorem marksOfAll_append (first second : List Entry) :
    marksOfAll (first ++ second) = marksOfAll first ++ marksOfAll second := by
  induction first with
  | nil => rfl
  | cons entry rest ih => simp only [List.cons_append, marksOfAll, ih, List.append_assoc]

theorem render_marksOfAll (layout : Layout) (entries : List Entry) :
    Mark.render layout (marksOfAll entries) =
      Mark.render ⟨layout.indent, false⟩ (marksOfAll entries) := by
  induction entries with
  | nil => rfl
  | cons entry rest ih =>
      cases entry with
      | field key value => rfl
      | items key values =>
          cases values with
          | nil => rfl
          | cons value values => rfl
      | raw bytes => exact congrArg (bytes ++ ·) ih

theorem bytesOfAll_append (first second : List Entry) :
    bytesOfAll (first ++ second) = bytesOfAll first ++ bytesOfAll second := by
  rw [bytesOfAll, marksOfAll_append, Mark.render_append, render_marksOfAll (Mark.after _ _),
    indent_after_marksOfAll]
  rfl

@[simp] theorem bytesOfAll_raw (bytes : Bytes) : bytesOfAll [.raw bytes] = bytes := by
  simp [bytesOfAll, marksOfAll, marks, Mark.render, Mark.shown]

end Entry

theorem Value.marks_dict {entries : List Entry} (some : entries ≠ []) :
    (Value.dict entries).marks =
      [.lineIfNested, .margin, .text (utf8 "<<\n")] ++ Entry.marksOfAll entries ++
        [.margin, .text (utf8 ">>"), .pending false] := by
  cases entries with
  | nil => contradiction
  | cons entry rest => simp only [marks, Entry.marksOfAll, List.append_assoc]

theorem Body.bytes_stream {entries : List Entry} (some : entries ≠ []) (data : Bytes) :
    (Body.stream (.dict entries) data).bytes = streamText (Entry.bytesOfAll entries) data := by
  have marks : (Body.stream (.dict entries) data).marks =
      [.lineIfNested, .margin, .text (utf8 "<<\n")] ++ (Entry.marksOfAll entries ++
        ([.margin, .text (utf8 ">>"), .pending false] ++ Mark.streamData data)) := by
    simp only [Body.marks, Value.marks_dict some, List.append_assoc]
  have closing (layout : Layout) (margin : layout.indent = 0) :
      Mark.render layout ([.margin, .text (utf8 ">>"), .pending false] ++ Mark.streamData data) =
        utf8 ">>" ++ (utf8 "\nstream\n" ++ (data ++ utf8 "\nendstream")) := by
    simp [Mark.render, Mark.shown, Mark.streamData, margin]
  calc (Body.stream (.dict entries) data).bytes
      = utf8 "<<\n" ++ Mark.render .start (Entry.marksOfAll entries ++
          ([.margin, .text (utf8 ">>"), .pending false] ++ Mark.streamData data)) := by
        rw [bytes, marks]
        rfl
    _ = utf8 "<<\n" ++ (Entry.bytesOfAll entries ++
          (utf8 ">>" ++ (utf8 "\nstream\n" ++ (data ++ utf8 "\nendstream")))) := by
        rw [Mark.render_append, closing _ (Entry.indent_after_marksOfAll .start entries)]
        rfl
    _ = streamText (Entry.bytesOfAll entries) data := by
        have joined : utf8 ">>\nstream\n" = utf8 ">>" ++ utf8 "\nstream\n" := rfl
        simp only [streamText, joined, List.append_assoc]

namespace Entry

end Entry

namespace Dictionary

end Dictionary

/--
The bodies of one object, as it is and with its stream deflated to the same bytes. The entries of
the stream may have been rendered before.
-/
inductive Body.Packs : Body → Body → Prop
  | value (value : Value) : Packs (.value value) (.value value)
  | jpeg (entries : List Entry) (data : Bytes) :
      Packs (.stream (Dictionary.storedStream entries (some "DCTDecode") data.length) data)
        (.stream (Dictionary.storedStream entries (some "DCTDecode") data.length) data)
  | stream {plain packed : Value} {lines data : Bytes}
      (stored : (Body.stream plain data).bytes =
        streamText (lines ++ lengthLine data.length) data)
      (deflated : (Body.stream packed data).bytes =
        streamText (lines ++ lengthLine data.length ++ deflatedLines data.length) data)
      (spliced : (Body.stream packed data).bytes =
        (Body.stream (Dictionary.deflatedStream [.raw lines] data.length data.length) data).bytes) :
      Packs (.stream plain data) (.stream packed data)

/-- Two outcomes that fail alike, or whose results stand in a relation. -/
inductive Alike {α β : Type} (relation : α → β → Prop) : Except Error α → Except Error β → Prop
  | ok {value : α} {other : β} (related : relation value other) :
      Alike relation (.ok value) (.ok other)
  | error (error : Error) : Alike relation (.error error) (.error error)

theorem Alike.bind {α β γ : Type} {relation : β → γ → Prop} {outcome : Except Error α}
    {next : α → Except Error β} {other : α → Except Error γ}
    (further : ∀ value, Alike relation (next value) (other value)) :
    Alike relation (outcome >>= next) (outcome >>= other) := by
  cases outcome with
  | ok value => exact further value
  | error error => exact .error error

namespace Document

section Outcomes

variable {relation : Body → Body → Prop} {lower other : Record → Except Error Body}

end Outcomes

theorem Closed.isProper {doc closed : Document} {roots : Roots} (closes : doc.Closed closed roots)
    (proper : doc.Proper) {record : Record} (listed : record ∈ closed.store.records.toList) :
    record.isProper := by
  obtain ⟨index, place⟩ := List.getElem?_of_mem listed
  have found : closed.store.get? (.first (index + 1)) = some record := by
    rw [Store.get?_first, place]
  by_cases added : record.IsDictionary
  · obtain ⟨entries, rfl⟩ := added
    rfl
  · exact proper _ record (closes.adds.get?_of_get? added found)

def begun (options : DocumentOptions) (converter : Color → DeviceSpace → Color) (info : Info)
    (compress : Bool) : Document :=
  { withConverter { options with compress } converter with info }

end Document

end Folio
