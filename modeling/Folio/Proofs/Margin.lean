import Folio.Layout

/-!
Objects leave the margin as they found it, so an object that is written after others starts where
one that stands alone does.
-/

namespace Folio

namespace Mark

@[simp] theorem indent_next_nest (layout : Layout) :
    (next layout .nest).indent = layout.indent + 2 := rfl

@[simp] theorem indent_next_unnest (layout : Layout) :
    (next layout .unnest).indent = layout.indent - 2 := rfl

@[simp] theorem indent_next_text (layout : Layout) (bytes : Bytes) :
    (next layout (.text bytes)).indent = layout.indent := rfl

@[simp] theorem indent_next_lineIfNested (layout : Layout) :
    (next layout .lineIfNested).indent = layout.indent := rfl

@[simp] theorem indent_next_margin (layout : Layout) :
    (next layout .margin).indent = layout.indent := rfl

@[simp] theorem indent_next_gap (layout : Layout) :
    (next layout .gap).indent = layout.indent := rfl

@[simp] theorem indent_next_pending (layout : Layout) (flag : Bool) :
    (next layout (.pending flag)).indent = layout.indent := rfl

@[simp] theorem indent_after_word (layout : Layout) (token : Bytes) :
    (after layout (word token)).indent = layout.indent := rfl

end Mark

mutual

theorem Value.indent_after_marks (layout : Layout) (value : Value) :
    (Mark.after layout value.marks).indent = layout.indent := by
  cases value with
  | null => simp [Value.marks]
  | bool flag => simp [Value.marks]
  | int number => simp [Value.marks]
  | real number => simp [Value.marks]
  | str bytes => simp [Value.marks]
  | name name => simp [Value.marks]
  | ref target => simp [Value.marks]
  | digest bytes => simp [Value.marks]
  | verbatim bytes => simp [Value.marks]
  | arr items =>
      cases items with
      | nil => simp [Value.marks]
      | cons item items =>
          simp [Value.marks, Mark.after_append, Value.indent_after_marksOfAll _ items,
            Value.indent_after_marks _ item]
  | dict entries =>
      cases entries with
      | nil => simp [Value.marks]
      | cons entry entries =>
          simp [Value.marks, Mark.after_append, Entry.indent_after_marksOfAll _ entries,
            Entry.indent_after_marks _ entry]

theorem Value.indent_after_marksOfAll (layout : Layout) (values : List Value) :
    (Mark.after layout (Value.marksOfAll values)).indent = layout.indent := by
  cases values with
  | nil => simp [Value.marksOfAll]
  | cons value rest =>
      rw [Value.marksOfAll, Mark.after_append, Value.indent_after_marksOfAll _ rest,
        Value.indent_after_marks _ value]

theorem Entry.indent_after_marks (layout : Layout) (entry : Entry) :
    (Mark.after layout entry.marks).indent = layout.indent := by
  cases entry with
  | field key value =>
      simp [Entry.marks, Mark.after_append, Value.indent_after_marks _ value]
  | items key values =>
      cases values with
      | nil => simp [Entry.marks]
      | cons value values =>
          simp [Entry.marks, Mark.after_append, Value.indent_after_marksOfAll _ values,
            Value.indent_after_marks _ value]
  | raw bytes => simp [Entry.marks]

theorem Entry.indent_after_marksOfAll (layout : Layout) (entries : List Entry) :
    (Mark.after layout (Entry.marksOfAll entries)).indent = layout.indent := by
  cases entries with
  | nil => simp [Entry.marksOfAll]
  | cons entry rest =>
      rw [Entry.marksOfAll, Mark.after_append, Entry.indent_after_marksOfAll _ rest,
        Entry.indent_after_marks _ entry]

end

theorem Body.indent_after_marks (layout : Layout) (body : Body) :
    (Mark.after layout body.marks).indent = layout.indent := by
  cases body with
  | value object => exact Value.indent_after_marks layout object
  | stream head data =>
      rw [Body.marks, Mark.after_append]
      exact Value.indent_after_marks layout head

end Folio
