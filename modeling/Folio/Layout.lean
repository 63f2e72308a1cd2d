import Folio.Value

/-!
How objects are laid out as text. A value is a sequence of marks, which do not depend on their
surroundings; running the marks against a layout gives the bytes and the layout after them.
-/

namespace Folio

/-- The margin in force, and whether a token that could run into the next one was written last. -/
structure Layout where
  indent : Nat
  pending : Bool
deriving DecidableEq, Repr

namespace Layout

def start : Layout :=
  ⟨0, false⟩

end Layout

inductive Mark where
  | text (bytes : Bytes)
  /-- A line end, where the margin is not zero. -/
  | lineIfNested
  | margin
  /-- A blank, where the last token could run into the next one. -/
  | gap
  | nest
  | unnest
  | pending (flag : Bool)
deriving DecidableEq, Repr

namespace Mark

def shown (layout : Layout) : Mark → Bytes
  | .text bytes => bytes
  | .lineIfNested => if 0 < layout.indent then [10] else []
  | .margin => List.replicate layout.indent 32
  | .gap => if layout.pending then [32] else []
  | .nest => []
  | .unnest => []
  | .pending _ => []

def next (layout : Layout) : Mark → Layout
  | .nest => { layout with indent := layout.indent + 2 }
  | .unnest => { layout with indent := layout.indent - 2 }
  | .pending flag => { layout with pending := flag }
  | _ => layout

def render (layout : Layout) : List Mark → Bytes
  | [] => []
  | mark :: rest => mark.shown layout ++ render (mark.next layout) rest

def after (layout : Layout) (marks : List Mark) : Layout :=
  marks.foldl next layout

@[simp] theorem render_nil (layout : Layout) : render layout [] = [] := rfl

@[simp] theorem after_nil (layout : Layout) : after layout [] = layout := rfl

@[simp] theorem after_cons (layout : Layout) (mark : Mark) (rest : List Mark) :
    after layout (mark :: rest) = after (mark.next layout) rest := rfl

theorem render_append (layout : Layout) (first second : List Mark) :
    render layout (first ++ second) =
      render layout first ++ render (after layout first) second := by
  induction first generalizing layout with
  | nil => rfl
  | cons mark rest ih => simp [render, ih]

theorem after_append (layout : Layout) (first second : List Mark) :
    after layout (first ++ second) = after (after layout first) second := by
  simp [after]

end Mark

def stringByte (byte : UInt8) : Bytes :=
  if byte = 0x5C then [0x5C, 0x5C]
  else if byte = 0x28 then [0x5C, 0x28]
  else if byte = 0x29 then [0x5C, 0x29]
  else if byte < 0x20 ∨ 0x7F ≤ byte then 0x5C :: octalByte byte
  else [byte]

def literalString (bytes : Bytes) : Bytes :=
  0x28 :: bytes.flatMap stringByte ++ [0x29]

/-- The bytes that end a token of their own accord, and the number sign that opens an escape. -/
def isNameDelimiter (byte : UInt8) : Bool :=
  [0x23, 0x2F, 0x25, 0x28, 0x29, 0x3C, 0x3E, 0x5B, 0x5D, 0x7B, 0x7D].contains byte

def nameByte (byte : UInt8) : Bytes :=
  if isNameDelimiter byte ∨ byte < 0x21 ∨ 0x7E < byte then 0x23 :: hexByte byte else [byte]

def Name.token (name : Name) : Bytes :=
  0x2F :: name.bytes.flatMap nameByte

def digestToken (bytes : Bytes) : Bytes :=
  0x3C :: bytes.flatMap hexByteLower ++ [0x3E]

def Ref.token (target : Ref) : Bytes :=
  decimal target.number ++ 32 :: decimal target.generation.toNat ++ [32, 0x52]

/-- A number as the format can say it: one that is not finite counts as zero. -/
def Single.token (number : Single) : Bytes :=
  if number.isFinite then number.finiteText.map fun char => UInt8.ofNat char.toNat
  else decimal 0

def Mark.word (token : Bytes) : List Mark :=
  [.gap, .text token, .pending true]

mutual

def Value.marks : Value → List Mark
  | .null => Mark.word (utf8 "null")
  | .bool value => Mark.word (utf8 (if value then "true" else "false"))
  | .int value => Mark.word (signedDecimal value)
  | .real value => Mark.word value.token
  | .str bytes => [.text (literalString bytes), .pending false]
  | .name name => [.text name.token, .pending true]
  | .ref target => Mark.word target.token
  | .digest bytes => [.pending false, .text (digestToken bytes)]
  | .arr [] => [.text (utf8 "[]"), .pending false]
  | .arr (item :: items) =>
      [.text (utf8 "["), .pending false] ++ item.marks ++ Value.marksOfAll items ++
        [.text (utf8 "]"), .pending false]
  | .dict [] => [.text (utf8 "<< >>"), .pending false]
  | .dict (entry :: entries) =>
      [.lineIfNested, .margin, .text (utf8 "<<\n")] ++ entry.marks ++ Entry.marksOfAll entries ++
        [.margin, .text (utf8 ">>"), .pending false]
  | .verbatim bytes => [.text bytes, .pending false]

def Value.marksOfAll : List Value → List Mark
  | [] => []
  | value :: rest => value.marks ++ Value.marksOfAll rest

def Entry.marks : Entry → List Mark
  | .field key value =>
      [.nest, .margin, .text key.token, .pending true] ++ value.marks ++ [.text [10], .unnest]
  | .items key [] =>
      [.nest, .margin, .text key.token, .text (utf8 "[]"), .pending false, .text [10], .unnest]
  | .items key (value :: values) =>
      [.nest, .margin, .text key.token, .text (utf8 "["), .pending false] ++ value.marks ++
        Value.marksOfAll values ++ [.text (utf8 "]"), .pending false, .text [10], .unnest]
  | .raw bytes => [.text bytes]

def Entry.marksOfAll : List Entry → List Mark
  | [] => []
  | entry :: rest => entry.marks ++ Entry.marksOfAll rest

end

/-- The data of a stream between its keywords, right after its dictionary. -/
def Mark.streamData (data : Bytes) : List Mark :=
  [.text (utf8 "\nstream\n"), .text data, .text (utf8 "\nendstream")]

def Body.marks : Body → List Mark
  | .value object => object.marks
  | .stream head data => head.marks ++ Mark.streamData data

def Value.bytes (value : Value) : Bytes :=
  Mark.render .start value.marks

def Body.bytes (body : Body) : Bytes :=
  Mark.render .start body.marks

def Entry.bytesOfAll (entries : List Entry) : Bytes :=
  Mark.render .start (Entry.marksOfAll entries)

end Folio
