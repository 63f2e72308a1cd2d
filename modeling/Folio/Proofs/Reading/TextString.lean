import Folio.Proofs.Utf16
import Folio.Text.TextString

/-!
Text strings as a reader sees them: UTF-16 after the mark, and PDFDocEncoding without it. A text
whose one-byte codes happen to begin with the mark is the only kind that does not read back.
-/

namespace Folio

namespace DocEncoding

def accents : List Char :=
  ['\u02D8', '\u02C7', '\u02C6', '\u02D9', '\u02DD', '\u02DB', '\u02DA', '\u02DC']

def signs : List Char :=
  ['\u2022', '\u2020', '\u2021', '\u2026', '\u2014', '\u2013', '\u0192', '\u2044', '\u2039',
    '\u203A', '\u2212', '\u2030', '\u201E', '\u201C', '\u201D', '\u2018', '\u2019', '\u201A',
    '\u2122', '\uFB01', '\uFB02', '\u0141', '\u0152', '\u0160', '\u0178', '\u017D', '\u0131',
    '\u0142', '\u0153', '\u0161', '\u017E']

def decodeByte? (byte : UInt8) : Option Char :=
  if byte < 0x18 then
    if byte = 0x09 ∨ byte = 0x0A ∨ byte = 0x0D then some (Char.ofNat byte.toNat) else none
  else if byte < 0x20 then accents[byte.toNat - 0x18]?
  else if byte < 0x7F then some (Char.ofNat byte.toNat)
  else if byte < 0x80 then none
  else if byte < 0xA0 then signs[byte.toNat - 0x80]?
  else if byte = 0xA0 then some '\u20AC'
  else if byte = 0xAD then none
  else some (Char.ofNat byte.toNat)

def decodeBytes? : Bytes → Option (List Char)
  | [] => some []
  | byte :: rest => (decodeByte? byte).bind fun char => (decodeBytes? rest).map (char :: ·)

def decode? (bytes : Bytes) : Option String :=
  (decodeBytes? bytes).map String.ofList

/-- A character that has a code is the one that a reader finds under the code. -/
theorem decodeByte?_of_encodeChar {char : Char} {byte : UInt8}
    (coded : encodeChar char = some byte) : decodeByte? byte = some char := by
  have own : ∀ point < 256, isOwnCode point →
      decodeByte? (UInt8.ofNat point) = some (Char.ofNat point) := by decide +kernel
  have chosen : ∀ pair ∈ listed, decodeByte? pair.2 = some (Char.ofNat pair.1) := by decide
  rw [encodeChar] at coded
  by_cases plain : isOwnCode char.toNat
  · have small : char.toNat < 256 := by
      simp only [isOwnCode, Bool.or_eq_true, Bool.and_eq_true, beq_iff_eq, decide_eq_true_eq]
        at plain
      omega
    rw [if_pos plain] at coded
    cases coded
    rw [own char.toNat small plain, Char.ofNat_toNat]
  · rw [if_neg plain] at coded
    obtain ⟨before, after, split, -⟩ := List.lookup_eq_some_iff.mp coded
    have member : (char.toNat, byte) ∈ listed :=
      split ▸ List.mem_append_right before List.mem_cons_self
    rw [chosen _ member, Char.ofNat_toNat]

theorem encodeChars_cons_eq_ok {char : Char} {rest : List Char} {bytes : Bytes}
    (coded : encodeChars (char :: rest) = .ok bytes) :
    ∃ byte more, encodeChar char = some byte ∧ encodeChars rest = .ok more ∧
      bytes = byte :: more := by
  rw [encodeChars] at coded
  cases first : encodeChar char with
  | none =>
      rw [first] at coded
      contradiction
  | some byte =>
      cases further : encodeChars rest with
      | error cause =>
          rw [first, further] at coded
          contradiction
      | ok more =>
          rw [first, further] at coded
          cases coded
          exact ⟨byte, more, rfl, rfl, rfl⟩

theorem decodeBytes?_of_encodeChars {text : List Char} {bytes : Bytes}
    (coded : encodeChars text = .ok bytes) : decodeBytes? bytes = some text := by
  induction text generalizing bytes with
  | nil =>
      cases coded
      rfl
  | cons char rest ih =>
      obtain ⟨byte, more, first, further, rfl⟩ := encodeChars_cons_eq_ok coded
      rw [decodeBytes?, decodeByte?_of_encodeChar first, Option.bind_some, ih further,
        Option.map_some]

theorem decode?_of_encode {text : String} {bytes : Bytes} (coded : encode text = .ok bytes) :
    decode? bytes = some text := by
  rw [decode?, decodeBytes?_of_encodeChars coded, Option.map_some, String.ofList_toList]

theorem length_of_encodeChars {text : List Char} {bytes : Bytes}
    (coded : encodeChars text = .ok bytes) : bytes.length = text.length := by
  induction text generalizing bytes with
  | nil =>
      cases coded
      rfl
  | cons char rest ih =>
      obtain ⟨byte, more, -, further, rfl⟩ := encodeChars_cons_eq_ok coded
      rw [List.length_cons, List.length_cons, ih further]

theorem isPrefix_iff_of_encodeChars {first text : List Char} {front bytes : Bytes}
    (codedFirst : encodeChars first = .ok front) (coded : encodeChars text = .ok bytes) :
    front <+: bytes ↔ first <+: text := by
  induction first generalizing front text bytes with
  | nil =>
      cases codedFirst
      exact ⟨fun _ => List.nil_prefix, fun _ => List.nil_prefix⟩
  | cons char rest ih =>
      obtain ⟨byte, more, codedChar, codedRest, rfl⟩ := encodeChars_cons_eq_ok codedFirst
      cases text with
      | nil =>
          cases coded
          simp
      | cons other others =>
          obtain ⟨code, codes, codedOther, codedOthers, rfl⟩ := encodeChars_cons_eq_ok coded
          have same : byte = code ↔ char = other := by
            constructor
            · rintro rfl
              have read := decodeByte?_of_encodeChar codedChar
              rw [decodeByte?_of_encodeChar codedOther] at read
              exact (Option.some.inj read).symm
            · rintro rfl
              rw [codedChar] at codedOther
              exact Option.some.inj codedOther
          rw [List.cons_prefix_cons, List.cons_prefix_cons, ih codedRest codedOthers, same]

end DocEncoding

namespace Utf16

theorem decode?_units (text : String) :
    decode? ((text.toList.flatMap units).flatMap wordBytes) = some text := by
  rw [decode?, unitsOfBytes?_flatMap_wordBytes, Option.bind_some, decodeUnits?_flatMap_units,
    Option.map_some, String.ofList_toList]

theorem length_of_decodeUnits? {units : List UInt16} {text : List Char}
    (read : decodeUnits? units = some text) : text.length ≤ units.length := by
  fun_induction decodeUnits? units generalizing text with
  | case1 =>
      cases read
      exact Nat.le_refl _
  | case2 unit rest single ih =>
      obtain ⟨more, further, rfl⟩ := Option.map_eq_some_iff.mp read
      exact Nat.succ_le_succ (ih further)
  | case3 unit low rest double paired ih =>
      obtain ⟨more, further, rfl⟩ := Option.map_eq_some_iff.mp read
      exact Nat.succ_le_succ (Nat.le_succ_of_le (ih further))
  | case4 => contradiction
  | case5 => contradiction

theorem length_of_unitsOfBytes? {bytes : Bytes} {units : List UInt16}
    (read : unitsOfBytes? bytes = some units) : bytes.length = 2 * units.length := by
  fun_induction unitsOfBytes? bytes generalizing units with
  | case1 =>
      cases read
      rfl
  | case2 => contradiction
  | case3 high low rest ih =>
      obtain ⟨more, further, rfl⟩ := Option.map_eq_some_iff.mp read
      rw [List.length_cons, List.length_cons, List.length_cons, ih further]
      omega

theorem length_of_decode? {bytes : Bytes} {text : String} (read : decode? bytes = some text) :
    2 * text.toList.length ≤ bytes.length := by
  obtain ⟨units, paired, decoded⟩ := Option.bind_eq_some_iff.mp read
  obtain ⟨chars, spelled, rfl⟩ := Option.map_eq_some_iff.mp decoded
  rw [length_of_unitsOfBytes? paired, String.toList_ofList]
  exact Nat.mul_le_mul_left 2 (length_of_decodeUnits? spelled)

end Utf16

/-- The text that a reader finds: UTF-16 after the mark, PDFDocEncoding without it. -/
def readTextString? (bytes : Bytes) : Option String :=
  if Utf16.mark.isPrefixOf bytes then Utf16.decode? (bytes.drop Utf16.mark.length)
  else DocEncoding.decode? bytes

/-- A text with one-byte codes of which the first two are the mark. -/
def LooksMarked (text : String) : Prop :=
  (∃ bytes, DocEncoding.encode text = .ok bytes) ∧ ['\u00FE', '\u00FF'] <+: text.toList

theorem mark_isPrefix_iff {text : String} {bytes : Bytes}
    (coded : DocEncoding.encode text = .ok bytes) :
    Utf16.mark <+: bytes ↔ ['\u00FE', '\u00FF'] <+: text.toList :=
  DocEncoding.isPrefix_iff_of_encodeChars rfl coded

theorem readTextString?_utf16 (text : String) :
    readTextString? (Utf16.encode text) = some text := by
  have marked : Utf16.mark.isPrefixOf (Utf16.encode text) :=
    List.isPrefixOf_iff_prefix.mpr (List.prefix_append _ _)
  rw [readTextString?, if_pos marked, Utf16.encode, List.drop_left, Utf16.decode?_units]

theorem readTextString?_doc {text : String} {bytes : Bytes}
    (coded : DocEncoding.encode text = .ok bytes) (unmarked : ¬Utf16.mark <+: bytes) :
    readTextString? bytes = some text := by
  rw [readTextString?, if_neg (mt List.isPrefixOf_iff_prefix.mp unmarked),
    DocEncoding.decode?_of_encode coded]

theorem readTextString?_ne_of_marked {text : String} {bytes : Bytes}
    (coded : DocEncoding.encode text = .ok bytes) (marked : Utf16.mark <+: bytes) :
    readTextString? bytes ≠ some text := by
  intro read
  rw [readTextString?, if_pos (List.isPrefixOf_iff_prefix.mpr marked)] at read
  have short := Utf16.length_of_decode? read
  have codes : bytes.length = text.toList.length := DocEncoding.length_of_encodeChars coded
  have long : Utf16.mark.length ≤ bytes.length := marked.length_le
  rw [List.length_drop] at short
  have two : Utf16.mark.length = 2 := rfl
  omega

theorem readTextString?_textString_iff (text : String) :
    readTextString? (textString text) = some text ↔ ¬LooksMarked text := by
  rw [textString]
  cases coded : DocEncoding.encode text with
  | error char =>
      refine iff_of_true (readTextString?_utf16 text) ?_
      rintro ⟨⟨bytes, codes⟩, -⟩
      rw [coded] at codes
      contradiction
  | ok bytes =>
      have looks : LooksMarked text ↔ Utf16.mark <+: bytes := by
        rw [mark_isPrefix_iff coded]
        exact ⟨And.right, fun begins => ⟨⟨bytes, coded⟩, begins⟩⟩
      rw [looks]
      exact ⟨fun read marked => readTextString?_ne_of_marked coded marked read,
        readTextString?_doc coded⟩

theorem textString_of_looksMarked {text : String} (looks : LooksMarked text) :
    DocEncoding.encode text = .ok (textString text) := by
  obtain ⟨⟨bytes, coded⟩, -⟩ := looks
  rw [textString, coded]

/-- Two texts with the same bytes are one text, unless just one of them looks marked. -/
theorem textString_inj {text other : String}
    (alike : LooksMarked text ↔ LooksMarked other) :
    textString text = textString other ↔ text = other := by
  refine ⟨fun same => ?_, congrArg textString⟩
  by_cases looks : LooksMarked text
  · have read := DocEncoding.decode?_of_encode (textString_of_looksMarked looks)
    rw [same, DocEncoding.decode?_of_encode (textString_of_looksMarked (alike.mp looks))] at read
    exact (Option.some.inj read).symm
  · have read := (readTextString?_textString_iff text).mpr looks
    rw [same, (readTextString?_textString_iff other).mpr (mt alike.mpr looks)] at read
    exact (Option.some.inj read).symm

/--
A text string reads back if and only if it does not look marked, and apart from such texts no two
texts become the same bytes.
-/
theorem reads_textString (text other : String) :
    (readTextString? (textString text) = some text ↔ ¬LooksMarked text) ∧
      (textString text = textString other ∧ (LooksMarked text ↔ LooksMarked other) ↔
        text = other) := by
  refine ⟨readTextString?_textString_iff text, ?_, ?_⟩
  · rintro ⟨same, alike⟩
    exact (textString_inj alike).mp same
  · rintro rfl
    exact ⟨rfl, Iff.rfl⟩

/-- A thorn and a y with a diaeresis have the codes of the mark. -/
theorem reads_textString_thorn :
    readTextString? (textString "\u00FE\u00FF0B") = some "\u3042" ∧
      textString "\u00FE\u00FF0B" = textString "\u3042" ∧
      (¬∀ text, readTextString? (textString text) = some text) ∧
      ¬Function.Injective textString := by
  have read : readTextString? (textString "\u00FE\u00FF0B") = some "\u3042" := by decide +kernel
  have same : textString "\u00FE\u00FF0B" = textString "\u3042" := by decide +kernel
  have apart : "\u3042" ≠ "\u00FE\u00FF0B" := by decide +kernel
  refine ⟨read, same, fun all => apart ?_, fun injective => apart (injective same).symm⟩
  exact Option.some.inj (read.symm.trans (all _))

end Folio
