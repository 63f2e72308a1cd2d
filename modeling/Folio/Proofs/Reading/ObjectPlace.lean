import Folio.Proofs.FileLayout
import Folio.Proofs.XrefReading
import Mathlib.Data.List.Basic

/-!
A reader of the way to an object: the end of a file tells where its table is, and the table tells
where each object begins.
-/

namespace Folio

namespace Reading

theorem isPrefixOf?_append (first second : Bytes) :
    first.isPrefixOf? (first ++ second) = some second :=
  List.isPrefixOf?_eq_some_iff_append_eq.mpr rfl

def fromLine : (number : Nat) → Bytes → Bytes
  | 0, text => text
  | number + 1, text => fromLine number ((text.dropWhile fun byte => byte != 10).drop 1)

theorem drop_line {line : Bytes} (ended : IsLine line) (rest : Bytes) :
    ((line ++ rest).dropWhile fun byte => byte != 10).drop 1 = rest := by
  obtain ⟨text, inside, rfl⟩ := ended
  have skipped : ∀ byte ∈ text, byte != 10 := by
    intro byte listed
    exact bne_iff_ne.mpr fun same => inside (same ▸ listed)
  rw [List.append_assoc, List.dropWhile_append_of_pos skipped]
  rfl

theorem fromLine_flatten {lines : List Bytes} (ended : ∀ line ∈ lines, IsLine line) {number : Nat}
    {line : Bytes} (found : lines[number]? = some line) (rest : Bytes) :
    ∃ after, fromLine number (lines.flatten ++ rest) = line ++ after := by
  induction lines generalizing number with
  | nil => contradiction
  | cons first lines ih =>
      rw [List.flatten_cons, List.append_assoc]
      cases number with
      | zero =>
          cases found
          exact ⟨_, rfl⟩
      | succ number =>
          rw [fromLine, drop_line (ended first List.mem_cons_self)]
          exact ih (fun line listed => ended line (List.mem_cons_of_mem first listed)) found

theorem isLine_line (row : XrefRow) : IsLine row.line := by
  have others {width number : Nat} : 10 ∉ paddedDecimal width number := fun listed =>
    absurd (isDigit_of_mem_paddedDecimal listed) (by decide)
  refine ⟨paddedDecimal 10 row.offset ++ 32 :: paddedDecimal 5 row.generation.toNat ++
    [32, if row.free then 0x66 else 0x6E, 32], ?_, ?_⟩
  · cases row.free with
    | false => simp [others]
    | true => simp [others]
  · rw [XrefRow.line, List.append_assoc _ _ [10]]
    rfl

/-- The place of the table, as the last lines of a file tell it. -/
def tablePlace? (file : Bytes) : Option Nat := do
  let back ← (utf8 "\n%%EOF\n").reverse.isPrefixOf? file.reverse
  let _ ← (utf8 "\nstartxref\n").reverse.isPrefixOf? (back.dropWhile isDigit)
  return numberOf (back.takeWhile isDigit).reverse

/-- The place of an object that is in use, as the table of a file tells it. -/
def objectPlace? (file : Bytes) (number : Nat) : Option Nat := do
  let place ← tablePlace? file
  let rows ← (utf8 "xref\n").isPrefixOf? (file.drop place)
  let (first, rows) ← numberUpTo? 32 rows
  let (count, rows) ← numberUpTo? 10 rows
  if first ≤ number ∧ number < first + count then do
    let (place, row) ← numberUpTo? 32 (fromLine (number - first) rows)
    let _ ← (utf8 "00000 n \n").isPrefixOf? row
    return place
  else none

theorem tablePlace?_append (front : Bytes) (place : Nat) :
    tablePlace? (front ++ (utf8 "\nstartxref\n" ++ decimal place ++ utf8 "\n%%EOF\n")) =
      some place := by
  have digits : ∀ byte ∈ (decimal place).reverse, isDigit byte := fun byte listed =>
    isDigit_of_mem_decimal (List.mem_reverse.mp listed)
  have keyword : (utf8 "\nstartxref\n").reverse = 10 :: (utf8 "\nstartxref").reverse := by decide
  have notDigit : ¬isDigit 10 := by decide
  rw [tablePlace?, List.reverse_append, List.reverse_append, List.reverse_append,
    List.append_assoc, isPrefixOf?_append]
  simp only [Option.bind_eq_bind, Option.bind_some, List.append_assoc,
    List.takeWhile_append_of_pos digits, List.dropWhile_append_of_pos digits]
  rw [keyword, List.cons_append, List.takeWhile_cons_of_neg notDigit,
    List.dropWhile_cons_of_neg notDigit, ← List.cons_append, isPrefixOf?_append, List.append_nil,
    Option.bind_some, List.reverse_reverse, numberOf_decimal]
  rfl

end Reading

namespace Document

open Reading

/-- A file of objects with given texts, whose table stands right after them. -/
structure Tabled (file : Bytes) (texts : List Bytes) : Prop where
  sections : ∃ trailer, file = header ++ texts.flatten ++
    (utf8 "xref\n" ++ (decimal 0 ++ 32 :: decimal (texts.length + 1) ++
      10 :: (tableLines texts).flatten) ++ trailer)
  ending : ∃ front, file = front ++ (utf8 "\nstartxref\n" ++
    decimal (header ++ texts.flatten).length ++ utf8 "\n%%EOF\n")

theorem getElem?_tableLines {texts : List Bytes} {index : Nat} (bound : index < texts.length) :
    (tableLines texts)[index + 1]? =
      some (paddedDecimal 10 (header ++ (texts.take index).flatten).length ++
        utf8 " 00000 n \n") := by
  rw [← line_of_object, List.length_append]
  simp only [tableLines, Xref.start, List.cons_append, List.nil_append, List.map_cons,
    List.getElem?_cons_succ, List.getElem?_map, getElem?_rowsOf 1 header.length index texts bound,
    Option.map_some]

theorem Tabled.objectPlace? {file : Bytes} {texts : List Bytes} (tabled : Tabled file texts)
    {index : Nat} (bound : index < texts.length) :
    objectPlace? file (index + 1) = some (header ++ (texts.take index).flatten).length := by
  obtain ⟨trailer, sections⟩ := tabled.sections
  obtain ⟨front, ending⟩ := tabled.ending
  have place : tablePlace? file = some (header ++ texts.flatten).length := by
    rw [ending, tablePlace?_append]
  have ended : ∀ line ∈ tableLines texts, IsLine line := by
    intro line listed
    obtain ⟨row, -, rfl⟩ := List.mem_map.mp listed
    exact isLine_line row.2
  obtain ⟨after, row⟩ := fromLine_flatten ended (getElem?_tableLines bound) trailer
  have entry : utf8 " 00000 n \n" = 32 :: utf8 "00000 n \n" := by decide
  have listed : 0 ≤ index + 1 ∧ index + 1 < 0 + (texts.length + 1) := by omega
  rw [Reading.objectPlace?, place, Option.bind_eq_bind, Option.bind_some, sections,
    List.drop_left]
  simp only [List.append_assoc, isPrefixOf?_append, Option.bind_eq_bind, Option.bind_some,
    List.cons_append, numberUpTo?_decimal _ _ _ (by decide : ¬isDigit 32),
    numberUpTo?_decimal _ _ _ (by decide : ¬isDigit 10), if_pos listed, Nat.sub_zero, row]
  rw [entry, List.cons_append,
    numberUpTo?_digits (by decide) (paddedDecimal_ne_nil _ _)
      (fun _ => isDigit_of_mem_paddedDecimal)]
  simp only [Option.bind_some, isPrefixOf?_append, numberOf_paddedDecimal]
  rfl

theorem Tabled.drop_objectPlace {file : Bytes} {texts : List Bytes} (tabled : Tabled file texts)
    {index : Nat} {text : Bytes} (found : texts[index]? = some text) :
    ∃ rest, file.drop (header ++ (texts.take index).flatten).length = text ++ rest := by
  obtain ⟨trailer, sections⟩ := tabled.sections
  obtain ⟨bound, rfl⟩ := List.getElem?_eq_some_iff.mp found
  have split : texts.flatten =
      (texts.take index).flatten ++ (texts[index] ++ (texts.drop (index + 1)).flatten) := by
    rw [← List.flatten_cons, ← List.drop_eq_getElem_cons bound, ← List.flatten_append,
      List.take_append_drop]
  rw [sections, split]
  simp only [← List.append_assoc header]
  rw [List.append_assoc (header ++ _), List.drop_left, List.append_assoc]
  exact ⟨_, rfl⟩

theorem tabled_write {doc : Document} {roots : Roots} {means : Means} {sink : Sink}
    (complete : (doc.write roots means (.start sink)).failure = none) :
    ∃ bodies : List Body,
      doc.store.records.toList.map (doc.body roots means.deflate) = bodies.map .ok ∧
        Tabled (doc.write roots means (.start sink)).out
          (objectTexts 1 (bodies.map Body.bytes)) := by
  obtain ⟨bodies, lowered, out⟩ := out_write complete
  have counted : bodies.length = (objectTexts 1 (bodies.map Body.bytes)).length := by
    rw [length_objectTexts, List.length_map]
  rw [counted, ← List.append_assoc header] at out
  refine ⟨bodies, lowered, ⟨_, out⟩, ?_⟩
  rw [out]
  simp only [← List.append_assoc]
  exact ⟨_, rfl⟩

end Document

end Folio
