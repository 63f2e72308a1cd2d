import Folio.Proofs.CompressedFile
import Folio.Proofs.Reading.ObjectPlace
import Folio.Proofs.Reading.RoundTrip

/-!
A reader of objects that are streams. It takes the dictionary for as long as its bracket is open,
and after it as many bytes as the dictionary tells, whatever they look like.
-/

namespace Folio

namespace Reading

namespace Parser

def within (more : List (Bracket × List Object)) (parser : Parser) : Parser :=
  { parser with outer := parser.outer ++ more }

variable {parser next : Parser}

theorem stepWord_within (more : List (Bracket × List Object)) {text : Bytes}
    (stepped : parser.stepWord text = some next) :
    (parser.within more).stepWord text = some (next.within more) := by
  rw [stepWord] at stepped ⊢
  by_cases keyword : text = utf8 "R"
  · rw [if_pos keyword] at stepped ⊢
    split at stepped
    · next found =>
        cases stepped
        simp only [within, found]
    · contradiction
  · rw [if_neg keyword] at stepped ⊢
    obtain ⟨object, spelled, rfl⟩ := Option.map_eq_some_iff.mp stepped
    rw [spelled]
    rfl

/-- Brackets further out do not matter as long as none of them is closed. -/
theorem step_within (more : List (Bracket × List Object)) {token : Token}
    (stepped : parser.step token = some next) :
    (parser.within more).step token = some (next.within more) := by
  obtain ⟨items, outer⟩ := parser
  cases token with
  | word text => exact stepWord_within more stepped
  | name bytes => cases stepped; rfl
  | str bytes => cases stepped; rfl
  | hex bytes => cases stepped; rfl
  | openArray => cases stepped; rfl
  | openDict => cases stepped; rfl
  | closeArray =>
      match outer, stepped with
      | (.array, before) :: outer, rfl => rfl
  | closeDict =>
      match outer, stepped with
      | (.dict, before) :: outer, stepped =>
          obtain ⟨entries, paired, rfl⟩ := Option.map_eq_some_iff.mp stepped
          show (entries? items.reverse).map _ = _
          rw [paired]
          rfl

theorem run_within (more : List (Bracket × List Object)) {tokens : List Token}
    (ran : parser.run tokens = some next) :
    (parser.within more).run tokens = some (next.within more) := by
  induction tokens generalizing parser with
  | nil =>
      cases ran
      rfl
  | cons token tokens ih =>
      obtain ⟨middle, stepped, further⟩ := Option.bind_eq_some_iff.mp ran
      rw [run, step_within more stepped, Option.bind_some]
      exact ih further

theorem exists_run_of_append {first second : List Token}
    (ran : parser.run (first ++ second) = some next) :
    ∃ middle, parser.run first = some middle := by
  induction first generalizing parser with
  | nil => exact ⟨parser, rfl⟩
  | cons token first ih =>
      obtain ⟨middle, stepped, further⟩ := Option.bind_eq_some_iff.mp ran
      obtain ⟨last, ranFirst⟩ := ih further
      exact ⟨last, by rw [run, stepped, Option.bind_some, ranFirst]⟩

end Parser

namespace Lexer

def dictionary? : Lexer → Option (List (Bytes × Object))
  | ⟨tokens, .blank⟩ =>
      match (Parser.start.run tokens).bind Parser.finish with
      | some [.dict entries] => some entries
      | _ => none
  | _ => none

/-- Reads a dictionary up to the bracket that completes it, and gives back what follows. -/
def readDictionary? (lexer : Lexer) : Bytes → Option (List (Bytes × Object) × Bytes)
  | [] => none
  | byte :: rest =>
      (lexer.step byte).bind fun next =>
        match next.dictionary? with
        | some entries => some (entries, rest)
        | none => next.readDictionary? rest

theorem dictionary?_of_prefix {fewer tokens : List Token} {mode : Mode} {parser : Parser}
    (ran : Parser.start.run tokens = some parser) (starts : fewer <+: .openDict :: tokens) :
    dictionary? ⟨fewer, mode⟩ = none := by
  cases mode with
  | blank =>
      cases fewer with
      | nil => rfl
      | cons token less =>
          obtain ⟨rfl, inside⟩ := List.cons_prefix_cons.mp starts
          obtain ⟨more, rfl⟩ := inside
          obtain ⟨middle, ranLess⟩ := Parser.exists_run_of_append ran
          have unclosed : Parser.start.run (.openDict :: less) =
              some (middle.within [(.dict, [])]) :=
            Parser.run_within [(.dict, [])] ranLess
          have pending : (middle.within [(.dict, [])]).finish = none := by
            cases outer : middle.outer with
            | nil => simp only [Parser.finish, Parser.within, outer, List.nil_append]
            | cons bracket further =>
                simp only [Parser.finish, Parser.within, outer, List.cons_append]
          rw [dictionary?, unclosed, Option.bind_some, pending]
  | _ => rfl

theorem readDictionary?_of_run {lexer last whole : Lexer} {bytes : Bytes} {final : UInt8}
    {entries : List (Bytes × Object)}
    (unclosed : ∀ fewer mode, fewer <+: last.tokens → dictionary? ⟨fewer, mode⟩ = none)
    (ran : lexer.run bytes = some last) (closes : last.step final = some whole)
    (complete : whole.dictionary? = some entries) (rest : Bytes) :
    lexer.readDictionary? (bytes ++ final :: rest) = some (entries, rest) := by
  induction bytes generalizing lexer with
  | nil =>
      cases ran
      rw [List.nil_append, readDictionary?, closes, Option.bind_some, complete]
  | cons byte bytes ih =>
      obtain ⟨next, stepped, further⟩ := Option.bind_eq_some_iff.mp ran
      have pending : next.dictionary? = none :=
        unclosed next.tokens next.mode (tokens_prefix_of_run further)
      rw [List.cons_append, readDictionary?, stepped, Option.bind_some, pending]
      exact ih further

theorem readDictionary?_entries (entries : List Entry) (plain : Entry.arePlain entries)
    (rest : Bytes) :
    start.readDictionary? (utf8 "<<\n" ++ Entry.bytesOfAll entries ++ utf8 ">>" ++ rest) =
      some (Entry.fieldsOfAll entries, rest) := by
  obtain ⟨after, ranEntries, stands⟩ :=
    Entry.spells_ofAll entries plain .start [.openDict] ⟨[.openDict], .blank⟩ (stands_blank _ _)
  let tokens : List Token := .openDict :: Entry.tokensOfAll entries
  have ran : start.run (utf8 "<<\n" ++ Entry.bytesOfAll entries ++ [0x3E]) =
      some ⟨tokens, .greater⟩ := by
    have opened : start.run (utf8 "<<\n") = some ⟨[.openDict], .blank⟩ := rfl
    rw [List.append_assoc, run_append_of_run opened, Entry.bytesOfAll,
      run_append_of_run ranEntries, run_cons, stands.ends.step (by decide)]
    rfl
  have parsed := Entry.run_tokensOfAll entries plain
  have complete : dictionary? ⟨tokens ++ [.closeDict], .blank⟩ =
      some (Entry.fieldsOfAll entries) := by
    have whole : Parser.start.run (tokens ++ [.closeDict]) = _ := Parser.run_dict parsed
    rw [dictionary?, whole]
    rfl
  have joined : utf8 "<<\n" ++ Entry.bytesOfAll entries ++ utf8 ">>" ++ rest =
      utf8 "<<\n" ++ Entry.bytesOfAll entries ++ [0x3E] ++ 0x3E :: rest := by
    have brackets : utf8 ">>" = [0x3E, 0x3E] := by decide
    rw [brackets]
    simp
  rw [joined]
  exact readDictionary?_of_run (fun _ _ starts => dictionary?_of_prefix (parsed _) starts) ran rfl
    complete rest

end Lexer

def Object.whole (number : Nat) : Object :=
  .number (decimal number) (some number)

def valuesOf (key : Bytes) (entries : List (Bytes × Object)) : List Object :=
  (entries.filter fun entry => entry.1 = key).map Prod.snd

theorem valuesOf_append (key : Bytes) (first second : List (Bytes × Object)) :
    valuesOf key (first ++ second) = valuesOf key first ++ valuesOf key second := by
  rw [valuesOf, List.filter_append, List.map_append]
  rfl

def length? (entries : List (Bytes × Object)) : Option Nat :=
  match valuesOf (utf8 "Length") entries with
  | [.number _ (some (.ofNat length))] => some length
  | _ => none

structure StreamObject where
  number : Nat
  entries : List (Bytes × Object)
  data : Bytes

/-- Reads an object that is a stream, up to the end of its last line. -/
def streamObject? (text : Bytes) : Option (StreamObject × Bytes) := do
  let (number, text) ← numberUpTo? 32 text
  let text ← (utf8 "0 obj\n").isPrefixOf? text
  let (entries, text) ← Lexer.start.readDictionary? text
  let text ← (utf8 "\nstream\n").isPrefixOf? text
  let length ← length? entries
  let rest ← (utf8 "\nendstream\nendobj\n").isPrefixOf? (text.drop length)
  return (⟨number, entries, text.take length⟩, rest)

/-- A stream is read back, whatever its data looks like and whatever follows it. -/
theorem streamObject?_objectText (number : Nat) {entries : List Entry} {data : Bytes}
    (plain : Entry.arePlain entries)
    (length : valuesOf (utf8 "Length") (Entry.fieldsOfAll entries) = [.whole data.length])
    (rest : Bytes) :
    streamObject? (objectText number (Body.stream (.dict entries) data).bytes ++ rest) =
      some (⟨number, Entry.fieldsOfAll entries, data⟩, rest) := by
  have nonempty : entries ≠ [] := by
    rintro rfl
    contradiction
  have head : utf8 " 0 obj\n" = 32 :: utf8 "0 obj\n" := by decide
  have keyword : utf8 ">>\nstream\n" = utf8 ">>" ++ utf8 "\nstream\n" := by decide
  have last : utf8 "\nendstream\nendobj\n" = utf8 "\nendstream" ++ utf8 "\nendobj\n" := by decide
  have dictionary := Lexer.readDictionary?_entries entries plain
    (utf8 "\nstream\n" ++ (data ++ (utf8 "\nendstream\nendobj\n" ++ rest)))
  rw [last] at dictionary
  simp only [List.append_assoc] at dictionary
  have told : length? (Entry.fieldsOfAll entries) = some data.length := by
    rw [length?, length]
    rfl
  rw [streamObject?, objectText, Body.bytes_stream nonempty, streamText, head, keyword]
  simp only [List.append_assoc, List.cons_append]
  rw [numberUpTo?_decimal 32 number _ (by decide)]
  simp only [Option.bind_eq_bind, Option.bind_some, isPrefixOf?_append, dictionary, told,
    List.drop_left, List.take_left, Option.pure_def]
  rw [last, ← List.append_assoc (utf8 "\nendstream"), isPrefixOf?_append]
  rfl

end Reading

end Folio
