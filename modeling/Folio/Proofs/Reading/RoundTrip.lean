import Folio.Proofs.Reading.Written

/-!
Whatever is written is read back as itself.
-/

namespace Folio

open Reading

mutual

def Value.object : Value → Object
  | .null => .null
  | .bool value => .bool value
  | .int value => .number (signedDecimal value) (some value)
  | .real value =>
      .number (utf8 (if value.isFinite then value.text else "0"))
        (integer? (utf8 (if value.isFinite then value.text else "0")))
  | .str bytes => .str bytes
  | .name name => .name name.bytes
  | .ref target => .ref target.number target.generation.toNat
  | .digest bytes => .hex bytes
  | .arr items => .arr (Value.objectsOfAll items)
  | .dict entries => .dict (Entry.fieldsOfAll entries)
  | .verbatim _ => .null

def Value.objectsOfAll : List Value → List Object
  | [] => []
  | value :: rest => value.object :: Value.objectsOfAll rest

def Entry.field? : Entry → Option (Bytes × Object)
  | .field key value => some (key.bytes, value.object)
  | .items key values => some (key.bytes, .arr (Value.objectsOfAll values))
  | .raw _ => none

def Entry.fieldsOfAll : List Entry → List (Bytes × Object)
  | [] => []
  | entry :: rest => entry.field?.toList ++ Entry.fieldsOfAll rest

end

namespace Reading

def inTurn (fields : List (Bytes × Object)) : List Object :=
  fields.flatMap fun field => [.name field.1, field.2]

theorem inTurn_append (first second : List (Bytes × Object)) :
    inTurn (first ++ second) = inTurn first ++ inTurn second :=
  List.flatMap_append

theorem entries?_inTurn (fields : List (Bytes × Object)) :
    Parser.entries? (inTurn fields) = some fields := by
  induction fields with
  | nil => rfl
  | cons field fields ih =>
      show (Parser.entries? (inTurn fields)).map ((field.1, field.2) :: ·) = some (field :: fields)
      rw [ih, Option.map_some]

namespace Parser

def pushAll (parser : Parser) (objects : List Object) : Parser :=
  { parser with items := objects.reverse ++ parser.items }

theorem pushAll_cons (parser : Parser) (object : Object) (objects : List Object) :
    parser.pushAll (object :: objects) = (parser.push object).pushAll objects := by
  rw [pushAll, List.reverse_cons, List.append_assoc]
  rfl

theorem pushAll_append (parser : Parser) (first second : List Object) :
    parser.pushAll (first ++ second) = (parser.pushAll first).pushAll second := by
  rw [pushAll, List.reverse_append, List.append_assoc]
  rfl

theorem run_array {parser : Parser} {tokens : List Token} {objects : List Object}
    (body : ∀ inner : Parser, inner.run tokens = some (inner.pushAll objects)) :
    parser.run (.openArray :: tokens ++ [.closeArray]) = some (parser.push (.arr objects)) := by
  show Parser.run ⟨[], (.array, parser.items) :: parser.outer⟩ (tokens ++ [.closeArray]) = _
  rw [run_append_of_run (body _)]
  show some (Parser.mk (.arr (objects.reverse ++ []).reverse :: parser.items) parser.outer) = _
  rw [List.append_nil, List.reverse_reverse]
  rfl

theorem run_dict {parser : Parser} {tokens : List Token} {fields : List (Bytes × Object)}
    (body : ∀ inner : Parser, inner.run tokens = some (inner.pushAll (inTurn fields))) :
    parser.run (.openDict :: tokens ++ [.closeDict]) = some (parser.push (.dict fields)) := by
  show Parser.run ⟨[], (.dict, parser.items) :: parser.outer⟩ (tokens ++ [.closeDict]) = _
  rw [run_append_of_run (body _), run, step]
  show (((entries? ((inTurn fields).reverse ++ []).reverse).map _).bind _) = _
  rw [List.append_nil, List.reverse_reverse, entries?_inTurn]
  rfl

theorem run_numeral {text : Bytes} (parser : Parser) (numeral : isNumeral text)
    (rest : List Token) :
    parser.run (.word text :: rest) = (parser.push (.number text (integer? text))).run rest := by
  rw [run, step, stepWord_of_isNumeral parser numeral, Option.bind_some]

theorem run_ref (parser : Parser) (target : Ref) :
    parser.run [.word (decimal target.number), .word (decimal target.generation.toNat),
      .word (utf8 "R")] = some (parser.push (.ref target.number target.generation.toNat)) := by
  rw [run_numeral parser (isNumeral_of_isMagnitude (isMagnitude_decimal _)),
    run_numeral _ (isNumeral_of_isMagnitude (isMagnitude_decimal _)), integer?_decimal,
    integer?_decimal]
  rfl

end Parser

end Reading

mutual

theorem Value.run_tokens (value : Value) (plain : value.isPlain) (parser : Parser) :
    parser.run value.tokens = some (parser.push value.object) := by
  cases value with
  | null => rfl
  | bool flag =>
      cases flag with
      | false => rfl
      | true => rfl
  | int number =>
      rw [Value.tokens, Parser.run_numeral parser (isNumeral_signedDecimal number),
        integer?_signedDecimal]
      rfl
  | real number =>
      rw [Value.tokens, Parser.run_numeral parser (isNumeral_token number), token_eq_text]
      rfl
  | str bytes => rfl
  | name name => rfl
  | ref target => exact Parser.run_ref parser target
  | digest bytes => rfl
  | arr items =>
      exact Parser.run_array fun inner => Value.run_tokensOfAll items plain inner
  | dict entries =>
      exact Parser.run_dict fun inner => Entry.run_tokensOfAll entries plain inner
  | verbatim bytes => exact Bool.noConfusion plain

theorem Value.run_tokensOfAll (values : List Value) (plain : Value.arePlain values)
    (parser : Parser) :
    parser.run (Value.tokensOfAll values) =
      some (parser.pushAll (Value.objectsOfAll values)) := by
  cases values with
  | nil => rfl
  | cons value rest =>
      rw [Value.arePlain, Bool.and_eq_true] at plain
      rw [Value.tokensOfAll, Parser.run_append_of_run (value.run_tokens plain.1 parser),
        Value.run_tokensOfAll rest plain.2, Value.objectsOfAll, Parser.pushAll_cons]

theorem Entry.run_tokens (entry : Entry) (plain : entry.isPlain) (parser : Parser) :
    parser.run entry.tokens = some (parser.pushAll (inTurn entry.field?.toList)) := by
  cases entry with
  | field key value => exact value.run_tokens plain (parser.push (.name key.bytes))
  | items key values =>
      exact (Parser.run_array fun inner => Value.run_tokensOfAll values plain inner :
        (parser.push (.name key.bytes)).run _ = _)
  | raw bytes => exact Bool.noConfusion plain

theorem Entry.run_tokensOfAll (entries : List Entry) (plain : Entry.arePlain entries)
    (parser : Parser) :
    parser.run (Entry.tokensOfAll entries) =
      some (parser.pushAll (inTurn (Entry.fieldsOfAll entries))) := by
  cases entries with
  | nil => rfl
  | cons entry rest =>
      rw [Entry.arePlain, Bool.and_eq_true] at plain
      rw [Entry.tokensOfAll, Parser.run_append_of_run (entry.run_tokens plain.1 parser),
        Entry.run_tokensOfAll rest plain.2, Entry.fieldsOfAll, inTurn_append,
        Parser.pushAll_append]

end

theorem Value.objectsOfAll_eq_map (values : List Value) :
    Value.objectsOfAll values = values.map Value.object := by
  induction values with
  | nil => rfl
  | cons value rest ih => rw [Value.objectsOfAll, ih, List.map_cons]

theorem Value.arePlain_append (first second : List Value) :
    Value.arePlain (first ++ second) = (Value.arePlain first && Value.arePlain second) := by
  induction first with
  | nil => rfl
  | cons value first ih =>
      rw [List.cons_append, Value.arePlain, Value.arePlain, ih, Bool.and_assoc]

theorem Value.readAll_render (values : List Value) (plain : Value.arePlain values)
    (indent : Nat) :
    readAll (Mark.render ⟨indent, false⟩ (Value.marksOfAll values)) =
      some (values.map Value.object) := by
  obtain ⟨after, ran, stands⟩ :=
    Value.spells_ofAll values plain ⟨indent, false⟩ [] Lexer.start (stands_blank _ _)
  have lexed : tokens? (Mark.render ⟨indent, false⟩ (Value.marksOfAll values)) =
      some (Value.tokensOfAll values) := by
    rw [tokens?, ran, Option.bind_some, stands.ends.finish, List.nil_append]
  have parsed := Value.run_tokensOfAll values plain Parser.start
  rw [readAll, lexed, Option.bind_some, parsed, Option.bind_some]
  show some ((Value.objectsOfAll values).reverse ++ []).reverse = _
  rw [List.append_nil, List.reverse_reverse, Value.objectsOfAll_eq_map]

theorem Value.readOne_bytes (value : Value) (plain : value.isPlain) :
    readOne value.bytes = some value.object := by
  have single := Value.readAll_render [value] (by rw [Value.arePlain, plain]; rfl) 0
  rw [Value.marksOfAll, Value.marksOfAll, List.append_nil] at single
  rw [readOne, Value.bytes, Layout.start, single]
  rfl

inductive Addition where
  | field (key : Name) (value : Value)
  | optional (key : Name) (value? : Option Value)
  | items (key : Name) (values : List Value)
  | unlessEmpty (key : Name) (values : List Value)
  | embed (additions : List Addition)

mutual

def Addition.entries : Addition → List Entry
  | .field key value => [.field key value]
  | .optional key value? => Entry.optional key value?
  | .items key values => [.items key values]
  | .unlessEmpty key values => Entry.unlessEmpty key values
  | .embed additions => Addition.entriesOfAll additions

def Addition.entriesOfAll : List Addition → List Entry
  | [] => []
  | addition :: rest => addition.entries ++ Addition.entriesOfAll rest

end

mutual

/-- The entries that a reader finds: none where a value or all items are missing. -/
def Addition.fields : Addition → List (Bytes × Object)
  | .field key value => [(key.bytes, value.object)]
  | .optional _ none => []
  | .optional key (some value) => [(key.bytes, value.object)]
  | .items key values => [(key.bytes, .arr (values.map Value.object))]
  | .unlessEmpty _ [] => []
  | .unlessEmpty key (value :: values) =>
      [(key.bytes, .arr ((value :: values).map Value.object))]
  | .embed additions => Addition.fieldsOfAll additions

def Addition.fieldsOfAll : List Addition → List (Bytes × Object)
  | [] => []
  | addition :: rest => addition.fields ++ Addition.fieldsOfAll rest

end

theorem Entry.fieldsOfAll_append (first second : List Entry) :
    Entry.fieldsOfAll (first ++ second) =
      Entry.fieldsOfAll first ++ Entry.fieldsOfAll second := by
  induction first with
  | nil => rfl
  | cons entry first ih =>
      rw [List.cons_append, Entry.fieldsOfAll, Entry.fieldsOfAll, ih, List.append_assoc]

mutual

theorem Addition.fieldsOfAll_entries (addition : Addition) :
    Entry.fieldsOfAll addition.entries = addition.fields := by
  cases addition with
  | field key value => rfl
  | optional key value? =>
      cases value? with
      | none => rfl
      | some value => rfl
  | items key values =>
      rw [Addition.fields, ← Value.objectsOfAll_eq_map]
      rfl
  | unlessEmpty key values =>
      cases values with
      | nil => rfl
      | cons value values =>
          rw [Addition.fields, ← Value.objectsOfAll_eq_map]
          rfl
  | embed additions => exact Addition.fieldsOfAll_entriesOfAll additions

theorem Addition.fieldsOfAll_entriesOfAll (additions : List Addition) :
    Entry.fieldsOfAll (Addition.entriesOfAll additions) = Addition.fieldsOfAll additions := by
  cases additions with
  | nil => rfl
  | cons addition rest =>
      rw [Addition.entriesOfAll, Addition.fieldsOfAll, Entry.fieldsOfAll_append,
        Addition.fieldsOfAll_entries addition, Addition.fieldsOfAll_entriesOfAll rest]

end

/--
A value is read back as the object it stands for, alone and among other values inside any margin,
and a dictionary holds what was added to it, in order.
-/
theorem Value.round_trip (value : Value) (plain : value.isPlain) :
    readOne value.bytes = some value.object ∧
      (∀ (before after : List Value) (indent : Nat), Value.arePlain before →
        Value.arePlain after →
        readAll (Mark.render ⟨indent, false⟩ (Value.marksOfAll (before ++ value :: after))) =
          some (before.map Value.object ++ value.object :: after.map Value.object)) ∧
      ∀ additions : List Addition, value = .dict (Addition.entriesOfAll additions) →
        readOne value.bytes = some (.dict (Addition.fieldsOfAll additions)) := by
  have alone := value.readOne_bytes plain
  refine ⟨alone, ?_, ?_⟩
  · intro before after indent plainBefore plainAfter
    have allPlain : Value.arePlain (before ++ value :: after) := by
      rw [Value.arePlain_append, Value.arePlain, plainBefore, plain, plainAfter]
      rfl
    rw [Value.readAll_render _ allPlain, List.map_append, List.map_cons]
  · intro additions built
    rw [alone, built, Value.object, Addition.fieldsOfAll_entriesOfAll]

/-- Additions that put every kind of token next to tokens that it could run into. -/
def crowdedAdditions : List Addition :=
  [.field "" (.arr [.int 1, .int 2, .ref (.first 3), .name "", .dict [], .digest [0xAB],
      .dict [.items "K" []], .str [0x28, 0x5C, 0x0A], .real .nan, .null]),
    .optional "B" none, .unlessEmpty "C" [],
    .embed [.optional "A#" (some (.bool true)), .unlessEmpty "D" [.int (-5), .ref ⟨7, 1⟩]]]

theorem Value.round_trip_crowded :
    readOne (Value.dict (Addition.entriesOfAll crowdedAdditions)).bytes = some (.dict
      [([], .arr [.number [0x31] (some 1), .number [0x32] (some 2), .ref 3 0, .name [], .dict [],
          .hex [0xAB], .dict [([0x4B], .arr [])], .str [0x28, 0x5C, 0x0A],
          .number [0x30] (some 0), .null]),
        ([0x41, 0x23], .bool true),
        ([0x44], .arr [.number [0x2D, 0x35] (some (-5)), .ref 7 1])]) :=
  (Value.round_trip (.dict (Addition.entriesOfAll crowdedAdditions)) rfl).2.2
    crowdedAdditions rfl

end Folio
