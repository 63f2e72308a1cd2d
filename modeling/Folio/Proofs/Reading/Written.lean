import Folio.Proofs.Margin
import Folio.Proofs.Reading.Numeral

/-!
The tokens of a value that is written where other values stand before it. Neither the margin nor a
blank that is left out lets two tokens run together.
-/

namespace Folio

open Reading

mutual

def Value.isPlain : Value → Bool
  | .arr items => Value.arePlain items
  | .dict entries => Entry.arePlain entries
  | .verbatim _ => false
  | _ => true

def Value.arePlain : List Value → Bool
  | [] => true
  | value :: rest => value.isPlain && Value.arePlain rest

def Entry.isPlain : Entry → Bool
  | .field _ value => value.isPlain
  | .items _ values => Value.arePlain values
  | .raw _ => false

def Entry.arePlain : List Entry → Bool
  | [] => true
  | entry :: rest => entry.isPlain && Entry.arePlain rest

end

mutual

def Value.tokens : Value → List Token
  | .null => [.word (utf8 "null")]
  | .bool value => [.word (utf8 (if value then "true" else "false"))]
  | .int value => [.word (signedDecimal value)]
  | .real value => [.word value.token]
  | .str bytes => [.str bytes]
  | .name name => [.name name.bytes]
  | .ref target =>
      [.word (decimal target.number), .word (decimal target.generation.toNat), .word (utf8 "R")]
  | .digest bytes => [.hex bytes]
  | .arr items => .openArray :: Value.tokensOfAll items ++ [.closeArray]
  | .dict entries => .openDict :: Entry.tokensOfAll entries ++ [.closeDict]
  | .verbatim _ => []

def Value.tokensOfAll : List Value → List Token
  | [] => []
  | value :: rest => value.tokens ++ Value.tokensOfAll rest

def Entry.tokens : Entry → List Token
  | .field key value => .name key.bytes :: value.tokens
  | .items key values =>
      .name key.bytes :: .openArray :: Value.tokensOfAll values ++ [.closeArray]
  | .raw _ => []

def Entry.tokensOfAll : List Entry → List Token
  | [] => []
  | entry :: rest => entry.tokens ++ Entry.tokensOfAll rest

end

namespace Reading

/-- A lexer at the end of what was written: no token is open where none is said to be. -/
structure Stands (layout : Layout) (tokens : List Token) (lexer : Lexer) : Prop where
  ends : lexer.EndsWith tokens
  blank : layout.pending = false → lexer = ⟨tokens, .blank⟩

theorem stands_blank (layout : Layout) (tokens : List Token) :
    Stands layout tokens ⟨tokens, .blank⟩ :=
  ⟨.blank tokens, fun _ => rfl⟩

def Closed (bytes : Bytes) (added : List Token) : Prop :=
  ∀ (tokens : List Token) (lexer : Lexer), lexer.EndsWith tokens →
    lexer.run bytes = some ⟨tokens ++ added, .blank⟩

theorem closed_of_run {byte : UInt8} {rest : Bytes} {added : List Token}
    (irregular : isRegular byte = false)
    (ran : ∀ tokens, Lexer.run ⟨tokens, .blank⟩ (byte :: rest) =
      some ⟨tokens ++ added, .blank⟩) : Closed (byte :: rest) added := by
  intro tokens lexer ends
  rw [ends.run_cons irregular]
  exact ran tokens

def Spells (marks : List Mark) (added : List Token) : Prop :=
  ∀ (layout : Layout) (tokens : List Token) (lexer : Lexer), Stands layout tokens lexer →
    ∃ after, lexer.run (Mark.render layout marks) = some after ∧
      Stands (Mark.after layout marks) (tokens ++ added) after

theorem spells_nil : Spells [] [] := by
  intro layout tokens lexer stands
  refine ⟨lexer, rfl, ?_⟩
  rw [List.append_nil]
  exact stands

theorem Spells.append {first second : List Mark} {added more : List Token}
    (spellsFirst : Spells first added) (spellsSecond : Spells second more) :
    Spells (first ++ second) (added ++ more) := by
  intro layout tokens lexer stands
  obtain ⟨middle, ranFirst, standsMiddle⟩ := spellsFirst layout tokens lexer stands
  obtain ⟨after, ranSecond, standsAfter⟩ := spellsSecond _ _ middle standsMiddle
  refine ⟨after, ?_, ?_⟩
  · rw [Mark.render_append, Lexer.run_append_of_run ranFirst, ranSecond]
  · rw [Mark.after_append, ← List.append_assoc]
    exact standsAfter

theorem spells_of_closed {marks : List Mark} {bytes : Bytes} {added : List Token}
    (shown : ∀ layout, Mark.render layout marks = bytes) (closed : Closed bytes added) :
    Spells marks added := by
  intro layout tokens lexer stands
  refine ⟨⟨tokens ++ added, .blank⟩, ?_, stands_blank _ _⟩
  rw [shown]
  exact closed tokens lexer stands.ends

theorem spells_of_silent {marks : List Mark} (shown : ∀ layout, Mark.render layout marks = [])
    (kept : ∀ layout, (Mark.after layout marks).pending = layout.pending) : Spells marks [] := by
  intro layout tokens lexer stands
  refine ⟨lexer, ?_, ?_, ?_⟩
  · rw [shown, Lexer.run_nil]
  · rw [List.append_nil]
    exact stands.ends
  · rw [kept, List.append_nil]
    exact stands.blank

theorem run_blanks (tokens : List Token) (count : Nat) :
    Lexer.run ⟨tokens, .blank⟩ (List.replicate count 32) = some ⟨tokens, .blank⟩ := by
  induction count with
  | zero => rfl
  | succ count ih =>
      rw [List.replicate_succ, Lexer.run_cons]
      exact ih

theorem closed_newline : Closed [10] [] :=
  closed_of_run (by decide) fun tokens => by
    rw [List.append_nil]
    rfl

theorem spells_margin : Spells [.margin] [] := by
  intro layout tokens lexer stands
  rw [List.append_nil]
  show ∃ after, lexer.run (List.replicate layout.indent 32 ++ []) = some after ∧
    Stands layout tokens after
  rw [List.append_nil]
  cases layout.indent with
  | zero => exact ⟨lexer, rfl, stands⟩
  | succ count =>
      refine ⟨⟨tokens, .blank⟩, ?_, stands_blank _ _⟩
      rw [List.replicate_succ, stands.ends.run_cons (by decide), ← List.replicate_succ]
      exact run_blanks tokens (count + 1)

theorem spells_lineIfNested : Spells [.lineIfNested] [] := by
  intro layout tokens lexer stands
  rw [List.append_nil]
  show ∃ after, lexer.run ((if 0 < layout.indent then [10] else []) ++ []) = some after ∧
    Stands layout tokens after
  rw [List.append_nil]
  split
  · refine ⟨⟨tokens, .blank⟩, ?_, stands_blank _ _⟩
    rw [closed_newline tokens lexer stands.ends, List.append_nil]
  · exact ⟨lexer, rfl, stands⟩

theorem spells_word {token : Bytes} {added : List Token}
    (ran : ∀ tokens, ∃ after, Lexer.run ⟨tokens, .blank⟩ token = some after ∧
      after.EndsWith (tokens ++ added)) : Spells (Mark.word token) added := by
  intro layout tokens lexer stands
  obtain ⟨after, ranToken, ends⟩ := ran tokens
  refine ⟨after, ?_, ends, fun pending => Bool.noConfusion pending⟩
  show lexer.run ((if layout.pending then [32] else []) ++ (token ++ ([] ++ []))) = some after
  rw [List.append_nil, List.append_nil]
  cases flag : layout.pending with
  | false =>
      rw [stands.blank flag]
      exact ranToken
  | true =>
      rw [if_pos rfl, List.singleton_append, stands.ends.run_cons (by decide)]
      exact ranToken

theorem spells_regular {token : Bytes} (nonempty : token ≠ [])
    (regular : ∀ byte ∈ token, isRegular byte) : Spells (Mark.word token) [.word token] :=
  spells_word fun tokens => ⟨_, run_word tokens nonempty regular, .word tokens token⟩

theorem spells_ref (target : Ref) :
    Spells (Mark.word target.token)
      [.word (decimal target.number), .word (decimal target.generation.toNat),
        .word (utf8 "R")] := by
  refine spells_word fun tokens => ⟨_, run_refToken tokens target, ?_⟩
  have lastApart : tokens ++ [.word (decimal target.number),
      .word (decimal target.generation.toNat), .word (utf8 "R")] =
      tokens ++ [.word (decimal target.number)] ++ [.word (decimal target.generation.toNat)] ++
        [.word (utf8 "R")] := by simp
  rw [lastApart]
  exact .word _ (utf8 "R")

theorem closed_literalString (bytes : Bytes) : Closed (literalString bytes) [.str bytes] :=
  closed_of_run (by decide) fun tokens => run_literalString tokens bytes

theorem closed_digestToken (bytes : Bytes) : Closed (digestToken bytes) [.hex bytes] :=
  closed_of_run (by decide) fun tokens => run_digestToken tokens bytes

theorem run_nameToken_of_endsWith {lexer : Lexer} {tokens : List Token}
    (ends : lexer.EndsWith tokens) (name : Name) :
    lexer.run name.token = some ⟨tokens, .name name.bytes⟩ := by
  rw [Name.token, ends.run_cons (by decide)]
  exact run_nameToken tokens name

theorem spells_name (name : Name) :
    Spells [.text name.token, .pending true] [.name name.bytes] := by
  intro layout tokens lexer stands
  refine ⟨_, ?_, .name tokens name.bytes, fun pending => Bool.noConfusion pending⟩
  show lexer.run (name.token ++ ([] ++ [])) = _
  rw [List.append_nil, List.append_nil]
  exact run_nameToken_of_endsWith stands.ends name

theorem closed_name_append {bytes : Bytes} {added : List Token} (name : Name)
    (closed : Closed bytes added) : Closed (name.token ++ bytes) (.name name.bytes :: added) := by
  intro tokens lexer ends
  rw [Lexer.run_append_of_run (run_nameToken_of_endsWith ends name),
    closed _ _ (.name tokens name.bytes), List.append_assoc, List.singleton_append]

theorem closed_openArray : Closed (utf8 "[") [.openArray] :=
  closed_of_run (by decide) fun _ => rfl

theorem closed_closeArray : Closed (utf8 "]") [.closeArray] :=
  closed_of_run (by decide) fun _ => rfl

theorem closed_emptyArray : Closed (utf8 "[]") [.openArray, .closeArray] :=
  closed_of_run (by decide) fun tokens => by
    rw [List.append_cons tokens]
    rfl

theorem closed_openDict : Closed (utf8 "<<\n") [.openDict] :=
  closed_of_run (by decide) fun _ => rfl

theorem closed_closeDict : Closed (utf8 ">>") [.closeDict] :=
  closed_of_run (by decide) fun _ => rfl

theorem closed_emptyDict : Closed (utf8 "<< >>") [.openDict, .closeDict] :=
  closed_of_run (by decide) fun tokens => by
    rw [List.append_cons tokens]
    rfl

theorem spells_closed {bytes : Bytes} {added : List Token} (closed : Closed bytes added) :
    Spells [.text bytes, .pending false] added :=
  spells_of_closed (fun _ => List.append_nil bytes) closed

theorem spells_openDict :
    Spells [.lineIfNested, .margin, .text (utf8 "<<\n")] [.openDict] :=
  spells_lineIfNested.append (spells_margin.append
    (spells_of_closed (fun _ => rfl) closed_openDict))

theorem spells_closeDict : Spells [.margin, .text (utf8 ">>"), .pending false] [.closeDict] :=
  spells_margin.append (spells_closed closed_closeDict)

theorem spells_newEntry : Spells [.nest, .margin] [] :=
  (spells_of_silent (fun _ => rfl) (fun _ => rfl) : Spells [.nest] []).append spells_margin

theorem spells_endOfEntry : Spells [.text [10], .unnest] [] :=
  spells_of_closed (fun _ => rfl) closed_newline

theorem spells_keyAndBracket {bytes : Bytes} {added : List Token} (key : Name)
    (closed : Closed bytes added) :
    Spells [.text key.token, .text bytes, .pending false] (.name key.bytes :: added) := by
  refine spells_of_closed (fun layout => ?_) (closed_name_append key closed)
  show key.token ++ (bytes ++ ([] ++ [])) = key.token ++ bytes
  rw [List.append_nil, List.append_nil]

end Reading

mutual

theorem Value.spells (value : Value) (plain : value.isPlain) :
    Spells value.marks value.tokens := by
  cases value with
  | null => exact spells_regular (by decide) (List.all_eq_true.mp (by decide))
  | bool flag =>
      cases flag with
      | false => exact spells_regular (by decide) (List.all_eq_true.mp (by decide))
      | true => exact spells_regular (by decide) (List.all_eq_true.mp (by decide))
  | int number =>
      exact spells_regular (signedDecimal_ne_nil number) (isRegular_of_mem_signedDecimal number)
  | real number =>
      exact spells_regular (ne_nil_of_isNumeral (isNumeral_token number))
        (isRegular_of_isNumeral (isNumeral_token number))
  | str bytes => exact spells_closed (closed_literalString bytes)
  | name name => exact spells_name name
  | ref target => exact spells_ref target
  | digest bytes =>
      exact spells_of_closed (fun _ => List.append_nil _) (closed_digestToken bytes)
  | arr items =>
      cases items with
      | nil => exact spells_closed closed_emptyArray
      | cons item items =>
          rw [Value.isPlain, Value.arePlain, Bool.and_eq_true] at plain
          have first := (spells_closed closed_openArray).append (item.spells plain.1)
          have body := first.append (Value.spells_ofAll items plain.2)
          have whole := body.append (spells_closed closed_closeArray)
          rw [Value.marks, Value.tokens, Value.tokensOfAll]
          rw [List.append_assoc [Token.openArray]] at whole
          exact whole
  | dict entries =>
      cases entries with
      | nil => exact spells_closed closed_emptyDict
      | cons entry entries =>
          rw [Value.isPlain, Entry.arePlain, Bool.and_eq_true] at plain
          have first := spells_openDict.append (entry.spells plain.1)
          have body := first.append (Entry.spells_ofAll entries plain.2)
          have whole := body.append spells_closeDict
          rw [Value.marks, Value.tokens, Entry.tokensOfAll]
          rw [List.append_assoc [Token.openDict]] at whole
          exact whole
  | verbatim bytes => exact Bool.noConfusion plain

theorem Value.spells_ofAll (values : List Value) (plain : Value.arePlain values) :
    Spells (Value.marksOfAll values) (Value.tokensOfAll values) := by
  cases values with
  | nil => exact spells_nil
  | cons value rest =>
      rw [Value.arePlain, Bool.and_eq_true] at plain
      rw [Value.marksOfAll, Value.tokensOfAll]
      exact (value.spells plain.1).append (Value.spells_ofAll rest plain.2)

theorem Entry.spells (entry : Entry) (plain : entry.isPlain) :
    Spells entry.marks entry.tokens := by
  cases entry with
  | field key value =>
      have keyed := spells_newEntry.append (spells_name key)
      have valued := keyed.append (value.spells plain)
      have whole := valued.append spells_endOfEntry
      rw [List.append_nil] at whole
      exact whole
  | items key values =>
      cases values with
      | nil =>
          have keyed := spells_newEntry.append (spells_keyAndBracket key closed_emptyArray)
          have whole := keyed.append spells_endOfEntry
          rw [List.append_nil] at whole
          exact whole
      | cons value values =>
          rw [Entry.isPlain, Value.arePlain, Bool.and_eq_true] at plain
          have keyed := spells_newEntry.append (spells_keyAndBracket key closed_openArray)
          have first := keyed.append (value.spells plain.1)
          have body := first.append (Value.spells_ofAll values plain.2)
          have whole := (body.append (spells_closed closed_closeArray)).append spells_endOfEntry
          rw [List.append_nil] at whole
          rw [Entry.marks, Entry.tokens, Value.tokensOfAll]
          rw [List.append_assoc ([] ++ [Token.name key.bytes, Token.openArray])] at whole
          rw [List.append_assoc _ _ [Mark.text [10], Mark.unnest]] at whole
          exact whole
  | raw bytes => exact Bool.noConfusion plain

theorem Entry.spells_ofAll (entries : List Entry) (plain : Entry.arePlain entries) :
    Spells (Entry.marksOfAll entries) (Entry.tokensOfAll entries) := by
  cases entries with
  | nil => exact spells_nil
  | cons entry rest =>
      rw [Entry.arePlain, Bool.and_eq_true] at plain
      rw [Entry.marksOfAll, Entry.tokensOfAll]
      exact (entry.spells plain.1).append (Entry.spells_ofAll rest plain.2)

end

end Folio
