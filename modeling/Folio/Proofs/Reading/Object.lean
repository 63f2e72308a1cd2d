import Folio.Proofs.Reading.Lexer

/-!
A reader of the file format, second half: tokens nest into objects.
-/

namespace Folio

namespace Reading

/-- An object as a reader sees it: a number keeps its text and says whether it is whole. -/
inductive Object where
  | null
  | bool (value : Bool)
  | number (text : Bytes) (whole? : Option Int)
  | str (bytes : Bytes)
  | hex (bytes : Bytes)
  | name (bytes : Bytes)
  | ref (number generation : Nat)
  | arr (items : List Object)
  | dict (entries : List (Bytes × Object))

def unsigned : Bytes → Bytes
  | [] => []
  | byte :: rest => if byte = 43 ∨ byte = 45 then rest else byte :: rest

def isMagnitude (text : Bytes) : Bool :=
  text.all (fun byte => isDigit byte || byte == 46) && text.any isDigit && text.count 46 ≤ 1

def isNumeral (text : Bytes) : Bool :=
  isMagnitude (unsigned text)

def integer? (text : Bytes) : Option Int :=
  if unsigned text ≠ [] ∧ (unsigned text).all isDigit then
    if text.head? = some 45 then some (-(numberOf (unsigned text) : Int))
    else some (numberOf (unsigned text))
  else none

def Object.ofWord? (text : Bytes) : Option Object :=
  if text = utf8 "null" then some .null
  else if text = utf8 "true" then some (.bool true)
  else if text = utf8 "false" then some (.bool false)
  else if isNumeral text then some (.number text (integer? text))
  else none

inductive Bracket where
  | array
  | dict
deriving DecidableEq

/-- The objects since the innermost open bracket, latest first, and those before each bracket. -/
structure Parser where
  items : List Object
  outer : List (Bracket × List Object)

namespace Parser

def start : Parser :=
  ⟨[], []⟩

def push (parser : Parser) (object : Object) : Parser :=
  { parser with items := object :: parser.items }

def entries? : List Object → Option (List (Bytes × Object))
  | [] => some []
  | .name key :: value :: rest => (entries? rest).map ((key, value) :: ·)
  | _ => none

def stepWord (parser : Parser) (text : Bytes) : Option Parser :=
  if text = utf8 "R" then
    match parser.items with
    | .number _ (some (.ofNat generation)) :: .number _ (some (.ofNat number)) :: rest =>
        some { parser with items := .ref number generation :: rest }
    | _ => none
  else (Object.ofWord? text).map parser.push

def step (parser : Parser) : Token → Option Parser
  | .word text => parser.stepWord text
  | .name bytes => some (parser.push (.name bytes))
  | .str bytes => some (parser.push (.str bytes))
  | .hex bytes => some (parser.push (.hex bytes))
  | .openArray => some ⟨[], (.array, parser.items) :: parser.outer⟩
  | .openDict => some ⟨[], (.dict, parser.items) :: parser.outer⟩
  | .closeArray =>
      match parser.outer with
      | (.array, before) :: outer => some ⟨.arr parser.items.reverse :: before, outer⟩
      | _ => none
  | .closeDict =>
      match parser.outer with
      | (.dict, before) :: outer =>
          (entries? parser.items.reverse).map fun entries => ⟨.dict entries :: before, outer⟩
      | _ => none

def run (parser : Parser) : List Token → Option Parser
  | [] => some parser
  | token :: rest => (parser.step token).bind fun next => next.run rest

/-- The objects at the end of the text, unless a bracket is still open. -/
def finish (parser : Parser) : Option (List Object) :=
  match parser.outer with
  | [] => some parser.items.reverse
  | _ :: _ => none

end Parser

def readAll (bytes : Bytes) : Option (List Object) :=
  (tokens? bytes).bind fun tokens => (Parser.start.run tokens).bind Parser.finish

def readOne (bytes : Bytes) : Option Object :=
  match readAll bytes with
  | some [object] => some object
  | _ => none

namespace Parser

theorem run_append_of_run {parser middle : Parser} {first second : List Token}
    (ran : parser.run first = some middle) : parser.run (first ++ second) = middle.run second := by
  induction first generalizing parser with
  | nil =>
      injection ran with same
      rw [same, List.nil_append]
  | cons token first ih =>
      rw [List.cons_append, run]
      rw [run] at ran
      cases stepped : parser.step token with
      | none =>
          rw [stepped] at ran
          contradiction
      | some next =>
          rw [stepped] at ran
          exact ih ran

end Parser

end Reading

end Folio
