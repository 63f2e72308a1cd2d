import Folio.Single

/-!
A notation for records: fields of a name and a value in parentheses, which the name of the record
may precede, with lists, maps, texts, numbers and optional values.
-/

namespace Folio

namespace Record

abbrev Reader := StateT (List Char) Option

def isBlank (char : Char) : Bool :=
  char == ' ' || char == '\n' || char == '\t' || char == '\r'

/-- Where in the space between tokens a reader stands. -/
inductive Space where
  | blanks
  | line
  | block (depth : Nat)
deriving DecidableEq, Repr

/-- What follows blanks and comments; a comment between delimiters must be closed. -/
def afterBlanks : Space → List Char → Option (List Char)
  | .blanks, '/' :: '/' :: rest => afterBlanks .line rest
  | .blanks, '/' :: '*' :: rest => afterBlanks (.block 0) rest
  | .blanks, '/' :: _ => none
  | .blanks, char :: rest =>
      if isBlank char then afterBlanks .blanks rest else some (char :: rest)
  | .line, '\n' :: rest => afterBlanks .blanks rest
  | .line, _ :: rest => afterBlanks .line rest
  | .block depth, '/' :: '*' :: rest => afterBlanks (.block (depth + 1)) rest
  | .block 0, '*' :: '/' :: rest => afterBlanks .blanks rest
  | .block (depth + 1), '*' :: '/' :: rest => afterBlanks (.block depth) rest
  | .block depth, _ :: rest => afterBlanks (.block depth) rest
  | .block _, [] => none
  | _, [] => some []

def blanks : Reader Unit := do
  match afterBlanks .blanks (← get) with
  | some rest => set rest
  | none => failure

/-- Whether the text goes on with a word; if so the word is passed. -/
def word (word : String) : Reader Bool := do
  let text ← get
  if word.toList.isPrefixOf text then
    set (text.drop word.length)
    return true
  else return false

def expect (token : String) : Reader Unit := do
  if !(← word token) then failure

/-- Whether a comma follows; blanks around it are passed. -/
def comma : Reader Bool := do
  blanks
  if ← word "," then
    blanks
    return true
  else return false

def startsName (char : Char) : Bool :=
  ('a' ≤ char && char ≤ 'z') || ('A' ≤ char && char ≤ 'Z') || char == '_'

def continuesName (char : Char) : Bool :=
  startsName char || ('0' ≤ char && char ≤ '9')

def continuesRawName (char : Char) : Bool :=
  continuesName char || char == '.' || char == '+' || char == '-'

def takeWhile (holds : Char → Bool) : Reader (List Char) := do
  let text ← get
  set (text.dropWhile holds)
  return text.takeWhile holds

/-- A name; a raw one follows `r#`, and what opens a raw text is no name. -/
def name : Reader (List Char) := do
  match ← get with
  | ['r'] => failure
  | 'r' :: '"' :: _ => failure
  | 'r' :: '#' :: rest =>
      if rest.head?.any continuesRawName then
        set rest
        takeWhile continuesRawName
      else failure
  | char :: _ => if startsName char then takeWhile continuesName else failure
  | [] => failure

/-- Whether the text goes on with a word that is not the start of a longer name. -/
def wholeWord (token : String) : Reader Bool := do
  let text ← get
  if token.toList.isPrefixOf text && !(text.drop token.length).head?.any continuesName then
    word token
  else return false

def hexDigit? (char : Char) : Option Nat :=
  if '0' ≤ char && char ≤ '9' then some (char.toNat - 48)
  else if 'a' ≤ char && char ≤ 'f' then some (char.toNat - 87)
  else if 'A' ≤ char && char ≤ 'F' then some (char.toNat - 55)
  else none

def next : Reader Char := do
  match ← get with
  | char :: rest =>
      set rest
      return char
  | [] => failure

def hexValue? (digits : List Char) : Option Nat :=
  digits.foldlM (fun value digit => (hexDigit? digit).map (value * 16 + ·)) 0

def escape : Reader Char := do
  let char ← next
  if char = '\'' || char = '"' || char = '\\' then return char
  else if char = 'n' then return '\n'
  else if char = 'r' then return '\r'
  else if char = 't' then return '\t'
  else if char = 'x' then
    let high ← next
    let low ← next
    match hexValue? [high, low] with
    | some point => return Char.ofNat point
    | none => failure
  else if char = 'u' then
    expect "\x7b"
    let digits ← takeWhile fun digit => digit != '\x7d'
    expect "\x7d"
    if digits.isEmpty || 6 < digits.length then failure
    else
      match hexValue? digits with
      | some point => if point.isValidChar then return Char.ofNat point else failure
      | none => failure
  else failure

/-- The rest of a text up to its closing quote, with at most `count` characters. -/
def quotedRest : (count : Nat) → Reader (List Char)
  | 0 => failure
  | count + 1 => do
      let char ← next
      if char = '"' then return []
      else if char = '\\' then
        let char ← escape
        return char :: (← quotedRest count)
      else return char :: (← quotedRest count)

/-- The rest of a raw text up to a quote and as many number signs as came before it. -/
def rawRest (ending : List Char) : (count : Nat) → Reader (List Char)
  | 0 => failure
  | count + 1 => do
      if ending.isPrefixOf (← get) then
        set ((← get).drop ending.length)
        return []
      else
        let char ← next
        return char :: (← rawRest ending count)

def text : Reader String := do
  let length := (← get).length
  if ← word "\"" then return String.ofList (← quotedRest length)
  else if ← word "r" then
    let signs ← takeWhile (· == '#')
    expect "\""
    return String.ofList (← rawRest ('"' :: signs) length)
  else failure

def character : Reader Char := do
  expect "'"
  let char ← next
  let char ← if char = '\\' then escape else if char = '\'' then failure else pure char
  expect "'"
  return char

def continuesWhole (char : Char) : Bool :=
  (hexDigit? char).isSome || char == '_'

/-- A whole number up to `limit`; a base may precede its digits, underscores may stand between. -/
def whole (limit : Nat) : Reader Nat := do
  let base ←
    if ← word "0x" then pure 16
    else if ← word "0b" then pure 2
    else if ← word "0o" then pure 8
    else pure 10
  let digits ← takeWhile continuesWhole
  if digits.isEmpty || digits.head? = some '_' then failure
  else
    let value := (digits.filter (· != '_')).foldlM (fun value digit => do
      let digit ← hexDigit? digit
      if digit < base then some (value * base + digit) else none) 0
    match value with
    | some value => if value ≤ limit then return value else failure
    | none => failure

def isDigit (char : Char) : Bool :=
  '0' ≤ char && char ≤ '9'

def continuesReal (char : Char) : Bool :=
  isDigit char || char == 'e' || char == 'E' || char == '+' || char == '-' || char == '.'

def digitsValue (digits : List Char) : Nat :=
  digits.foldl (fun value digit => value * 10 + (digit.toNat - 48)) 0

def splitSign : List Char → Bool × List Char
  | '+' :: rest => (false, rest)
  | '-' :: rest => (true, rest)
  | rest => (false, rest)

def exponent? : List Char → Option Int
  | [] => some 0
  | mark :: rest =>
      let (negative, digits) := splitSign rest
      if (mark == 'e' || mark == 'E') && !digits.isEmpty && digits.all isDigit then
        some (if negative then -(digitsValue digits : Int) else digitsValue digits)
      else none

/-- The number that a decimal with an optional point and exponent spells. -/
def single? (chars : List Char) : Option Single := do
  let (negative, chars) := splitSign chars
  let before := chars.takeWhile isDigit
  let chars := chars.dropWhile isDigit
  let (after, chars) := match chars with
    | '.' :: rest => (rest.takeWhile isDigit, rest.dropWhile isDigit)
    | chars => ([], chars)
  let exponent ← exponent? chars
  if before.isEmpty && after.isEmpty then none
  else
    some (Single.ofDecimal negative (digitsValue (before ++ after)) (exponent - after.length))

def real : Reader Single := do
  if ← wholeWord "inf" then return Single.infinity false
  else if ← wholeWord "-inf" then return Single.infinity true
  else if ← wholeWord "NaN" then return Single.nan
  else
    match single? (← takeWhile continuesReal) with
    | some number => return number
    | none => failure

def anyNumber : Reader Unit := do
  let start ← get
  let unsigned := (splitSign start).2
  let realLength := (unsigned.takeWhile continuesReal).length
  let wholeLength := (unsigned.takeWhile continuesWhole).length
  if wholeLength < realLength then discard real
  else
    let limit := if start.head? = some '-' then 1 <<< 127
      else if start.head? = some '+' then (1 <<< 127) - 1
      else (1 <<< 128) - 1
    match (whole limit).run unsigned with
    | some (_, rest) => set rest
    | none => discard real

def truth : Reader Bool := do
  if ← word "true" then return true
  else if ← word "false" then return false
  else failure

/--
An optional value. Under `bare` a value stands for itself; otherwise it follows `Some`, in
parentheses.
-/
def optional {α : Type} (bare : Bool) (value : Reader α) : Reader (Option α) := do
  if ← word "None" then return none
  else if bare then return some (← value)
  else
    expect "Some"
    blanks
    expect "("
    blanks
    let found ← value
    blanks
    expect ")"
    return some found

/-- Whether another element follows: the last one had a comma and the list is not closed. -/
def more (closing : Char) (hadComma : Bool) : Reader Bool := do
  blanks
  if !hadComma then return false
  else
    match ← get with
    | char :: _ => return char != closing
    | [] => failure

/-- The fields of a record up to its closing parenthesis, at most `count` of them. -/
def fields {σ : Type} (field : List Char → σ → Reader σ) : (count : Nat) → Bool → σ → Reader σ
  | 0, _, _ => failure
  | count + 1, hadComma, state => do
      if ← more ')' hadComma then
        let key ← name
        blanks
        expect ":"
        blanks
        let state ← field key state
        let hadComma ← comma
        fields field count hadComma state
      else return state

/-- A record: its name, which may be left out, and its fields in parentheses. -/
def record {σ : Type} (title : String) (field : List Char → σ → Reader σ) (start : σ) :
    Reader σ := do
  discard (word title)
  blanks
  expect "("
  let state ← fields field ((← get).length + 1) true start
  discard comma
  expect ")"
  return state

/-- Whether what follows an opening parenthesis is a list of values and not of fields. -/
def opensTuple : Reader Bool := do
  let start ← get
  match name.run start with
  | none => return true
  | some (_, rest) =>
      match afterBlanks .blanks rest with
      | some (char :: _) => return char != ':'
      | _ => failure

mutual

def anyValue (bare : Bool) : (fuel : Nat) → Reader Unit
  | 0 => failure
  | fuel + 1 => do
      if ← wholeWord "true" then return ()
      else if ← wholeWord "false" then return ()
      else if ← wholeWord "Some" then
        if bare then failure
        else
          blanks
          expect "("
          blanks
          anyValue bare fuel
          blanks
          expect ")"
      else if ← wholeWord "None" then return ()
      else if ← word "()" then return ()
      else if ← wholeWord "inf" then return ()
      else if ← wholeWord "-inf" then return ()
      else if ← wholeWord "NaN" then return ()
      else
        match name.run (← get) with
        | some (_, rest) =>
            set rest
            blanks
            if (← get).head? = some '(' then anyGroup bare fuel else return ()
        | none =>
            match ← get with
            | '(' :: _ => anyGroup bare fuel
            | '[' :: rest =>
                set rest
                anyItems bare ']' fuel true
                discard comma
                expect "]"
            | '\x7b' :: rest =>
                set rest
                anyPairs bare '\x7d' fuel true
                discard comma
                expect "\x7d"
            | '.' :: _ => discard real
            | '"' :: _ => discard text
            | 'r' :: _ => discard text
            | '\'' :: _ => discard character
            | char :: _ =>
                if isDigit char || char == '+' || char == '-' then anyNumber else failure
            | [] => failure

def anyGroup (bare : Bool) : (fuel : Nat) → Reader Unit
  | 0 => failure
  | fuel + 1 => do
      expect "("
      let start ← get
      blanks
      let tuple ← opensTuple
      set start
      if tuple then anyItems bare ')' fuel true else anyPairs bare ')' fuel true
      discard comma
      expect ")"

def anyItems (bare : Bool) (closing : Char) : (fuel : Nat) → Bool → Reader Unit
  | 0, _ => failure
  | fuel + 1, hadComma => do
      if ← more closing hadComma then
        anyValue bare fuel
        let hadComma ← comma
        anyItems bare closing fuel hadComma
      else return ()

/-- Passes keys with values up to a closing character; keys of fields are names. -/
def anyPairs (bare : Bool) (closing : Char) : (fuel : Nat) → Bool → Reader Unit
  | 0, _ => failure
  | fuel + 1, hadComma => do
      if ← more closing hadComma then
        if closing = ')' then discard name else anyValue bare fuel
        blanks
        expect ":"
        blanks
        anyValue bare fuel
        let hadComma ← comma
        anyPairs bare closing fuel hadComma
      else return ()

end

def tokens : List String → Reader Unit
  | [] => return ()
  | token :: rest => do
      expect token
      blanks
      tokens rest

/-- The names in an attribute; tells whether one allows optional values without `Some`. -/
def extensionNames : (count : Nat) → Bool → Reader Bool
  | 0, _ => failure
  | count + 1, bare => do
      let found := String.ofList (← name)
      let bare ←
        if found = "implicit_some" then pure true
        else if found = "unwrap_newtypes" then pure bare
        else failure
      let hadComma ← comma
      let another := (← get).head?.any continuesName
      if !hadComma && another then failure
      else if hadComma && another then extensionNames count bare
      else return bare

def extensions : (count : Nat) → Bool → Reader Bool
  | 0, _ => failure
  | count + 1, bare => do
      if (← get).head? = some '#' then
        tokens ["#", "!", "[", "enable", "("]
        let bare ← extensionNames (← get).length bare
        blanks
        tokens [")", "]"]
        extensions count bare
      else return bare

end Record

end Folio
