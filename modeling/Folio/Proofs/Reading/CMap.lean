import Folio.CMap.OneByte
import Folio.Proofs.Reading.Numeral
import Folio.Text.Utf16

/-!
A reader of character maps: the sections between `begin` and `end`, and what the map that they
make up says of a code of one byte.
-/

namespace Folio

namespace Reading

structure CMap where
  /-- First and last code of each range of codes. -/
  spaces : List (Bytes × Bytes)
  /-- First and last code, and the identifier of the first. -/
  cids : List (Bytes × Bytes × Int)
  chars : List (Bytes × Bytes)
  /-- First and last code, and the text of the first. -/
  ranges : List (Bytes × Bytes × Bytes)
deriving DecidableEq, Repr

namespace CMap

def empty : CMap :=
  ⟨[], [], [], []⟩

def offset? (first last : Bytes) (code : UInt8) : Option Nat :=
  match first, last with
  | [low], [high] => if low ≤ code ∧ code ≤ high then some (code.toNat - low.toNat) else none
  | _, _ => none

def covers (map : CMap) (code : UInt8) : Bool :=
  map.spaces.any fun space => (offset? space.1 space.2 code).isSome

def cid? (map : CMap) (code : UInt8) : Option Int :=
  if map.covers code then
    map.cids.findSome? fun range =>
      (offset? range.1 range.2.1 code).map fun (offset : Nat) => range.2.2 + (offset : Int)
  else none

/-- A text a few characters on: only its last byte is counted up, and must not overflow. -/
def raise? (text : Bytes) (count : Nat) : Option Bytes :=
  match text.getLast? with
  | none => none
  | some last =>
      if last.toNat + count < 256 then
        some (text.dropLast ++ [UInt8.ofNat (last.toNat + count)])
      else none

def destinations (map : CMap) (code : UInt8) : List (Option Bytes) :=
  ((map.chars.filter fun line => line.1 == [code]).map fun line => some line.2) ++
    map.ranges.filterMap fun range =>
      (offset? range.1 range.2.1 code).map fun offset => raise? range.2.2 offset

def chars? (text : Bytes) : Option (List Char) :=
  (Utf16.unitsOfBytes? text).bind Utf16.decodeUnits?

/-- What a code stands for, if a line says something of it and all lines agree. -/
def text? (map : CMap) (code : UInt8) : Option (List Char) :=
  if map.covers code then
    match map.destinations code with
    | some text :: rest => if rest.all (· == some text) then chars? text else none
    | _ => none
  else none

end CMap

inductive Part where
  | codespace
  | cid
  | char
  | range
deriving DecidableEq, Repr

inductive Operand where
  | number (value : Int)
  | code (bytes : Bytes)
  | other
deriving DecidableEq, Repr

namespace Part

def keyword : Part → Bytes
  | .codespace => utf8 "codespacerange"
  | .cid => utf8 "cidrange"
  | .char => utf8 "bfchar"
  | .range => utf8 "bfrange"

/-- The part that a word opens or closes, with what stands before the keyword. -/
def find? (before text : Bytes) : Option Part :=
  [Part.codespace, .cid, .char, .range].find? fun part => before ++ part.keyword == text

def pairs? : List Operand → Option (List (Bytes × Bytes))
  | [] => some []
  | .code first :: .code second :: rest => (pairs? rest).map ((first, second) :: ·)
  | _ => none

def triples? : List Operand → Option (List (Bytes × Bytes × Bytes))
  | [] => some []
  | .code first :: .code second :: .code third :: rest =>
      (triples? rest).map ((first, second, third) :: ·)
  | _ => none

def cidLines? : List Operand → Option (List (Bytes × Bytes × Int))
  | [] => some []
  | .code first :: .code second :: .number start :: rest =>
      (cidLines? rest).map ((first, second, start) :: ·)
  | _ => none

def counted {α : Type} (count : Int) (lines? : Option (List α)) : Option (List α) :=
  lines?.filter fun lines => (lines.length : Int) == count

def add (part : Part) (count : Int) (operands : List Operand) (map : CMap) : Option CMap :=
  match part with
  | .codespace =>
      (counted count (pairs? operands)).map fun lines =>
        { map with spaces := map.spaces ++ lines }
  | .cid =>
      (counted count (cidLines? operands)).map fun lines => { map with cids := map.cids ++ lines }
  | .char =>
      (counted count (pairs? operands)).map fun lines => { map with chars := map.chars ++ lines }
  | .range =>
      (counted count (triples? operands)).map fun lines =>
        { map with ranges := map.ranges ++ lines }

end Part

/-- Operands since the last operator, latest first, and the section that is open with its count. -/
structure CMapReader where
  operands : List Operand
  open? : Option (Part × Int)
  map : CMap
deriving DecidableEq, Repr

namespace CMapReader

def start : CMapReader :=
  ⟨[], none, .empty⟩

def oneByte : CMapReader :=
  ⟨[], none, ⟨[([0], [255])], [], [], []⟩⟩

def push (reader : CMapReader) (operand : Operand) : CMapReader :=
  { reader with operands := operand :: reader.operands }

/-- A section is announced by its count of lines, of which there may be a hundred. -/
def openPart (reader : CMapReader) (part : Part) : Option CMapReader :=
  match reader.open?, reader.operands with
  | none, .number count :: _ =>
      if 0 ≤ count ∧ count ≤ 100 then
        some { reader with operands := [], open? := some (part, count) }
      else none
  | _, _ => none

def closePart (reader : CMapReader) (part : Part) : Option CMapReader :=
  match reader.open? with
  | some (held, count) =>
      if held = part then
        (part.add count reader.operands.reverse reader.map).map fun map => ⟨[], none, map⟩
      else none
  | none => none

def stepWord (reader : CMapReader) (text : Bytes) : Option CMapReader :=
  if isNumeral text then
    some (reader.push ((integer? text).elim .other .number))
  else
    match Part.find? (utf8 "begin") text with
    | some part => reader.openPart part
    | none =>
        match Part.find? (utf8 "end") text with
        | some part => reader.closePart part
        | none => if reader.open? = none then some { reader with operands := [] } else none

def step (reader : CMapReader) : Token → Option CMapReader
  | .word text => reader.stepWord text
  | .hex bytes => some (reader.push (.code bytes))
  | _ => some (reader.push .other)

def run (reader : CMapReader) (tokens : List Token) : Option CMapReader :=
  tokens.foldlM step reader

def finish (reader : CMapReader) : Option CMap :=
  if reader.open? = none then some reader.map else none

end CMapReader

def cmap? (bytes : Bytes) : Option CMap :=
  (tokens? bytes).bind fun tokens => (CMapReader.start.run tokens).bind CMapReader.finish

namespace CMapReader

theorem run_cons (reader : CMapReader) (token : Token) (rest : List Token) :
    reader.run (token :: rest) = (reader.step token).bind fun next => next.run rest :=
  List.foldlM_cons

theorem run_append_of_run {reader middle : CMapReader} {first second : List Token}
    (ran : reader.run first = some middle) : reader.run (first ++ second) = middle.run second := by
  rw [run] at ran
  rw [run, List.foldlM_append, ran]
  rfl

end CMapReader

/-- A text of whole lines, which reads as the same tokens wherever it stands. -/
def Lines (bytes : Bytes) (added : List Token) : Prop :=
  ∀ tokens, Lexer.run ⟨tokens, .blank⟩ bytes = some ⟨tokens ++ added, .blank⟩

theorem lines_of_run {bytes : Bytes} {added : List Token}
    (ran : Lexer.start.run bytes = some ⟨added, .blank⟩) : Lines bytes added := by
  intro tokens
  have moved := Lexer.run_after tokens Lexer.start bytes
  rw [ran, Option.map_some, Lexer.after_mk, Lexer.start, Lexer.after_mk, List.append_nil] at moved
  exact moved

/-- Whether a text of whole lines takes a reader from the start to a given state. -/
def opens (bytes : Bytes) (reader : CMapReader) : Bool :=
  match Lexer.start.run bytes with
  | some ⟨tokens, .blank⟩ => CMapReader.start.run tokens = some reader
  | _ => false

theorem exists_lines_of_opens {bytes : Bytes} {reader : CMapReader}
    (opened : opens bytes reader) :
    ∃ tokens, Lines bytes tokens ∧ CMapReader.start.run tokens = some reader := by
  rw [opens] at opened
  split at opened
  · next tokens ran => exact ⟨tokens, lines_of_run ran, of_decide_eq_true opened⟩
  · contradiction

theorem lines_nil : Lines [] [] := by
  intro tokens
  rw [Lexer.run_nil, List.append_nil]

theorem Lines.append {first second : Bytes} {added more : List Token}
    (lines : Lines first added) (linesSecond : Lines second more) :
    Lines (first ++ second) (added ++ more) := by
  intro tokens
  rw [Lexer.run_append_of_run (lines tokens), linesSecond, List.append_assoc]

theorem lines_flatMap {α : Type} {line : α → Bytes} {added : α → List Token}
    (lines : ∀ entry, Lines (line entry) (added entry)) (entries : List α) :
    Lines (entries.flatMap line) (entries.flatMap added) := by
  induction entries with
  | nil => exact lines_nil
  | cons entry entries ih =>
      rw [List.flatMap_cons, List.flatMap_cons]
      exact (lines entry).append ih

theorem lines_hex {spell : UInt8 → Bytes} (spells : ∀ byte, HexPair (spell byte) byte)
    (bytes : Bytes) : Lines (0x3C :: bytes.flatMap spell ++ [0x3E]) [.hex bytes] :=
  fun tokens => run_hexString spells tokens bytes

theorem lines_word {text : Bytes} {white : UInt8} (nonempty : text ≠ [])
    (regular : ∀ byte ∈ text, isRegular byte) (blank : isWhite white) :
    Lines (text ++ [white]) [.word text] := by
  intro tokens
  have irregular : isRegular white = false := by
    rw [isRegular, blank]
    rfl
  have ends := Lexer.EndsWith.word tokens text
  rw [Lexer.run_append_of_run (run_word tokens nonempty regular), ends.run_cons irregular,
    Lexer.run_cons, Lexer.step, Lexer.stepBlank, if_pos blank]
  rfl

theorem cmap?_of_lines {bytes : Bytes} {tokens : List Token} {map : CMap}
    (lines : Lines bytes tokens)
    (ran : CMapReader.start.run tokens = some ⟨[], none, map⟩) : cmap? bytes = some map := by
  have lexed : tokens? bytes = some tokens := by
    rw [tokens?, Lexer.start, lines, List.nil_append]
    rfl
  rw [cmap?, lexed, Option.bind_some, ran]
  rfl

theorem CMap.offset?_ofNat {first last : Nat} (ordered : first ≤ last) (bounded : last < 256)
    (code : UInt8) :
    CMap.offset? [UInt8.ofNat first] [UInt8.ofNat last] code =
      if first ≤ code.toNat ∧ code.toNat ≤ last then some (code.toNat - first) else none := by
  have start : (UInt8.ofNat first).toNat = first := by
    rw [UInt8.toNat_ofNat', Nat.mod_eq_of_lt (by omega)]
  have finish : (UInt8.ofNat last).toNat = last := by
    rw [UInt8.toNat_ofNat', Nat.mod_eq_of_lt (by omega)]
  simp only [CMap.offset?, UInt8.le_iff_toNat_le, start, finish]

theorem CMap.covers_of_spaces {map : CMap} (spaces : map.spaces = [([0], [255])]) (code : UInt8) :
    map.covers code := by
  have small : code.toNat < 256 := code.toNat_lt
  have offset := CMap.offset?_ofNat (Nat.zero_le 255) (by decide) code
  rw [if_pos ⟨Nat.zero_le _, Nat.le_of_lt_succ small⟩] at offset
  rw [covers, spaces]
  exact List.any_eq_true.mpr
    ⟨([0], [255]), List.mem_singleton_self _, Option.isSome_iff_exists.mpr ⟨_, offset⟩⟩

end Reading

end Folio
