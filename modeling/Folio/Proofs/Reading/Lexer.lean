import Folio.Proofs.Digits

/-!
A reader of the file format, first half: bytes group into tokens. The reader knows nothing of how
this library writes. It takes comments, nested parentheses, line continuations and all escapes,
whether they are ever written or not.
-/

namespace Folio

namespace Reading

inductive Token where
  | word (text : Bytes)
  | name (bytes : Bytes)
  | str (bytes : Bytes)
  | hex (bytes : Bytes)
  | openArray
  | closeArray
  | openDict
  | closeDict
deriving DecidableEq, Repr

def isWhite (byte : UInt8) : Bool :=
  [0, 9, 10, 12, 13, 32].contains byte

def isDelimiter (byte : UInt8) : Bool :=
  [0x28, 0x29, 0x3C, 0x3E, 0x5B, 0x5D, 0x7B, 0x7D, 0x2F, 0x25].contains byte

/-- A byte that goes on with the word or the name before it. -/
def isRegular (byte : UInt8) : Bool :=
  !isWhite byte && !isDelimiter byte

def hexDigit? (byte : UInt8) : Option Nat :=
  if isDigit byte then some (byte.toNat - 48)
  else if 65 ≤ byte && byte ≤ 70 then some (byte.toNat - 55)
  else if 97 ≤ byte && byte ≤ 102 then some (byte.toNat - 87)
  else none

def octalDigit? (byte : UInt8) : Option Nat :=
  if 48 ≤ byte && byte ≤ 55 then some (byte.toNat - 48) else none

inductive Mode where
  | blank
  | comment
  | word (text : Bytes)
  | name (bytes : Bytes)
  | nameHigh (bytes : Bytes)
  | nameLow (bytes : Bytes) (high : Nat)
  | str (depth : Nat) (bytes : Bytes)
  /-- A string right after a carriage return, which a line feed may complete. -/
  | strReturn (depth : Nat) (bytes : Bytes)
  | escape (depth : Nat) (bytes : Bytes)
  /-- An octal escape with `more` digits to come after the next one. -/
  | octal (depth : Nat) (bytes : Bytes) (more value : Nat)
  | hexHigh (bytes : Bytes)
  | hexLow (bytes : Bytes) (high : Nat)
  | less
  | greater
deriving DecidableEq, Repr

structure Lexer where
  tokens : List Token
  mode : Mode
deriving DecidableEq, Repr

namespace Lexer

def start : Lexer :=
  ⟨[], .blank⟩

def stepBlank (tokens : List Token) (byte : UInt8) : Option Lexer :=
  if isWhite byte then some ⟨tokens, .blank⟩
  else if byte = 0x25 then some ⟨tokens, .comment⟩
  else if byte = 0x2F then some ⟨tokens, .name []⟩
  else if byte = 0x28 then some ⟨tokens, .str 0 []⟩
  else if byte = 0x3C then some ⟨tokens, .less⟩
  else if byte = 0x3E then some ⟨tokens, .greater⟩
  else if byte = 0x5B then some ⟨tokens ++ [.openArray], .blank⟩
  else if byte = 0x5D then some ⟨tokens ++ [.closeArray], .blank⟩
  else if isDelimiter byte then none
  else some ⟨tokens, .word [byte]⟩

/-- A byte of a literal string, inside `depth` pairs of parentheses of its own. -/
def stepString (tokens : List Token) (depth : Nat) (bytes : Bytes) (byte : UInt8) : Lexer :=
  if byte = 0x5C then ⟨tokens, .escape depth bytes⟩
  else if byte = 0x28 then ⟨tokens, .str (depth + 1) (bytes ++ [byte])⟩
  else if byte = 0x29 then
    match depth with
    | 0 => ⟨tokens ++ [.str bytes], .blank⟩
    | depth + 1 => ⟨tokens, .str depth (bytes ++ [byte])⟩
  else if byte = 13 then ⟨tokens, .strReturn depth (bytes ++ [10])⟩
  else ⟨tokens, .str depth (bytes ++ [byte])⟩

def stepEscape (tokens : List Token) (depth : Nat) (bytes : Bytes) (byte : UInt8) : Lexer :=
  match octalDigit? byte with
  | some digit => ⟨tokens, .octal depth bytes 1 digit⟩
  | none =>
      if byte = 10 then ⟨tokens, .str depth bytes⟩
      else if byte = 13 then ⟨tokens, .strReturn depth bytes⟩
      else if byte = 0x6E then ⟨tokens, .str depth (bytes ++ [10])⟩
      else if byte = 0x72 then ⟨tokens, .str depth (bytes ++ [13])⟩
      else if byte = 0x74 then ⟨tokens, .str depth (bytes ++ [9])⟩
      else if byte = 0x62 then ⟨tokens, .str depth (bytes ++ [8])⟩
      else if byte = 0x66 then ⟨tokens, .str depth (bytes ++ [12])⟩
      else ⟨tokens, .str depth (bytes ++ [byte])⟩

def stepOctal (tokens : List Token) (depth : Nat) (bytes : Bytes) (more value : Nat)
    (byte : UInt8) : Lexer :=
  match octalDigit? byte, more with
  | some digit, 0 => ⟨tokens, .str depth (bytes ++ [UInt8.ofNat (value * 8 + digit)])⟩
  | some digit, more + 1 => ⟨tokens, .octal depth bytes more (value * 8 + digit)⟩
  | none, _ => stepString tokens depth (bytes ++ [UInt8.ofNat value]) byte

def stepHex (tokens : List Token) (bytes : Bytes) (byte : UInt8) : Option Lexer :=
  if byte = 0x3E then some ⟨tokens ++ [.hex bytes], .blank⟩
  else if isWhite byte then some ⟨tokens, .hexHigh bytes⟩
  else (hexDigit? byte).map fun high => ⟨tokens, .hexLow bytes high⟩

def step (lexer : Lexer) (byte : UInt8) : Option Lexer :=
  match lexer with
  | ⟨tokens, .blank⟩ => stepBlank tokens byte
  | ⟨tokens, .comment⟩ =>
      some ⟨tokens, if byte = 10 ∨ byte = 13 then .blank else .comment⟩
  | ⟨tokens, .word text⟩ =>
      if isRegular byte then some ⟨tokens, .word (text ++ [byte])⟩
      else stepBlank (tokens ++ [.word text]) byte
  | ⟨tokens, .name bytes⟩ =>
      if byte = 0x23 then some ⟨tokens, .nameHigh bytes⟩
      else if isRegular byte then some ⟨tokens, .name (bytes ++ [byte])⟩
      else stepBlank (tokens ++ [.name bytes]) byte
  | ⟨tokens, .nameHigh bytes⟩ =>
      (hexDigit? byte).map fun high => ⟨tokens, .nameLow bytes high⟩
  | ⟨tokens, .nameLow bytes high⟩ =>
      (hexDigit? byte).map fun low => ⟨tokens, .name (bytes ++ [UInt8.ofNat (high * 16 + low)])⟩
  | ⟨tokens, .str depth bytes⟩ => some (stepString tokens depth bytes byte)
  | ⟨tokens, .strReturn depth bytes⟩ =>
      if byte = 10 then some ⟨tokens, .str depth bytes⟩
      else some (stepString tokens depth bytes byte)
  | ⟨tokens, .escape depth bytes⟩ => some (stepEscape tokens depth bytes byte)
  | ⟨tokens, .octal depth bytes more value⟩ =>
      some (stepOctal tokens depth bytes more value byte)
  | ⟨tokens, .hexHigh bytes⟩ => stepHex tokens bytes byte
  | ⟨tokens, .hexLow bytes high⟩ =>
      if byte = 0x3E then some ⟨tokens ++ [.hex (bytes ++ [UInt8.ofNat (high * 16)])], .blank⟩
      else if isWhite byte then some ⟨tokens, .hexLow bytes high⟩
      else (hexDigit? byte).map fun low =>
        ⟨tokens, .hexHigh (bytes ++ [UInt8.ofNat (high * 16 + low)])⟩
  | ⟨tokens, .less⟩ =>
      if byte = 0x3C then some ⟨tokens ++ [.openDict], .blank⟩ else stepHex tokens [] byte
  | ⟨tokens, .greater⟩ =>
      if byte = 0x3E then some ⟨tokens ++ [.closeDict], .blank⟩ else none

def run (lexer : Lexer) : Bytes → Option Lexer
  | [] => some lexer
  | byte :: rest => (lexer.step byte).bind fun next => next.run rest

/-- The tokens at the end of the text, unless one is still open. -/
def finish : Lexer → Option (List Token)
  | ⟨tokens, .blank⟩ => some tokens
  | ⟨tokens, .comment⟩ => some tokens
  | ⟨tokens, .word text⟩ => some (tokens ++ [.word text])
  | ⟨tokens, .name bytes⟩ => some (tokens ++ [.name bytes])
  | _ => none

end Lexer

def tokens? (bytes : Bytes) : Option (List Token) :=
  (Lexer.start.run bytes).bind Lexer.finish

namespace Lexer

@[simp] theorem run_nil (lexer : Lexer) : lexer.run [] = some lexer := rfl

theorem run_cons (lexer : Lexer) (byte : UInt8) (rest : Bytes) :
    lexer.run (byte :: rest) = (lexer.step byte).bind fun next => next.run rest := rfl

theorem run_append (lexer : Lexer) (first second : Bytes) :
    lexer.run (first ++ second) = (lexer.run first).bind fun next => next.run second := by
  induction first generalizing lexer with
  | nil => rfl
  | cons byte first ih =>
      rw [List.cons_append, run_cons, run_cons]
      cases lexer.step byte with
      | none => rfl
      | some next => exact ih next

theorem run_append_of_run {lexer middle : Lexer} {first second : Bytes}
    (ran : lexer.run first = some middle) : lexer.run (first ++ second) = middle.run second := by
  rw [run_append, ran, Option.bind_some]

def after (before : List Token) (lexer : Lexer) : Lexer :=
  ⟨before ++ lexer.tokens, lexer.mode⟩

theorem after_mk (before tokens : List Token) (mode : Mode) :
    after before ⟨tokens, mode⟩ = ⟨before ++ tokens, mode⟩ := rfl

theorem stepBlank_after (before tokens : List Token) (byte : UInt8) :
    stepBlank (before ++ tokens) byte = (stepBlank tokens byte).map (after before) := by
  simp only [stepBlank, apply_ite (Option.map (after before)), Option.map_some, Option.map_none,
    after_mk, List.append_assoc]

theorem stepString_after (before tokens : List Token) (depth : Nat) (bytes : Bytes)
    (byte : UInt8) :
    stepString (before ++ tokens) depth bytes byte =
      after before (stepString tokens depth bytes byte) := by
  cases depth with
  | zero =>
      simp only [stepString, apply_ite (after before), after_mk, List.append_assoc]
  | succ depth =>
      simp only [stepString, apply_ite (after before), after_mk]

theorem stepEscape_after (before tokens : List Token) (depth : Nat) (bytes : Bytes)
    (byte : UInt8) :
    stepEscape (before ++ tokens) depth bytes byte =
      after before (stepEscape tokens depth bytes byte) := by
  rw [stepEscape, stepEscape]
  cases octalDigit? byte with
  | some digit => rfl
  | none => simp only [apply_ite (after before), after_mk]

theorem stepOctal_after (before tokens : List Token) (depth : Nat) (bytes : Bytes)
    (more value : Nat) (byte : UInt8) :
    stepOctal (before ++ tokens) depth bytes more value byte =
      after before (stepOctal tokens depth bytes more value byte) := by
  cases digit : octalDigit? byte with
  | none =>
      simp only [stepOctal, digit]
      exact stepString_after before tokens depth _ byte
  | some digit =>
      cases more with
      | zero => simp only [stepOctal, digit, after_mk]
      | succ more => simp only [stepOctal, digit, after_mk]

theorem stepHex_after (before tokens : List Token) (bytes : Bytes) (byte : UInt8) :
    stepHex (before ++ tokens) bytes byte = (stepHex tokens bytes byte).map (after before) := by
  simp only [stepHex, apply_ite (Option.map (after before)), Option.map_some, Option.map_map,
    after_mk, List.append_assoc, Function.comp_def]

theorem step_after (before : List Token) (lexer : Lexer) (byte : UInt8) :
    (after before lexer).step byte = (lexer.step byte).map (after before) := by
  obtain ⟨tokens, mode⟩ := lexer
  cases mode with
  | blank => exact stepBlank_after before tokens byte
  | comment => rfl
  | word text =>
      simp only [after_mk, step, List.append_assoc, stepBlank_after,
        apply_ite (Option.map (after before)), Option.map_some]
  | name bytes =>
      simp only [after_mk, step, List.append_assoc, stepBlank_after,
        apply_ite (Option.map (after before)), Option.map_some]
  | nameHigh bytes => simp only [after_mk, step, Option.map_map, Function.comp_def]
  | nameLow bytes high => simp only [after_mk, step, Option.map_map, Function.comp_def]
  | str depth bytes => simp only [after_mk, step, stepString_after, Option.map_some]
  | strReturn depth bytes =>
      simp only [after_mk, step, stepString_after, apply_ite (Option.map (after before)),
        Option.map_some]
  | escape depth bytes => simp only [after_mk, step, stepEscape_after, Option.map_some]
  | octal depth bytes more value =>
      simp only [after_mk, step, stepOctal_after, Option.map_some]
  | hexHigh bytes => exact stepHex_after before tokens bytes byte
  | hexLow bytes high =>
      simp only [after_mk, step, apply_ite (Option.map (after before)), Option.map_some,
        Option.map_map, List.append_assoc, Function.comp_def]
  | less =>
      simp only [after_mk, step, stepHex_after, apply_ite (Option.map (after before)),
        Option.map_some, List.append_assoc]
  | greater =>
      simp only [after_mk, step, apply_ite (Option.map (after before)), Option.map_some,
        Option.map_none, List.append_assoc]

theorem run_after (before : List Token) (lexer : Lexer) (bytes : Bytes) :
    (after before lexer).run bytes = (lexer.run bytes).map (after before) := by
  induction bytes generalizing lexer with
  | nil => rfl
  | cons byte bytes ih =>
      rw [run_cons, run_cons, step_after]
      cases lexer.step byte with
      | none => rfl
      | some next => exact ih next

theorem tokens_prefix_of_run {lexer after : Lexer} {bytes : Bytes}
    (ran : lexer.run bytes = some after) : lexer.tokens <+: after.tokens := by
  have split : lexer = Lexer.after lexer.tokens ⟨[], lexer.mode⟩ := by
    rw [after_mk, List.append_nil]
  rw [split, run_after] at ran
  obtain ⟨own, -, rfl⟩ := Option.map_eq_some_iff.mp ran
  exact List.prefix_append _ _

/-- A lexer whose open token, if there is one, would end here and complete `tokens`. -/
inductive EndsWith : Lexer → List Token → Prop
  | blank (tokens : List Token) : EndsWith ⟨tokens, .blank⟩ tokens
  | word (tokens : List Token) (text : Bytes) :
      EndsWith ⟨tokens, .word text⟩ (tokens ++ [.word text])
  | name (tokens : List Token) (bytes : Bytes) :
      EndsWith ⟨tokens, .name bytes⟩ (tokens ++ [.name bytes])

theorem EndsWith.finish {lexer : Lexer} {tokens : List Token} (ends : lexer.EndsWith tokens) :
    lexer.finish = some tokens := by
  cases ends with
  | blank => rfl
  | word => rfl
  | name => rfl

theorem EndsWith.step {lexer : Lexer} {tokens : List Token} {byte : UInt8}
    (ends : lexer.EndsWith tokens) (irregular : isRegular byte = false) :
    lexer.step byte = stepBlank tokens byte := by
  cases ends with
  | blank => rfl
  | word text =>
      rw [Lexer.step, irregular]
      rfl
  | name bytes =>
      have notSign : byte ≠ 0x23 := by
        intro sign
        rw [sign] at irregular
        exact absurd irregular (by decide)
      rw [Lexer.step, if_neg notSign, irregular]
      rfl

theorem EndsWith.run_cons {lexer : Lexer} {tokens : List Token} {byte : UInt8} {rest : Bytes}
    (ends : lexer.EndsWith tokens) (irregular : isRegular byte = false) :
    lexer.run (byte :: rest) = Lexer.run ⟨tokens, .blank⟩ (byte :: rest) := by
  rw [Lexer.run_cons, Lexer.run_cons, ends.step irregular]
  rfl

end Lexer

end Reading

end Folio
