import Folio.Bytes

/-!
Data that was compressed into blocks, behind a header of two bytes and before a check sum that is
not looked at. The data arrives in parts. A part is read as far as it tells something for sure, and
no further than a limit on the size of the output asks for.
-/

namespace Folio

namespace Inflate

inductive Fault where
  | ended
  | damaged
deriving DecidableEq, Repr

/-- What is left of the input: bits of the byte that was begun, then whole bytes. -/
structure Stream where
  bits : List Bool
  bytes : Bytes
  /-- How many bits were read that have not arrived. -/
  missing : Nat
deriving DecidableEq, Repr

namespace Stream

def bitCount (stream : Stream) : Nat :=
  stream.bits.length + 8 * stream.bytes.length

def has (stream : Stream) (count : Nat) : Bool :=
  count ≤ stream.bits.length + 8 * (stream.bytes.take count).length

def append (stream : Stream) (bytes : Bytes) : Stream :=
  { stream with bytes := stream.bytes ++ bytes }

end Stream

abbrev Reader := StateT Stream (Except Fault)

/-- The next bit; those of a byte come least significant first. Bits that have not arrived are 0. -/
def bit : Reader Nat := do
  match ← get with
  | ⟨next :: bits, bytes, missing⟩ =>
      set (Stream.mk bits bytes missing)
      return next.toNat
  | ⟨[], byte :: bytes, missing⟩ =>
      let bits := (List.range 7).map fun place => byte.toNat.testBit (place + 1)
      set (Stream.mk bits bytes missing)
      return byte.toNat % 2
  | ⟨[], [], missing⟩ =>
      set (Stream.mk [] [] (missing + 1))
      return 0

def number : (count : Nat) → Reader Nat
  | 0 => return 0
  | count + 1 => do
      let low ← bit
      return low + 2 * (← number count)

def await (count : Nat) : Reader Unit := do
  if !(← get).has count then throw .ended

def settle : Reader Unit := do
  if 0 < (← get).missing then throw .ended

/-- The symbols with code words of one bit, of two bits and so on, in the order of the words. -/
abbrev Code := List (Array Nat)

/-- The code whose words have the given lengths, symbol by symbol; zero is for no word. -/
def codeOf (lengths : List Nat) : Code :=
  (List.range 15).map fun shorter =>
    (lengths.zipIdx.filterMap fun (length, symbol) =>
      if length = shorter + 1 then some symbol else none).toArray

/-- How many words of the greatest length a code leaves free; negative if it has too many. -/
def unused (code : Code) : Int :=
  code.foldl (fun free symbols => 2 * free - symbols.size) 1

/-- Whether every sequence of bits begins with a word. -/
def isComplete (code : Code) : Bool :=
  unused code == 0

/-- No word at all, or one of a single bit. -/
def isTrivial (code : Code) : Bool :=
  code.all (·.isEmpty) || (code.head?.any (·.size == 1) && (code.drop 1).all (·.isEmpty))

/-- The next symbol and the length of its word. `longer` words of `length` bits are no words. -/
def symbol : Code → (longer length : Nat) → Reader (Nat × Nat)
  | [], _, _ => throw .damaged
  | symbols :: code, longer, length => do
      let place := 2 * longer + (← bit)
      match symbols[place]? with
      | some found => return (found, length + 1)
      | none => symbol code (place - symbols.size) (length + 1)

def fixedLiterals : Code :=
  codeOf (List.replicate 144 8 ++ List.replicate 112 9 ++ List.replicate 24 7 ++
    List.replicate 8 8)

def fixedDistances : Code :=
  codeOf (List.replicate 32 5)

def lengthOrder : List Nat :=
  [16, 17, 18, 0, 8, 7, 9, 6, 10, 5, 11, 4, 12, 3, 13, 2, 14, 1, 15]

def lengthsUpTo (code : Code) (count : Nat) : (fuel : Nat) → (lengths : Array Nat) →
    Reader (Array Nat)
  | 0, lengths => return lengths
  | fuel + 1, lengths => do
      if count ≤ lengths.size then return lengths
      else
        await 7
        let (found, _) ← symbol code 0 0
        let (base, extra) :=
          if found < 16 then (1, 0) else if found = 18 then (11, 7) else (3, found - 14)
        let size := base + (← number extra)
        settle
        if found = 16 then
          match lengths.back? with
          | some length => lengthsUpTo code count fuel (lengths ++ Array.replicate size length)
          | none => throw .damaged
        else
          let length := if found < 16 then found else 0
          lengthsUpTo code count fuel (lengths ++ Array.replicate size length)

/-- The codes for literals and for distances that stand before their block. -/
def describedCodes : Reader (Code × Code) := do
  await 14
  let literals := 257 + (← number 5)
  let distances := 1 + (← number 5)
  let listed := 4 + (← number 4)
  if 286 < literals ∨ 30 < distances then throw .damaged
  await (3 * listed)
  let listed ← (lengthOrder.take listed).mapM fun symbol => do return (symbol, ← number 3)
  let lengthCode := codeOf ((List.range 19).map fun symbol => (listed.lookup symbol).getD 0)
  if !isComplete lengthCode then throw .damaged
  let lengths ← lengthsUpTo lengthCode (literals + distances) (literals + distances) #[]
  let lengths := lengths.toList
  let literalCode := codeOf (lengths.take literals)
  let distanceCode := codeOf (lengths.drop literals)
  if lengths.length = literals + distances ∧ lengths[256]? ≠ some 0 ∧ isComplete literalCode ∧
      (isComplete distanceCode ∨ isTrivial distanceCode) then
    return (literalCode, distanceCode)
  else throw .damaged

inductive Token where
  | literals (bytes : Bytes)
  | copy (length distance : Nat)
  | stop
deriving DecidableEq, Repr

def copyLength (symbol : Nat) : Reader Nat := do
  let place := symbol - 257
  if place < 8 then return place + 3
  else if place < 28 then
    let extra := place / 4 - 1
    return 3 + (4 + place % 4) <<< extra + (← number extra)
  else return 258

def copyDistance (symbol : Nat) : Reader Nat := do
  if symbol < 2 then return symbol + 1
  else if symbol < 30 then
    let extra := symbol / 2 - 1
    return 1 + (2 + symbol % 2) <<< extra + (← number extra)
  else throw .damaged

/-- The literal that follows one with a word of `length` bits, if both words fit in twelve bits. -/
def pairedLiteral? (code : Code) (length : Nat) : Reader (Option UInt8) := do
  let start ← get
  let (found, size) ← symbol code 0 0
  if found < 256 ∧ length + size ≤ 12 then return some (UInt8.ofNat found)
  else
    set start
    return none

/-- The next token, once it has arrived. The symbols after the last length end the block, too. -/
def token (literals distances : Code) : Reader Token := do
  let (found, length) ← symbol literals 0 0
  let token ←
    if found < 256 then
      let second ← if length < 12 then pairedLiteral? literals length else pure none
      pure (Token.literals (UInt8.ofNat found :: second.toList))
    else if found = 256 ∨ 285 < found then pure Token.stop
    else
      let length ← copyLength found
      let (found, _) ← symbol distances 0 0
      pure (Token.copy length (← copyDistance found))
  settle
  return token

def copy (length distance : Nat) (output : Array UInt8) : Array UInt8 :=
  (List.range length).foldl (fun output _ =>
    output.push (output.getD (output.size - distance) 0)) output

inductive Phase where
  | header
  | block
  | stored (last : Bool) (count : Nat)
  | coded (last : Bool) (literals distances : Code)
  | sum
  | done
deriving DecidableEq, Repr

def Phase.after (last : Bool) : Phase :=
  if last then .sum else .block

/-- What follows when `count` bytes of a block of plain bytes are left. -/
def Phase.plain (last : Bool) (count : Nat) : Phase :=
  if count = 0 then .after last else .stored last count

def toByte : Reader Unit :=
  modify fun stream => { stream with bits := [] }

/-- Passes the header, which tells the method and a size of at most 32768 to look back. -/
def header : Reader Phase := do
  await 16
  let method ← number 8
  let flags ← number 8
  if method % 16 = 8 ∧ method / 16 ≤ 7 ∧ (method * 256 + flags) % 31 = 0 ∧ flags / 32 % 2 = 0 then
    return .block
  else throw .damaged

/-- The head of a block of plain bytes: their number, and the same with all bits turned. -/
def plainHead (last : Bool) : Reader Phase := do
  toByte
  await 32
  let count ← number 16
  if count + (← number 16) = 0xFFFF then return .plain last count else throw .damaged

/-- Passes the end of a coded block that follows its head at once. -/
def emptyBlock : Reader Bool := do
  let start ← get
  if (← number 7) = 0 then return true
  else
    set start
    return false

def blockHead : Reader Phase := do
  await 10
  let last := (← bit) == 1
  let kind ← number 2
  if kind = 0 then plainHead last
  else if kind = 1 then
    if ← emptyBlock then return .after last
    else return .coded last fixedLiterals fixedDistances
  else if kind = 2 then
    let (literals, distances) ← describedCodes
    return .coded last literals distances
  else throw .damaged

def sum : Reader Phase := do
  toByte
  await 32
  discard (number 32)
  return .done

structure Progress where
  phase : Phase
  stream : Stream
  output : Array UInt8
deriving DecidableEq, Repr

namespace Progress

def start : Progress :=
  ⟨.header, ⟨[], [], 0⟩, #[]⟩

def pass (progress : Progress) (reader : Reader Phase) : Except Fault Progress := do
  let (phase, rest) ← reader.run progress.stream
  return ⟨phase, rest, progress.output⟩

def takePlain (limit : Nat) (progress : Progress) (last : Bool) (count : Nat) :
    Except Fault Progress :=
  let taken := progress.stream.bytes.take (min count (limit - progress.output.size))
  if taken.isEmpty then throw .ended
  else
    return ⟨.plain last (count - taken.length),
      { progress.stream with bytes := progress.stream.bytes.drop taken.length },
      progress.output.appendList taken⟩

def takeToken (limit : Nat) (progress : Progress) (last : Bool) (literals distances : Code) :
    Except Fault Progress := do
  if limit ≤ progress.output.size then throw .ended
  else
    match ← (token literals distances).run progress.stream with
    | (.literals bytes, rest) =>
        return { progress with stream := rest, output := progress.output.appendList bytes }
    | (.copy length distance, rest) =>
        if progress.output.size < distance then throw .damaged
        else
          return { progress with stream := rest, output := copy length distance progress.output }
    | (.stop, rest) => return { progress with phase := .after last, stream := rest }

def step (limit : Nat) (progress : Progress) : Except Fault Progress :=
  match progress.phase with
  | .header => progress.pass header
  | .block => progress.pass blockHead
  | .stored last count => progress.takePlain limit last count
  | .coded last literals distances => progress.takeToken limit last literals distances
  | .sum => progress.pass sum
  | .done => throw .ended

def run (limit : Nat) : (fuel : Nat) → Progress → Option Progress
  | 0, progress => some progress
  | fuel + 1, progress =>
      match progress.step limit with
      | .ok next => run limit fuel next
      | .error .ended => some progress
      | .error .damaged => none

/-- Reads another part. Each step takes a bit at least. -/
def feed (limit : Nat) (progress : Progress) (part : Bytes) : Option Progress :=
  let stream := progress.stream.append part
  { progress with stream := stream }.run limit stream.bitCount

def isOver (limit : Nat) (progress : Progress) : Bool :=
  progress.phase == .done || limit ≤ progress.output.size

def feedAll (limit : Nat) (progress : Progress) : List Bytes → Option Progress
  | [] => some progress
  | part :: parts => do
      if progress.isOver limit then some progress
      else (← progress.feed limit part).feedAll limit parts

end Progress

/--
The data of a stream in parts: all of it, or what makes up at least `limit` bytes. Parts after
those that were needed for it are not looked at.
-/
def decode? (limit : Nat) (parts : List Bytes) : Option Bytes := do
  let progress ← Progress.start.feedAll limit parts
  if progress.isOver limit then some progress.output.toList else none

end Inflate

end Folio
