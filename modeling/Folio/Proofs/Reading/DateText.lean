import Folio.Date
import Folio.Proofs.Reading.RoundTrip

/-!
Dates read back. Every field has its fixed width, so the fields stand at fixed places and a reader
of digits finds each of them again; of the distance from universal time it finds whole minutes.
-/

namespace Folio

namespace Reading

/-- The number that the next `width` bytes spell if they are all digits, and what comes after. -/
def field? (width : Nat) (bytes : Bytes) : Option (Nat × Bytes) :=
  let digits := bytes.take width
  if digits.length = width ∧ digits.all isDigit then
    some (numberOf digits, bytes.drop width)
  else none

def after? (mark : UInt8) : Bytes → Option Bytes
  | [] => none
  | byte :: rest => if byte = mark then some rest else none

/-- Whether the sign that comes next is a minus, and what comes after. -/
def sign? : Bytes → Option (Bool × Bytes)
  | [] => none
  | byte :: rest =>
      if byte = 45 then some (true, rest) else if byte = 43 then some (false, rest) else none

theorem field?_paddedDecimal {width number : Nat} (positive : 0 < width)
    (fits : number < Nat.pow 10 width) (rest : Bytes) :
    field? width (paddedDecimal width number ++ rest) = some (number, rest) := by
  have length := length_paddedDecimal positive fits
  have digits : (paddedDecimal width number).all isDigit :=
    List.all_eq_true.mpr fun _ => isDigit_of_mem_paddedDecimal
  rw [field?, List.take_left' length, List.drop_left' length, if_pos ⟨length, digits⟩,
    numberOf_paddedDecimal]

theorem after?_cons (mark : UInt8) (rest : Bytes) : after? mark (mark :: rest) = some rest :=
  if_pos rfl

theorem sign?_cons (isMinus : Bool) (rest : Bytes) :
    sign? ((if isMinus then 45 else 43) :: rest) = some (isMinus, rest) := by
  cases isMinus with
  | false => rfl
  | true => rfl

end Reading

namespace DateTime

open Reading

structure Stamp where
  year : Nat
  month : Nat
  day : Nat
  hour : Nat
  minute : Nat
  second : Nat
  /-- The sign before the distance from universal time is a minus. -/
  isBehind : Bool
  awayHours : Nat
  awayMinutes : Nat
deriving DecidableEq, Repr

def Stamp.ahead (stamp : Stamp) : Int :=
  let minutes : Int := (stamp.awayHours * 60 + stamp.awayMinutes : Nat)
  if stamp.isBehind then -minutes else minutes

def read? (bytes : Bytes) : Option Stamp := do
  let rest ← after? 0x44 bytes
  let rest ← after? 0x3A rest
  let (year, rest) ← field? 4 rest
  let (month, rest) ← field? 2 rest
  let (day, rest) ← field? 2 rest
  let (hour, rest) ← field? 2 rest
  let (minute, rest) ← field? 2 rest
  let (second, rest) ← field? 2 rest
  let (isBehind, rest) ← sign? rest
  let (awayHours, rest) ← field? 2 rest
  let rest ← after? 39 rest
  let (awayMinutes, rest) ← field? 2 rest
  if rest.isEmpty then
    some ⟨year, month, day, hour, minute, second, isBehind, awayHours, awayMinutes⟩
  else none

def shownSecond (date : DateTime) : Nat :=
  if 1000000000 ≤ date.nanosecond then 60 else date.second

/-- A stamp that shows the fields of a date, and whole minutes of its distance. -/
structure Stamp.Shows (stamp : Stamp) (date : DateTime) : Prop where
  year : (stamp.year : Int) = date.year
  month : stamp.month = date.month
  day : stamp.day = date.day
  hour : stamp.hour = date.hour
  minute : stamp.minute = date.minute
  second : stamp.second = date.shownSecond
  ahead : stamp.ahead = date.ahead.tdiv 60
  isBehind : stamp.isBehind ↔ date.ahead < 0
  awayHours : stamp.awayHours ≤ 23
  awayMinutes : stamp.awayMinutes ≤ 59

def Stamp.text (stamp : Stamp) : Bytes :=
  0x44 :: 0x3A :: (paddedDecimal 4 stamp.year ++ (paddedDecimal 2 stamp.month ++
    (paddedDecimal 2 stamp.day ++ (paddedDecimal 2 stamp.hour ++
    (paddedDecimal 2 stamp.minute ++ (paddedDecimal 2 stamp.second ++
    (if stamp.isBehind then 45 else 43) :: (paddedDecimal 2 stamp.awayHours ++
      39 :: (paddedDecimal 2 stamp.awayMinutes ++ []))))))))

/-- A stamp in which every number has room in its field. -/
structure Stamp.Fits (stamp : Stamp) : Prop where
  year : stamp.year < Nat.pow 10 4
  month : stamp.month < Nat.pow 10 2
  day : stamp.day < Nat.pow 10 2
  hour : stamp.hour < Nat.pow 10 2
  minute : stamp.minute < Nat.pow 10 2
  second : stamp.second < Nat.pow 10 2
  awayHours : stamp.awayHours < Nat.pow 10 2
  awayMinutes : stamp.awayMinutes < Nat.pow 10 2

variable {mark : Stamp}

theorem Stamp.Fits.read?_text (fits : mark.Fits) : read? mark.text = some mark := by
  have two : 0 < 2 := by decide
  have four : 0 < 4 := by decide
  rw [Stamp.text, read?]
  simp only [after?_cons, sign?_cons, Option.bind_eq_bind, Option.bind_some,
    field?_paddedDecimal four fits.year, field?_paddedDecimal two fits.month,
    field?_paddedDecimal two fits.day, field?_paddedDecimal two fits.hour,
    field?_paddedDecimal two fits.minute, field?_paddedDecimal two fits.second,
    field?_paddedDecimal two fits.awayHours, field?_paddedDecimal two fits.awayMinutes]
  rfl

def stamp (date : DateTime) : Stamp :=
  ⟨date.year.natAbs, date.month, date.day, date.hour, date.minute, date.shownSecond,
    decide (date.ahead < 0), date.ahead.natAbs / 60 / 60, date.ahead.natAbs / 60 % 60⟩

variable {date other : DateTime}

structure Alike (date other : DateTime) : Prop where
  year : date.year = other.year
  month : date.month = other.month
  day : date.day = other.day
  hour : date.hour = other.hour
  minute : date.minute = other.minute
  second : date.second = other.second
  leap : 1000000000 ≤ date.nanosecond ↔ 1000000000 ≤ other.nanosecond
  ahead : date.ahead.tdiv 60 = other.ahead.tdiv 60
  isBehind : date.ahead < 0 ↔ other.ahead < 0

end DateTime

end Folio
