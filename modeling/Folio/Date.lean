import Folio.Value

/-!
Points in time with their distance from universal time, as dates in a document.
-/

namespace Folio

structure DateTime where
  year : Int
  month : Nat
  day : Nat
  hour : Nat
  minute : Nat
  second : Nat
  /-- A thousand million and more stand for a leap second. -/
  nanosecond : Nat
  /-- Seconds by which local time is ahead of universal time. -/
  ahead : Int
deriving DecidableEq, Repr

namespace DateTime

/-- Four digits at least, with a sign outside `0 ..= 9999`. -/
def yearText (year : Int) : Bytes :=
  if 0 ≤ year ∧ year ≤ 9999 then paddedDecimal 4 year.natAbs
  else (if year < 0 then 45 else 43) :: paddedDecimal 4 year.natAbs

/-- Sign, hours and minutes of the distance from universal time, cut to whole minutes. -/
def aheadText (ahead : Int) : Bytes :=
  let minutes := ahead.natAbs / 60
  (if ahead < 0 then 45 else 43) ::
    (paddedDecimal 2 (minutes / 60) ++ 39 :: paddedDecimal 2 (minutes % 60))

def text (date : DateTime) : Bytes :=
  utf8 "D:" ++ yearText date.year ++ paddedDecimal 2 date.month ++ paddedDecimal 2 date.day ++
    paddedDecimal 2 date.hour ++ paddedDecimal 2 date.minute ++
    paddedDecimal 2 (date.second + date.nanosecond / 1000000000) ++ aheadText date.ahead

def value (date : DateTime) : Value :=
  .str date.text

end DateTime

end Folio
