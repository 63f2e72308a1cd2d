import Folio.Single

/-!
The shortest decimal text of a binary32 number: the coarsest decimal grid that has a point which
reads back to the number, and on it the point nearest to the number.
-/

namespace Folio

namespace Single

/--
Whether `count` quarter units round to the positive number `x`. The lower half gap is halved where
the number below has a finer last place. Both ends belong to even significands only.
-/
def covers (x : Single) (numerator denominator : Nat) : Bool :=
  let quarter := 1 <<< x.place
  let middle := 4 * x.units
  let below := if x.significand = exponentBit ∧ 0 < x.place then quarter else 2 * quarter
  let low := (middle - below) * denominator
  let high := (middle + 2 * quarter) * denominator
  if x.significand % 2 = 0 then low ≤ numerator && numerator ≤ high
  else low < numerator && numerator < high

def gridStep (exponent : Int) : Nat × Nat :=
  if 0 ≤ exponent then (4 * unitsPerOne * Nat.pow 10 exponent.toNat, 1)
  else (4 * unitsPerOne, Nat.pow 10 (-exponent).toNat)

/--
The multiple of `10 ^ exponent` that stands for `x`: of the two neighbours that read back the
nearer, of two equally near ones the larger.
-/
def pointOn (x : Single) (exponent : Int) : Option Nat :=
  let (step, denominator) := gridStep exponent
  let exact := 4 * x.units * denominator
  let low := exact / step
  let lowFits := x.covers (low * step) denominator
  let highFits := x.covers ((low + 1) * step) denominator
  if lowFits && highFits then
    if exact - low * step < (low + 1) * step - exact then some low else some (low + 1)
  else if lowFits then some low
  else if highFits then some (low + 1)
  else none

/-- Decimal exponents from the largest magnitude down to the last unit. -/
def gridExponents : List Int :=
  (List.range 84).map fun index : Nat => 38 - (index : Int)

/-- Digits and decimal exponent of the shortest decimal that reads back to a positive number. -/
def shortest (x : Single) : Nat × Int :=
  (gridExponents.findSome? fun exponent =>
    (x.pointOn exponent).map fun digits => (digits, exponent)).getD (0, 0)

def positional (digits : Nat) (exponent : Int) : List Char :=
  let shown := Nat.toDigits 10 digits
  if 0 ≤ exponent then shown ++ List.replicate exponent.toNat '0'
  else
    let places := (-exponent).toNat
    let padded := shown.leftpad (places + 1) '0'
    padded.take (padded.length - places) ++ '.' :: padded.drop (padded.length - places)

def finiteText (x : Single) : List Char :=
  let magnitude :=
    if x.magnitudeBits = 0 then ['0']
    else
      let (digits, exponent) := x.shortest
      positional digits exponent
  if x.isNegative then '-' :: magnitude else magnitude

/-- The text of any number, with words for the infinities and NaN. -/
def text (x : Single) : String :=
  if x.isNaN then "NaN"
  else if x.isInfinite then if x.isNegative then "-inf" else "inf"
  else String.ofList x.finiteText

end Single

end Folio
