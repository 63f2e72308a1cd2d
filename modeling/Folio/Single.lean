import Folio.Bytes

/-!
Binary32 numbers as bit patterns. Every finite magnitude is a whole number of units of `2 ^ -149`,
so arithmetic is exact arithmetic on units, rounded once to the nearest pattern, ties to even.
-/

namespace Folio

structure Single where
  bits : UInt32
deriving DecidableEq, Repr, Inhabited

namespace Single

def signBit : Nat :=
  0x80000000

/-- The bits of infinity; those of a NaN are greater. -/
def infinityBits : Nat :=
  0x7F800000

/-- The lowest bit of the exponent, and so the least significand of full length. -/
def exponentBit : Nat :=
  0x800000

def magnitudeBits (x : Single) : Nat :=
  x.bits.toNat % signBit

def isNegative (x : Single) : Bool :=
  signBit ≤ x.bits.toNat

def isNaN (x : Single) : Bool :=
  infinityBits < x.magnitudeBits

def isFinite (x : Single) : Bool :=
  x.magnitudeBits < infinityBits

def isInfinite (x : Single) : Bool :=
  x.magnitudeBits == infinityBits

/-- The binary exponent of the last place, counted from the smallest one. -/
def place (x : Single) : Nat :=
  x.magnitudeBits / exponentBit - 1

def significand (x : Single) : Nat :=
  x.magnitudeBits - x.place * exponentBit

def units (x : Single) : Nat :=
  x.significand <<< x.place

def signedUnits (x : Single) : Int :=
  if x.isNegative then -(x.units : Int) else x.units

def unitsPerOne : Nat :=
  1 <<< 149

def ofParts (negative : Bool) (magnitude : Nat) : Single :=
  ⟨UInt32.ofNat (magnitude + if negative then signBit else 0)⟩

def nan : Single :=
  ⟨0x7FC00000⟩

def infinity (negative : Bool) : Single :=
  ofParts negative infinityBits

def zero (negative : Bool) : Single :=
  ofParts negative 0

/--
The number nearest to `numerator / denominator`, ties to an even last place. A quotient beyond the
largest finite number becomes infinite.
-/
def ofRatio (negative : Bool) (numerator denominator : Nat) : Single :=
  let scaled := numerator * unitsPerOne
  let whole := scaled / denominator
  let place := (Nat.log2 whole + 1) - 24
  let step := denominator <<< place
  let low := scaled / step
  let twiceRest := 2 * (scaled - low * step)
  let nearest :=
    if twiceRest < step then low
    else if step < twiceRest then low + 1
    else low + low % 2
  ofParts negative (min infinityBits (place * exponentBit + nearest))

def ofInt (number : Int) : Single :=
  ofRatio (number < 0) number.natAbs 1

/--
The number nearest to `digits * 10 ^ exponent`. Exponents far outside the range are settled by the
count of digits alone.
-/
def ofDecimal (negative : Bool) (digits : Nat) (exponent : Int) : Single :=
  let leading : Int := (Nat.toDigits 10 digits).length + exponent
  if digits = 0 ∨ leading < -50 then zero negative
  else if 50 < leading then infinity negative
  else if 0 ≤ exponent then ofRatio negative (digits * Nat.pow 10 exponent.toNat) 1
  else ofRatio negative digits (Nat.pow 10 (-exponent).toNat)

instance (number : Nat) : OfNat Single number := ⟨ofRatio false number 1⟩

instance : OfScientific Single where
  ofScientific digits small exponent :=
    ofDecimal false digits (if small then -(exponent : Int) else exponent)

def neg (x : Single) : Single :=
  ofParts (!x.isNegative) x.magnitudeBits

/-- The number nearest to a whole count of units; `negativeZero` is the sign of an exact zero. -/
def ofUnits (negativeZero : Bool) (count : Int) : Single :=
  if count = 0 then zero negativeZero
  else ofRatio (count < 0) count.natAbs unitsPerOne

def add (x y : Single) : Single :=
  if x.isNaN || y.isNaN then nan
  else if x.isInfinite then
    if y.isInfinite && x.isNegative != y.isNegative then nan else x
  else if y.isInfinite then y
  else ofUnits (x.isNegative && y.isNegative) (x.signedUnits + y.signedUnits)

def sub (x y : Single) : Single :=
  x.add y.neg

def mul (x y : Single) : Single :=
  let negative := x.isNegative != y.isNegative
  if x.isNaN || y.isNaN then nan
  else if x.isInfinite || y.isInfinite then
    if x.magnitudeBits = 0 || y.magnitudeBits = 0 then nan else infinity negative
  else ofRatio negative (x.units * y.units) (unitsPerOne * unitsPerOne)

def div (x y : Single) : Single :=
  let negative := x.isNegative != y.isNegative
  if x.isNaN || y.isNaN then nan
  else if x.isInfinite then
    if y.isInfinite then nan else infinity negative
  else if y.isInfinite then zero negative
  else if y.magnitudeBits = 0 then
    if x.magnitudeBits = 0 then nan else infinity negative
  else ofRatio negative x.units y.units

instance : Add Single := ⟨add⟩
instance : Sub Single := ⟨sub⟩
instance : Mul Single := ⟨mul⟩
instance : Div Single := ⟨div⟩
instance : Neg Single := ⟨neg⟩

/-- Orders all numbers that are not NaN; both zeros share a key. -/
def orderKey (x : Single) : Int :=
  if x.isNegative then -(x.magnitudeBits : Int) else x.magnitudeBits

def less (x y : Single) : Bool :=
  !x.isNaN && !y.isNaN && x.orderKey < y.orderKey

def atMost (x y : Single) : Bool :=
  !x.isNaN && !y.isNaN && x.orderKey ≤ y.orderKey

/-- The smaller number; a NaN gives way to the other operand. -/
def minimum (x y : Single) : Single :=
  if x.isNaN then y else if y.isNaN then x else if y.less x then y else x

/-- The larger number; a NaN gives way to the other operand. -/
def maximum (x y : Single) : Single :=
  if x.isNaN then y else if y.isNaN then x else if x.less y then y else x

def roundedMagnitude (x : Single) : Nat :=
  (2 * x.units + unitsPerOne) / (2 * unitsPerOne)

def truncate (x : Single) : Int :=
  x.signedUnits.tdiv unitsPerOne

/-- The nearest whole number in `low ..= high`, halves away from zero; a NaN gives zero. -/
def roundClamped (low high : Int) (x : Single) : Int :=
  if x.isNaN then 0
  else if x.isInfinite then if x.isNegative then low else high
  else
    let rounded : Int := if x.isNegative then -(x.roundedMagnitude : Int) else x.roundedMagnitude
    max low (min high rounded)

end Single

end Folio
