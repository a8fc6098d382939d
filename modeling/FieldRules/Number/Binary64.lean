/-!
Finite binary64 numbers as exact dyadic rationals, with rounding to nearest and ties to even.
Infinities and NaN have no value here: an operation whose result would exceed the finite range
returns `none`. Comparisons go through `Binary64.units`, the number as an integer multiple of the
smallest positive one, so they are comparisons of integers.
-/

namespace FieldRules

/-- A finite binary64 number `± significand * 2 ^ exponent`. The values built here have a
significand below `2 ^ 53` and an exponent from -1074 to 971, and a significand of at least
`2 ^ 52` unless the exponent is -1074. -/
structure Binary64 where
  negative : Bool
  significand : Nat
  exponent : Int
deriving DecidableEq, Repr, Inhabited

namespace Binary64

def minExponent : Int := -1074

def maxExponent : Int := 971

/-- Zero, which keeps a sign. -/
def zero (negative : Bool) : Binary64 := ⟨negative, 0, minExponent⟩

def neg (x : Binary64) : Binary64 := { x with negative := !x.negative }

def isZero (x : Binary64) : Bool := x.significand == 0

/-- The number as an integer multiple of `2 ^ -1074`. -/
def units (x : Binary64) : Int :=
  let magnitude : Int := (x.significand <<< (x.exponent - minExponent).toNat : Nat)
  if x.negative then -magnitude else magnitude

/-- Numerical equality; the two zeros are equal. -/
def eq (x y : Binary64) : Bool := x.units == y.units

def le (x y : Binary64) : Bool := decide (x.units ≤ y.units)

def lt (x y : Binary64) : Bool := decide (x.units < y.units)

/-- Quotient and remainder test of `num / den` on the grid of spacing `2 ^ exponent`: the number of
whole steps, then twice the rest and the spacing, both over the same denominator. -/
def gridSteps (num den : Nat) (exponent : Int) : Nat × Nat × Nat :=
  let top := num <<< (-exponent).toNat
  let bottom := den <<< exponent.toNat
  (top / bottom, 2 * (top % bottom), bottom)

/-- The grid step nearest to `num / den`; a tie goes to the even step. -/
def nearestStep (num den : Nat) (exponent : Int) : Nat :=
  let (steps, twiceRest, bottom) := gridSteps num den exponent
  if twiceRest < bottom then steps
  else if bottom < twiceRest then steps + 1
  else if steps % 2 = 0 then steps else steps + 1

/-- The exponent of the grid on which `num / den` has 53 significant bits, or the least exponent. -/
def gridExponent (num den : Nat) : Int :=
  let low := max ((Nat.log2 num : Int) - (Nat.log2 den : Int) - 53) minExponent
  if (gridSteps num den low).1 < 1 <<< 53 then low else low + 1

/-- The number nearest to the quotient of two naturals, the second not zero. -/
def ofRatio (negative : Bool) (num den : Nat) : Option Binary64 :=
  if num = 0 then some (zero negative)
  else
    let exponent := gridExponent num den
    let steps := nearestStep num den exponent
    if steps < 1 <<< 53 then
      if exponent ≤ maxExponent then some ⟨negative, steps, exponent⟩ else none
    else if exponent + 1 ≤ maxExponent then some ⟨negative, steps / 2, exponent + 1⟩ else none

/-- The number nearest to an integer. -/
def ofInt? (n : Int) : Option Binary64 := ofRatio (decide (n < 0)) n.natAbs 1

/-- The number nearest to a natural; naturals past the finite range do not occur as sizes. -/
def ofNat (n : Nat) : Binary64 := (ofRatio false n 1).getD (zero false)

def mul (x y : Binary64) : Option Binary64 :=
  let exponent := x.exponent + y.exponent
  ofRatio (x.negative != y.negative)
    ((x.significand * y.significand) <<< exponent.toNat) (1 <<< (-exponent).toNat)

/-- The rounded quotient; there is none by zero. -/
def div (x y : Binary64) : Option Binary64 :=
  if y.isZero then none
  else
    let exponent := x.exponent - y.exponent
    ofRatio (x.negative != y.negative)
      (x.significand <<< exponent.toNat) (y.significand <<< (-exponent).toNat)

/-- The number of decimal digits, one for zero. -/
def digitCount (n : Nat) : Nat := (Nat.toDigits 10 n).length

/-- The number nearest to `digits * 10 ^ scale`. Magnitudes from `10 ^ 310` on exceed the finite
range and those below `10 ^ -330` round to zero, so large scales need no arithmetic. -/
def ofDecimal (negative : Bool) (digits : Nat) (scale : Int) : Option Binary64 :=
  if digits = 0 then some (zero negative)
  else
    let size := scale + (digitCount digits : Int)
    if 310 < size then none
    else if size < -330 then some (zero negative)
    else ofRatio negative (digits * Nat.pow 10 scale.toNat) (Nat.pow 10 (-scale).toNat)

/-- The number nearest to a power of ten, up to the 308th. -/
def powerOfTen (n : Nat) : Binary64 := (ofDecimal false 1 n).getD (zero false)

end Binary64

end FieldRules
