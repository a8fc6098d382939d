import FieldRules.Json.Tree
import FieldRules.Number.Numeral

/-!
The value of a number literal. A literal without point and exponent is an exact integer if it fits
64 bits. Any other is read as binary64 in a few rounded steps: its leading digits, as many as fit
64 bits, are converted, and the result is multiplied or divided by a power of ten. So the last
place can differ from the number nearest to the literal.
-/

namespace FieldRules.Json.Literal

/-- The largest integer that 64 bits hold. -/
def maxSignificand : Nat := UInt64.size - 1

/-- Appends digits to a significand while it fits 64 bits. Returns the significand and the digits
left over. -/
def absorb (significand : Nat) : List Char → Nat × List Char
  | [] => (significand, [])
  | c :: rest =>
    let next := significand * 10 + (c.toNat - '0'.toNat)
    if next ≤ maxSignificand then absorb next rest else (significand, c :: rest)

/-- Scales a magnitude by a power of ten. Below the table of powers the scale is taken in steps of
308 places; a magnitude that exceeds the finite range has no value. -/
def scale : (steps : Nat) → Binary64 → Int → Option Binary64
  | 0, _, _ => some (Binary64.zero false)
  | steps + 1, magnitude, exponent =>
    if exponent.natAbs ≤ 308 then
      if 0 ≤ exponent then magnitude.mul (Binary64.powerOfTen exponent.natAbs)
      else magnitude.div (Binary64.powerOfTen exponent.natAbs)
    else if magnitude.isZero then some (Binary64.zero false)
    else if 0 ≤ exponent then none
    else
      match magnitude.div (Binary64.powerOfTen 308) with
      | some smaller => scale steps smaller (exponent + 308)
      | none => none

/-- The binary64 number of a significand and a power of ten. Four steps take every significand of
64 bits to zero. -/
def float? (negative : Bool) (significand : Nat) (exponent : Int) : Option Binary64 :=
  (scale 4 (Binary64.ofNat significand) exponent).map fun magnitude =>
    { magnitude with negative }

/-- The value of a literal; there is none past the finite range. -/
def value? (literal : Literal) : Option Json :=
  let (significand, more) := absorb 0 literal.whole
  match literal.fraction, literal.exponent with
  | none, none =>
    if !more.isEmpty then (float? literal.negative significand more.length).map .float
    else if !literal.negative then some (.integer significand)
    else if 0 < significand ∧ Int64.minValue.toInt ≤ -(significand : Int) then
      some (.integer (-(significand : Int)))
    else (float? true significand 0).map .float
  | fraction, exponent =>
    let digits := fraction.getD []
    let (significand, dropped) := absorb significand digits
    let places : Int := (more.length : Int) - ((digits.length - dropped.length : Nat) : Int)
    match exponent with
    | none => (float? literal.negative significand places).map .float
    | some (negative, exponentDigits) =>
      let size := Numeral.ofDigits exponentDigits
      if Int32.maxValue.toInt < size then
        if significand ≠ 0 ∧ !negative then none
        else some (.float (Binary64.zero literal.negative))
      else
        (float? literal.negative significand
          (if negative then places - (size : Int) else places + (size : Int))).map .float

end FieldRules.Json.Literal
