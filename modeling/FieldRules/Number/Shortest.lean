import FieldRules.Number.Binary64

/-!
The decimal text of a binary64 number: the fewest digits that read back as the same number, and of
those the nearest to it. The search goes through the decimal grids of one to seventeen digits and
takes the first that has a point among the reals that round to the number; if a grid has such a
point, one of the two neighbours of the number on the grid is one.
-/

namespace FieldRules.Binary64

/-- The reals that round to a positive number, in quarters of its last binary place: the interval's
ends, and whether they belong to it. -/
structure RoundingInterval where
  low : Nat
  value : Nat
  high : Nat
  closed : Bool

def roundingInterval (x : Binary64) : RoundingInterval where
  low := if x.significand = 1 <<< 52 ∧ minExponent < x.exponent then 4 * x.significand - 1
    else 4 * x.significand - 2
  value := 4 * x.significand
  high := 4 * x.significand + 2
  closed := x.significand % 2 == 0

/-- The power of ten of the leading digit of a positive number. -/
def leadingPower (x : Binary64) : Int :=
  if 0 ≤ x.exponent then (digitCount (x.significand <<< x.exponent.toNat) : Int) - 1
  else
    (digitCount ((x.significand * Nat.pow 10 400) >>> (-x.exponent).toNat) : Int) - 401

/-- A decimal `digits * 10 ^ scale`. -/
structure Decimal where
  digits : Nat
  scale : Int
deriving DecidableEq, Repr

/-- The point of the decimal grid with spacing `10 ^ scale` that is nearest to a positive number
among those that round to it; of two equally near the even one. -/
def gridPoint? (x : Binary64) (scale : Int) : Option Decimal :=
  let interval := roundingInterval x
  let quarter := x.exponent - 2
  let point := Nat.pow 10 scale.toNat <<< (-quarter).toNat
  let place := Nat.pow 10 (-scale).toNat <<< quarter.toNat
  let inside (digits : Nat) : Bool :=
    if interval.closed then
      decide (interval.low * place ≤ digits * point) &&
        decide (digits * point ≤ interval.high * place)
    else
      decide (interval.low * place < digits * point) &&
        decide (digits * point < interval.high * place)
  let below := interval.value * place / point
  let above := below + 1
  let distanceBelow := interval.value * place - below * point
  let distanceAbove := above * point - interval.value * place
  match inside below, inside above with
  | false, false => none
  | true, false => some ⟨below, scale⟩
  | false, true => some ⟨above, scale⟩
  | true, true =>
    if distanceBelow < distanceAbove then some ⟨below, scale⟩
    else if distanceAbove < distanceBelow then some ⟨above, scale⟩
    else if below % 2 = 0 then some ⟨below, scale⟩ else some ⟨above, scale⟩

def shortest (x : Binary64) : Decimal :=
  let power := leadingPower x
  ((List.range 17).findSome? fun (more : Nat) => gridPoint? x (power - (more : Int))).getD ⟨0, 0⟩

/-- Which leading powers of ten are written with all their places. -/
structure Layout where
  lowest : Int
  highest : Int

/-- Numbers from `0.00001` to below `10 ^ 16` are written out. -/
def layout : Layout := ⟨-5, 15⟩

def significantDigits (digits : Nat) : List Char :=
  ((Nat.toDigits 10 digits).reverse.dropWhile (· == '0')).reverse

/-- A positive number in positional notation, always with a fraction, from its digits and the power
of ten of the first. -/
def positional (digits : List Char) (power : Int) : List Char :=
  if 0 ≤ power then
    let whole := power.toNat + 1
    let fraction := digits.drop whole
    digits.take whole ++ List.replicate (whole - digits.length) '0' ++ '.' ::
      (if fraction.isEmpty then ['0'] else fraction)
  else '0' :: '.' :: List.replicate ((-power).toNat - 1) '0' ++ digits

/-- A positive number with an exponent, whose sign is always written. -/
def scientific (digits : List Char) (power : Int) : List Char :=
  let mantissa :=
    match digits with
    | [] => ['0']
    | [digit] => [digit]
    | digit :: fraction => digit :: '.' :: fraction
  mantissa ++ 'e' :: (if power < 0 then '-' else '+') :: Nat.toDigits 10 power.natAbs

def text (x : Binary64) : String :=
  let sign := if x.negative then ['-'] else []
  if x.isZero then String.ofList (sign ++ ['0', '.', '0'])
  else
    let decimal := shortest x
    let power := decimal.scale + (digitCount decimal.digits : Int) - 1
    let digits := significantDigits decimal.digits
    String.ofList (sign ++
      if layout.lowest ≤ power ∧ power ≤ layout.highest then positional digits power
      else scientific digits power)

end FieldRules.Binary64
