import FieldRules.Number.Binary64

/-!
Decimal numerals as rule parameters and configuration files write them: an optional sign, digits
with an optional point somewhere among them or at either end, and an optional exponent. The value
is the binary64 number nearest to the numeral. Words for infinity and the not-a-number have no
finite value, so they are refused like any other text.
-/

namespace FieldRules.Numeral

def isDigit (c : Char) : Bool := decide ('0' ≤ c) && decide (c ≤ '9')

def ofDigits (digits : List Char) : Nat :=
  digits.foldl (fun n c => n * 10 + (c.toNat - '0'.toNat)) 0

/-- Takes a sign off; no sign counts as plus. -/
def takeSign : List Char → Bool × List Char
  | '-' :: rest => (true, rest)
  | '+' :: rest => (false, rest)
  | rest => (false, rest)

/-- An exponent that ends the text. -/
def exponent? (text : List Char) : Option Int :=
  match text with
  | [] => some 0
  | e :: rest =>
    if e = 'e' ∨ e = 'E' then
      let (negative, digits) := takeSign rest
      if digits.isEmpty ∨ !digits.all isDigit then none
      else some (if negative then -(ofDigits digits : Int) else (ofDigits digits : Int))
    else none

/-- The finite number that a text stands for. -/
def read? (text : List Char) : Option Binary64 :=
  let (negative, body) := takeSign text
  let whole := body.takeWhile isDigit
  let afterWhole := body.dropWhile isDigit
  let (fraction, tail) :=
    match afterWhole with
    | '.' :: rest => (rest.takeWhile isDigit, rest.dropWhile isDigit)
    | rest => ([], rest)
  if whole.isEmpty ∧ fraction.isEmpty then none
  else
    match exponent? tail with
    | none => none
    | some exponent =>
      Binary64.ofDecimal negative (ofDigits (whole ++ fraction))
        (exponent - (fraction.length : Int))

/-- A signed decimal integer: an optional sign and at least one digit. -/
def int? (text : List Char) : Option Int :=
  let (negative, digits) := takeSign text
  if digits.isEmpty ∨ !digits.all isDigit then none
  else some (if negative then -(ofDigits digits : Int) else (ofDigits digits : Int))

end FieldRules.Numeral
