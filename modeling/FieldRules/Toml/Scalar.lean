import FieldRules.Number.Numeral
import FieldRules.Text.Split
import FieldRules.Toml.Basic
import FieldRules.Unicode.Ranges

/-!
TOML values that are single words: truth values, integers, floats, dates and times. A word that can
be read as several of these is the first of them.
-/

namespace FieldRules.Toml

/-- Digits of a number with single underscores between them. -/
def digitGroups? (isDigit : Char → Bool) (text : List Char) : Option (List Char) :=
  let groups := Text.splitChars '_' text
  if groups.all fun group => !group.isEmpty && group.all isDigit then some groups.flatten
  else none

/-- Decimal digits of a whole number, which do not start with a further zero. -/
def wholeDigits? (text : List Char) : Option (List Char) :=
  (digitGroups? Numeral.isDigit text).bind fun digits =>
    if digits.head? = some '0' ∧ digits.length ≠ 1 then none else some digits

def ofDigitsIn (base : Nat) (digits : List Char) : Nat :=
  digits.foldl (fun n c => n * base + (Unicode.hexDigit? c).getD 0) 0

def isDigitIn (base : Nat) (c : Char) : Bool :=
  match Unicode.hexDigit? c with
  | some digit => decide (digit < base)
  | none => false

/-- An integer: decimal with an optional sign, or in another base without one. -/
def integer? (text : List Char) : Option Int :=
  match text with
  | '0' :: 'x' :: rest =>
    (digitGroups? (isDigitIn 16) rest).map fun digits => (ofDigitsIn 16 digits : Int)
  | '0' :: 'o' :: rest =>
    (digitGroups? (isDigitIn 8) rest).map fun digits => (ofDigitsIn 8 digits : Int)
  | '0' :: 'b' :: rest =>
    (digitGroups? (isDigitIn 2) rest).map fun digits => (ofDigitsIn 2 digits : Int)
  | text =>
    let (negative, body) := Numeral.takeSign text
    (wholeDigits? body).map fun digits =>
      if negative then -(Numeral.ofDigits digits : Int) else (Numeral.ofDigits digits : Int)

/-- The digits of an exponent with its sign, without underscores. -/
def exponentText? (text : List Char) : Option (List Char) :=
  match text with
  | [] => some []
  | e :: rest =>
    if e = 'e' ∨ e = 'E' then
      let (negative, digits) := Numeral.takeSign rest
      (digitGroups? Numeral.isDigit digits).map fun digits =>
        'e' :: (if negative then '-' else '+') :: digits
    else none

/-- A float: infinity, not a number, or a numeral with a fraction or an exponent whose value is
finite. -/
def float? (text : List Char) : Option (Option Binary64) :=
  let (negative, body) := Numeral.takeSign text
  if body = ['i', 'n', 'f'] ∨ body = ['n', 'a', 'n'] then some none
  else
    let isWhole (c : Char) : Bool := Numeral.isDigit c || c == '_'
    let sign := if negative then ['-'] else []
    match wholeDigits? (body.takeWhile isWhole) with
    | none => none
    | some whole =>
      let (fraction, tail) :=
        match body.dropWhile isWhole with
        | '.' :: rest =>
          ((digitGroups? Numeral.isDigit (rest.takeWhile isWhole)).map fun digits =>
            '.' :: digits, rest.dropWhile isWhole)
        | rest => (if rest.isEmpty then none else some [], rest)
      match fraction, exponentText? tail with
      | some fraction, some exponent =>
        (Numeral.read? (sign ++ whole ++ fraction ++ exponent)).map some
      | _, _ => none

def scalar? (text : List Char) : Option Toml :=
  if text = ['t', 'r', 'u', 'e'] then some (.bool true)
  else if text = ['f', 'a', 'l', 's', 'e'] then some (.bool false)
  else
    match integer? text with
    | some n => some (.integer n)
    | none =>
      match float? text with
      | some x => some (.float x)
      | none => (Datetime.read? text).map .datetime

end FieldRules.Toml
