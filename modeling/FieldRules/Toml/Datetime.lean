import FieldRules.Number.Numeral

/-!
Dates and times of a document. They are read part by part and written in one form: `T` between the
date and the time, seconds always, a fraction of a second only if it is not zero, and an offset by
hours and minutes. Seconds that are left out are zero, and a fraction is cut after nine places.
-/

namespace FieldRules

namespace Datetime

structure Date where
  year : Nat
  month : Nat
  day : Nat
deriving DecidableEq, Repr

structure Time where
  hour : Nat
  minute : Nat
  second : Nat
  nanosecond : Nat
deriving DecidableEq, Repr

/-- How far a time is ahead of universal time. -/
inductive Offset where
  | universal
  | minutes (count : Int)
deriving DecidableEq, Repr

end Datetime

/-- A date, a time of day, or both, where an offset may follow. -/
inductive Datetime where
  | ofDate (date : Datetime.Date)
  | ofTime (time : Datetime.Time)
  | ofBoth (date : Datetime.Date) (time : Datetime.Time) (offset : Option Datetime.Offset)
deriving DecidableEq, Repr

namespace Datetime

/-- A number in decimal with zeros in front up to a width. -/
def paddedNumber (width n : Nat) : List Char :=
  let digits := Nat.toDigits 10 n
  List.replicate (width - digits.length) '0' ++ digits

def Date.toChars (date : Date) : List Char :=
  paddedNumber 4 date.year ++ '-' :: paddedNumber 2 date.month ++ '-' :: paddedNumber 2 date.day

/-- A fraction of a second with its point and without zeros at its end; nothing for zero. -/
def fractionChars (nanosecond : Nat) : List Char :=
  if nanosecond = 0 then []
  else '.' :: ((paddedNumber 9 nanosecond).reverse.dropWhile (· == '0')).reverse

def Time.toChars (time : Time) : List Char :=
  paddedNumber 2 time.hour ++ ':' :: paddedNumber 2 time.minute ++
    ':' :: paddedNumber 2 time.second ++ fractionChars time.nanosecond

/-- An offset with its sign, which is a plus where it is zero. -/
def Offset.toChars : Offset → List Char
  | .universal => ['Z']
  | .minutes count =>
    (if count < 0 then '-' else '+') :: paddedNumber 2 (count.natAbs / 60) ++
      ':' :: paddedNumber 2 (count.natAbs % 60)

def toChars : Datetime → List Char
  | .ofDate date => date.toChars
  | .ofTime time => time.toChars
  | .ofBoth date time offset =>
    date.toChars ++ 'T' :: time.toChars ++ (offset.map Offset.toChars).getD []

def text (value : Datetime) : String := String.ofList value.toChars

/-- Takes a number of a fixed count of digits. -/
def takeNumber (count : Nat) (text : List Char) : Option (Nat × List Char) :=
  let digits := text.take count
  if digits.length = count ∧ digits.all Numeral.isDigit then
    some (Numeral.ofDigits digits, text.drop count)
  else none

def isLeapYear (year : Nat) : Bool :=
  year % 4 == 0 && (year % 100 != 0 || year % 400 == 0)

def daysInMonth (year month : Nat) : Nat :=
  if month = 2 then (if isLeapYear year then 29 else 28)
  else if month = 4 ∨ month = 6 ∨ month = 9 ∨ month = 11 then 30
  else 31

/-- Takes a date of the calendar. -/
def takeDate (text : List Char) : Option (Date × List Char) := do
  let (year, rest) ← takeNumber 4 text
  let '-' :: rest := rest | none
  let (month, rest) ← takeNumber 2 rest
  let '-' :: rest := rest | none
  let (day, rest) ← takeNumber 2 rest
  if 1 ≤ month ∧ month ≤ 12 ∧ 1 ≤ day ∧ day ≤ daysInMonth year month then
    return (⟨year, month, day⟩, rest)
  else none

/-- The nanoseconds that the digits of a fraction of a second stand for. -/
def nanoseconds (digits : List Char) : Nat :=
  Numeral.ofDigits ((digits ++ List.replicate 9 '0').take 9)

/-- Takes the fraction of a second, if it is there. -/
def takeFraction (text : List Char) : Option (Nat × List Char) :=
  match text with
  | '.' :: rest =>
    let digits := rest.takeWhile Numeral.isDigit
    if digits.isEmpty then none else some (nanoseconds digits, rest.dropWhile Numeral.isDigit)
  | rest => some (0, rest)

/-- Takes a time of day. The minutes may be its last part, and a leap second counts as one. -/
def takeTime (text : List Char) : Option (Time × List Char) := do
  let (hour, rest) ← takeNumber 2 text
  let ':' :: rest := rest | none
  let (minute, rest) ← takeNumber 2 rest
  if 23 < hour ∨ 59 < minute then none
  else
    match rest with
    | ':' :: rest => do
      let (second, rest) ← takeNumber 2 rest
      let (nanosecond, rest) ← takeFraction rest
      if 60 < second then none else return (⟨hour, minute, second, nanosecond⟩, rest)
    | rest => return (⟨hour, minute, 0, 0⟩, rest)

def offset? (text : List Char) : Option Offset :=
  match text with
  | ['Z'] => some .universal
  | ['z'] => some .universal
  | sign :: rest => do
    if sign ≠ '+' ∧ sign ≠ '-' then none
    let (hour, rest) ← takeNumber 2 rest
    let ':' :: rest := rest | none
    let (minute, rest) ← takeNumber 2 rest
    if 23 < hour ∨ 59 < minute ∨ !rest.isEmpty then none
    else
      let count : Int := hour * 60 + minute
      return .minutes (if sign = '-' then -count else count)
  | [] => none

/-- The date, the time or both that a text gives. -/
def read? (text : List Char) : Option Datetime :=
  match takeDate text with
  | some (date, []) => some (.ofDate date)
  | some (date, separator :: rest) => do
    if separator ≠ 'T' ∧ separator ≠ 't' ∧ separator ≠ ' ' then none
    let (time, rest) ← takeTime rest
    if rest.isEmpty then return .ofBoth date time none
    else
      let offset ← offset? rest
      return .ofBoth date time (some offset)
  | none =>
    match takeTime text with
    | some (time, []) => some (.ofTime time)
    | _ => none

end Datetime

end FieldRules
