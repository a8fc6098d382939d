import FieldRules.Text.CharSet

/-!
The written form of the Unicode tables. A range is written in hexadecimal as its distance from the
end of the range before it and, after a plus sign, the number of its further members; ranges are
separated by blanks.
-/

namespace FieldRules.Unicode

/-- The value of a hexadecimal digit. -/
def hexDigit? (c : Char) : Option Nat :=
  if '0' ≤ c ∧ c ≤ '9' then some (c.toNat - '0'.toNat)
  else if 'a' ≤ c ∧ c ≤ 'f' then some (c.toNat - 'a'.toNat + 10)
  else if 'A' ≤ c ∧ c ≤ 'F' then some (c.toNat - 'A'.toNat + 10)
  else none

/-- What has been read of a row: the code point after the last range, the distance and the length
read so far, and whether the length is being read. -/
structure RowState where
  next : Nat
  gap : Nat
  more : Nat
  inLength : Bool

namespace RowState

def range (s : RowState) : Nat × Nat := (s.next + s.gap, s.next + s.gap + s.more)

def restart (s : RowState) : RowState := ⟨s.next + s.gap + s.more + 1, 0, 0, false⟩

end RowState

/-- Reads rows of ranges, each range ended by a blank. -/
def readRanges (s : RowState) : List Char → List (Nat × Nat)
  | [] => []
  | c :: rest =>
    if c = ' ' then s.range :: readRanges s.restart rest
    else if c = '+' then readRanges { s with inLength := true } rest
    else
      let digit := (hexDigit? c).getD 0
      if s.inLength then readRanges { s with more := s.more * 16 + digit } rest
      else readRanges { s with gap := s.gap * 16 + digit } rest

def rangesOfRows (rows : List String) : List (Nat × Nat) :=
  readRanges ⟨0, 0, 0, false⟩ (rows.flatMap fun row => row.toList ++ [' '])

/-- A named set of characters in written form. Names are in loose form: lower case, without blanks,
hyphens, underscores and an initial `is`. -/
structure Entry where
  names : List String
  rows : List String

namespace Entry

def ranges (entry : Entry) : CharSet := ⟨rangesOfRows entry.rows⟩

/-- The set of the entry that has a name. -/
def find? (table : List Entry) (name : String) : Option CharSet :=
  (table.find? fun entry => entry.names.contains name).map ranges

end Entry

end FieldRules.Unicode
