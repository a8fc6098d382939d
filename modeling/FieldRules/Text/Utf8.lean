/-!
The bytes of characters. `Utf8.sequences` cuts a range of code points into parts whose characters
have equally many bytes and in which each byte runs through a range of its own, whatever the others
are.
-/

namespace FieldRules.Text.Utf8

/-- The bytes of a code point. -/
def encode (code : Nat) : List Nat :=
  if code ≤ 0x7f then [code]
  else if code ≤ 0x7ff then [0xc0 + code / 0x40, 0x80 + code % 0x40]
  else if code ≤ 0xffff then
    [0xe0 + code / 0x1000, 0x80 + code / 0x40 % 0x40, 0x80 + code % 0x40]
  else
    [0xf0 + code / 0x40000, 0x80 + code / 0x1000 % 0x40, 0x80 + code / 0x40 % 0x40,
      0x80 + code % 0x40]

/-- The last code points with one, two and three bytes. -/
def lengthEnds : List Nat := [0x7f, 0x7ff, 0xffff]

/-- How many code points share all bytes but the last, the last two and the last three. -/
def blockSizes : List Nat := [0x40, 0x1000, 0x40000]

/-- Where a range that ends within a block of code points, or starts within one, is cut so that one
of the two parts fills whole blocks. -/
def blockCut? (low high size : Nat) : Option Nat :=
  if low / size = high / size then none
  else if low % size ≠ 0 then some (low - low % size + size - 1)
  else if high % size ≠ size - 1 then some (high - high % size - 1)
  else none

/-- The last code point of the first part of a range that has to be cut. -/
def cut? (low high : Nat) : Option Nat :=
  match lengthEnds.find? fun last => decide (low ≤ last) && decide (last < high) with
  | some last => some last
  | none => if high ≤ 0x7f then none else blockSizes.findSome? (blockCut? low high)

/-- The ranges of bytes, first byte first, of each part of a range without surrogates. -/
def parts (low high : Nat) : List (List (Nat × Nat)) :=
  match cut? low high with
  | none => [(encode low).zip (encode high)]
  | some last =>
    if low ≤ last ∧ last < high then parts low last ++ parts (last + 1) high else []
termination_by high - low

/-- The ranges of bytes of each part of a range; its surrogates are left out. -/
def sequences (range : Nat × Nat) : List (List (Nat × Nat)) :=
  let (low, high) := range
  if high < 0xd800 ∨ 0xdfff < low then parts low high
  else
    (if low < 0xd800 then parts low 0xd7ff else []) ++
      if 0xdfff < high then parts 0xe000 high else []

end FieldRules.Text.Utf8
