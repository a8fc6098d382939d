/-!
Sets of characters as lists of code point ranges. `CharSet.ofRanges` brings any list of ranges
into the sorted form without overlaps; every other operation is built from it and from
`CharSet.complement`. Membership reads the list alone, so it does not depend on that form.
-/

namespace FieldRules

/-- Inclusive ranges of code points. The sets built here are sorted, disjoint and never touch. -/
structure CharSet where
  ranges : List (Nat × Nat)
deriving Repr, Inhabited

namespace CharSet

/-- Sets are compared by their ranges, without a look at them where both are one object. -/
instance : DecidableEq CharSet := fun a b =>
  withPtrEqDecEq a b fun _ =>
    match a, b with
    | ⟨ranges⟩, ⟨ranges'⟩ =>
      if h : ranges = ranges' then isTrue (congrArg CharSet.mk h)
      else isFalse fun same => h (congrArg CharSet.ranges same)

/-- The first range tells most sets apart. -/
instance : Hashable CharSet := ⟨fun set => hash set.ranges.head?⟩

/-- The largest code point. -/
def last : Nat := 0x10ffff

def mem (set : CharSet) (c : Char) : Bool :=
  set.ranges.any fun range => decide (range.1 ≤ c.toNat) && decide (c.toNat ≤ range.2)

def empty : CharSet := ⟨[]⟩

def range (low high : Nat) : CharSet := ⟨[(low, high)]⟩

def full : CharSet := range 0 last

def single (c : Char) : CharSet := range c.toNat c.toNat

/-- Joins ranges that overlap or touch, in a list sorted by lower ends, to the range before it. -/
def coalesceFrom (low high : Nat) : List (Nat × Nat) → List (Nat × Nat)
  | [] => [(low, high)]
  | (low', high') :: rest =>
    if low' ≤ high + 1 then coalesceFrom low (max high high') rest
    else (low, high) :: coalesceFrom low' high' rest

def coalesce : List (Nat × Nat) → List (Nat × Nat)
  | [] => []
  | (low, high) :: rest => coalesceFrom low high rest

/-- The set of all code points in some range of the list; empty ranges are dropped. -/
def ofRanges (ranges : List (Nat × Nat)) : CharSet :=
  ⟨coalesce ((ranges.filter fun range => decide (range.1 ≤ range.2)).mergeSort
    fun a b => decide (a.1 ≤ b.1))⟩

def union (a b : CharSet) : CharSet := ofRanges (a.ranges ++ b.ranges)

def unionAll (sets : List CharSet) : CharSet := ofRanges (sets.flatMap CharSet.ranges)

/-- The range between two ends, without surrogates at either of them, which are no characters. -/
def gap (low high : Nat) : List (Nat × Nat) :=
  let low := if 0xd800 ≤ low ∧ low ≤ 0xdfff then 0xe000 else low
  let high := if 0xd800 ≤ high ∧ high ≤ 0xdfff then 0xd7ff else high
  if low ≤ high then [(low, high)] else []

/-- The gaps of a sorted list of ranges, from `next` on. -/
def gapsFrom (next : Nat) : List (Nat × Nat) → List (Nat × Nat)
  | [] => gap next last
  | (low, high) :: rest =>
    if next < low then gap next (low - 1) ++ gapsFrom (high + 1) rest else gapsFrom (high + 1) rest

def complement (set : CharSet) : CharSet := ⟨gapsFrom 0 (ofRanges set.ranges).ranges⟩

def inter (a b : CharSet) : CharSet := (a.complement.union b.complement).complement

def difference (a b : CharSet) : CharSet := a.inter b.complement

def symmetricDifference (a b : CharSet) : CharSet := (a.union b).difference (a.inter b)

def isAscii (set : CharSet) : Bool := set.ranges.all fun range => decide (range.2 ≤ 0x7f)

def ofChars (chars : List Char) : CharSet := ofRanges (chars.map fun c => (c.toNat, c.toNat))

end CharSet

end FieldRules
