import FieldRules.Pattern.Basic
import Std.Data.HashSet

/-!
Searching a text for a pattern, one character at a time. The search keeps the list of patterns of
which one has to match from the current position on. `Pattern.nullable` asks whether a pattern
matches the empty text at a position, `Pattern.step` what is left of it after one character. No
pattern is kept twice, and what is left of a pattern is a part of it, so the list stays short
whatever the text.
-/

namespace FieldRules.Pattern

/-- Whether a pattern matches the empty text between two characters. -/
def nullable (before after : Option Char) : Pattern → Bool
  | .empty => true
  | .set _ => false
  | .look anchor => anchor.holds before after
  | .seq p q => nullable before after p && nullable before after q
  | .alt p q => nullable before after p || nullable before after q
  | .star _ => true
  | .times least most p => least == 0 || (decide (least ≤ most) && nullable before after p)

/-- A pattern and then another; the empty pattern adds nothing. -/
def followedBy (p q : Pattern) : Pattern :=
  match p with
  | .empty => q
  | p => .seq p q

/-- What may be left of a pattern that takes the character `c` after `before`. Copies of a bounded
repetition that match the empty text before the first that takes the character count too. -/
def step (before : Option Char) (c : Char) : Pattern → List Pattern
  | .empty => []
  | .set chars => if chars.mem c then [.empty] else []
  | .look _ => []
  | .seq p q =>
    (step before c p).map (followedBy · q) ++
      (if nullable before (some c) p then step before c q else [])
  | .alt p q => step before c p ++ step before c q
  | .star p => (step before c p).map (followedBy · (.star p))
  | .times least most p =>
    let rests := step before c p
    let skips := if nullable before (some c) p then max least 1 else 1
    (List.range (min skips most)).flatMap fun skipped =>
      rests.map (followedBy · (.times (least - 1 - skipped) (most - 1 - skipped) p))

/-- The patterns of a list, each once, in no particular order. -/
def distinct (patterns : List Pattern) : List Pattern := (Std.HashSet.ofList patterns).toList

theorem mem_distinct {p : Pattern} {patterns : List Pattern} :
    p ∈ distinct patterns ↔ p ∈ patterns := by
  simp [distinct]

/-- Whether one of the active patterns, or the whole pattern from some later position, matches from
here on. -/
def searchFrom (p : Pattern) (before : Option Char) (active : List Pattern) : List Char → Bool
  | [] => (p :: active).any (nullable before none)
  | c :: rest =>
    (p :: active).any (nullable before (some c)) ||
      searchFrom p (some c) (distinct ((p :: active).flatMap (step before c))) rest

def search (p : Pattern) (text : List Char) : Bool := searchFrom p none [] text

end FieldRules.Pattern
