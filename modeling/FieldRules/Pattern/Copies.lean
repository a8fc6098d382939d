import FieldRules.Pattern.Basic

/-!
Patterns for several copies of a pattern. The counts are brought down where that changes no match,
so that a search does not step through copies of the empty text.
-/

namespace FieldRules.Pattern

/-- Whether a pattern matches the empty text at every position. -/
def alwaysNullable : Pattern → Bool
  | .empty => true
  | .set _ => false
  | .look _ => false
  | .seq p q => alwaysNullable p && alwaysNullable q
  | .alt p q => alwaysNullable p || alwaysNullable q
  | .star _ => true
  | .times least most p => least == 0 || (decide (least ≤ most) && alwaysNullable p)

/-- Whether a pattern matches no text but the empty one. -/
def takesNothing : Pattern → Bool
  | .empty => true
  | .set chars => chars.ranges.isEmpty
  | .look _ => true
  | .seq p q => takesNothing p && takesNothing q
  | .alt p q => takesNothing p && takesNothing q
  | .star p => takesNothing p
  | .times _ most p => most == 0 || takesNothing p

/-- Between `least` and `most` copies. Where copies may be empty anywhere, none is required, and
where they are always empty, one is as good as many. -/
def repeated (least most : Nat) (p : Pattern) : Pattern :=
  if takesNothing p then .times (min least 1) (min most 1) p
  else if alwaysNullable p then .times 0 most p
  else .times least most p

def repeatedFrom (least : Nat) (p : Pattern) : Pattern :=
  if least = 0 then .star p
  else if alwaysNullable p then .star p
  else .seq (repeated least least p) (.star p)

end FieldRules.Pattern
