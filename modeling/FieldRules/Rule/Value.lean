import FieldRules.Json.Basic

/-!
How rules see a value: whether it counts as given, its text, and its size.
-/

namespace FieldRules.Json

/-- Whether a value counts as given: null, false, zero and empty texts and collections do not. -/
def isTruthy : Json → Bool
  | .null => false
  | .bool b => b
  | .integer n => n != 0
  | .float x => !x.isZero
  | .string s => s != ""
  | .array items => !items.isEmpty
  | .object members => !members.isEmpty

def boolText (b : Bool) : String := if b then "true" else "false"

/-- The text of a single value. Null reads as the empty text, and collections have none. -/
def scalarText? : Json → Option String
  | .null => some ""
  | .bool b => some (boolText b)
  | .string s => some s
  | value => value.numberText?

/-- The text of a value in a list of failures; null has none there. -/
def recordText? : Json → Option String
  | .null => none
  | value => value.scalarText?

/-- The size of a value: a number itself, the number of characters of a text, the number of entries
of a collection. Null has size zero, and truth values have no size. -/
def size? : Json → Option Binary64
  | .null => some (Binary64.zero false)
  | .bool _ => none
  | .integer n => Binary64.ofInt? n
  | .float x => some x
  | .string s => some (Binary64.ofNat s.length)
  | .array items => some (Binary64.ofNat items.length)
  | .object members => some (Binary64.ofNat members.length)

def kindName : Json → String
  | .null => "null"
  | .bool _ => "a boolean"
  | .integer _ => "a number"
  | .float _ => "a number"
  | .string _ => "a string"
  | .array _ => "an array"
  | .object _ => "an object"

end FieldRules.Json
