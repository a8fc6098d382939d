import FieldRules.Number.Shortest

/-!
JSON values. A number is an exact integer or a binary64 number, and the two are different values
even when they are numerically equal. The members of an object have distinct keys in increasing
order, so the order in which they were written leaves no trace; `Json.ofMembers` builds such
objects, the last of several members with one key winning.
-/

namespace FieldRules

/-- A JSON value. Integers that are read lie between `-2 ^ 63` and `2 ^ 64 - 1`. -/
inductive Json where
  | null
  | bool (value : Bool)
  | integer (value : Int)
  | float (value : Binary64)
  | string (value : String)
  | array (items : List Json)
  | object (members : List (String × Json))
deriving Inhabited

namespace Json

/-- Puts a member into its place among sorted members, replacing the one with the same key. -/
def insertMember {α : Type} (key : String) (value : α) :
    List (String × α) → List (String × α)
  | [] => [(key, value)]
  | (other, old) :: rest =>
    if key < other then (key, value) :: (other, old) :: rest
    else if key = other then (key, value) :: rest
    else (other, old) :: insertMember key value rest

/-- Sorts members by key; the last of several with one key is kept. -/
def sortMembers {α : Type} (members : List (String × α)) : List (String × α) :=
  members.foldl (fun sorted (key, value) => insertMember key value sorted) []

def ofMembers (members : List (String × Json)) : Json := object (sortMembers members)

def member? (members : List (String × Json)) (key : String) : Option Json := members.lookup key

mutual

/-- Equality of values. It is structural but for the two zeros of binary64, which are equal. -/
def same : Json → Json → Bool
  | .null, .null => true
  | .bool a, .bool b => a == b
  | .integer a, .integer b => a == b
  | .float a, .float b => a.eq b
  | .string a, .string b => a == b
  | .array as, .array bs => sameItems as bs
  | .object as, .object bs => sameMembers as bs
  | _, _ => false

def sameItems : List Json → List Json → Bool
  | [], [] => true
  | a :: as, b :: bs => same a b && sameItems as bs
  | _, _ => false

def sameMembers : List (String × Json) → List (String × Json) → Bool
  | [], [] => true
  | (k, a) :: as, (l, b) :: bs => k == l && same a b && sameMembers as bs
  | _, _ => false

end

/-- A number as text: an integer in decimal, a binary64 number with the fewest digits that read
back. -/
def numberText? : Json → Option String
  | .integer n => some (toString n)
  | .float x => some x.text
  | _ => none

end Json

end FieldRules
