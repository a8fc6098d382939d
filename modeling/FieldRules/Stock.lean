import FieldRules.Definition
import FieldRules.Json.Tree
import FieldRules.Rule.Value

/-!
Ready-made tests and rules for registration, a check that compares two fields, and two complete
definitions.
-/

namespace FieldRules.Stock

/-- Whether a value is an even integer of 64 bits with a sign. -/
def isEven : Json → Bool
  | .integer n => decide (n ≤ Int64.maxValue.toInt) && n % 2 == 0
  | _ => false

def isPositive : Json → Bool
  | .integer n => decide (0 < n)
  | .float x => (Binary64.zero false).lt x
  | _ => false

def startsWithParam (value : Json) (params : List String) : Bool :=
  match value with
  | .string s => (params.headD "").toList.isPrefixOf s.toList
  | _ => false

def isParamCount (value : Json) (params : List String) : Bool :=
  match value with
  | .integer n => n == (params.length : Int)
  | _ => false

/-- The ready-made tests by name. -/
def test? (name : String) : Option (Json → List String → Bool) :=
  match name with
  | "always" => some fun _ _ => true
  | "never" => some fun _ _ => false
  | "not_null" => some fun value _ =>
    match value with
    | .null => false
    | _ => true
  | "even" => some fun value _ => isEven value
  | "positive" => some fun value _ => isPositive value
  | "starts_with" => some startsWithParam
  | "param_count" => some isParamCount
  | _ => none

/-- The ready-made rules by name. They fail from the start, and their messages are not templates. -/
def rule? (name : String) : Option Factory :=
  match name with
  | "never_passes" => some fun args => ⟨false, false, args.field ++ " never passes"⟩
  | "echo" => some fun args =>
    ⟨false, false, args.field ++ "=" ++ args.value.text ++ " [" ++ Text.join "/" args.params ++
      "] " ++ args.message.getD "-"⟩
  | _ => none

/-- A check that acts one way if two fields agree and another way if they do not. Fields that are
missing have values of their own. Without fields the first way is taken. -/
def comparing (fields : Option (String × String)) (equal different : List Action) : PostCheck :=
  fun source =>
    match fields with
    | none => equal
    | some (a, b) =>
      if ((source a).getD (.string "?a")).same ((source b).getD (.string "?b")) then equal
      else different

def registration : Definition :=
  (Definition.ofSchema (Schema.ofDeclarations [
    ("username", "required|alpha_num|between:3,16"),
    ("email", "required|email"),
    ("password", "required|min:8"),
    ("plan", "in:free,pro,team"),
    ("website", "")])).withMessage "password" "min"
      "Use at least \x7b0\x7d characters for your \x7bFIELD\x7d"

/-- A transfer between two different accounts. -/
def transfer : Definition :=
  ((Definition.ofSchema (Schema.ofDeclarations [
    ("from", "required|alpha_num"),
    ("to", "required|alpha_num"),
    ("amount", "required|between:1,10000")])).withInfo 2001
      "cannot transfer to the same account").withCheck fun source =>
        if ((source "from").getD .null).same ((source "to").getD .null) then [.failWith 2001]
        else [.succeed defaultSucceedCode]

end FieldRules.Stock
