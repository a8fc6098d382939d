import FieldRules.Json.Basic
import FieldRules.Rule.Template

/-!
What a rule is applied to, and what comes of it.
-/

namespace FieldRules

/-- What a rule is applied to: a field, its value, the parameters as declared, and a message
template in place of the rule's own. -/
structure RuleArgs where
  field : String
  value : Json
  params : List String
  message : Option String

namespace RuleArgs

def render (args : RuleArgs) (template : String) : String :=
  Template.render args.field args.params template

end RuleArgs

/-- A rule applied to its arguments: its status before it is checked, its status after, and its
message then. -/
structure Binding where
  initially : Bool
  passes : Bool
  message : String
deriving DecidableEq, Repr

/-- A rule given by a program: what becomes of each choice of arguments. -/
abbrev Factory := RuleArgs → Binding

/-- The rule that a test on the value and the parameters makes, with a template for its message. It
passes until it is checked. -/
def Factory.ofTest (template : String) (test : Json → List String → Bool) : Factory := fun args =>
  ⟨true, test args.value args.params, args.render (args.message.getD template)⟩

end FieldRules
