import FieldRules.Rule.Builtin

/-!
A built-in rule applied to its arguments. It passes until it is checked; a check sets its status,
and a reason why the rule does not apply stays for later messages. Checks evaluate through an
evaluator given from outside, so that compiled patterns may be kept between them.
-/

namespace FieldRules

/-- A built-in rule with its arguments, its status, and the last reason for not applying. -/
structure Check where
  rule : Builtin
  args : RuleArgs
  status : Bool
  misuse : Option Misuse

namespace Check

def start (rule : Builtin) (args : RuleArgs) : Check := ⟨rule, args, true, none⟩

def record (check : Check) : Verdict → Check
  | .pass => { check with status := true }
  | .fail => { check with status := false }
  | .invalid why => { check with status := false, misuse := some why }

def run (check : Check) : Check :=
  check.record (check.rule.evaluate check.args.value check.args.params)

/-- The template in force: the reason for not applying, or else the one given for the field and
rule, or else the rule's own. -/
def template (check : Check) : String :=
  match check.misuse with
  | some why => why.template
  | none => check.args.message.getD check.rule.defaultMessage

def message (check : Check) : String := check.args.render check.template

end Check

/-- A built-in rule as a factory: its status before, and status and message after one check. -/
def Builtin.factory (rule : Builtin) : Factory := fun args =>
  let start := Check.start rule args
  let checked := start.run
  ⟨start.status, checked.status, checked.message⟩

end FieldRules
