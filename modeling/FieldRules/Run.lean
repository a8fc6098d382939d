import FieldRules.Definition
import FieldRules.Journal.Record
import FieldRules.Registry
import FieldRules.Report

/-!
Runs of a definition on an input. The rules of the fields are applied in order and every failure is
recorded; if there was none, the check of the whole input decides. A name that does not resolve
ends the run without a report. A run also gives the full list of its log records, whatever the
logging configuration lets through, and the registrations that its check made.
-/

namespace FieldRules

/-- What a run has done so far: its outcome, the values of failed fields, and its records. -/
structure Progress where
  outcome : Outcome
  values : List (String × Json)
  records : List Record

/-- A run given up: why, and the records up to then. -/
structure Stopped where
  error : ConfigError
  records : List Record

/-- The end of a run: a report or an error, all records, and the rules registered by the check. -/
structure RunResult where
  result : Except ConfigError Report
  records : List Record
  registrations : List (String × Factory)

namespace Run

def startRecord (fields : Nat) : Record :=
  ⟨.trace, Record.engineTarget, "validating " ++ toString fields ++ " fields"⟩

def failureRecord (field rule message : String) : Record :=
  ⟨.debug, Record.engineTarget, field ++ "." ++ rule ++ " failed: " ++ message⟩

def errorRecord (error : ConfigError) : Record := ⟨.warn, Record.engineTarget, error.message⟩

def checkRecord : Record :=
  ⟨.debug, Record.engineTarget, "all field rules passed, running post-check"⟩

def registrationRecord (name : String) : Record :=
  ⟨.debug, Record.rulesTarget, "registering rule '" ++ name ++ "'"⟩

def finishRecord (outcome : Outcome) : Record :=
  ⟨.trace, Record.engineTarget,
    "validation finished: status=" ++ (if outcome.status then "true" else "false") ++ " code=" ++
      toString outcome.code.toInt ++ " failed_fields=" ++ toString outcome.messages.length⟩

def argsFor (policy : Policy) (plan : FieldPlan) (spec : RuleSpec) : RuleArgs :=
  ⟨plan.field, plan.value, spec.params, policy.template? plan.field spec.name⟩

/-- Records a failed rule. The value of the field is kept with its first failure. -/
def recordFailure (plan : FieldPlan) (spec : RuleSpec) (message : String) (p : Progress) :
    Progress :=
  { outcome := p.outcome.recordFailure plan.field spec.name message
    values := if Ordered.has plan.field p.values then p.values
      else p.values ++ [(plan.field, plan.value)]
    records := p.records ++ [failureRecord plan.field spec.name message] }

def applyRule (registry : Registry) (policy : Policy) (plan : FieldPlan) (spec : RuleSpec)
    (p : Progress) : Except Stopped Progress :=
  match registry.lookup plan.field spec with
  | .error error => .error ⟨error, p.records ++ [errorRecord error]⟩
  | .ok kind =>
    let bound := kind.bind (argsFor policy plan spec)
    if bound.passes then .ok p else .ok (recordFailure plan spec bound.message p)

def applyRules (registry : Registry) (policy : Policy) (plan : FieldPlan) :
    List RuleSpec → Progress → Except Stopped Progress
  | [], p => .ok p
  | spec :: rest, p =>
    match applyRule registry policy plan spec p with
    | .ok p => applyRules registry policy plan rest p
    | .error stopped => .error stopped

def applyFields (registry : Registry) (policy : Policy) :
    List FieldPlan → Progress → Except Stopped Progress
  | [], p => .ok p
  | plan :: rest, p =>
    match applyRules registry policy plan plan.rules p with
    | .ok p => applyFields registry policy rest p
    | .error stopped => .error stopped

def start (policy : Policy) (fields : Nat) : Progress :=
  ⟨Outcome.start policy.failedCode, [], [startRecord fields]⟩

/-- The rules of all fields applied to an input. -/
def fieldPhase (registry : Registry) (policy : Policy) (source : Source) (absent : Json) :
    Except Stopped Progress :=
  let plans := policy.schema.plan source absent
  applyFields registry policy plans (start policy plans.length)

/-- The actions of the check after the rules of the fields; none if a rule failed. -/
def checkActions (policy : Policy) (source : Source) (outcome : Outcome) : List Action :=
  if outcome.status then policy.check source else []

def finish (policy : Policy) (source : Source) (p : Progress) : RunResult :=
  let actions := checkActions policy source p.outcome
  let registrations := actions.filterMap Action.registration?
  let outcome := p.outcome.applyAll actions
  { result := .ok ⟨outcome.status, outcome.code, outcome.messages, policy.resolveInfo outcome.code,
      p.values⟩
    records := p.records ++
      (if p.outcome.status then
        checkRecord :: registrations.map fun (name, _) => registrationRecord name else []) ++
      [finishRecord outcome]
    registrations }

end Run

/-- Runs a policy on an input with the rules of a registry. Fields that the input lacks have the
value `absent`. -/
def run (registry : Registry) (policy : Policy) (source : Source) (absent : Json) : RunResult :=
  match Run.fieldPhase registry policy source absent with
  | .error stopped => ⟨.error stopped.error, stopped.records, []⟩
  | .ok p => Run.finish policy source p

def validate (registry : Registry) (policy : Policy) (source : Source) (absent : Json) :
    Except ConfigError Report :=
  (run registry policy source absent).result

/-- The outcomes around the actions of the check of a run; none if it did not come to the check. -/
def checkHistory (registry : Registry) (policy : Policy) (source : Source) (absent : Json) :
    List Outcome :=
  match Run.fieldPhase registry policy source absent with
  | .error _ => []
  | .ok p => if p.outcome.status then p.outcome.history (policy.check source) else []

end FieldRules
