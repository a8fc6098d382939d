import FieldRules.Session

/-!
Runs that log and register as they go. Each record comes up at its own place in the run, where the
logging state of that moment lets it through or not, and each rule that the check registers is
there for everyone at once. The run itself keeps the rules that it began with.
-/

namespace FieldRules

/-- A run under way: the session as it is now, and what the run has come to. -/
structure LiveRun where
  session : Session
  outcome : Outcome
  values : List (String × Json)

/-- A run given up: why, and the session as it was left. -/
structure AbandonedRun where
  error : ConfigError
  session : Session

namespace LiveRun

def log (live : LiveRun) (record : Record) : LiveRun :=
  { live with session := live.session.call (.emit record) }

def recordFailure (plan : FieldPlan) (spec : RuleSpec) (message : String) (live : LiveRun) :
    LiveRun :=
  let live := live.log (Run.failureRecord plan.field spec.name message)
  { live with
    outcome := live.outcome.recordFailure plan.field spec.name message
    values := if Ordered.has plan.field live.values then live.values
      else live.values ++ [(plan.field, plan.value)] }

def applyRule (registry : Registry) (policy : Policy) (plan : FieldPlan) (spec : RuleSpec)
    (live : LiveRun) : Except AbandonedRun LiveRun :=
  match registry.lookup plan.field spec with
  | .error error => .error ⟨error, (live.log (Run.errorRecord error)).session⟩
  | .ok kind =>
    let bound := kind.bind (Run.argsFor policy plan spec)
    if bound.passes then .ok live else .ok (recordFailure plan spec bound.message live)

def applyRules (registry : Registry) (policy : Policy) (plan : FieldPlan) :
    List RuleSpec → LiveRun → Except AbandonedRun LiveRun
  | [], live => .ok live
  | spec :: rest, live =>
    match applyRule registry policy plan spec live with
    | .ok live => applyRules registry policy plan rest live
    | .error abandoned => .error abandoned

def applyFields (registry : Registry) (policy : Policy) :
    List FieldPlan → LiveRun → Except AbandonedRun LiveRun
  | [], live => .ok live
  | plan :: rest, live =>
    match applyRules registry policy plan plan.rules live with
    | .ok live => applyFields registry policy rest live
    | .error abandoned => .error abandoned

def takeAction (live : LiveRun) (action : Action) : LiveRun :=
  { live with
    outcome := live.outcome.apply action
    session :=
      match action.registration? with
      | some (name, factory) => live.session.register name factory
      | none => live.session }

/-- Lets the check act, unless a rule has failed. -/
def check (policy : Policy) (source : Source) (live : LiveRun) : LiveRun :=
  if live.outcome.status then
    (policy.check source).foldl takeAction (live.log Run.checkRecord)
  else live

def finish (policy : Policy) (source : Source) (live : LiveRun) :
    Except ConfigError Report × Session :=
  let live := live.check policy source
  let outcome := live.outcome
  (.ok ⟨outcome.status, outcome.code, outcome.messages, policy.resolveInfo outcome.code,
      live.values⟩,
    (live.log (Run.finishRecord outcome)).session)

end LiveRun

/-- Runs a policy as `Session.validate` does, with each record logged where it comes up. -/
def Session.validateLive (session : Session) (registry : Option Registry) (policy : Policy)
    (source : Source) (absent : Json) : Except ConfigError Report × Session :=
  let rules := registry.getD session.registry
  let plans := policy.schema.plan source absent
  let live : LiveRun := ⟨session, Outcome.start policy.failedCode, []⟩
  match LiveRun.applyFields rules policy plans (live.log (Run.startRecord plans.length)) with
  | .error abandoned => (.error abandoned.error, abandoned.session)
  | .ok live => live.finish policy source

end FieldRules
