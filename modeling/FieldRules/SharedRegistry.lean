import FieldRules.Run

/-!
Runs and registrations at the same time. The rules registered for everyone are kept in versions. A
run without a registry of its own takes the latest version with its first step and holds it to its
end. A registration writes into the latest version in place, unless a run holds that version: then
the rule goes into a copy, which is the latest version from there on. Between any two steps of a
run there may be steps of other runs, and registrations from outside.
-/

namespace FieldRules

/-- The versions of the rules registered for everyone, numbered from the first. -/
structure SharedRegistry where
  earlier : List Registry
  latest : Registry

namespace SharedRegistry

def empty : SharedRegistry := ⟨[], Registry.empty⟩

def number (shared : SharedRegistry) : Nat := shared.earlier.length

def version (shared : SharedRegistry) (number : Nat) : Registry :=
  shared.earlier[number]?.getD shared.latest

/-- Registers a rule in the latest version, or in a copy of it if it is held. -/
def register (shared : SharedRegistry) (held : Bool) (name : String) (factory : Factory) :
    SharedRegistry :=
  let latest := shared.latest.register name factory
  if held then ⟨shared.earlier ++ [shared.latest], latest⟩ else ⟨shared.earlier, latest⟩

/-- What a run is asked to do. -/
structure Call where
  policy : Policy
  source : Source
  absent : Json

/-- The run with a registry of its own. -/
def Call.alone (call : Call) (registry : Registry) : RunResult :=
  run registry call.policy call.source call.absent

/-- Where a run stands. Under way it holds the version with a number. -/
inductive Stage where
  | waiting
  /-- Some declared rules are still to be applied. -/
  | rules (held : Nat) (pending : List (FieldPlan × RuleSpec)) (p : Progress)
  /-- Some actions of the check are still to be taken; some rules have been registered. -/
  | check (held : Nat) (pending : List Action) (registered : List (String × Factory))
    (p : Progress)
  | ended (result : RunResult)

namespace Stage

def held? : Stage → Option Nat
  | .rules held _ _ | .check held _ _ _ => some held
  | .waiting | .ended _ => none

def registration? : Stage → Option (String × Factory)
  | .check _ (action :: _) _ _ => action.registration?
  | _ => none

/-- The first step of a run. -/
def begin (call : Call) (held : Nat) : Stage :=
  let plans := call.policy.schema.plan call.source call.absent
  .rules held (plans.flatMap fun plan => plan.rules.map fun spec => (plan, spec))
    (Run.start call.policy plans.length)

/-- The step of a run that finds all rules applied. -/
def beginCheck (call : Call) (held : Nat) (p : Progress) : Stage :=
  .check held (Run.checkActions call.policy call.source p.outcome) []
    { p with records := p.records ++ if p.outcome.status then [Run.checkRecord] else [] }

/-- The last step of a run whose rules all resolved. -/
def finish (call : Call) (registered : List (String × Factory)) (p : Progress) : Stage :=
  .ended
    { result := .ok ⟨p.outcome.status, p.outcome.code, p.outcome.messages,
        call.policy.resolveInfo p.outcome.code, p.values⟩
      records := p.records ++ [Run.finishRecord p.outcome]
      registrations := registered }

/-- The stage after the next step. The first step takes the latest version, then each step applies
one declared rule or takes one action of the check. -/
def advance (call : Call) (shared : SharedRegistry) : Stage → Stage
  | .waiting => begin call shared.number
  | .rules held [] p => beginCheck call held p
  | .rules held ((plan, spec) :: rest) p =>
    match Run.applyRule (shared.version held) call.policy plan spec p with
    | .ok p => .rules held rest p
    | .error stopped => .ended ⟨.error stopped.error, stopped.records, []⟩
  | .check _ [] registered p => finish call registered p
  | .check held (action :: rest) registered p =>
    let made := action.registration?.toList
    .check held rest (registered ++ made)
      { p with
        outcome := p.outcome.apply action
        records := p.records ++ made.map fun (name, _) => Run.registrationRecord name }
  | .ended result => .ended result

end Stage

/-- A registration from outside, or the next step of the run with an index. -/
inductive Event where
  | register (name : String) (factory : Factory)
  | advance (index : Nat)

namespace Event

def registration? : Event → Option (String × Factory)
  | .register name factory => some (name, factory)
  | .advance _ => none

/-- The run whose step an event is. -/
def index? : Event → Option Nat
  | .register _ _ => none
  | .advance index => some index

end Event

structure Pool where
  shared : SharedRegistry
  runs : List (Call × Stage)

namespace Pool

/-- Runs that have not begun, with nothing registered. -/
def start (calls : List Call) : Pool := ⟨empty, calls.map fun call => (call, .waiting)⟩

/-- Whether a run holds the latest version. -/
def isHeld (pool : Pool) : Bool :=
  pool.runs.any fun (_, stage) => stage.held? = some pool.shared.number

/-- Lets the run of an event take a step; an index without a run does nothing. -/
def move (pool : Pool) : Event → Pool
  | .register _ _ => pool
  | .advance index =>
    match pool.runs[index]? with
    | none => pool
    | some (call, stage) =>
      { pool with runs := pool.runs.set index (call, stage.advance call pool.shared) }

/-- The rule that an event registers. -/
def registration? (pool : Pool) : Event → Option (String × Factory)
  | .register name factory => some (name, factory)
  | .advance index => pool.runs[index]?.bind fun (_, stage) => stage.registration?

def register (pool : Pool) (registration : String × Factory) : Pool :=
  { pool with shared := pool.shared.register pool.isHeld registration.1 registration.2 }

/-- The pool after an event. While its check registers a rule, a run holds its version. -/
def step (pool : Pool) (event : Event) : Pool :=
  match pool.registration? event with
  | none => pool.move event
  | some registration => (pool.move event).register registration

def after (pool : Pool) (schedule : List Event) : Pool := schedule.foldl step pool

/-- What an event registers, with the run whose check does it; none for a rule from outside. -/
def entries (pool : Pool) (event : Event) : List (Option Nat × String × Factory) :=
  (pool.registration? event).toList.map fun registration => (event.index?, registration)

def log (pool : Pool) : List Event → List (Option Nat × String × Factory)
  | [] => []
  | event :: rest => pool.entries event ++ log (pool.step event) rest

end Pool

end SharedRegistry

end FieldRules
