import FieldRules.Rule.PatternCache

/-!
Checks that are run over and over and compile their patterns through one cache. A run of the
pattern rule takes its look-up and its insertion as steps of their own, a run of any other rule is
one step; between any two steps of a check others may take theirs.
-/

namespace FieldRules

/-- A check in use: how often it has been run, and where the run under way stands. -/
structure Caller where
  check : Check
  runs : Nat
  stage : PatternCache.Stage

namespace Caller

def start (rule : Builtin) (args : RuleArgs) : Caller := ⟨Check.start rule args, 0, .waiting⟩

def evaluation (caller : Caller) : PatternCache.Evaluation :=
  ⟨caller.check.args.value, caller.check.args.params, caller.stage⟩

def conclude (caller : Caller) (verdict : Verdict) : Caller :=
  ⟨caller.check.record verdict, caller.runs + 1, .waiting⟩

/-- One step of the run under way. A check that is not being run begins its next run. -/
def advance (caller : Caller) (cache : PatternCache) : Caller × PatternCache :=
  match caller.check.rule with
  | .pattern =>
    let (e, cache) := caller.evaluation.advance cache
    match e.stage with
    | .done verdict => (caller.conclude verdict, cache)
    | stage => ({ caller with stage }, cache)
  | rule =>
    (caller.conclude (rule.evaluate caller.check.args.value caller.check.args.params), cache)

end Caller

structure CheckPool where
  cache : PatternCache
  callers : List Caller

namespace CheckPool

/-- Checks that have not been run, over an empty cache. -/
def start (bound : List (Builtin × RuleArgs)) : CheckPool :=
  ⟨PatternCache.empty, bound.map fun (rule, args) => Caller.start rule args⟩

/-- Lets one check take a step; an index without a check does nothing. -/
def step (pool : CheckPool) (index : Nat) : CheckPool :=
  match pool.callers[index]? with
  | none => pool
  | some caller =>
    let (caller, cache) := caller.advance pool.cache
    ⟨cache, pool.callers.set index caller⟩

def run (pool : CheckPool) (schedule : List Nat) : CheckPool := schedule.foldl step pool

end CheckPool

end FieldRules
