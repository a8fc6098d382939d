import FieldRules.Ordered
import FieldRules.Rule.Check

/-!
Compiled patterns that are kept between evaluations, failures included. A full cache is emptied
before the next entry goes in. An evaluation looks a source up in one step and, where it was
missing, puts its own compilation in with another; other evaluations may come between.
-/

namespace FieldRules

/-- Compiled sources, `none` for those that do not compile. -/
structure PatternCache where
  entries : List (String × Option Pattern)

namespace PatternCache

def capacity : Nat := 256

def empty : PatternCache := ⟨[]⟩

def find? (cache : PatternCache) (source : String) : Option (Option Pattern) :=
  Ordered.get? source cache.entries

/-- Puts a compilation in, first emptying a full cache. -/
def insert (cache : PatternCache) (source : String) (compiled : Option Pattern) : PatternCache :=
  let kept := if capacity ≤ cache.entries.length then [] else cache.entries
  ⟨Ordered.put source compiled kept⟩

/-- The pattern of a source, compiled unless it is kept. -/
def compile (cache : PatternCache) (source : String) : Option Pattern × PatternCache :=
  match cache.find? source with
  | some compiled => (compiled, cache)
  | none =>
    let compiled := Pattern.read? source
    (compiled, cache.insert source compiled)

/-- Evaluates a rule through the cache. A value without text is found out before any look-up. -/
def evaluate (cache : PatternCache) (rule : Builtin) (value : Json) (params : List String) :
    Verdict × PatternCache :=
  match rule, value.scalarText? with
  | .pattern, some _ =>
    let (compiled, cache) := cache.compile (Builtin.patternSource params)
    (.ofExcept (Builtin.matchCompiled compiled value), cache)
  | rule, _ => (rule.evaluate value params, cache)

def runCheck (cache : PatternCache) (check : Check) : Check × PatternCache :=
  let (verdict, cache) := cache.evaluate check.rule check.args.value check.args.params
  (check.record verdict, cache)

inductive Stage where
  /-- Nothing has been done. -/
  | waiting
  /-- The source was missing; the compilation is to be put in. -/
  | missed
  | done (verdict : Verdict)
deriving DecidableEq, Repr

structure Evaluation where
  value : Json
  params : List String
  stage : Stage

namespace Evaluation

def verdict (e : Evaluation) (compiled : Option Pattern) : Verdict :=
  .ofExcept (Builtin.matchCompiled compiled e.value)

/-- One step of an evaluation: the look-up, or the insertion after a miss. -/
def advance (e : Evaluation) (cache : PatternCache) : Evaluation × PatternCache :=
  let source := Builtin.patternSource e.params
  match e.stage with
  | .waiting =>
    match e.value.scalarText? with
    | none => ({ e with stage := .done (.invalid .notSingle) }, cache)
    | some _ =>
      match cache.find? source with
      | some compiled => ({ e with stage := .done (e.verdict compiled) }, cache)
      | none => ({ e with stage := .missed }, cache)
  | .missed =>
    let compiled := Pattern.read? source
    ({ e with stage := .done (e.verdict compiled) }, cache.insert source compiled)
  | .done _ => (e, cache)

end Evaluation

structure Pool where
  cache : PatternCache
  evaluations : List Evaluation

namespace Pool

/-- Evaluations that have not begun, over an empty cache. -/
def start (calls : List (Json × List String)) : Pool :=
  ⟨empty, calls.map fun (value, params) => ⟨value, params, .waiting⟩⟩

/-- Lets one evaluation take a step; an index without an evaluation does nothing. -/
def step (pool : Pool) (index : Nat) : Pool :=
  match pool.evaluations[index]? with
  | none => pool
  | some e =>
    let (e, cache) := e.advance pool.cache
    ⟨cache, pool.evaluations.set index e⟩

def run (pool : Pool) (schedule : List Nat) : Pool := schedule.foldl step pool

end Pool

end PatternCache

end FieldRules
