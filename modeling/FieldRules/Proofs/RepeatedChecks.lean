import FieldRules.Rule.CheckPool
import FieldRules.Proofs.PatternCache
import FieldRules.Proofs.Templates

/-! Checks that are run again and again over a cache that others use as well. Every run comes to
the same verdict, since the cache cannot be seen in it, and a verdict that is recorded again
changes nothing: a reason for not applying stays in a check, but no other verdict follows it. -/
namespace FieldRules

namespace Check

theorem record_record (check : Check) (verdict : Verdict) :
    (check.record verdict).record verdict = check.record verdict := by
  cases verdict <;> rfl

theorem bound_record (check : Check) (verdict : Verdict) :
    (check.record verdict).rule = check.rule ∧ (check.record verdict).args = check.args := by
  cases verdict <;> exact ⟨rfl, rfl⟩

variable (rule : Builtin) (args : RuleArgs)

def repeated : Nat → Check
  | 0 => start rule args
  | runs + 1 => (repeated runs).run

theorem bound_repeated (runs : Nat) :
    (repeated rule args runs).rule = rule ∧ (repeated rule args runs).args = args := by
  induction runs with
  | zero => exact ⟨rfl, rfl⟩
  | succ runs ih =>
    obtain ⟨same, same'⟩ := bound_record (repeated rule args runs) _
    exact ⟨same.trans ih.1, same'.trans ih.2⟩

theorem record_repeated (runs : Nat) :
    (repeated rule args runs).record (rule.evaluate args.value args.params) =
      repeated rule args (runs + 1) := by
  obtain ⟨same, same'⟩ := bound_repeated rule args runs
  rw [repeated, run, same, same']

/-- Only the first run changes anything. -/
theorem repeated_succ (runs : Nat) : repeated rule args (runs + 1) = (start rule args).run := by
  induction runs with
  | zero => rfl
  | succ runs ih =>
    rw [← record_repeated, ih]
    exact record_record _ _

theorem status_run :
    (start rule args).run.status = true ↔ rule.evaluate args.value args.params = .pass := by
  have passes : (start rule args).run.status = (rule.factory args).passes := rfl
  rw [passes, Builtin.passes_factory, decide_eq_true_eq]

theorem message_start :
    (start rule args).message = args.render (args.message.getD rule.defaultMessage) := rfl

theorem message_run :
    (start rule args).run.message = args.render
      (match rule.evaluate args.value args.params with
        | .invalid why => why.template
        | _ => args.message.getD rule.defaultMessage) := by
  have message : (start rule args).run.message = (rule.factory args).message := rfl
  rw [message]
  cases verdict : rule.evaluate args.value args.params with
  | pass =>
    simp only [Builtin.factory, run, start, verdict, record, Check.message, template]
  | fail => exact Builtin.message_factory_fail args verdict
  | invalid why => exact Builtin.message_factory args verdict

end Check

namespace Caller

open PatternCache (Evaluation Stage)

variable {rule : Builtin} {args : RuleArgs} {taken : Nat} {caller : Caller} {cache : PatternCache}

/-- A check that has taken some steps is as its runs, one after the other, leave it. No run takes
more than two steps. -/
structure Valid (rule : Builtin) (args : RuleArgs) (taken : Nat) (caller : Caller) : Prop where
  check : caller.check = Check.repeated rule args caller.runs
  steps : taken ≤ 2 * caller.runs + caller.stage.steps
  underway : caller.stage.steps < 2

theorem valid_start (rule : Builtin) (args : RuleArgs) : Valid rule args 0 (start rule args) :=
  ⟨rfl, Nat.zero_le _, Nat.zero_lt_two⟩

/-- A run that ends with the verdict of the rule, one step or two after it began. -/
theorem Valid.conclude (valid : Valid rule args taken caller) :
    Valid rule args (taken + 1) (caller.conclude (rule.evaluate args.value args.params)) := by
  obtain ⟨check, steps, underway⟩ := valid
  refine ⟨?_, ?_, Nat.zero_lt_two⟩
  · rw [Caller.conclude, check]
    exact Check.record_repeated rule args caller.runs
  · simp only [Caller.conclude, Stage.steps]
    omega

theorem advance_of_ne (other : caller.check.rule ≠ .pattern) (cache : PatternCache) :
    caller.advance cache = (caller.conclude (caller.check.rule.evaluate caller.check.args.value
      caller.check.args.params), cache) := by
  rw [advance]
  split
  · contradiction
  · rfl

/-- A step of the pattern rule, told by the evaluation under way: either it ends the run or it is
a look-up that found nothing. -/
theorem advance_pattern (pattern : caller.check.rule = .pattern) (cache : PatternCache) :
    (∃ verdict, (caller.evaluation.advance cache).1.stage = .done verdict ∧
      caller.advance cache = (caller.conclude verdict, (caller.evaluation.advance cache).2)) ∨
    (caller.evaluation.advance cache).1.stage.steps < 2 ∧
      caller.advance cache =
        ({ caller with stage := (caller.evaluation.advance cache).1.stage },
          (caller.evaluation.advance cache).2) := by
  rw [advance, pattern]
  dsimp only
  cases (caller.evaluation.advance cache).1.stage with
  | waiting => exact .inr ⟨by decide, rfl⟩
  | missed => exact .inr ⟨by decide, rfl⟩
  | done verdict => exact .inl ⟨verdict, rfl, rfl⟩

/-- One step of one check over a sound cache, whatever others have done to the cache before. -/
theorem Valid.advance (valid : Valid rule args taken caller) (sound : cache.Sound) :
    Valid rule args (taken + 1) (caller.advance cache).1 ∧ (caller.advance cache).2.Sound := by
  obtain ⟨same, same'⟩ : caller.check.rule = rule ∧ caller.check.args = args := by
    rw [valid.check]
    exact Check.bound_repeated rule args caller.runs
  by_cases pattern : caller.check.rule = .pattern
  · have faithful : caller.evaluation.Faithful := by
      intro verdict ended
      have under := valid.underway
      rw [show caller.stage = .done verdict from ended] at under
      exact absurd under (Nat.lt_irrefl 2)
    obtain ⟨kept, sound', faithful', further⟩ := caller.evaluation.advance_sound sound faithful
    obtain ⟨keptValue, keptParams⟩ := Prod.mk.inj kept
    rcases advance_pattern pattern cache with ⟨verdict, ended, made⟩ | ⟨under, made⟩
    · have own : verdict = rule.evaluate args.value args.params := by
        rw [faithful' verdict ended, keptValue, keptParams, ← same, pattern, ← same',
          Builtin.evaluate_pattern]
        rfl
      rw [made, own]
      exact ⟨valid.conclude, sound'⟩
    · rw [made]
      refine ⟨⟨valid.check, ?_, under⟩, sound'⟩
      have steps := valid.steps
      simp only [evaluation] at further under ⊢
      omega
  · rw [advance_of_ne pattern, same, same']
    exact ⟨valid.conclude, sound⟩

/-- Steps with nothing between them are a run through the cache. There is a second one if the
first is a look-up that finds nothing. -/
theorem advance_uninterrupted (between : caller.stage = .waiting) (cache : PatternCache) :
    let ended := ((⟨(cache.runCheck caller.check).1, caller.runs + 1, .waiting⟩ : Caller),
      (cache.runCheck caller.check).2)
    caller.advance cache = ended ∨
      (caller.advance cache).1.advance (caller.advance cache).2 = ended := by
  obtain ⟨⟨rule, ⟨field, value, params, message⟩, status, misuse⟩, runs, stage⟩ := caller
  obtain rfl : stage = .waiting := between
  by_cases pattern : rule = .pattern
  · subst pattern
    simp only [PatternCache.runCheck, PatternCache.evaluate, PatternCache.compile, advance,
      evaluation, Evaluation.advance]
    cases text : value.scalarText? with
    | none =>
      left
      simp only [Builtin.evaluate_pattern, Verdict.ofPattern, text]
      rfl
    | some text =>
      cases found : cache.find? (Builtin.patternSource params) with
      | none => exact .inr rfl
      | some compiled => exact .inl rfl
  · left
    rw [advance_of_ne pattern]
    cases rule with
    | pattern => contradiction
    | _ => rfl

end Caller

namespace CheckPool

variable {bound : List (Builtin × RuleArgs)} {taken : List Nat} {pool : CheckPool}

/-- Checks over a cache of their own, after the steps of a schedule. -/
structure Valid (bound : List (Builtin × RuleArgs)) (taken : List Nat) (pool : CheckPool) :
    Prop where
  cache : pool.cache.Sound
  length : pool.callers.length = bound.length
  each : ∀ (index : Nat) (rule : Builtin) (args : RuleArgs) (caller : Caller),
    bound[index]? = some (rule, args) → pool.callers[index]? = some caller →
      caller.Valid rule args (taken.count index)

theorem valid_start (bound : List (Builtin × RuleArgs)) : Valid bound [] (start bound) := by
  refine ⟨PatternCache.sound_empty, List.length_map _, ?_⟩
  intro index rule args caller declared here
  rw [start, List.getElem?_map, declared, Option.map_some, Option.some.injEq] at here
  rw [← here]
  exact Caller.valid_start rule args

theorem Valid.step (valid : Valid bound taken pool) (index : Nat) :
    Valid bound (taken ++ [index]) (pool.step index) := by
  obtain ⟨sound, length, each⟩ := valid
  rw [CheckPool.step]
  cases present : pool.callers[index]? with
  | none =>
    refine ⟨sound, length, ?_⟩
    intro other rule args caller declared here
    have apart : index ≠ other := by
      rintro rfl
      rw [present] at here
      contradiction
    rw [List.count_append, List.count_singleton, if_neg (by simpa using apart)]
    exact each other rule args caller declared here
  | some caller =>
    have inside : index < pool.callers.length := (List.getElem?_eq_some_iff.mp present).1
    obtain ⟨⟨rule, args⟩, own⟩ : ∃ call, bound[index]? = some call :=
      ⟨_, List.getElem?_eq_getElem (length ▸ inside)⟩
    obtain ⟨advanced, sound⟩ := (each index rule args caller own present).advance sound
    refine ⟨sound, ?_, ?_⟩
    · rw [List.length_set, length]
    · intro other rule' args' later declared here
      rw [List.count_append, List.count_singleton]
      by_cases same : index = other
      · subst same
        obtain ⟨rfl, rfl⟩ := Prod.mk.inj (Option.some.inj (own.symm.trans declared))
        rw [List.getElem?_set_self inside, Option.some.injEq] at here
        simpa [here] using advanced
      · rw [List.getElem?_set_ne same] at here
        simpa [same] using each other rule' args' later declared here

theorem valid_run (bound : List (Builtin × RuleArgs)) (schedule : List Nat) :
    Valid bound schedule ((start bound).run schedule) := by
  induction schedule using List.reverseRecOn with
  | nil => exact valid_start bound
  | append_singleton taken index ih =>
    rw [run, List.foldl_append]
    exact ih.step index

theorem run_uninterrupted {index : Nat} {caller : Caller}
    (here : pool.callers[index]? = some caller) (between : caller.stage = .waiting) :
    ∃ steps ≤ 2, pool.run (List.replicate steps index) =
      ⟨(pool.cache.runCheck caller.check).2, pool.callers.set index
        ⟨(pool.cache.runCheck caller.check).1, caller.runs + 1, .waiting⟩⟩ := by
  have inside : index < pool.callers.length := (List.getElem?_eq_some_iff.mp here).1
  have once : pool.step index = ⟨(caller.advance pool.cache).2,
      pool.callers.set index (caller.advance pool.cache).1⟩ := by
    rw [step, here]
  rcases Caller.advance_uninterrupted between pool.cache with ended | ended
  · refine ⟨1, by decide, ?_⟩
    rw [List.replicate_one, run, List.foldl_cons, List.foldl_nil, once, ended]
  · refine ⟨2, Nat.le_refl 2, ?_⟩
    have there : (pool.step index).callers[index]? = some (caller.advance pool.cache).1 := by
      rw [once]
      exact List.getElem?_set_self inside
    have twice : (pool.step index).step index =
        ⟨((caller.advance pool.cache).1.advance (caller.advance pool.cache).2).2,
          pool.callers.set index
            ((caller.advance pool.cache).1.advance (caller.advance pool.cache).2).1⟩ := by
      rw [step, there]
      simp only [once, List.set_set]
    rw [List.replicate_succ, List.replicate_one, run, List.foldl_cons, List.foldl_cons,
      List.foldl_nil, twice, ended]

/-- Checks of built-in rules over a shared cache that is empty at first, run over and over with
their steps in any order whatever. A check that has not been run passes, with the message of its
template. However often it has been run, it is as one run leaves it: it passes just if the verdict
is a pass, and its message is that of the reason why the rule does not apply, if there is one, or
else of the template. Two steps are enough for any run, and with nothing between them they are the
run of a check through the cache. -/
theorem checks_repeatable (bound : List (Builtin × RuleArgs)) (schedule : List Nat) (index : Nat)
    (rule : Builtin) (args : RuleArgs) (declared : bound[index]? = some (rule, args)) :
    let pool := (start bound).run schedule
    ∃ caller, pool.callers[index]? = some caller ∧
      schedule.count index ≤ 2 * caller.runs + 1 ∧
      (caller.runs = 0 → caller.check.status = true ∧
        caller.check.message = args.render (args.message.getD rule.defaultMessage)) ∧
      (1 ≤ caller.runs → caller.check = (Check.start rule args).run ∧
        (caller.check.status = true ↔ rule.evaluate args.value args.params = .pass) ∧
        caller.check.message = args.render
          (match rule.evaluate args.value args.params with
            | .invalid why => why.template
            | _ => args.message.getD rule.defaultMessage)) ∧
      (caller.stage = .waiting → ∃ steps ≤ 2, pool.run (List.replicate steps index) =
        ⟨(pool.cache.runCheck caller.check).2, pool.callers.set index
          ⟨(pool.cache.runCheck caller.check).1, caller.runs + 1, .waiting⟩⟩) := by
  intro pool
  obtain ⟨sound, length, each⟩ := valid_run bound schedule
  have inside : index < pool.callers.length := by
    rw [length]
    exact (List.getElem?_eq_some_iff.mp declared).1
  have here : pool.callers[index]? = some pool.callers[index] := List.getElem?_eq_getElem inside
  obtain ⟨check, steps, underway⟩ := each index rule args _ declared here
  refine ⟨_, here, by omega, ?_, ?_, run_uninterrupted here⟩
  · intro none
    rw [check, none]
    exact ⟨rfl, Check.message_start rule args⟩
  · intro some
    obtain ⟨runs, more⟩ : ∃ runs, pool.callers[index].runs = runs + 1 :=
      Nat.exists_eq_add_one.mpr some
    rw [more, Check.repeated_succ] at check
    rw [check]
    exact ⟨rfl, Check.status_run rule args, Check.message_run rule args⟩

/-- A pattern that cannot be read, for a field with a template, and one that can be. -/
def unreadable : List (Builtin × RuleArgs) :=
  [(.pattern, ⟨"code", .string "x", ["("], some "\x7bFIELD\x7d is wrong"⟩),
    (.pattern, ⟨"code", .string "x", ["^x$"], none⟩)]

theorem checks_repeatable_unreadable :
    ∃ caller, ((start unreadable).run [0, 1, 0, 1, 0, 1, 0, 0]).callers[0]? = some caller ∧
      2 ≤ caller.runs ∧ caller.check.status = false ∧
      caller.check.message = "code: rule 'regex' was given an invalid pattern" := by
  obtain ⟨caller, here, steps, _, again, _⟩ :=
    checks_repeatable unreadable [0, 1, 0, 1, 0, 1, 0, 0] 0 .pattern _ rfl
  have steps : 5 ≤ 2 * caller.runs + 1 := steps
  obtain ⟨_, status, message⟩ := again (by omega)
  have verdict : Builtin.evaluate .pattern (.string "x") ["("] = .invalid .badPattern := by
    decide +kernel
  refine ⟨caller, here, by omega, ?_, ?_⟩
  · rw [← Bool.not_eq_true, status]
    exact ne_of_eq_of_ne verdict (by decide)
  · rw [message, verdict]
    decide +kernel

end CheckPool

end FieldRules
