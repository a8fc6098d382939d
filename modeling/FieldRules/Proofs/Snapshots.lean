import Mathlib.Data.List.Induction
import FieldRules.Session
import FieldRules.SharedRegistry
import FieldRules.Proofs.Occurrences
import FieldRules.Proofs.Registrations

/-! Runs that share a registry, their steps and the registrations of others taken in any
order. No registration writes into a version that a run holds, so a run comes to what it
would have come to alone with the rules registered before its first step, and what its
own check registers goes to later runs. -/
namespace FieldRules

namespace SharedRegistry

section Versions

variable {shared : SharedRegistry} {held : Bool} {name : String} {factory : Factory}

theorem version_number (shared : SharedRegistry) : shared.version shared.number = shared.latest := by
  simp [version, number]

theorem latest_register :
    (shared.register held name factory).latest = shared.latest.register name factory := by
  cases held <;> rfl

theorem number_le_register : shared.number ≤ (shared.register held name factory).number := by
  cases held <;> simp [register, number]

/-- Registering leaves every version as it is but the latest, and that one too if it is held. -/
theorem version_register {number : Nat} (known : number ≤ shared.number)
    (safe : number = shared.number → held = true) :
    (shared.register held name factory).version number = shared.version number := by
  cases held with
  | true =>
    by_cases last : number = shared.number
    · subst last
      rw [version_number]
      simp [register, version, SharedRegistry.number]
    · have inside : number < shared.earlier.length := Nat.lt_of_le_of_ne known last
      simp [register, version, List.getElem?_append_left inside, List.getElem?_eq_getElem inside]
  | false =>
    have inside : number < shared.earlier.length :=
      Nat.lt_of_le_of_ne known fun last => Bool.false_ne_true (safe last)
    simp [register, version, List.getElem?_eq_getElem inside]

end Versions

/-- A bound for the steps that a run takes: the first one, one for each declared rule, one that
begins the check, one for each action of the check, and the last one. -/
def Call.steps (call : Call) : Nat :=
  (call.policy.schema.fields.flatMap FieldDecl.rules).length +
    (call.policy.check call.source).length + 3

namespace Stage

variable {registry : Registry} {call : Call} {shared : SharedRegistry} {stage : Stage}

def visit (registry : Registry) (call : Call) (p : Progress) (occurrence : FieldPlan × RuleSpec) :
    Except Stopped Progress :=
  Run.applyRule registry call.policy occurrence.1 occurrence.2 p

/-- What a run will have come to if it is left alone, with the rules of a registry. -/
def outlook (registry : Registry) (call : Call) : Stage → RunResult
  | .waiting => call.alone registry
  | .rules _ pending p =>
    match pending.foldlM (visit registry call) p with
    | .error stopped => ⟨.error stopped.error, stopped.records, []⟩
    | .ok p => Run.finish call.policy call.source p
  | .check _ pending registered p =>
    let outcome := p.outcome.applyAll pending
    let made := pending.filterMap Action.registration?
    { result := .ok ⟨outcome.status, outcome.code, outcome.messages,
        call.policy.resolveInfo outcome.code, p.values⟩
      records := p.records ++ made.map (fun (name, _) => Run.registrationRecord name) ++
        [Run.finishRecord outcome]
      registrations := registered ++ made }
  | .ended result => result

def registered : Stage → List (String × Factory)
  | .check _ _ registered _ => registered
  | .ended result => result.registrations
  | .waiting | .rules _ _ _ => []

theorem outlook_begin (registry : Registry) (call : Call) (held : Nat) :
    (begin call held).outlook registry call = call.alone registry := by
  let plans := call.policy.schema.plan call.source call.absent
  have pass : Run.fieldPhase registry call.policy call.source call.absent =
      (plans.flatMap fun plan => plan.rules.map fun spec => (plan, spec)).foldlM
        (visit registry call) (Run.start call.policy plans.length) := by
    have pairs : Run.occurrences plans =
        (plans.flatMap fun plan => plan.rules.map fun spec => (plan, spec)).map
          fun (plan, spec) => ⟨plan, spec⟩ := by
      simp only [Run.occurrences, List.map_flatMap, List.map_map]
      rfl
    rw [Run.fieldPhase, Run.applyFields_eq_foldlM, pairs, List.foldlM_map]
    rfl
  rw [Call.alone, run, pass]
  rfl

theorem outlook_beginCheck (registry : Registry) (call : Call) (held : Nat) (p : Progress) :
    (beginCheck call held p).outlook registry call = Run.finish call.policy call.source p := by
  rw [beginCheck, outlook, Run.finish]
  cases status : p.outcome.status <;> simp [Run.checkActions, status]

/-- A step with the rules of a registry does not change the outlook with them. -/
theorem outlook_advance
    (same : ∀ number, stage.held? = some number → shared.version number = registry) :
    (stage.advance call shared).outlook registry call = stage.outlook registry call := by
  fun_cases advance call shared stage with
  | case1 => exact outlook_begin registry call _
  | case2 held p => exact outlook_beginCheck registry call held p
  | case3 held plan spec rest p next applied | case4 held plan spec rest p stopped applied =>
    rw [same held rfl] at applied
    simp only [outlook, List.foldlM_cons, visit, applied]
    rfl
  | case5 held registered p => simp [finish, outlook, Outcome.applyAll]
  | case6 held action rest registered p made =>
    simp only [outlook, Outcome.applyAll, List.filterMap_cons, List.foldl_cons, made]
    cases action.registration? <;> simp
  | case7 result => rfl

theorem registered_advance :
    (stage.advance call shared).registered = stage.registered ++ stage.registration?.toList := by
  fun_cases advance call shared stage with
  | case1 | case2 | case3 | case4 | case6 => rfl
  | case5 | case7 => exact (List.append_nil _).symm

/-- A run holds one version from its first step on. -/
theorem held?_advance {number : Nat}
    (holds : (stage.advance call shared).held? = some number) :
    stage.held? = some number ∨ stage = .waiting ∧ number = shared.number := by
  revert holds
  fun_cases advance call shared stage with
  | case1 =>
    intro holds
    exact .inr ⟨rfl, (Option.some.inj holds).symm⟩
  | case2 | case3 | case6 => exact .inl
  | case4 | case5 | case7 =>
    intro holds
    contradiction

theorem advance_ne_waiting : stage.advance call shared ≠ .waiting := by
  fun_cases advance call shared stage <;> exact Stage.noConfusion

variable (registry call) in
/-- What a run registers it has in its outlook. -/
theorem registered_outlook (ran : stage ≠ .waiting) :
    stage.registered.IsPrefix (stage.outlook registry call).registrations := by
  cases stage with
  | waiting => contradiction
  | rules held pending p => exact List.nil_prefix
  | check held pending registered p => exact List.prefix_append _ _
  | ended result => exact List.prefix_refl _

def remaining (call : Call) : Stage → Nat
  | .waiting => call.steps
  | .rules _ pending _ => pending.length + (call.policy.check call.source).length + 2
  | .check _ pending _ _ => pending.length + 1
  | .ended _ => 0

theorem remaining_advance :
    (stage.advance call shared).remaining call ≤ stage.remaining call - 1 := by
  fun_cases advance call shared stage with
  | case1 =>
    have declared : ((call.policy.schema.plan call.source call.absent).flatMap fun plan =>
        plan.rules.map fun spec => (plan, spec)).length =
          (call.policy.schema.fields.flatMap FieldDecl.rules).length := by
      simp only [List.length_flatMap, List.length_map, Schema.plan, List.map_map]
      rfl
    simp only [begin, remaining, declared, Call.steps]
    omega
  | case2 held p =>
    have actions : (Run.checkActions call.policy call.source p.outcome).length ≤
        (call.policy.check call.source).length := by
      rw [Run.checkActions]
      split <;> simp
    simp only [beginCheck, remaining]
    omega
  | case3 =>
    simp only [remaining, List.length_cons]
    omega
  | case4 => exact Nat.zero_le _
  | case5 | case7 => exact Nat.le_refl _
  | case6 => simp [remaining]

end Stage

namespace Pool

variable {calls : List Call} {pool : Pool} {event : Event}

theorem log_append (pool : Pool) (before later : List Event) :
    pool.log (before ++ later) = pool.log before ++ (pool.after before).log later := by
  induction before generalizing pool with
  | nil => rfl
  | cons event rest ih =>
    rw [List.cons_append, log, ih, log, List.append_assoc]
    rfl

theorem log_concat (pool : Pool) (taken : List Event) (event : Event) :
    pool.log (taken ++ [event]) = pool.log taken ++ (pool.after taken).entries event := by
  rw [log_append, log, log, List.append_nil]

theorem after_concat (pool : Pool) (taken : List Event) (event : Event) :
    pool.after (taken ++ [event]) = (pool.after taken).step event := by
  rw [after, List.foldl_append]
  rfl

/-- The registrations that a run or the outside has made, among those of all. -/
def madeBy (origin : Option Nat) (made : List (Option Nat × String × Factory)) :
    List (String × Factory) :=
  (made.filter (·.1 = origin)).map Prod.snd

theorem madeBy_append (origin : Option Nat) (made later : List (Option Nat × String × Factory)) :
    madeBy origin (made ++ later) = madeBy origin made ++ madeBy origin later := by
  rw [madeBy, List.filter_append, List.map_append]
  rfl

theorem madeBy_entries (origin : Option Nat) (pool : Pool) (event : Event) :
    madeBy origin (pool.entries event) =
      if event.index? = origin then (pool.registration? event).toList else [] := by
  rw [entries, madeBy]
  by_cases own : event.index? = origin
  · cases pool.registration? event <;> simp [own]
  · cases pool.registration? event <;> simp [own]

theorem shared_move (pool : Pool) (event : Event) : (pool.move event).shared = pool.shared := by
  cases event with
  | register name factory => rfl
  | advance index =>
    rw [move]
    split <;> rfl

theorem runs_step (pool : Pool) (event : Event) :
    (pool.step event).runs = (pool.move event).runs := by
  rw [step]
  split <;> rfl

/-- An event changes no run but the one whose step it is. -/
theorem getElem?_runs_step (pool : Pool) (event : Event) (index : Nat) :
    (pool.step event).runs[index]? =
      if event.index? = some index then
        pool.runs[index]?.map fun (call, stage) => (call, stage.advance call pool.shared)
      else pool.runs[index]? := by
  rw [runs_step]
  cases event with
  | register name factory => rfl
  | advance other =>
    simp only [move, Event.index?, Option.some.injEq]
    by_cases own : other = index
    · subst own
      cases present : pool.runs[other]? with
      | none => simp [present]
      | some run =>
        have inside := (List.getElem?_eq_some_iff.mp present).1
        simp [List.getElem?_set_self inside]
    · rw [if_neg own]
      split
      · rfl
      · exact List.getElem?_set_ne own

theorem map_fst_runs_step (pool : Pool) (event : Event) :
    (pool.step event).runs.map Prod.fst = pool.runs.map Prod.fst := by
  apply List.ext_getElem?
  intro index
  rw [List.getElem?_map, List.getElem?_map, getElem?_runs_step]
  split
  · cases pool.runs[index]? <;> rfl
  · rfl

theorem latest_step {made : List (Option Nat × String × Factory)}
    (latest : pool.shared.latest = Registry.ofRegistrations (made.map Prod.snd)) :
    (pool.step event).shared.latest =
      Registry.ofRegistrations ((made ++ pool.entries event).map Prod.snd) := by
  rw [step, entries]
  cases pool.registration? event with
  | none => simpa [shared_move] using latest
  | some registration =>
    simp only [register, latest_register, shared_move, latest, List.map_append]
    exact (Registry.ofRegistrations_concat _ registration).symm

theorem number_le_step : pool.shared.number ≤ (pool.step event).shared.number := by
  rw [step, ← shared_move pool event]
  split
  · exact Nat.le_refl _
  · exact number_le_register

/-- No event writes into a version that a run holds. -/
theorem version_step {index : Nat} {call : Call} {stage : Stage}
    (present : (pool.step event).runs[index]? = some (call, stage)) {number : Nat}
    (holds : stage.held? = some number) (known : number ≤ pool.shared.number) :
    (pool.step event).shared.version number = pool.shared.version number := by
  rw [runs_step] at present
  rw [← shared_move pool event] at known ⊢
  rw [step]
  split
  · rfl
  · refine version_register known ?_
    rintro rfl
    exact List.any_eq_true.mpr ⟨_, List.mem_of_getElem? present, by simpa using holds⟩

def collected (pool : Pool) (schedule : List Event) : Registry :=
  Registry.ofRegistrations ((pool.log schedule).map Prod.snd)

/-- No registration is lost. -/
theorem latest_after (calls : List Call) (schedule : List Event) :
    ((start calls).after schedule).shared.latest = (start calls).collected schedule := by
  induction schedule using List.reverseRecOn with
  | nil => rfl
  | append_singleton taken event ih =>
    rw [after_concat, latest_step ih, collected, log_concat]

theorem map_fst_runs_after (calls : List Call) (schedule : List Event) :
    ((start calls).after schedule).runs.map Prod.fst = calls := by
  induction schedule using List.reverseRecOn with
  | nil =>
    simp only [after, List.foldl_nil, start, List.map_map]
    exact List.map_id calls
  | append_singleton taken event ih => rw [after_concat, map_fst_runs_step, ih]

/-- Before its first step a run waits. From there on, what it will have come to is what it comes
to alone with the rules registered before that step, and while it is under way it holds them. -/
inductive Placed (calls : List Call) (taken : List Event) (index : Nat) (call : Call)
    (stage : Stage) : Prop where
  | waiting (none : .advance index ∉ taken) (waits : stage = .waiting)
  | begun (before later : List Event) (split : taken = before ++ .advance index :: later)
    (first : .advance index ∉ before) (ran : stage ≠ .waiting)
    (holds : ∀ number, stage.held? = some number →
      ((start calls).after taken).shared.version number = (start calls).collected before)
    (outlook : stage.outlook ((start calls).collected before) call =
      call.alone ((start calls).collected before))

/-- What is known of a run after a schedule. -/
structure Account (calls : List Call) (taken : List Event) (index : Nat) (call : Call)
    (stage : Stage) : Prop where
  bounded : ∀ number, stage.held? = some number →
    number ≤ ((start calls).after taken).shared.number
  registered : madeBy (some index) ((start calls).log taken) = stage.registered
  remaining : stage.remaining call ≤
    call.steps - taken.countP (fun event => event.index? = some index)
  placed : Placed calls taken index call stage

variable {taken : List Event} {index : Nat} {call : Call} {stage : Stage}

/-- A step of another run, or a registration from outside. -/
theorem Account.other (account : Account calls taken index call stage)
    (present : ((start calls).after (taken ++ [event])).runs[index]? = some (call, stage))
    (other : event.index? ≠ some index) : Account calls (taken ++ [event]) index call stage := by
  obtain ⟨bounded, registered, remaining, placed⟩ := account
  rw [after_concat] at present
  refine ⟨?_, ?_, ?_, ?_⟩
  · intro number holds
    rw [after_concat]
    exact Nat.le_trans (bounded number holds) number_le_step
  · rw [log_concat, madeBy_append, madeBy_entries, if_neg other, List.append_nil, registered]
  · rw [List.countP_append, List.countP_singleton, if_neg (by simpa using other)]
    exact remaining
  · cases placed with
    | waiting none waits =>
      refine .waiting ?_ waits
      rw [List.mem_append, List.mem_singleton, not_or]
      exact ⟨none, fun same => other (same ▸ rfl)⟩
    | begun before later split first ran holds outlook =>
      refine .begun before (later ++ [event]) (by simp [split]) first ran ?_ outlook
      intro number held
      rw [after_concat, version_step present held (bounded number held)]
      exact holds number held

/-- A step of the run itself. -/
theorem Account.own (account : Account calls taken index call stage)
    (present : ((start calls).after taken).runs[index]? = some (call, stage)) :
    Account calls (taken ++ [.advance index]) index call
      (stage.advance call ((start calls).after taken).shared) := by
  obtain ⟨bounded, registered, remaining, placed⟩ := account
  let pool := (start calls).after taken
  let next := stage.advance call pool.shared
  have moved : (pool.step (.advance index)).runs[index]? = some (call, next) := by
    rw [getElem?_runs_step, present]
    exact if_pos rfl
  have known : ∀ number, next.held? = some number → number ≤ pool.shared.number := by
    intro number holds
    rcases Stage.held?_advance holds with held | ⟨_, rfl⟩
    · exact bounded number held
    · exact Nat.le_refl _
  have kept : ∀ number, next.held? = some number →
      ((start calls).after (taken ++ [.advance index])).shared.version number =
        pool.shared.version number := by
    intro number holds
    rw [after_concat]
    exact version_step moved holds (known number holds)
  refine ⟨?_, ?_, ?_, ?_⟩
  · intro number holds
    rw [after_concat]
    exact Nat.le_trans (known number holds) number_le_step
  · have own : pool.registration? (.advance index) = stage.registration? := by
      rw [registration?, present]
      rfl
    rw [log_concat, madeBy_append, madeBy_entries, registered, own, Stage.registered_advance]
    exact congrArg _ (if_pos rfl)
  · rw [List.countP_append, List.countP_singleton, if_pos (by simp [Event.index?])]
    refine Nat.le_trans Stage.remaining_advance ?_
    omega
  · cases placed with
    | waiting none waits =>
      subst waits
      refine .begun taken [] rfl none Stage.advance_ne_waiting ?_ (Stage.outlook_begin _ _ _)
      intro number holds
      obtain rfl := Option.some.inj holds
      rw [kept _ holds, version_number, latest_after]
    | begun before later split first ran holds outlook =>
      refine .begun before (later ++ [.advance index]) (by simp [split]) first
        Stage.advance_ne_waiting ?_ ((Stage.outlook_advance holds).trans outlook)
      intro number held
      rw [kept number held]
      rcases Stage.held?_advance held with held | ⟨waits, _⟩
      · exact holds number held
      · exact absurd waits ran

/-- The account of every run holds after any schedule. -/
theorem account_after (calls : List Call) (schedule : List Event) {index : Nat} {call : Call}
    {stage : Stage} (present : ((start calls).after schedule).runs[index]? = some (call, stage)) :
    Account calls schedule index call stage := by
  -- From the end of the schedule, since an account is about all that came before.
  induction schedule using List.reverseRecOn generalizing stage with
  | nil =>
    simp only [after, List.foldl_nil, start, List.getElem?_map] at present
    obtain ⟨_, _, same⟩ := Option.map_eq_some_iff.mp present
    obtain ⟨rfl, rfl⟩ := Prod.mk.inj same
    exact ⟨(fun _ holds => nomatch holds), rfl, Nat.le_refl _, .waiting List.not_mem_nil rfl⟩
  | append_singleton taken event ih =>
    by_cases own : event.index? = some index
    · cases event with
      | register name factory => contradiction
      | advance moved =>
        obtain rfl := Option.some.inj own
        rw [after_concat, getElem?_runs_step, if_pos own] at present
        obtain ⟨⟨_, before⟩, here, same⟩ := Option.map_eq_some_iff.mp present
        obtain ⟨rfl, rfl⟩ := Prod.mk.inj same
        exact (ih here).own here
    · have before := present
      rw [after_concat, getElem?_runs_step, if_neg own] at before
      exact (ih before).other present own

theorem Account.ended (account : Account calls taken index call stage)
    (enough : call.steps ≤ taken.countP (fun event => event.index? = some index)) :
    ∃ result, stage = .ended result := by
  have remaining := account.remaining
  cases stage with
  | ended result => exact ⟨result, rfl⟩
  | waiting | rules _ _ _ | check _ _ _ _ =>
    simp only [Stage.remaining, Call.steps] at remaining enough
    omega

theorem Placed.none (placed : Placed calls taken index call .waiting) :
    .advance index ∉ taken := by
  cases placed with
  | waiting none _ => exact none
  | begun _ _ _ _ ran => exact absurd rfl ran

theorem eq_of_first {before later : List Event} (rest : List Event) (none : .advance index ∉ taken)
    (first : .advance index ∉ before)
    (split : taken ++ .advance index :: rest = before ++ .advance index :: later) :
    before = taken := by
  induction taken generalizing before with
  | nil =>
    cases before with
    | nil => rfl
    | cons event before => exact absurd ((List.cons.inj split).1 ▸ List.mem_cons_self) first
  | cons event taken ih =>
    cases before with
    | nil => exact absurd ((List.cons.inj split).1 ▸ List.mem_cons_self) none
    | cons other before =>
      obtain ⟨rfl, onward⟩ := List.cons.inj split
      rw [ih (fun member => none (List.mem_cons_of_mem _ member))
        (fun member => first (List.mem_cons_of_mem _ member)) onward]

/-- Steps of one run register what this run registers. -/
theorem madeBy_log_replicate (pool : Pool) (index count : Nat) :
    madeBy (some index) (pool.log (List.replicate count (.advance index))) =
      (pool.log (List.replicate count (.advance index))).map Prod.snd := by
  induction count generalizing pool with
  | zero => rfl
  | succ count ih =>
    rw [List.replicate_succ, log, madeBy_append, ih, List.map_append, madeBy_entries, entries,
      List.map_map]
    exact congrArg (· ++ _) ((if_pos rfl).trans (List.map_id _).symm)

theorem registry_validate (session : Session) (policy : Policy) (source : Source) (absent : Json) :
    (session.validate none policy source absent).2.registry =
      (run session.registry policy source absent).registrations.foldl
        (fun shared (name, factory) => shared.register name factory) session.registry := by
  rw [Session.validate, Session.write]
  split <;> rfl

/-- A run that nothing comes between is a validation in a session whose registry is the
latest version. -/
theorem after_uninterrupted
    (waits : ((start calls).after taken).runs[index]? = some (call, .waiting)) (session : Session)
    (same : session.registry = ((start calls).after taken).shared.latest) :
    let next := (start calls).after (taken ++ List.replicate call.steps (.advance index))
    let validated := session.validate none call.policy call.source call.absent
    ∃ result, next.runs[index]? = some (call, .ended result) ∧ result.result = validated.1 ∧
      next.shared.latest = validated.2.registry := by
  intro next validated
  obtain ⟨stage, present⟩ : ∃ stage, next.runs[index]? = some (call, stage) := by
    have here := congrArg (·[index]?) ((map_fst_runs_after calls _).trans
      (map_fst_runs_after calls taken).symm : next.runs.map Prod.fst = _)
    simp only [List.getElem?_map, waits, Option.map_some] at here
    obtain ⟨⟨_, stage⟩, present, rfl⟩ := Option.map_eq_some_iff.mp here
    exact ⟨stage, present⟩
  have account := account_after calls _ present
  obtain ⟨result, rfl⟩ := account.ended (by
    rw [List.countP_append, List.countP_replicate, if_pos (by simp [Event.index?])]
    exact Nat.le_add_left _ _)
  have before := account_after calls taken waits
  cases account.placed with
  | waiting _ waits => contradiction
  | begun begun later split first _ _ outlook =>
    obtain rfl := eq_of_first (List.replicate (call.steps - 1) (.advance index))
      before.placed.none first split
    have outcome : result = run session.registry call.policy call.source call.absent := by
      rw [same, latest_after]
      exact outlook
    have own : ((((start calls).after begun).log
        (List.replicate call.steps (.advance index))).map Prod.snd) = result.registrations := by
      have registered := account.registered
      rw [log_append, madeBy_append, before.registered, madeBy_log_replicate] at registered
      exact registered
    refine ⟨result, present, congrArg RunResult.result outcome, ?_⟩
    rw [registry_validate, ← outcome, ← own, same, latest_after, latest_after, collected, log_append,
      List.map_append, Registry.ofRegistrations, List.foldl_append]
    rfl

theorem madeBy_none_log (pool : Pool) (schedule : List Event) :
    madeBy none (pool.log schedule) = schedule.filterMap Event.registration? := by
  induction schedule generalizing pool with
  | nil => rfl
  | cons event rest ih =>
    rw [log, madeBy_append, madeBy_entries, ih]
    cases event with
    | register name factory => rfl
    | advance index => rfl

/-- Runs without registries of their own, their steps and registrations from outside in
any order. At every time the latest version holds all that has been registered, from
outside and by checks of runs that are still under way, and a name stands for what was
registered last under it. A run comes to what `run` gives alone with the registry of all
registrations before its first step; it holds this registry while it is under way,
whatever is registered meanwhile, and its own steps are enough for it to end. -/
theorem runs_isolated (calls : List Call) (schedule : List Event) :
    let pool := (start calls).after schedule
    let log := (start calls).log schedule
    pool.runs.map Prod.fst = calls ∧
    pool.shared.latest = Registry.ofRegistrations (log.map Prod.snd) ∧
    (∀ registration ∈ log.map Prod.snd, pool.shared.latest.contains registration.1 = true) ∧
    (∀ name, pool.shared.latest.resolve? name =
      match Registry.latest? (log.map Prod.snd) name with
      | some factory => some (.custom factory)
      | none => (Builtin.ofName? name).map .builtin) ∧
    madeBy none log = schedule.filterMap Event.registration? ∧
    ∀ index call stage, pool.runs[index]? = some (call, stage) →
      madeBy (some index) log = stage.registered ∧
      (call.steps ≤ schedule.countP (fun event => event.index? = some index) →
        ∃ result, stage = .ended result) ∧
      ((.advance index ∉ schedule ∧ stage = .waiting) ∨
        ∃ before later, schedule = before ++ .advance index :: later ∧ .advance index ∉ before ∧
          stage ≠ .waiting ∧
          let snapshot := Registry.ofRegistrations (((start calls).log before).map Prod.snd)
          (∀ number, stage.held? = some number → pool.shared.version number = snapshot) ∧
          stage.registered.IsPrefix
            (run snapshot call.policy call.source call.absent).registrations ∧
          ∀ result, stage = .ended result →
            result = run snapshot call.policy call.source call.absent ∧
            result.result = validate snapshot call.policy call.source call.absent) := by
  intro pool log
  have latest : pool.shared.latest = Registry.ofRegistrations (log.map Prod.snd) :=
    latest_after calls schedule
  refine ⟨map_fst_runs_after calls schedule, latest, ?_, ?_, madeBy_none_log _ schedule, ?_⟩
  · intro registration member
    rw [latest]
    exact Registry.contains_ofRegistrations member
  · intro name
    rw [latest]
    exact Registry.resolve?_ofRegistrations _ name
  · intro index call stage present
    have account := account_after calls schedule present
    refine ⟨account.registered, account.ended, ?_⟩
    cases account.placed with
    | waiting none waits => exact .inl ⟨none, waits⟩
    | begun before later split first ran holds outlook =>
      have prefixed := Stage.registered_outlook ((start calls).collected before) call ran
      rw [outlook] at prefixed
      refine .inr ⟨before, later, split, first, ran, holds, prefixed, ?_⟩
      rintro result rfl
      exact ⟨outlook, congrArg RunResult.result outlook⟩

/-- A run of a rule that is not built in, on a value that it accepts. -/
def wanted : Call :=
  ⟨(Definition.ofSchema (Schema.ofDeclarations [("flag", "set")])).policy,
    Source.ofJson (.object [("flag", .bool true)]), .null⟩

/-- The rule is registered after the first step of one run, and before that of the other. -/
example :
    ((start [wanted, wanted]).after
        ([.advance 0, .register "set" (Factory.ofTest "not set" fun value _ =>
          value matches .bool true), .advance 0] ++ List.replicate 5 (.advance 1))).runs.map
      (fun (_, stage) => match stage with
        | .ended result => some result.result.isOk
        | _ => none) = [some false, some true] := by
  decide +kernel

end Pool

end SharedRegistry

end FieldRules
