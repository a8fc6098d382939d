import FieldRules.Session.Live
import FieldRules.Proofs.FieldPhase
import FieldRules.Proofs.LoggingState
import FieldRules.Proofs.Resolution

/-! Runs that log as they go. The logging state decides at every single place whether a
record is written there, and it decides nothing else: the run comes to what it would have
come to, and what it writes is what the state lets through of one full list of records,
which the declared rules and the input determine. -/
namespace FieldRules

namespace Session

section Writing

variable (session : Session) (records : List Record)

/-- Records written one list after the other are written in order, by the same state. -/
theorem write_append (later : List Record) :
    session.write (records ++ later) = (session.write records).write later := by
  cases records with
  | nil => rfl
  | cons first rest =>
    cases later with
    | nil => rw [List.append_nil]; rfl
    | cons next later =>
      simp only [write, List.cons_append, List.isEmpty_cons, Bool.false_eq_true, if_false,
        LogState.init_init, LogState.written_init, List.append_assoc]
      rw [← List.cons_append, LogState.written, List.filter_append]
      rfl

theorem write_withRegistry (registry : Registry) :
    ({ session with registry } : Session).write records =
      { session.write records with registry } := by
  rw [write, write]
  split <;> rfl

theorem registry_write : (session.write records).registry = session.registry := by
  rw [write]
  split <;> rfl

theorem write_register (name : String) (factory : Factory) :
    (session.register name factory).write records =
      { session.write (Run.registrationRecord name :: records) with
        registry := session.registry.register name factory } := by
  rw [register, write_withRegistry, ← write_append]
  rfl

end Writing

theorem call_emit (session : Session) (record : Record) :
    session.call (.emit record) = session.write [record] := by
  simp [call, write, LogState.after, LogState.recorded, Function.comp_def]

end Session

namespace LiveRun

variable {registry : Registry} {policy : Policy} {source : Source} {session : Session}
  {plan : FieldPlan} {p : Progress}

/-- A run under way that has written the records of its progress. -/
def of (session : Session) (p : Progress) : LiveRun :=
  ⟨session.write p.records, p.outcome, p.values⟩

def ofResult (session : Session) : Except Stopped Progress → Except AbandonedRun LiveRun
  | .ok p => .ok (of session p)
  | .error stopped => .error ⟨stopped.error, session.write stopped.records⟩

theorem log_of (record : Record) :
    (of session p).log record = of session { p with records := p.records ++ [record] } := by
  rw [log, Session.call_emit, of, of, Session.write_append]

theorem recordFailure_of (spec : RuleSpec) (message : String) :
    recordFailure plan spec message (of session p) =
      of session (Run.recordFailure plan spec message p) := by
  rw [recordFailure, log_of]
  rfl

theorem applyRule_of (spec : RuleSpec) :
    applyRule registry policy plan spec (of session p) =
      ofResult session (Run.applyRule registry policy plan spec p) := by
  rw [applyRule, Run.applyRule]
  cases registry.lookup plan.field spec with
  | error error =>
    simp only [log_of]
    rfl
  | ok kind =>
    simp only [recordFailure_of]
    split <;> rfl

theorem applyRules_of (specs : List RuleSpec) :
    applyRules registry policy plan specs (of session p) =
      ofResult session (Run.applyRules registry policy plan specs p) := by
  induction specs generalizing p with
  | nil => rfl
  | cons spec rest ih =>
    rw [applyRules, applyRule_of, Run.applyRules]
    cases Run.applyRule registry policy plan spec p with
    | error stopped => rfl
    | ok next => exact ih

/-- The rules of the fields, with each record written at its place, come to what they come
to otherwise. -/
theorem applyFields_of (plans : List FieldPlan) :
    applyFields registry policy plans (of session p) =
      ofResult session (Run.applyFields registry policy plans p) := by
  induction plans generalizing p with
  | nil => rfl
  | cons plan rest ih =>
    rw [applyFields, applyRules_of, Run.applyFields]
    cases Run.applyRules registry policy plan plan.rules p with
    | error stopped => rfl
    | ok next => exact ih

/-- Actions change the outcome, and register and log what they register. -/
theorem foldl_takeAction (actions : List Action) (live : LiveRun) :
    actions.foldl takeAction live =
      let made := actions.filterMap Action.registration?
      ⟨{ live.session.write (made.map fun (name, _) => Run.registrationRecord name) with
          registry := made.foldl (fun shared (name, factory) => shared.register name factory)
            live.session.registry },
        live.outcome.applyAll actions, live.values⟩ := by
  induction actions generalizing live with
  | nil => rfl
  | cons action rest ih =>
    rw [List.foldl_cons, ih]
    cases made : action.registration? with
    | none => simp only [takeAction, made, List.filterMap_cons, Outcome.applyAll, List.foldl_cons]
    | some registration =>
      obtain ⟨name, factory⟩ := registration
      simp only [takeAction, made, List.filterMap_cons, Session.write_register]
      rfl

/-- The check acts as it does otherwise, and what it registers is there for everyone. -/
theorem check_of :
    (of session p).check policy source =
      let actions := Run.checkActions policy source p.outcome
      let made := actions.filterMap Action.registration?
      ⟨{ session.write (p.records ++ if p.outcome.status then
            Run.checkRecord :: made.map fun (name, _) => Run.registrationRecord name else []) with
          registry := made.foldl (fun shared (name, factory) => shared.register name factory)
            session.registry },
        p.outcome.applyAll actions, p.values⟩ := by
  rw [check, log_of, foldl_takeAction, Run.checkActions]
  cases passed : p.outcome.status with
  | false =>
    -- nothing acts, and writing has left the registry alone
    have kept : session.write p.records =
        { session.write p.records with registry := session.registry } := by
      rw [← Session.registry_write session p.records]
    simpa [of, passed, Outcome.applyAll] using kept
  | true =>
    simp only [of, passed, if_true, ← Session.write_append, Session.registry_write,
      List.append_assoc, List.singleton_append]

theorem finish_of :
    (of session p).finish policy source =
      let ended := Run.finish policy source p
      (ended.result,
        { session.write ended.records with
          registry := ended.registrations.foldl
            (fun shared (name, factory) => shared.register name factory) session.registry }) := by
  simp only [finish, check_of, log, Session.call_emit, Session.write_withRegistry,
    ← Session.write_append]
  rfl

end LiveRun

/-- A run writes and registers the same whether it does so as it goes or at its end. -/
theorem Session.validateLive_eq (session : Session) (registry : Option Registry) (policy : Policy)
    (source : Source) (absent : Json) :
    session.validateLive registry policy source absent =
      session.validate registry policy source absent := by
  let plans := policy.schema.plan source absent
  have begun : (⟨session, Outcome.start policy.failedCode, []⟩ : LiveRun).log
      (Run.startRecord plans.length) = LiveRun.of session (Run.start policy plans.length) := by
    rw [LiveRun.log, Session.call_emit]
    rfl
  simp only [validateLive, validate, run, Run.fieldPhase]
  rw [begun, LiveRun.applyFields_of]
  cases ended : Run.applyFields (registry.getD session.registry) policy plans
      (Run.start policy plans.length) with
  | error stopped => rfl
  | ok p => simp only [LiveRun.ofResult, LiveRun.finish_of, registry_write]

/-- Whether a record of a level is written, by the debug flag and the level in force. -/
def Level.enabled (level : Level) (debug : Bool) (inForce : Level) : Bool :=
  match level with
  | .trace => decide (inForce = .trace)
  | .debug => debug || decide (inForce ∈ [Level.trace, .debug])
  | .info => decide (inForce ∈ [Level.trace, .debug, .info])
  | .warn => decide (inForce ∈ [Level.trace, .debug, .info, .warn])
  | .error => decide (inForce ≠ .off)
  | .off => false

theorem LogState.admits_eq (state : LogState) (level : Level) :
    state.admits level = level.enabled state.isDebugEnabled state.currentLevel := by
  simp only [admits, isLevelEnabled, isDebugEnabled, currentLevel]
  cases level <;> cases state.init.level <;> rfl

namespace Run

section FullTrace

variable (registry : Registry) (policy : Policy) (source : Source) (absent : Json)

/-- All records of a run whose check registers nothing: the number of planned fields, each
failure as it happens, and then the error, or else, with the check announced if nothing
has failed, what the report says in the end. -/
def fullTrace : List Record :=
  let engine := "rulecheck_validation::engine"
  let failed := reachedNotes registry policy source absent
  ⟨.trace, engine,
      "validating " ++ toString (policy.schema.plan source absent).length ++ " fields"⟩ ::
    failed.map (fun note =>
      ⟨.debug, engine, note.field ++ "." ++ note.rule ++ " failed: " ++ note.text⟩) ++
    match validate registry policy source absent with
    | .error error => [⟨.warn, engine, error.message⟩]
    | .ok report =>
      (if failed = [] then [⟨.debug, engine, "all field rules passed, running post-check"⟩]
        else []) ++
        [⟨.trace, engine,
          "validation finished: status=" ++ (if report.status then "true" else "false") ++
            " code=" ++ toString report.code.toInt ++
            " failed_fields=" ++ toString report.messages.length⟩]

theorem fullTrace_eq :
    fullTrace registry policy source absent =
      phaseRecords (policy.schema.plan source absent).length
          (reachedNotes registry policy source absent) ++
        match validate registry policy source absent with
        | .error error => [errorRecord error]
        | .ok report =>
          (if reachedNotes registry policy source absent = [] then [checkRecord] else []) ++
            [finishRecord ⟨report.status, report.code, report.messages⟩] := by
  rw [fullTrace]
  cases validate registry policy source absent <;> rfl

end FullTrace

variable {registry : Registry} {policy : Policy} {source : Source} {absent : Json}

section Quiet

variable (quiet : ∀ action ∈ policy.check source, action.registration? = none)
include quiet

theorem registration?_checkActions (outcome : Outcome) :
    (checkActions policy source outcome).filterMap Action.registration? = [] := by
  rw [checkActions]
  split
  · exact List.filterMap_eq_nil_iff.mpr quiet
  · rfl

theorem registrations_run : (run registry policy source absent).registrations = [] := by
  rw [run]
  split
  · rfl
  · exact registration?_checkActions quiet _

/-- The records of a run, told by the failures that it comes to and by how it ends. -/
theorem records_run :
    (run registry policy source absent).records = fullTrace registry policy source absent := by
  cases first : registry.firstUnknown? policy.schema.declared with
  | some found =>
    -- the phase of the fields ends with the error, and there is no check to come
    obtain ⟨field, spec⟩ := found
    have stopped := fieldPhase_stopped source absent first
    simp only [fullTrace_eq, validate, run, stopped]
  | none =>
    have resolved := (Registry.firstUnknown?_eq_none_iff policy.schema).mp first
    obtain ⟨p, ran, outcome, records⟩ := fieldPhase_resolved resolved source absent
    have status : p.outcome.status = true ↔ notes registry policy source absent = [] := by
      rw [outcome, List.isEmpty_iff]
    simp only [fullTrace_eq, validate, run, ran, finish, registration?_checkActions quiet, records,
      List.map_nil, status, reachedNotes_resolved source absent resolved, List.append_assoc]

end Quiet

/-- The error of a run names the first declared rule without a meaning, and its field. -/
theorem message_of_error {error : ConfigError}
    (failed : validate registry policy source absent = .error error) :
    ∃ field rule, registry.FirstUnknown policy.schema field rule ∧
      error.message = "Unknown rule '" ++ rule ++ "' declared for field '" ++ field ++ "'" := by
  rw [validate_error_iff, Registry.verify_eq] at failed
  cases first : registry.firstUnknown? policy.schema.declared with
  | none =>
    rw [first] at failed
    contradiction
  | some found =>
    obtain ⟨field, spec⟩ := found
    rw [first] at failed
    obtain rfl := Except.error.inj failed
    exact ⟨field, spec.name,
      (Registry.firstUnknown_iff policy.schema field spec.name).mpr ⟨spec, first, rfl⟩, rfl⟩

/-- Logging is an observer. Let the check of a policy register nothing, and so log nothing
either. Then a run that logs as it goes has the same result in every logging state, and all
that it does to the session is to write, in order, those records of the full list that the
debug flag and the level in force at its beginning let through. A run that ends with an error
has come to the first declared rule without a meaning, and the text of the error names it. -/
theorem logging_observes (session : Session) (registry : Option Registry) (policy : Policy)
    (source : Source) (absent : Json)
    (quiet : ∀ action ∈ policy.check source, action.registration? = none) :
    let rules := registry.getD session.registry
    (∀ log, ({ session with log }.validateLive registry policy source absent).1 =
      validate rules policy source absent) ∧
    (session.validateLive registry policy source absent).2 =
      { session with
        log := session.log.init
        written := session.written ++
          (fullTrace rules policy source absent).filter fun record =>
            record.level.enabled session.log.isDebugEnabled session.log.currentLevel } ∧
    ∀ error, validate rules policy source absent = .error error →
      ∃ field rule, rules.FirstUnknown policy.schema field rule ∧
        error.message = "Unknown rule '" ++ rule ++ "' declared for field '" ++ field ++ "'" := by
  refine ⟨fun log => ?_, ?_, fun error failed => message_of_error failed⟩
  · rw [Session.validateLive_eq]
    rfl
  · rw [Session.validateLive_eq, Session.validate]
    simp only [registrations_run quiet, records_run quiet, List.foldl_nil,
      ← LogState.admits_eq]
    rfl

/-- A field that fails a rule, and one with a rule that does not exist. -/
def misspelled : Policy :=
  (Definition.ofSchema (Schema.ofDeclarations [("name", "min:9"), ("age", "requird")])).policy

/-- Both failures of a rule that is declared three times are written, also where the debug flag
alone lets them through. An unknown rule is all that is left of its run among warnings. -/
theorem logging_observes_repeated :
    let engine := "rulecheck_validation::engine"
    let written (env : LogEnv) (policy : Policy) :=
      ((Session.start env).validateLive none policy
        (Source.ofJson (.object [("name", .string "abcdefg")])) .null).2.written
    written ⟨none, some "trace", none, none⟩ repeatedRules =
        [⟨.trace, engine, "validating 2 fields"⟩,
          ⟨.debug, engine, "name.min failed: name must be at least 9"⟩,
          ⟨.debug, engine, "name.min failed: name must be at least 12"⟩,
          ⟨.trace, engine, "validation finished: status=false code=-1 failed_fields=1"⟩] ∧
      written ⟨some "1", some "off", none, none⟩ repeatedRules =
        [⟨.debug, engine, "name.min failed: name must be at least 9"⟩,
          ⟨.debug, engine, "name.min failed: name must be at least 12"⟩] ∧
      written ⟨none, some "warn", none, none⟩ misspelled =
        [⟨.warn, engine, "Unknown rule 'requird' declared for field 'age'"⟩] := by
  intro engine written
  have after (env : LogEnv) (policy : Policy)
      (quiet : ∀ source, ∀ action ∈ policy.check source, action.registration? = none) :
      written env policy = (fullTrace Registry.empty policy
        (Source.ofJson (.object [("name", .string "abcdefg")])) .null).filter fun record =>
          record.level.enabled (LogState.start env).isDebugEnabled
            (LogState.start env).currentLevel := by
    obtain ⟨_, ended, _⟩ := logging_observes (Session.start env) none policy
      (Source.ofJson (.object [("name", .string "abcdefg")])) .null (quiet _)
    exact congrArg Session.written ended
  rw [after _ repeatedRules, after _ repeatedRules, after _ misspelled]
  · decide +kernel
  · exact fun _ _ member => List.mem_singleton.mp member ▸ rfl
  · exact fun _ _ member => List.mem_singleton.mp member ▸ rfl
  · exact fun _ _ member => List.mem_singleton.mp member ▸ rfl

end Run

end FieldRules
