import FieldRules.Proofs.FieldPhase

/-! The check of the whole input after the rules of the fields. It is a function of
the input and may act on the outcome in any order and as often as it likes; only
its last word on the status, on the code and on each message counts. -/
namespace FieldRules

namespace Action

def status? : Action → Option Bool
  | .succeed _ => some true
  | .failWith _ => some false
  | _ => none

def code? : Action → Option Code
  | .succeed code | .failWith code | .setCode code => some code
  | _ => none

def note? : Action → Option Note
  | .addMessage field rule text => some ⟨field, rule, text⟩
  | _ => none

end Action

/-- The text for a final code is chosen among the other answers of the policy. This
holds of every definition that leaves the question to the defaults. -/
def Policy.StandardInfo (policy : Policy) : Prop :=
  policy.resolveInfo = Policy.standardInfo policy.succeedCode policy.failedCode
    policy.succeedInfo policy.failedInfo policy.info?

theorem Definition.policy_standardInfo (d : Definition) : d.policy.StandardInfo := rfl

theorem Overridden.policy_standardInfo (d : Overridden) (kept : d.resolveInfo = none) :
    d.policy.StandardInfo := by
  simp only [Policy.StandardInfo, Overridden.policy, kept, Option.getD_none]

theorem Policy.StandardInfo.failed {policy : Policy} (standard : policy.StandardInfo)
    (different : policy.failedCode ≠ policy.succeedCode) :
    policy.resolveInfo policy.failedCode = policy.failedInfo := by
  rw [standard, Policy.standardInfo, if_neg different, if_pos rfl]

namespace Outcome

/-- Actions leave the status and the code that were set last, and add their
messages in order. -/
theorem applyAll_eq (outcome : Outcome) (actions : List Action) :
    outcome.applyAll actions =
      ⟨((actions.filterMap Action.status?).getLast?).getD outcome.status,
        ((actions.filterMap Action.code?).getLast?).getD outcome.code,
        (actions.filterMap Action.note?).foldl Messages.addNote outcome.messages⟩ := by
  induction actions generalizing outcome with
  | nil => rfl
  | cons action rest ih =>
    rw [applyAll, List.foldl_cons, ← applyAll, ih]
    cases action <;>
      simp [List.filterMap_cons, apply, addMessage, Action.status?, Action.code?, Action.note?,
        List.getLast?_cons, Messages.addNote]

theorem getLast?_history (outcome : Outcome) (actions : List Action) :
    (outcome.history actions).getLast? = some (outcome.applyAll actions) := by
  induction actions generalizing outcome with
  | nil => rfl
  | cons action rest ih =>
    rw [history, List.getLast?_cons, ih]
    rfl

end Outcome

namespace Run

theorem count_checkRecord_finish (policy : Policy) (source : Source) (p : Progress) :
    (finish policy source p).records.count checkRecord =
      p.records.count checkRecord + if p.outcome.status then 1 else 0 := by
  have finishing : [finishRecord (p.outcome.applyAll
      (checkActions policy source p.outcome))].count checkRecord = 0 := by
    apply List.count_eq_zero.mpr
    simp [finishRecord, checkRecord]
  rw [finish, List.count_append, List.count_append, finishing, Nat.add_zero]
  split
  · rw [List.count_cons_self]
    refine congrArg (fun logged => p.records.count checkRecord + (logged + 1))
      (List.count_eq_zero.mpr ?_)
    -- What the check registers is logged for another target.
    intro member
    obtain ⟨registration, _, same⟩ := List.mem_map.mp member
    exact absurd (congrArg Record.target same) (by simp [registrationRecord, checkRecord,
      Record.rulesTarget, Record.engineTarget])
  · rw [List.count_nil]

/-- After a failure a run ends the same with any check. -/
theorem finish_check {policy : Policy} {p : Progress} (failed : p.outcome.status = false)
    (check : PostCheck) (source : Source) :
    finish { policy with check } source p = finish policy source p := by
  simp only [finish, checkActions, failed, Bool.false_eq_true, if_false]

theorem checkHistory_eq {registry : Registry} {policy : Policy} {source : Source} {absent : Json}
    {p : Progress} (ran : fieldPhase registry policy source absent = .ok p) :
    checkHistory registry policy source absent =
      if p.outcome.status then p.outcome.history (policy.check source) else [] := by
  rw [checkHistory, ran]

/-- The check of the whole input, for any list of actions that it takes on an input.
Without a failure it runs exactly once, from an outcome that nothing has touched, and
the report is what it left. After a failure it does not run, and the report is that
of the failures. -/
theorem postCheck_decides (registry : Registry) (policy : Policy)
    (resolved : registry.ResolvesAll policy.schema) (source : Source) (absent : Json) :
    ∃ report, validate registry policy source absent = .ok report ∧
      report.info = policy.resolveInfo report.code ∧
      (¬ SomeFails registry policy source absent →
        (run registry policy source absent).records.count checkRecord = 1 ∧
        checkHistory registry policy source absent =
          (⟨true, policy.failedCode, []⟩ : Outcome).history (policy.check source) ∧
        (checkHistory registry policy source absent).getLast? =
          some ⟨report.status, report.code, report.messages⟩ ∧
        (run registry policy source absent).registrations =
          (policy.check source).filterMap Action.registration? ∧
        report.status = (((policy.check source).filterMap Action.status?).getLast?).getD true ∧
        report.code =
          (((policy.check source).filterMap Action.code?).getLast?).getD policy.failedCode ∧
        Messages.Reflects ((policy.check source).filterMap Action.note?) report.messages) ∧
      (SomeFails registry policy source absent →
        (run registry policy source absent).records.count checkRecord = 0 ∧
        checkHistory registry policy source absent = [] ∧
        (∀ check, run registry { policy with check } source absent =
          run registry policy source absent) ∧
        report.status = false ∧ report.code = policy.failedCode ∧
        Messages.Reflects (notes registry policy source absent) report.messages ∧
        (policy.StandardInfo → policy.failedCode ≠ policy.succeedCode →
          report.info = policy.failedInfo)) ∧
      (∀ d : Definition, policy = d.policy → policy.StandardInfo) ∧
      ∀ d : Overridden, policy = d.policy → d.resolveInfo = none → policy.StandardInfo := by
  obtain ⟨p, ran, outcome, records⟩ := fieldPhase_resolved resolved source absent
  have finished : run registry policy source absent = finish policy source p := by
    rw [run, ran]
  have before : p.records.count checkRecord = 0 := by
    rw [records]
    exact count_checkRecord_phaseRecords _ _
  rw [validate, finished]
  refine ⟨_, rfl, rfl, ?_, ?_, ?_, ?_⟩
  · intro passed
    have clean : notes registry policy source absent = [] :=
      Decidable.not_not.mp fun some => passed (notes_ne_nil_iff.mp some)
    rw [clean] at outcome
    have status : p.outcome.status = true := by rw [outcome]; rfl
    have history : checkHistory registry policy source absent =
        p.outcome.history (policy.check source) :=
      (checkHistory_eq ran).trans (if_pos status)
    have actions : checkActions policy source p.outcome = policy.check source := if_pos status
    rw [count_checkRecord_finish, before, status, history, Outcome.getLast?_history]
    simp only [finish, actions]
    refine ⟨rfl, by rw [outcome]; rfl, trivial, trivial, ?_⟩
    rw [outcome, Outcome.applyAll_eq]
    exact ⟨rfl, rfl, Messages.reflects_ofNotes _⟩
  · intro failed
    have some := notes_ne_nil_iff.mpr failed
    have status : p.outcome.status = false := by
      rw [outcome]
      exact List.isEmpty_eq_false_iff.mpr some
    have history : checkHistory registry policy source absent = [] :=
      (checkHistory_eq ran).trans (if_neg (by simp [status]))
    have actions : checkActions policy source p.outcome = [] := if_neg (by simp [status])
    have skipped : ∀ check, run registry { policy with check } source absent =
        finish policy source p := by
      intro check
      rw [run, fieldPhase_check, ran]
      exact finish_check status check source
    rw [count_checkRecord_finish, before, status, history]
    refine ⟨rfl, rfl, skipped, ?_⟩
    rw [actions]
    refine ⟨status, by rw [outcome]; rfl, ?_, ?_⟩
    · rw [outcome]
      exact Messages.reflects_ofNotes _
    · intro standard different
      rw [outcome]
      exact standard.failed different
  · rintro d rfl
    exact d.policy_standardInfo
  · rintro d rfl kept
    exact d.policy_standardInfo kept

def confirmed : Definition :=
  { Definition.ofSchema (Schema.ofDeclarations [("password", "required"), ("confirm", "required")])
    with
    info := [(1001, "passwords differ")]
    check := some fun source =>
      match source "password", source "confirm" with
      | some (.string password), some (.string confirm) =>
        if password = confirm then [.succeed 7]
        else [.succeed 7, .failWith 1000, .addMessage "confirm" "same" "no match", .setCode 1001]
      | _, _ => [] }

theorem postCheck_decides_confirmed :
    ∃ report, validate Registry.empty confirmed.policy (Source.ofJson (.object
        [("password", .string "a"), ("confirm", .string "b")])) .null = .ok report ∧
      report.status = false ∧ report.code = 1001 ∧ report.info = "passwords differ" ∧
      Ordered.getInner? "confirm" "same" report.messages = some "no match" := by
  obtain ⟨report, ran, info, passed, _⟩ :=
    postCheck_decides Registry.empty confirmed.policy (by decide +kernel) (Source.ofJson (.object
      [("password", .string "a"), ("confirm", .string "b")])) .null
  have clean : ¬ SomeFails Registry.empty confirmed.policy (Source.ofJson (.object
      [("password", .string "a"), ("confirm", .string "b")])) .null := by
    rw [← notes_ne_nil_iff]
    decide +kernel
  obtain ⟨_, _, _, _, status, code, messages⟩ := passed clean
  have code : report.code = 1001 := code.trans (by decide +kernel)
  refine ⟨report, ran, status.trans (by decide +kernel), code, ?_, ?_⟩
  · rw [info, code]
    decide +kernel
  · rw [messages.text]
    decide +kernel

end Run

end FieldRules
