import FieldRules.Proofs.PostCheck
import FieldRules.Proofs.Resolution

/-! The reports of runs whose names all resolve. A run that notes a failure reports
its notes and nothing else, and any other run reports what the check left. The values
stay in step with the messages all the while: each field that has failed a rule has
its planned value there, and no other field has one. -/
namespace FieldRules.Run

variable {registry : Registry} {policy : Policy} {source : Source} {absent : Json}

def plannedValues (source : Source) (absent : Json) (fields : List String) :
    List (String × Json) :=
  fields.map fun field => (field, (source field).getD absent)

theorem keys_plannedValues (fields : List String) :
    Ordered.keys (plannedValues source absent fields) = fields := by
  rw [Ordered.keys, plannedValues, List.map_map]
  exact List.map_id fields

theorem get?_plannedValues (fields : List String) (field : String) :
    Ordered.get? field (plannedValues source absent fields) =
      if field ∈ fields then some ((source field).getD absent) else none := by
  induction fields with
  | nil => rfl
  | cons head rest ih =>
    rw [plannedValues, List.map_cons, Ordered.get?, ← plannedValues, ih]
    by_cases here : head = field
    · simp [here]
    · simp [here, Ne.symm here]

/-- The fields with values are those with messages, each with its planned value. -/
def InStep (source : Source) (absent : Json) (p : Progress) : Prop :=
  p.values = plannedValues source absent (Ordered.keys p.outcome.messages)

theorem InStep.recordFailure {p : Progress} (inStep : InStep source absent p) {plan : FieldPlan}
    (planned : plan.value = (source plan.field).getD absent) (spec : RuleSpec) (message : String) :
    InStep source absent (recordFailure plan spec message p) := by
  have known : Ordered.has plan.field p.values = true ↔
      plan.field ∈ Ordered.keys p.outcome.messages := by
    rw [Ordered.has_iff, inStep, keys_plannedValues]
  simp only [InStep, Run.recordFailure, Outcome.recordFailure, Outcome.addMessage,
    Ordered.putInner, Ordered.keys_put, known]
  split
  · exact inStep
  · rw [inStep, planned]
    simp [plannedValues]

theorem InStep.foldl_advance {os : List Occurrence}
    (planned : ∀ o ∈ os, o.plan.value = (source o.plan.field).getD absent) {p : Progress}
    (inStep : InStep source absent p) :
    InStep source absent (os.foldl (Occurrence.advance registry policy) p) := by
  induction os generalizing p with
  | nil => exact inStep
  | cons o rest ih =>
    refine ih (fun o member => planned o (List.mem_cons_of_mem _ member)) ?_
    rw [Occurrence.advance]
    split
    · exact inStep
    · exact inStep.recordFailure (planned o List.mem_cons_self) _ _

theorem inStep_of_fieldPhase (resolved : registry.ResolvesAll policy.schema) {p : Progress}
    (ran : fieldPhase registry policy source absent = .ok p) : InStep source absent p := by
  have known : ∀ o ∈ occurrences (policy.schema.plan source absent),
      registry.Resolves o.spec := by
    intro o member
    obtain ⟨decl, declared, here, _⟩ := mem_occurrences_plan.mp member
    exact resolved decl declared o.spec here
  rw [fieldPhase, applyFields_eq_foldlM, foldlM_visit known, Except.ok.injEq] at ran
  rw [← ran]
  refine InStep.foldl_advance ?_ rfl
  intro o member
  obtain ⟨decl, _, _, plan⟩ := mem_occurrences_plan.mp member
  rw [plan]

/-- All that the rules of the fields have done, said by the failures that they noted. -/
theorem fieldPhase_eq (resolved : registry.ResolvesAll policy.schema) (source : Source)
    (absent : Json) :
    let noted := notes registry policy source absent
    fieldPhase registry policy source absent =
      .ok ⟨⟨noted.isEmpty, policy.failedCode, Messages.ofNotes noted⟩,
        plannedValues source absent (Ordered.keys (Messages.ofNotes noted)),
        phaseRecords (policy.schema.plan source absent).length noted⟩ := by
  obtain ⟨⟨outcome, values, records⟩, ran, same, logged⟩ :=
    fieldPhase_resolved resolved source absent
  have inStep := inStep_of_fieldPhase resolved ran
  simp only [InStep] at same logged inStep
  rw [ran, inStep, same, logged]

def failedReport (policy : Policy) (source : Source) (absent : Json) (noted : List Note) : Report :=
  ⟨false, policy.failedCode, Messages.ofNotes noted, policy.resolveInfo policy.failedCode,
    plannedValues source absent (Ordered.keys (Messages.ofNotes noted))⟩

def checkedReport (policy : Policy) (outcome : Outcome) : Report :=
  ⟨outcome.status, outcome.code, outcome.messages, policy.resolveInfo outcome.code, []⟩

theorem validate_failed (resolved : registry.ResolvesAll policy.schema)
    (some : notes registry policy source absent ≠ []) :
    validate registry policy source absent =
      .ok (failedReport policy source absent (notes registry policy source absent)) := by
  rw [validate, run, fieldPhase_eq resolved, List.isEmpty_eq_false_iff.mpr some]
  rfl

theorem validate_passed (resolved : registry.ResolvesAll policy.schema)
    (none : notes registry policy source absent = []) :
    validate registry policy source absent =
      .ok (checkedReport policy
        ((⟨true, policy.failedCode, []⟩ : Outcome).applyAll (policy.check source))) := by
  rw [validate, run, fieldPhase_eq resolved, none]
  rfl

/-- A report is that of the failures, if there are any, or that of the check. -/
theorem report_cases {report : Report}
    (ran : validate registry policy source absent = .ok report) :
    (SomeFails registry policy source absent ∧
      report = failedReport policy source absent (notes registry policy source absent)) ∨
    ¬ SomeFails registry policy source absent ∧
      report = checkedReport policy
        ((⟨true, policy.failedCode, []⟩ : Outcome).applyAll (policy.check source)) := by
  have resolved := (validate_ok_iff source absent).mp ⟨report, ran⟩
  rw [← notes_ne_nil_iff]
  by_cases some : notes registry policy source absent = []
  · rw [validate_passed resolved some] at ran
    exact .inr ⟨not_not_intro some, (Except.ok.inj ran).symm⟩
  · rw [validate_failed resolved some] at ran
    exact .inl ⟨some, (Except.ok.inj ran).symm⟩

theorem part_of_report {α : Type} (part : Report → α) {value : α} {report : Report}
    (ran : validate registry policy source absent = .ok report)
    (computed : (validate registry policy source absent).toOption.map part = some value) :
    part report = value := by
  rw [ran] at computed
  exact Option.some.inj computed

/-- The messages of every report are what notes leave, whether rules or the check made them. -/
theorem exists_notes_of_report {report : Report}
    (ran : validate registry policy source absent = .ok report) :
    ∃ noted, report.messages = Messages.ofNotes noted := by
  rcases report_cases ran with ⟨_, rfl⟩ | ⟨_, rfl⟩
  · exact ⟨_, rfl⟩
  · exact ⟨_, congrArg Outcome.messages (Outcome.applyAll_eq _ _)⟩

end FieldRules.Run
