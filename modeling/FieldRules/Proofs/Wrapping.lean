import FieldRules.Batch
import FieldRules.Proofs.PostCheck

/-! Definitions behind references. A reference passes on every question but the one
for the text of a final code, so a run through it differs from a run of the
definition itself in that text alone, however many references there are. -/
namespace FieldRules

/-- The text for a final code that follows from the other answers of a policy. -/
def Policy.derivedInfo (policy : Policy) : Code → String :=
  Policy.standardInfo policy.succeedCode policy.failedCode policy.succeedInfo policy.failedInfo
    policy.info?

def Policy.behind (policy : Policy) : (layers : Nat) → Policy
  | 0 => policy
  | layers + 1 => (policy.behind layers).wrapped

/-- A report with the text that its code has in a policy's other answers. -/
def Report.rephrased (policy : Policy) (report : Report) : Report :=
  { report with info := policy.derivedInfo report.code }

namespace Run

variable (policy : Policy)

/-- The first reference decides, further ones change nothing. -/
theorem behind_succ (layers : Nat) : policy.behind (layers + 1) = policy.wrapped := by
  induction layers with
  | zero => rfl
  | succ layers ih =>
    rw [Policy.behind, ih]
    rfl

/-- A policy whose text follows from its other answers is the same behind a reference. -/
theorem wrapped_eq_self_iff : policy.wrapped = policy ↔ policy.StandardInfo := by
  constructor
  · intro same
    exact (congrArg Policy.resolveInfo same).symm
  · intro standard
    rw [Policy.wrapped, ← standard]

theorem fieldPhase_wrapped (registry : Registry) (source : Source) (absent : Json) :
    fieldPhase registry policy.wrapped source absent =
      fieldPhase registry policy source absent := by
  simp only [fieldPhase, applyFields_eq_foldlM]
  rfl

/-- A run through a reference writes the same records, makes the same registrations
and gives the same error or the same report but for the text. -/
theorem run_wrapped (registry : Registry) (source : Source) (absent : Json) :
    run registry policy.wrapped source absent =
      { run registry policy source absent with
        result := (validate registry policy source absent).map (Report.rephrased policy) } := by
  simp only [validate, run, fieldPhase_wrapped]
  cases fieldPhase registry policy source absent <;> rfl

theorem info_of_validate {registry : Registry} {policy : Policy} {source : Source} {absent : Json}
    {report : Report} (ran : validate registry policy source absent = .ok report) :
    report.info = policy.resolveInfo report.code := by
  rw [validate, run] at ran
  cases ended : fieldPhase registry policy source absent with
  | error stopped =>
    rw [ended] at ran
    contradiction
  | ok p =>
    rw [ended] at ran
    cases ran
    rfl

end Run

namespace Batch

/-- A batch of one input is the run of the definition itself on it. -/
theorem validateAll_singleton (registry : Registry) (policy : Policy) (input : Json) :
    validateAll registry policy [input] =
      (validate registry policy (Source.ofJson input) .null).map fun report => [report] := by
  simp only [validateAll, completions, collect, List.zipIdx_singleton, List.map_singleton]
  cases validate registry policy (Source.ofJson input) .null <;> rfl

end Batch

namespace Run

/-- What a run through references shares with a run of the definition itself: the
records, the registrations, the error, and the report up to its text, which becomes
the one that the other answers give. So the two runs agree just if the definition's
own text for the final code is that one, as it is wherever the question is left to
the default; and so does a batch, whose runs are those of the definition itself. -/
theorem run_behind (registry : Registry) (policy : Policy) (layers : Nat) (source : Source)
    (absent : Json) :
    run registry (policy.behind (layers + 1)) source absent =
      { run registry policy source absent with
        result := (validate registry policy source absent).map (Report.rephrased policy) } ∧
    (validate registry (policy.behind (layers + 1)) source absent =
        validate registry policy source absent ↔
      ∀ report, validate registry policy source absent = .ok report →
        policy.resolveInfo report.code = policy.derivedInfo report.code) ∧
    (∀ d : Overridden, policy = d.policy → d.resolveInfo = none →
      run registry (policy.behind (layers + 1)) source absent =
        run registry policy source absent) ∧
    (∀ d : Definition, policy = d.policy →
      run registry (policy.behind (layers + 1)) source absent =
        run registry policy source absent) ∧
    ∀ input, policy.StandardInfo → Batch.validateAll registry policy [input] =
      (validate registry (policy.behind (layers + 1)) (Source.ofJson input) .null).map
        fun report => [report] := by
  have standard : policy.StandardInfo → policy.behind (layers + 1) = policy := fun standard => by
    rw [behind_succ, (wrapped_eq_self_iff policy).mpr standard]
  have through := run_wrapped policy registry source absent
  rw [← behind_succ policy layers] at through
  refine ⟨through, ?_, ?_, ?_, ?_⟩
  · rw [validate, through]
    cases ran : validate registry policy source absent with
    | error error => simp [Except.map]
    | ok report =>
      simp only [Except.map, Except.ok.injEq, forall_eq', ← info_of_validate ran]
      constructor
      · intro same
        exact (congrArg Report.info same).symm
      · intro same
        rw [Report.rephrased, ← same]
  · rintro d rfl kept
    rw [standard (d.policy_standardInfo kept)]
  · rintro d rfl
    rw [standard d.policy_standardInfo]
  · intro input kept
    rw [standard kept, Batch.validateAll_singleton]

/-- A definition whose own text for a final code tells nothing but that it is final. -/
def terse : Overridden :=
  { Overridden.ofSchema Schema.empty with resolveInfo := some fun _ => "done" }

/-- Passed with one reference, a definition loses its own text for a final code; a batch
of the same input keeps it. -/
theorem own_info_lost_behind :
    (validate Registry.empty terse.policy (Source.ofJson .null) .null).toOption.map Report.info =
        some "done" ∧
      (validate Registry.empty (terse.policy.behind 1) (Source.ofJson .null)
        .null).toOption.map Report.info = some "data is valid" ∧
      (Batch.validateAll Registry.empty terse.policy [.null]).toOption.map (List.map Report.info) =
        some ["done"] ∧
      ¬ ∀ (registry : Registry) (d : Overridden) (layers : Nat) (source : Source) (absent : Json),
        validate registry (d.policy.behind layers) source absent =
          validate registry d.policy source absent := by
  have lost : (validate Registry.empty (terse.policy.behind 1) (Source.ofJson .null)
      .null).toOption.map Report.info = some "data is valid" := by decide +kernel
  refine ⟨by decide +kernel, lost, by decide +kernel, ?_⟩
  intro transparent
  rw [transparent] at lost
  exact absurd lost (by decide +kernel)

end Run

end FieldRules
