import FieldRules.Run
import FieldRules.Proofs.Messages

/-! The declared rules of a run as one list of occurrences. The nested loops over
fields and rules are one pass over this list, which records every failure it comes
to and stops at the first name that does not resolve. -/
namespace FieldRules

/-- A registry has a rule for a spec. -/
def Registry.Resolves (registry : Registry) (spec : RuleSpec) : Prop :=
  (registry.resolve? spec.name).isSome = true

instance (registry : Registry) (spec : RuleSpec) : Decidable (registry.Resolves spec) :=
  inferInstanceAs (Decidable (_ = true))

def Registry.ResolvesAll (registry : Registry) (schema : Schema) : Prop :=
  ∀ decl ∈ schema.fields, ∀ spec ∈ decl.rules, registry.Resolves spec

instance (registry : Registry) (schema : Schema) : Decidable (registry.ResolvesAll schema) :=
  inferInstanceAs (Decidable (∀ decl ∈ schema.fields, ∀ spec ∈ decl.rules, registry.Resolves spec))

namespace Run

structure Occurrence where
  plan : FieldPlan
  spec : RuleSpec

/-- The declared rules of planned fields in the order in which a run comes to them. -/
def occurrences (plans : List FieldPlan) : List Occurrence :=
  plans.flatMap fun plan => plan.rules.map fun spec => ⟨plan, spec⟩

variable (registry : Registry) (policy : Policy)

/-- The message with which a rule fails on the value of a field; none if it
passes or its name does not resolve. -/
def failure? (field : String) (value : Json) (spec : RuleSpec) : Option String :=
  (registry.resolve? spec.name).bind fun kind =>
    let bound := kind.bind ⟨field, value, spec.params, policy.template? field spec.name⟩
    if bound.passes then none else some bound.message

def Occurrence.note? (o : Occurrence) : Option Note :=
  (failure? registry policy o.plan.field o.plan.value o.spec).map fun text =>
    ⟨o.plan.field, o.spec.name, text⟩

def Occurrence.visit (p : Progress) (o : Occurrence) : Except Stopped Progress :=
  applyRule registry policy o.plan o.spec p

/-- What an occurrence with a known name does to a run. -/
def Occurrence.advance (p : Progress) (o : Occurrence) : Progress :=
  match failure? registry policy o.plan.field o.plan.value o.spec with
  | none => p
  | some message => recordFailure o.plan o.spec message p

def phaseRecords (fields : Nat) (notes : List Note) : List Record :=
  startRecord fields :: notes.map fun note => failureRecord note.field note.rule note.text

/-- The failures of a run in the order in which they happen. -/
def notes (source : Source) (absent : Json) : List Note :=
  (occurrences (policy.schema.plan source absent)).filterMap (Occurrence.note? registry policy)

variable {registry policy}

theorem visit_known {o : Occurrence} (known : registry.Resolves o.spec) (p : Progress) :
    o.visit registry policy p = .ok (o.advance registry policy p) := by
  obtain ⟨kind, found⟩ := Option.isSome_iff_exists.mp known
  simp only [Occurrence.visit, applyRule, Registry.lookup, Occurrence.advance, failure?, argsFor,
    found, Option.bind_some]
  split <;> simp_all

theorem visit_unknown {o : Occurrence} (unknown : registry.resolve? o.spec.name = none)
    (p : Progress) :
    o.visit registry policy p =
      .error ⟨.unknownRule o.plan.field o.spec.name,
        p.records ++ [errorRecord (.unknownRule o.plan.field o.spec.name)]⟩ := by
  simp only [Occurrence.visit, applyRule, Registry.lookup, unknown]

theorem applyRules_eq_foldlM (plan : FieldPlan) (specs : List RuleSpec) (p : Progress) :
    applyRules registry policy plan specs p =
      (specs.map fun spec => ⟨plan, spec⟩).foldlM (Occurrence.visit registry policy) p := by
  induction specs generalizing p with
  | nil => rfl
  | cons spec rest ih =>
    rw [applyRules, List.map_cons, List.foldlM_cons, Occurrence.visit]
    cases applied : applyRule registry policy plan spec p with
    | error stopped => rfl
    | ok next => exact ih next

/-- The loops over fields and rules are one loop over the occurrences. -/
theorem applyFields_eq_foldlM (plans : List FieldPlan) (p : Progress) :
    applyFields registry policy plans p =
      (occurrences plans).foldlM (Occurrence.visit registry policy) p := by
  induction plans generalizing p with
  | nil => rfl
  | cons plan rest ih =>
    rw [applyFields, applyRules_eq_foldlM, occurrences, List.flatMap_cons, List.foldlM_append]
    cases applied : (plan.rules.map fun spec => ⟨plan, spec⟩).foldlM
        (Occurrence.visit registry policy) p with
    | error stopped => rfl
    | ok next => exact ih next

theorem fieldPhase_check (check : PostCheck) (source : Source) (absent : Json) :
    fieldPhase registry { policy with check } source absent =
      fieldPhase registry policy source absent := by
  simp only [fieldPhase, applyFields_eq_foldlM]
  rfl

/-- Occurrences whose names all resolve are gone through to the end. -/
theorem foldlM_visit {os : List Occurrence} (known : ∀ o ∈ os, registry.Resolves o.spec)
    (p : Progress) :
    os.foldlM (Occurrence.visit registry policy) p =
      .ok (os.foldl (Occurrence.advance registry policy) p) := by
  induction os generalizing p with
  | nil => rfl
  | cons o rest ih =>
    rw [List.foldlM_cons, visit_known (known o List.mem_cons_self), List.foldl_cons]
    exact ih (fun o member => known o (List.mem_cons_of_mem _ member)) _

/-- The first occurrence whose name does not resolve ends the pass, whatever came
before it. -/
theorem foldlM_visit_unknown {before after : List Occurrence} {o : Occurrence}
    (known : ∀ earlier ∈ before, registry.Resolves earlier.spec)
    (unknown : registry.resolve? o.spec.name = none) (p : Progress) :
    (before ++ o :: after).foldlM (Occurrence.visit registry policy) p =
      .error ⟨.unknownRule o.plan.field o.spec.name,
        (before.foldl (Occurrence.advance registry policy) p).records ++
          [errorRecord (.unknownRule o.plan.field o.spec.name)]⟩ := by
  rw [List.foldlM_append, foldlM_visit known]
  change (o :: after).foldlM (Occurrence.visit registry policy)
    (before.foldl (Occurrence.advance registry policy) p) = _
  rw [List.foldlM_cons, visit_unknown unknown]
  rfl

/-- What a pass over occurrences leaves in the outcome: every failure is noted,
the status stays only without failures, and the code is not touched. -/
theorem foldl_advance_outcome (os : List Occurrence) (p : Progress) :
    (os.foldl (Occurrence.advance registry policy) p).outcome =
      ⟨p.outcome.status && (os.filterMap (Occurrence.note? registry policy)).isEmpty,
        p.outcome.code,
        (os.filterMap (Occurrence.note? registry policy)).foldl Messages.addNote
          p.outcome.messages⟩ := by
  induction os generalizing p with
  | nil => simp
  | cons o rest ih =>
    rw [List.foldl_cons, ih]
    cases failed : failure? registry policy o.plan.field o.plan.value o.spec with
    | none => simp [Occurrence.advance, Occurrence.note?, failed]
    | some message =>
      simp [Occurrence.advance, Occurrence.note?, failed, recordFailure, Outcome.recordFailure,
        Outcome.addMessage, Messages.addNote]

theorem foldl_advance_records (os : List Occurrence) (p : Progress) :
    (os.foldl (Occurrence.advance registry policy) p).records =
      p.records ++ (os.filterMap (Occurrence.note? registry policy)).map fun note =>
        failureRecord note.field note.rule note.text := by
  induction os generalizing p with
  | nil => simp
  | cons o rest ih =>
    rw [List.foldl_cons, ih]
    cases failed : failure? registry policy o.plan.field o.plan.value o.spec with
    | none => simp [Occurrence.advance, Occurrence.note?, failed]
    | some message => simp [Occurrence.advance, Occurrence.note?, failed, recordFailure]

theorem count_checkRecord_phaseRecords (fields : Nat) (notes : List Note) :
    (phaseRecords fields notes).count checkRecord = 0 := by
  apply List.count_eq_zero.mpr
  intro member
  rcases List.mem_cons.mp member with same | member
  · simp [checkRecord, startRecord] at same
  · obtain ⟨note, _, same⟩ := List.mem_map.mp member
    have message := congrArg (fun record => record.message.toList) same
    have dot : '.' ∈ (failureRecord note.field note.rule note.text).message.toList := by
      simp [failureRecord]
    rw [message] at dot
    exact absurd dot (by decide)

theorem mem_occurrences_plan {schema : Schema} {source : Source} {absent : Json} {o : Occurrence} :
    o ∈ occurrences (schema.plan source absent) ↔
      ∃ decl ∈ schema.fields, o.spec ∈ decl.rules ∧
        o.plan = ⟨decl.name, (source decl.name).getD absent, decl.rules⟩ := by
  obtain ⟨plan, spec⟩ := o
  simp only [occurrences, Schema.plan, List.mem_flatMap, List.mem_map, Occurrence.mk.injEq]
  constructor
  · rintro ⟨_, ⟨decl, member, rfl⟩, spec', declared, rfl, rfl⟩
    exact ⟨decl, member, declared, rfl⟩
  · rintro ⟨decl, member, declared, rfl⟩
    exact ⟨_, ⟨decl, member, rfl⟩, spec, declared, rfl, rfl⟩

/-- If all declared names resolve, the field phase comes to its end and has
noted exactly the failures of the run. -/
theorem fieldPhase_resolved (resolved : registry.ResolvesAll policy.schema)
    (source : Source) (absent : Json) :
    ∃ p, fieldPhase registry policy source absent = .ok p ∧
      p.outcome = ⟨(notes registry policy source absent).isEmpty, policy.failedCode,
        Messages.ofNotes (notes registry policy source absent)⟩ ∧
      p.records = phaseRecords (policy.schema.plan source absent).length
        (notes registry policy source absent) := by
  have known : ∀ o ∈ occurrences (policy.schema.plan source absent),
      registry.Resolves o.spec := by
    intro o member
    obtain ⟨decl, declared, here, _⟩ := mem_occurrences_plan.mp member
    exact resolved decl declared o.spec here
  refine ⟨(occurrences (policy.schema.plan source absent)).foldl
    (Occurrence.advance registry policy)
      (start policy (policy.schema.plan source absent).length), ?_,
    foldl_advance_outcome _ _, foldl_advance_records _ _⟩
  rw [fieldPhase, applyFields_eq_foldlM, foldlM_visit known]

end Run

end FieldRules
