import Mathlib.Data.List.TakeWhile
import FieldRules.Proofs.Occurrences

/-! Which error a run ends with. The names of a schema can be looked up before any
run, and a run looks them up while it applies the rules and records their failures;
both go through the declared rules in one order and stop at the same one. -/
namespace FieldRules

def Schema.declared (schema : Schema) : List (String × RuleSpec) :=
  schema.fields.flatMap fun decl => decl.rules.map fun spec => (decl.name, spec)

namespace Registry

def firstUnknown? (registry : Registry) (declared : List (String × RuleSpec)) :
    Option (String × RuleSpec) :=
  declared.find? fun (_, spec) => (registry.resolve? spec.name).isNone

/-- A declared rule without a meaning, after declared rules that all have one. -/
def FirstUnknown (registry : Registry) (schema : Schema) (field rule : String) : Prop :=
  ∃ before spec after, schema.declared = before ++ (field, spec) :: after ∧ spec.name = rule ∧
    registry.resolve? rule = none ∧ ∀ earlier ∈ before, registry.Resolves earlier.2

variable {registry : Registry}

theorem verifyRules_eq (field : String) (specs : List RuleSpec) :
    registry.verifyRules field specs =
      match registry.firstUnknown? (specs.map fun spec => (field, spec)) with
      | none => .ok ()
      | some (field, spec) => .error (.unknownRule field spec.name) := by
  induction specs with
  | nil => rfl
  | cons spec rest ih =>
    rw [verifyRules, lookup, firstUnknown?, List.map_cons]
    cases found : registry.resolve? spec.name with
    | none => simp [found]
    | some kind =>
      rw [List.find?_cons_of_neg (by simp [found])]
      exact ih

theorem verify_eq (schema : Schema) :
    registry.verify schema =
      match registry.firstUnknown? schema.declared with
      | none => .ok ()
      | some (field, spec) => .error (.unknownRule field spec.name) := by
  rw [verify, Schema.declared]
  induction schema.fields with
  | nil => rfl
  | cons decl rest ih =>
    rw [verifyFields, verifyRules_eq, ih, firstUnknown?, firstUnknown?, firstUnknown?,
      List.flatMap_cons, List.find?_append]
    cases (decl.rules.map fun spec => (decl.name, spec)).find? fun (_, spec) =>
      (registry.resolve? spec.name).isNone <;> rfl

theorem firstUnknown?_eq_none_iff (schema : Schema) :
    registry.firstUnknown? schema.declared = none ↔ registry.ResolvesAll schema := by
  simp only [firstUnknown?, Schema.declared, List.find?_eq_none, List.mem_flatMap, List.mem_map]
  constructor
  · intro known decl declared spec member
    have some := known _ ⟨decl, declared, spec, member, rfl⟩
    simpa [Resolves, Option.isSome_iff_ne_none] using some
  · rintro resolved _ ⟨decl, declared, spec, member, rfl⟩
    have some := resolved decl declared spec member
    simpa [Resolves, Option.isSome_iff_ne_none] using some

theorem firstUnknown_iff (schema : Schema) (field rule : String) :
    registry.FirstUnknown schema field rule ↔
      ∃ spec, registry.firstUnknown? schema.declared = some (field, spec) ∧ spec.name = rule := by
  constructor
  · rintro ⟨before, spec, after, split, rfl, unknown, known⟩
    refine ⟨spec, ?_, rfl⟩
    apply List.find?_eq_some_iff_append.mpr
    refine ⟨by simp [unknown], before, after, split, ?_⟩
    intro earlier member
    simpa [Resolves, Option.isSome_iff_ne_none] using known earlier member
  · rintro ⟨spec, found, rfl⟩
    obtain ⟨unknown, before, after, split, known⟩ := List.find?_eq_some_iff_append.mp found
    refine ⟨before, spec, after, split, rfl, by simpa using unknown, ?_⟩
    intro earlier member
    simpa [Resolves, Option.isSome_iff_ne_none] using known earlier member

theorem verify_ok_iff (schema : Schema) :
    registry.verify schema = .ok () ↔ registry.ResolvesAll schema := by
  rw [verify_eq, ← firstUnknown?_eq_none_iff]
  cases registry.firstUnknown? schema.declared with
  | none => simp
  | some found => simp

theorem verify_error_iff (schema : Schema) (field rule : String) :
    registry.verify schema = .error (.unknownRule field rule) ↔
      registry.FirstUnknown schema field rule := by
  rw [verify_eq, firstUnknown_iff]
  cases registry.firstUnknown? schema.declared with
  | none => simp
  | some found =>
    obtain ⟨owner, spec⟩ := found
    simp only [Except.error.injEq, ConfigError.unknownRule.injEq, Option.some.injEq, Prod.mk.injEq]
    constructor
    · rintro ⟨rfl, rfl⟩
      exact ⟨spec, ⟨rfl, rfl⟩, rfl⟩
    · rintro ⟨_, ⟨rfl, rfl⟩, rfl⟩
      exact ⟨rfl, rfl⟩

theorem exists_firstUnknown {schema : Schema} (unresolved : ¬ registry.ResolvesAll schema) :
    ∃ field rule, registry.FirstUnknown schema field rule := by
  rw [← firstUnknown?_eq_none_iff] at unresolved
  obtain ⟨⟨field, spec⟩, found⟩ := Option.ne_none_iff_exists'.mp unresolved
  exact ⟨field, spec.name, (firstUnknown_iff schema field spec.name).mpr ⟨spec, found, rfl⟩⟩

end Registry

namespace Run

variable {registry : Registry} {policy : Policy} (source : Source) (absent : Json)

theorem occurrences_declared (schema : Schema) :
    (occurrences (schema.plan source absent)).map (fun o => (o.plan.field, o.spec)) =
      schema.declared := by
  simp only [occurrences, Schema.plan, Schema.declared, List.flatMap_map, List.map_flatMap,
    List.map_map]
  rfl

def reached (registry : Registry) (policy : Policy) (source : Source) (absent : Json) :
    List Occurrence :=
  (occurrences (policy.schema.plan source absent)).takeWhile fun o =>
    (registry.resolve? o.spec.name).isSome

/-- The failures of a run up to a name that does not resolve. -/
def reachedNotes (registry : Registry) (policy : Policy) (source : Source) (absent : Json) :
    List Note :=
  (reached registry policy source absent).filterMap (Occurrence.note? registry policy)

theorem reachedNotes_resolved (resolved : registry.ResolvesAll policy.schema) :
    reachedNotes registry policy source absent = notes registry policy source absent := by
  have all : reached registry policy source absent =
      occurrences (policy.schema.plan source absent) := by
    apply List.takeWhile_eq_self_iff.mpr
    intro o member
    obtain ⟨decl, declared, here, _⟩ := mem_occurrences_plan.mp member
    exact resolved decl declared o.spec here
  rw [reachedNotes, all, notes]

/-- The field phase stops at the first declared rule without a meaning. The failures
before it are in its records and nowhere else. -/
theorem fieldPhase_stopped {field : String} {spec : RuleSpec}
    (first : registry.firstUnknown? policy.schema.declared = some (field, spec)) :
    fieldPhase registry policy source absent =
      .error ⟨.unknownRule field spec.name,
        phaseRecords (policy.schema.plan source absent).length
            (reachedNotes registry policy source absent) ++
          [errorRecord (.unknownRule field spec.name)]⟩ := by
  rw [← occurrences_declared source absent policy.schema, Registry.firstUnknown?,
    List.find?_map] at first
  obtain ⟨o, found, same⟩ := Option.map_eq_some_iff.mp first
  obtain ⟨rfl, rfl⟩ := Prod.mk.inj same
  obtain ⟨unknown, before, after, split, known⟩ := List.find?_eq_some_iff_append.mp found
  have known : ∀ earlier ∈ before, registry.Resolves earlier.spec := by
    intro earlier member
    simpa [Registry.Resolves, Option.isSome_iff_ne_none] using known earlier member
  have unknown : registry.resolve? o.spec.name = none := by simpa using unknown
  have reach : reached registry policy source absent = before := by
    rw [reached, split, List.takeWhile_append_of_pos known,
      List.takeWhile_cons_of_neg (by simp [unknown]), List.append_nil]
  rw [fieldPhase, applyFields_eq_foldlM, split, foldlM_visit_unknown known unknown,
    foldl_advance_records, reachedNotes, reach]
  rfl

theorem fieldPhase_unknown {field : String} {spec : RuleSpec}
    (first : registry.firstUnknown? policy.schema.declared = some (field, spec)) :
    ∃ notes, fieldPhase registry policy source absent =
      .error ⟨.unknownRule field spec.name,
        phaseRecords (policy.schema.plan source absent).length notes ++
          [errorRecord (.unknownRule field spec.name)]⟩ :=
  ⟨_, fieldPhase_stopped source absent first⟩

/-- Looking the names up beforehand gives the error that any run gives, if it gives one. -/
theorem validate_error_iff (error : ConfigError) :
    validate registry policy source absent = .error error ↔
      registry.verify policy.schema = .error error := by
  rw [Registry.verify_eq]
  cases first : registry.firstUnknown? policy.schema.declared with
  | none =>
    have resolved := (Registry.firstUnknown?_eq_none_iff policy.schema).mp first
    obtain ⟨p, ran, _⟩ := fieldPhase_resolved resolved source absent
    simp [validate, run, ran, finish]
  | some found =>
    obtain ⟨field, spec⟩ := found
    obtain ⟨notes, stopped⟩ := fieldPhase_unknown source absent first
    simp [validate, run, stopped]

theorem validate_ok_iff :
    (∃ report, validate registry policy source absent = .ok report) ↔
      registry.ResolvesAll policy.schema := by
  rw [← Registry.firstUnknown?_eq_none_iff]
  cases first : registry.firstUnknown? policy.schema.declared with
  | none =>
    have resolved := (Registry.firstUnknown?_eq_none_iff policy.schema).mp first
    obtain ⟨p, ran, _⟩ := fieldPhase_resolved resolved source absent
    simp [validate, run, ran, finish]
  | some found =>
    obtain ⟨field, spec⟩ := found
    obtain ⟨notes, stopped⟩ := fieldPhase_unknown source absent first
    simp [validate, run, stopped]

/-- A run without a report has not come to the check of the whole input. -/
theorem check_not_reached {stopped : Stopped}
    (ended : fieldPhase registry policy source absent = .error stopped) :
    checkHistory registry policy source absent = [] ∧
      (run registry policy source absent).registrations = [] ∧
      ∀ check, run registry { policy with check } source absent =
        run registry policy source absent := by
  refine ⟨by rw [checkHistory, ended], by rw [run, ended], ?_⟩
  intro check
  rw [run, fieldPhase_check, ended, run, ended]

/-- A schema is verified just if its runs give reports, whatever the definition that
holds it, its texts and its check, and whatever the input. Otherwise all runs give the
one error that verification gives, that of the first declared rule without a meaning,
and none of them comes to the check. -/
theorem verify_predicts_validate (registry : Registry) (policy : Policy) (source : Source)
    (absent : Json) :
    (∀ field rule, validate registry policy source absent = .error (.unknownRule field rule) ↔
      registry.verify policy.schema = .error (.unknownRule field rule)) ∧
    (∀ field rule, registry.verify policy.schema = .error (.unknownRule field rule) ↔
      registry.FirstUnknown policy.schema field rule) ∧
    ((∃ report, validate registry policy source absent = .ok report) ↔
      registry.verify policy.schema = .ok ()) ∧
    (registry.verify policy.schema = .ok () ∨
      ∃ field rule, registry.verify policy.schema = .error (.unknownRule field rule)) ∧
    ∀ error, validate registry policy source absent = .error error →
      (∀ (other : Policy) (input : Source) (fallback : Json), other.schema = policy.schema →
        validate registry other input fallback = .error error) ∧
      (run registry policy source absent).records.count checkRecord = 0 ∧
      checkHistory registry policy source absent = [] ∧
      (run registry policy source absent).registrations = [] ∧
      ∀ check, run registry { policy with check } source absent =
        run registry policy source absent := by
  refine ⟨fun field rule => validate_error_iff source absent _,
    Registry.verify_error_iff policy.schema, ?_, ?_, ?_⟩
  · rw [validate_ok_iff, Registry.verify_ok_iff]
  · by_cases resolved : registry.ResolvesAll policy.schema
    · exact .inl ((Registry.verify_ok_iff policy.schema).mpr resolved)
    · obtain ⟨field, rule, first⟩ := Registry.exists_firstUnknown resolved
      exact .inr ⟨field, rule, (Registry.verify_error_iff policy.schema field rule).mpr first⟩
  · intro error failed
    have refused := (validate_error_iff source absent error).mp failed
    rw [Registry.verify_eq] at refused
    cases first : registry.firstUnknown? policy.schema.declared with
    | none =>
      rw [first] at refused
      contradiction
    | some found =>
      obtain ⟨field, spec⟩ := found
      obtain ⟨notes, ended⟩ := fieldPhase_unknown source absent first
      refine ⟨?_, ?_, check_not_reached source absent ended⟩
      · intro other input fallback same
        rw [validate_error_iff, same]
        exact (validate_error_iff source absent error).mp failed
      · rw [run, ended, List.count_append, count_checkRecord_phaseRecords]
        simp [errorRecord, checkRecord]

end Run

end FieldRules
