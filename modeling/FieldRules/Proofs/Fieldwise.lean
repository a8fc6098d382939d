import FieldRules.Proofs.Members
import FieldRules.Proofs.Reports

/-! Fields by themselves. Without a check of its own a definition reports field by
field: the messages and values of a run are those of the runs for single fields one
after the other, and the order of the fields decides nothing but places. The input
enters through the planned values alone. -/
namespace FieldRules

namespace Schema

def Distinct (schema : Schema) : Prop := (schema.fields.map FieldDecl.name).Nodup

instance (schema : Schema) : Decidable schema.Distinct :=
  inferInstanceAs (Decidable (schema.fields.map FieldDecl.name).Nodup)

theorem map_name_place (decl : FieldDecl) (fields : List FieldDecl) :
    (place decl fields).map FieldDecl.name =
      if decl.name ∈ fields.map FieldDecl.name then fields.map FieldDecl.name
      else fields.map FieldDecl.name ++ [decl.name] := by
  induction fields with
  | nil => rfl
  | cons other rest ih =>
    by_cases same : other.name = decl.name
    · simp [place, same]
    · simp only [place, if_neg same, List.map_cons, ih, List.mem_cons, Ne.symm same, false_or]
      split <;> rfl

theorem Distinct.declare {schema : Schema} (distinct : schema.Distinct) (name source : String) :
    (schema.declare name source).Distinct := by
  rw [Distinct, Schema.declare, map_name_place]
  split
  · exact distinct
  · next fresh =>
    refine List.nodup_append.mpr ⟨distinct, List.pairwise_singleton _ _, ?_⟩
    rintro _ member _ last rfl
    exact fresh (List.mem_singleton.mp last ▸ member)

theorem Distinct.declareAttribute {schema : Schema} (distinct : schema.Distinct) (name : String)
    (value : Json) : (schema.declareAttribute name value).Distinct := by
  cases value with
  | string source =>
    rw [Schema.declareAttribute]
    split
    · exact distinct
    · exact distinct.declare name source
  | _ => exact distinct

theorem distinct_ofDeclarations (declarations : List (String × String)) :
    (ofDeclarations declarations).Distinct := by
  refine List.foldlRecOn (motive := Distinct) declarations _ List.nodup_nil ?_
  intro schema distinct declaration _
  exact distinct.declare declaration.1 declaration.2

theorem distinct_discover (attributes : List (String × Json)) :
    (discover attributes).Distinct := by
  refine List.foldlRecOn (motive := Distinct) attributes _ List.nodup_nil ?_
  intro schema distinct entry _
  exact distinct.declareAttribute entry.1 entry.2

end Schema

namespace Policy

/-- Passing all rules is success, whatever the input. -/
def DefaultCheck (policy : Policy) : Prop := policy.check = fun _ => [.succeed policy.succeedCode]

def withFields (policy : Policy) (fields : List FieldDecl) : Policy :=
  { policy with schema := ⟨fields⟩ }

end Policy

theorem Definition.policy_defaultCheck (d : Definition) (kept : d.check = none) :
    d.policy.DefaultCheck := by
  simp only [Policy.DefaultCheck, Definition.policy, kept, Option.getD_none]

theorem Overridden.policy_defaultCheck (d : Overridden) (kept : d.check = none) :
    d.policy.DefaultCheck := by
  simp only [Policy.DefaultCheck, Overridden.policy, kept, Option.getD_none]

theorem Report.same_of_perm {one other : Report} (status : one.status = other.status)
    (code : one.code = other.code) (info : one.info = other.info)
    (messages : one.messages.Perm other.messages) (distinct : (Ordered.keys one.messages).Nodup)
    (values : one.values.Perm other.values) (distinct' : (Ordered.keys one.values).Nodup) :
    one.same other = true := by
  have written : messagesJson one.messages = messagesJson other.messages := by
    refine congrArg Json.object (Json.sortMembers_perm (messages.map _) ?_)
    rw [Ordered.keys, List.map_map]
    exact distinct
  have held : Json.ofMembers one.values = Json.ofMembers other.values :=
    congrArg Json.object (Json.sortMembers_perm values distinct')
  simp [Report.same, status, code, info, written, held, Json.same_refl]

namespace Run

variable {registry : Registry} {policy : Policy} {source : Source} {absent : Json}

/-- What a run reports that leaves success to the rules alone. -/
def plainReport (policy : Policy) (source : Source) (absent : Json) (noted : List Note) : Report :=
  let code := if noted.isEmpty then policy.succeedCode else policy.failedCode
  ⟨noted.isEmpty, code, Messages.ofNotes noted, policy.resolveInfo code,
    plannedValues source absent (Ordered.keys (Messages.ofNotes noted))⟩

theorem validate_plain (resolved : registry.ResolvesAll policy.schema)
    (standard : policy.DefaultCheck) (source : Source) (absent : Json) :
    validate registry policy source absent =
      .ok (plainReport policy source absent (notes registry policy source absent)) := by
  by_cases none : notes registry policy source absent = []
  · rw [validate_passed resolved none, none, standard]
    rfl
  · rw [validate_failed resolved none, plainReport, List.isEmpty_eq_false_iff.mpr none]
    rfl

variable (registry policy source absent) in
def notesOf (decl : FieldDecl) : List Note :=
  ruleNotes registry policy source absent decl.name decl.rules

theorem notes_withFields (fields : List FieldDecl) :
    notes registry (policy.withFields fields) source absent =
      fields.flatMap (notesOf registry policy source absent) :=
  notes_eq_flatMap

theorem ofNotes_withFields {fields : List FieldDecl}
    (distinct : (fields.map FieldDecl.name).Nodup) :
    Messages.ofNotes (notes registry (policy.withFields fields) source absent) =
      fields.flatMap fun decl =>
        Messages.ofNotes (notesOf registry policy source absent decl) := by
  rw [notes_withFields]
  exact Messages.ofNotes_flatMap FieldDecl.name (fun decl _ note noted => ruleNotes_field noted)
    distinct

theorem resolvesAll_withFields (resolved : registry.ResolvesAll policy.schema)
    {fields : List FieldDecl} (declared : ∀ decl ∈ fields, decl ∈ policy.schema.fields) :
    registry.ResolvesAll (policy.withFields fields).schema :=
  fun decl member spec here => resolved decl (declared decl member) spec here

/-- The input and the value for absent fields enter a run through its plan. -/
theorem validate_eq_of_plan (standard : policy.DefaultCheck) {source' : Source} {absent' : Json}
    (planned : policy.schema.plan source' absent' = policy.schema.plan source absent) :
    validate registry policy source' absent' = validate registry policy source absent := by
  have phase : fieldPhase registry policy source' absent' =
      fieldPhase registry policy source absent := by
    rw [fieldPhase, planned, fieldPhase]
  have checked : policy.check source' = policy.check source := by rw [standard]
  have ending (p : Progress) : finish policy source' p = finish policy source p := by
    simp only [finish, checkActions, checked]
  rw [validate, run, phase, validate, run]
  cases fieldPhase registry policy source absent with
  | error stopped => rfl
  | ok p => exact congrArg RunResult.result (ending p)

variable (registry source absent) in
/-- The reports for reordered fields are equal as maps. -/
theorem plainReport_perm {fields : List FieldDecl} (perm : fields.Perm policy.schema.fields)
    (distinct : policy.schema.Distinct) :
    let report := plainReport policy source absent (notes registry policy source absent)
    let other := plainReport policy source absent
      (notes registry (policy.withFields fields) source absent)
    other.status = report.status ∧ other.code = report.code ∧ other.info = report.info ∧
      other.messages.Perm report.messages ∧ other.values.Perm report.values := by
  have distinct' : (fields.map FieldDecl.name).Nodup :=
    (perm.map FieldDecl.name).nodup_iff.mpr distinct
  have own : notes registry policy source absent =
      notes registry (policy.withFields policy.schema.fields) source absent := rfl
  have status : (notes registry (policy.withFields fields) source absent).isEmpty =
      (notes registry policy source absent).isEmpty := by
    rw [own, notes_withFields, notes_withFields]
    exact (perm.flatMap_right _).isEmpty_eq
  have messages : (Messages.ofNotes (notes registry (policy.withFields fields) source absent)).Perm
      (Messages.ofNotes (notes registry policy source absent)) := by
    rw [own, ofNotes_withFields distinct', ofNotes_withFields distinct]
    exact perm.flatMap_right _
  simp only [plainReport, status, true_and]
  exact ⟨messages, (messages.map Prod.fst).map _⟩

/-- Runs of a definition without a check of its own, all of whose rules resolve. The
report is put together from the reports for its fields alone, in the order of their
declaration. With the fields in another order it is the same report but for places, and
it is the same on all inputs for which the same values are planned. Fields are never
declared twice in a schema that declarations build. -/
theorem validate_fieldwise (registry : Registry) (policy : Policy)
    (resolved : registry.ResolvesAll policy.schema) (distinct : policy.schema.Distinct)
    (standard : policy.DefaultCheck) (source : Source) (absent : Json) :
    (∃ (report : Report) (single : FieldDecl → Report),
      validate registry policy source absent = .ok report ∧
      (∀ decl ∈ policy.schema.fields,
        validate registry (policy.withFields [decl]) source absent = .ok (single decl)) ∧
      report.messages = policy.schema.fields.flatMap (fun decl => (single decl).messages) ∧
      report.values = policy.schema.fields.flatMap (fun decl => (single decl).values) ∧
      report.status = policy.schema.fields.all (fun decl => (single decl).status) ∧
      (∀ fields, fields.Perm policy.schema.fields →
        ∃ other, validate registry (policy.withFields fields) source absent = .ok other ∧
          other.same report = true ∧ other.status = report.status ∧ other.code = report.code ∧
          other.info = report.info ∧
          (∀ field rule, other.message? field rule = report.message? field rule) ∧
          ∀ field, other.failedValue? field = report.failedValue? field) ∧
      ∀ source' absent', policy.schema.plan source' absent' = policy.schema.plan source absent →
        validate registry policy source' absent' = .ok report) ∧
    (∀ declarations, (Schema.ofDeclarations declarations).Distinct) ∧
    (∀ attributes, (Schema.discover attributes).Distinct) ∧
    (∀ d : Definition, d.check = none → d.policy.DefaultCheck) ∧
    ∀ d : Overridden, d.check = none → d.policy.DefaultCheck := by
  have plain := validate_plain resolved standard source absent
  have whole : Messages.ofNotes (notes registry policy source absent) =
      policy.schema.fields.flatMap fun decl =>
        Messages.ofNotes (notesOf registry policy source absent decl) :=
    ofNotes_withFields distinct
  refine ⟨⟨_, fun decl => plainReport policy source absent
    (notesOf registry policy source absent decl), plain, ?_, whole, ?_, ?_, ?_, ?_⟩,
    Schema.distinct_ofDeclarations, Schema.distinct_discover,
    fun d => d.policy_defaultCheck, fun d => d.policy_defaultCheck⟩
  · intro decl declared
    have known : registry.ResolvesAll (policy.withFields [decl]).schema :=
      resolvesAll_withFields resolved fun other member => List.mem_singleton.mp member ▸ declared
    rw [validate_plain known standard, notes_withFields, List.flatMap_singleton]
    rfl
  · calc
      plannedValues source absent (Ordered.keys (Messages.ofNotes
          (notes registry policy source absent)))
      _ = plannedValues source absent (Ordered.keys (policy.schema.fields.flatMap fun decl =>
          Messages.ofNotes (notesOf registry policy source absent decl))) := by rw [← whole]
      _ = policy.schema.fields.flatMap fun decl => plannedValues source absent
          (Ordered.keys (Messages.ofNotes (notesOf registry policy source absent decl))) := by
        simp only [plannedValues, Ordered.keys, List.map_flatMap]
  · change (notes registry policy source absent).isEmpty = _
    rw [notes_eq_flatMap, Bool.eq_iff_iff]
    simp [plainReport, notesOf]
  · intro fields perm
    have known : registry.ResolvesAll (policy.withFields fields).schema :=
      resolvesAll_withFields resolved fun decl member => perm.mem_iff.mp member
    obtain ⟨status, code, info, messages, values⟩ :=
      plainReport_perm registry source absent perm distinct
    have keys : (Ordered.keys (Messages.ofNotes
        (notes registry (policy.withFields fields) source absent))).Nodup :=
      (Messages.wellFormed_ofNotes _).distinct
    have keys' : (Ordered.keys (plannedValues source absent (Ordered.keys (Messages.ofNotes
        (notes registry (policy.withFields fields) source absent))))).Nodup := by
      rwa [keys_plannedValues]
    refine ⟨_, validate_plain known standard source absent,
      Report.same_of_perm status code info messages keys values keys', status, code, info, ?_, ?_⟩
    · intro field rule
      exact congrArg (Option.bind · (Ordered.get? rule)) (Ordered.get?_perm messages keys field)
    · intro field
      exact Ordered.get?_perm values keys' field
  · intro source' absent' planned
    rw [validate_eq_of_plan standard planned, plain]

def contact : Definition :=
  Definition.ofSchema
    (Schema.ofDeclarations [("name", "required|min:3"), ("note", ""), ("email", "required|email")])

theorem validate_fieldwise_reversed :
    ∃ report other, validate Registry.empty contact.policy
        (Source.ofJson (.object [("name", .string "al")])) .null = .ok report ∧
      validate Registry.empty (contact.policy.withFields contact.schema.fields.reverse)
        (Source.ofJson (.object [("name", .string "al")])) .null = .ok other ∧
      Ordered.keys report.messages = ["name", "email"] ∧ other.same report = true := by
  obtain ⟨⟨report, single, ran, _, _, _, _, reordered, _⟩, _⟩ :=
    validate_fieldwise Registry.empty contact.policy (by decide +kernel)
      (Schema.distinct_ofDeclarations _) (contact.policy_defaultCheck rfl)
      (Source.ofJson (.object [("name", .string "al")])) .null
  obtain ⟨other, ran', same, _⟩ := reordered _ (List.reverse_perm _)
  refine ⟨report, other, ran, ran', ?_, same⟩
  exact part_of_report (fun report => Ordered.keys report.messages) ran
    (by decide +kernel)

end Run

end FieldRules
