import FieldRules.Proofs.Occurrences

/-! What stands in the messages when the rules of all fields have been applied.
Nothing is assumed of the schema: the same rule may be declared for a field many
times over, with other parameters and other verdicts. -/
namespace FieldRules

def Schema.rulesOf (schema : Schema) (field : String) : List RuleSpec :=
  (schema.fields.filter (·.name = field)).flatMap FieldDecl.rules

namespace Run

variable (registry : Registry) (policy : Policy) (source : Source) (absent : Json)

def ruleNotes (field : String) (specs : List RuleSpec) : List Note :=
  specs.filterMap fun spec =>
    (failure? registry policy field ((source field).getD absent) spec).map fun text =>
      ⟨field, spec.name, text⟩

/-- The failures of the rules declared for a field in the order of declaration. -/
def fieldNotes (field : String) : List Note :=
  ruleNotes registry policy source absent field (policy.schema.rulesOf field)

def SomeFails : Prop :=
  ∃ decl ∈ policy.schema.fields, ∃ spec ∈ decl.rules,
    (failure? registry policy decl.name ((source decl.name).getD absent) spec).isSome = true

variable {registry policy source absent}

theorem ruleNotes_field {field : String} {specs : List RuleSpec} {note : Note}
    (member : note ∈ ruleNotes registry policy source absent field specs) :
    note.field = field := by
  obtain ⟨spec, _, noted⟩ := List.mem_filterMap.mp member
  obtain ⟨text, _, rfl⟩ := Option.map_eq_some_iff.mp noted
  rfl

theorem mem_ruleNotes {field rule : String} {specs : List RuleSpec} :
    (∃ note ∈ ruleNotes registry policy source absent field specs, note.rule = rule) ↔
      ∃ spec ∈ specs, spec.name = rule ∧
        (failure? registry policy field ((source field).getD absent) spec).isSome = true := by
  constructor
  · rintro ⟨note, member, rfl⟩
    obtain ⟨spec, declared, noted⟩ := List.mem_filterMap.mp member
    obtain ⟨text, failed, rfl⟩ := Option.map_eq_some_iff.mp noted
    exact ⟨spec, declared, rfl, by rw [failed]; rfl⟩
  · rintro ⟨spec, declared, rfl, failed⟩
    obtain ⟨text, failed⟩ := Option.isSome_iff_exists.mp failed
    exact ⟨⟨field, spec.name, text⟩,
      List.mem_filterMap.mpr ⟨spec, declared, by rw [failed]; rfl⟩, rfl⟩

theorem notes_eq_flatMap :
    notes registry policy source absent =
      policy.schema.fields.flatMap fun decl =>
        ruleNotes registry policy source absent decl.name decl.rules := by
  simp only [notes, occurrences, Schema.plan, List.flatMap_map, List.filterMap_flatMap,
    List.filterMap_map]
  rfl

theorem filter_notes (field : String) :
    (notes registry policy source absent).filter (·.field = field) =
      fieldNotes registry policy source absent field := by
  rw [notes_eq_flatMap, fieldNotes, Schema.rulesOf]
  induction policy.schema.fields with
  | nil => rfl
  | cons decl rest ih =>
    rw [List.flatMap_cons, List.filter_append, ih]
    by_cases here : decl.name = field
    · subst here
      have all : (ruleNotes registry policy source absent decl.name decl.rules).filter
          (·.field = decl.name) = ruleNotes registry policy source absent decl.name decl.rules :=
        List.filter_eq_self.mpr fun note member => by simpa using ruleNotes_field member
      rw [all, List.filter_cons_of_pos (by simp), List.flatMap_cons]
      simp only [ruleNotes, List.filterMap_append]
    · have none : (ruleNotes registry policy source absent decl.name decl.rules).filter
          (·.field = field) = [] :=
        List.filter_eq_nil_iff.mpr fun note member => by simpa [ruleNotes_field member] using here
      rw [none, List.filter_cons_of_neg (by simpa using here), List.nil_append]

theorem notes_ne_nil_iff :
    notes registry policy source absent ≠ [] ↔ SomeFails registry policy source absent := by
  rw [notes_eq_flatMap]
  constructor
  · intro some
    obtain ⟨note, member⟩ := List.exists_mem_of_ne_nil _ some
    obtain ⟨decl, declared, noted⟩ := List.mem_flatMap.mp member
    obtain ⟨spec, here, _, failed⟩ := mem_ruleNotes.mp ⟨note, noted, rfl⟩
    exact ⟨decl, declared, spec, here, failed⟩
  · rintro ⟨decl, declared, spec, here, failed⟩
    obtain ⟨note, noted, _⟩ := mem_ruleNotes.mpr ⟨spec, here, rfl, failed⟩
    exact List.ne_nil_of_mem (List.mem_flatMap.mpr ⟨decl, declared, noted⟩)

/-- The messages after the rules of all fields, for any declarations whose names
all resolve. A pair has a message just if one of its occurrences fails on the value
of the field, and the text is that of the last one to fail. Fields stand in the
order of declaration and the rules of a field in the order of their first failures;
no field stands there without a rule, and the status tells whether anything failed. -/
theorem fieldPhase_messages (registry : Registry) (policy : Policy)
    (resolved : registry.ResolvesAll policy.schema) (source : Source) (absent : Json) :
    ∃ p, fieldPhase registry policy source absent = .ok p ∧
      (∀ field rule, (Ordered.getInner? field rule p.outcome.messages).isSome = true ↔
        ∃ spec ∈ policy.schema.rulesOf field, spec.name = rule ∧
          (failure? registry policy field ((source field).getD absent) spec).isSome = true) ∧
      (∀ field rule, Ordered.getInner? field rule p.outcome.messages =
        (((fieldNotes registry policy source absent field).filter
          (·.rule = rule)).getLast?).map Note.text) ∧
      (Ordered.keys p.outcome.messages).Nodup ∧
      (Ordered.keys p.outcome.messages).Sublist (policy.schema.fields.map FieldDecl.name) ∧
      (∀ field rules, (field, rules) ∈ p.outcome.messages →
        rules ≠ [] ∧ Ordered.keys rules =
          ((fieldNotes registry policy source absent field).map Note.rule).eraseDups) ∧
      (p.outcome.status = false ↔ SomeFails registry policy source absent) := by
  obtain ⟨p, ran, outcome, _⟩ := fieldPhase_resolved resolved source absent
  have reflects := Messages.reflects_ofNotes (notes registry policy source absent)
  refine ⟨p, ran, ?_⟩
  rw [outcome]
  refine ⟨?_, ?_, reflects.distinct, ?_, ?_, ?_⟩
  · intro field rule
    refine Iff.trans ?_ mem_ruleNotes
    rw [reflects.isSome_iff, ← fieldNotes, ← filter_notes]
    simp [and_assoc]
  · intro field rule
    rw [reflects.text, ← filter_notes, List.filter_filter]
    simp only [Bool.decide_and, Bool.and_comm]
  · rw [reflects.fields, notes_eq_flatMap, List.map_flatMap]
    apply Messages.eraseDups_flatMap_sublist
    intro decl _ text member
    obtain ⟨note, noted, rfl⟩ := List.mem_map.mp member
    exact ruleNotes_field noted
  · intro field rules member
    refine ⟨reflects.nonempty member, ?_⟩
    have order := reflects.rules field
    rwa [filter_notes, Messages.ofField, Ordered.get?_of_mem reflects.distinct member,
      Option.getD_some] at order
  · rw [List.isEmpty_eq_false_iff]
    exact notes_ne_nil_iff

/-- A field that declares nothing, and one that declares the same rule three times. -/
def repeatedRules : Policy :=
  (Definition.ofSchema
    (Schema.ofDeclarations [("note", ""), ("name", "min:9|required|min:5|min:12")])).policy

theorem fieldPhase_messages_repeated :
    ∃ p, fieldPhase Registry.empty repeatedRules
        (Source.ofJson (.object [("name", .string "abcdefg")])) .null = .ok p ∧
      Ordered.getInner? "name" "min" p.outcome.messages = some "name must be at least 12" ∧
      (Ordered.getInner? "name" "required" p.outcome.messages).isSome = false ∧
      p.outcome.status = false := by
  obtain ⟨p, ran, failed, text, _, _, _, status⟩ :=
    fieldPhase_messages Registry.empty repeatedRules (by decide +kernel)
      (Source.ofJson (.object [("name", .string "abcdefg")])) .null
  refine ⟨p, ran, (text "name" "min").trans (by decide +kernel), ?_, ?_⟩
  · rw [text]
    decide +kernel
  · exact status.mpr (notes_ne_nil_iff.mp (by decide +kernel))

end Run

end FieldRules
