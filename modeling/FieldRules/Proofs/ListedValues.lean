import FieldRules.Proofs.DeclaredPatterns
import FieldRules.Proofs.Flattening
import FieldRules.Proofs.PatternCache
import FieldRules.Proofs.Templates

/-! Lists of values written into rule strings, from the declaration of a field to the report
on it. Texts that are trimmed and free of delimiters come out of a rule string as they went in, so
the rule asks for the declared list. Whatever else a rule string says, its parameters are trimmed
and free of colons and commas, so a text that is not is on no list. -/
namespace FieldRules

namespace RuleSpec

/-- A text that can be written among the parameters of a rule string. -/
def Plain (text : String) : Prop :=
  Trimmed text ∧ '|' ∉ text.toList ∧ ':' ∉ text.toList ∧ ',' ∉ text.toList

theorem parseAll_params {name : String} {params : List String} (named : Plain name)
    (nonempty : params ≠ []) (plain : ∀ param ∈ params, Plain param) :
    parseAll (name ++ ":" ++ Text.join "," params) = [⟨name, params⟩] := by
  have pieces : Text.split ',' (Text.join "," params) = params :=
    Text.split_join rfl nonempty fun param listed => (plain param listed).2.2.2
  have bar : '|' ∉ (Text.join "," params).toList :=
    Text.not_mem_join (by decide) fun param listed => (plain param listed).2.1
  have colon : ':' ∉ (Text.join "," params).toList :=
    Text.not_mem_join (by decide) fun param listed => (plain param listed).2.2.1
  have read := parseAll_named named.1 named.2.1 named.2.2.1 bar colon fun piece cut =>
    (plain piece (pieces ▸ cut)).1
  rwa [pieces] at read

/-- A text that no rule string can put among its parameters. -/
def Unwritable (text : String) : Prop :=
  ',' ∈ text.toList ∨ ':' ∈ text.toList ∨ ¬ Trimmed text

theorem not_mem_params {rules text : String} {spec : RuleSpec} (read : spec ∈ parseAll rules)
    (unwritable : Unwritable text) : text ∉ spec.params := by
  intro listed
  obtain ⟨⟨_, _, _, canonical⟩, _⟩ := mem_parseAll read
  obtain ⟨trimmed, comma, colon⟩ := canonical text listed
  rcases unwritable with here | here | here
  · exact comma here
  · exact colon here
  · exact here trimmed

end RuleSpec

theorem FieldDecl.rules_written {name : String} {params : List String} (field : String)
    (named : RuleSpec.Plain name) (nonempty : params ≠ [])
    (plain : ∀ param ∈ params, RuleSpec.Plain param) :
    (ofSource field (name ++ ":" ++ Text.join "," params)).rules = [⟨name, params⟩] := by
  have shown : Text.trim (name ++ ":" ++ Text.join "," params) ≠ "" := by
    rw [ne_eq, Text.trim_eq_empty_iff]
    intro blank
    exact absurd (blank ':' (by simp)) (by decide)
  rw [ofSource, if_neg shown]
  exact RuleSpec.parseAll_params named nonempty plain

theorem Schema.Distinct.rulesOf {schema : Schema} (distinct : schema.Distinct) {field : String}
    {decl : FieldDecl} (found : schema.get? field = some decl) :
    schema.rulesOf field = decl.rules := by
  obtain ⟨member, rfl⟩ := (distinct.get?_eq_some_iff field decl).mp found
  obtain ⟨before, after, split⟩ := List.append_of_mem member
  have once : decl.name ∉ (before ++ after).map FieldDecl.name := by
    rw [Schema.Distinct, split] at distinct
    have apart := (List.perm_middle.map FieldDecl.name).nodup_iff.mp distinct
    exact (List.nodup_cons.mp apart).1
  have apart {others : List FieldDecl} (part : others ⊆ before ++ after) :
      others.filter (fun other => other.name = decl.name) = [] := by
    rw [List.filter_eq_nil_iff]
    intro other listed same
    exact once (of_decide_eq_true same ▸ List.mem_map_of_mem (part listed))
  have only : schema.fields.filter (fun other => other.name = decl.name) = [decl] := by
    rw [split, List.filter_append, List.filter_cons_of_pos (by simp),
      apart (List.subset_append_left _ _), apart (List.subset_append_right _ _), List.nil_append]
  rw [Schema.rulesOf, only, List.flatMap_singleton]

theorem Registry.resolve?_empty (rule : Builtin) :
    empty.resolve? rule.name = some (.builtin rule) := by
  cases rule <;> rfl

namespace Builtin

variable {value : Json} {params : List String}

theorem plain_name (rule : Builtin) : RuleSpec.Plain rule.name := by
  cases rule <;> exact ⟨by decide, by decide, by decide, by decide⟩

theorem membership_text (wanted : Bool) {text : String} (single : value.scalarText? = some text) :
    Verdict.ofExcept (membership wanted value params) =
      .ofBool (params.contains text == wanted) := by
  rw [membership, singleText, single]
  rfl

theorem membership_collection (wanted : Bool) (none : value.scalarText? = none) :
    Verdict.ofExcept (membership wanted value params) = .invalid .notSingle := by
  rw [membership, singleText, none]
  rfl

theorem membership_pass_iff (wanted : Bool) :
    Verdict.ofExcept (membership wanted value params) = .pass ↔
      ∃ text, value.scalarText? = some text ∧ (text ∈ params ↔ wanted = true) := by
  cases single : value.scalarText? with
  | none => simp [membership_collection wanted single]
  | some text =>
    rw [membership_text wanted single, Verdict.ofBool_pass_iff]
    cases wanted <;> simp

theorem oneOf_pass_iff : Builtin.oneOf.evaluate value params = .pass ↔
    ∃ text, value.scalarText? = some text ∧ text ∈ params := by
  have verdict : Builtin.oneOf.evaluate value params =
      .ofExcept (membership true value params) := rfl
  simp [verdict, membership_pass_iff]

theorem noneOf_pass_iff : Builtin.noneOf.evaluate value params = .pass ↔
    ∃ text, value.scalarText? = some text ∧ text ∉ params := by
  have verdict : Builtin.noneOf.evaluate value params =
      .ofExcept (membership false value params) := rfl
  simp [verdict, membership_pass_iff]

theorem evaluate_unwritable {rules text : String} {spec : RuleSpec}
    (read : spec ∈ RuleSpec.parseAll rules) (single : value.scalarText? = some text)
    (unwritable : RuleSpec.Unwritable text) : Builtin.oneOf.evaluate value spec.params = .fail := by
  have unlisted := RuleSpec.not_mem_params read unwritable
  have verdict : Builtin.oneOf.evaluate value spec.params =
      .ofExcept (membership true value spec.params) := rfl
  rw [verdict, membership_text true single]
  simp [Verdict.ofBool, unlisted]

end Builtin

namespace Run

variable {registry : Registry} {policy : Policy} {source : Source} {absent : Json}
  {field : String}

theorem fieldNotes_eq_nil_iff :
    fieldNotes registry policy source absent field = [] ↔ ∀ spec ∈ policy.schema.rulesOf field,
      failure? registry policy field ((source field).getD absent) spec = none := by
  simp only [fieldNotes, ruleNotes, List.filterMap_eq_nil_iff, Option.map_eq_none_iff]

/-- A field has a value in a report just if one of its rules failed. -/
theorem failedValue?_eq_none_iff {report : Report}
    (ran : validate registry policy source absent = .ok report) :
    report.failedValue? field = none ↔ ∀ spec ∈ policy.schema.rulesOf field,
      failure? registry policy field ((source field).getD absent) spec = none := by
  rw [← fieldNotes_eq_nil_iff, ← filter_notes]
  rcases report_cases ran with ⟨_, rfl⟩ | ⟨passed, rfl⟩
  · rw [Report.failedValue?, failedReport, get?_plannedValues]
    simp [Messages.mem_keys_ofNotes]
  · rw [← notes_ne_nil_iff, not_not] at passed
    rw [passed]
    exact ⟨fun _ => rfl, fun _ => rfl⟩

theorem failure?_eq_none_iff {rule : Builtin} {spec : RuleSpec} {value : Json}
    (builtin : registry.resolve? spec.name = some (.builtin rule)) :
    failure? registry policy field value spec = none ↔
      rule.evaluate value spec.params = .pass := by
  rw [failure?, builtin, Option.bind_some]
  dsimp only [RuleKind.bind]
  rw [Builtin.passes_factory]
  simp

/-- What a run reports of a field with a single rule that is built in. -/
theorem report_of_single {rule : Builtin} {params : List String}
    (resolved : registry.ResolvesAll policy.schema)
    (single : policy.schema.rulesOf field = [⟨rule.name, params⟩])
    (unshadowed : registry.resolve? rule.name = some (.builtin rule)) :
    let value := (source field).getD absent
    ∃ report, validate registry policy source absent = .ok report ∧
      (report.failedValue? field = none ↔ rule.evaluate value params = .pass) ∧
      ∀ why, rule.evaluate value params = .invalid why →
        report.message? field rule.name = some (Template.render field params why.template) := by
  intro value
  obtain ⟨report, ran⟩ := (validate_ok_iff source absent).mpr resolved
  refine ⟨report, ran, ?_, ?_⟩
  · rw [failedValue?_eq_none_iff ran, single, List.forall_mem_singleton]
    exact failure?_eq_none_iff unshadowed
  · intro why invalid
    have text : failure? registry policy field value ⟨rule.name, params⟩ =
        some (Template.render field params why.template) := failure?_invalid unshadowed invalid
    have last : lastFailing? registry policy source absent field rule.name
        (policy.schema.rulesOf field) = some ⟨rule.name, params⟩ := by
      rw [single, lastFailing?]
      simp [text, value]
    rw [validate_failed resolved (notes_ne_nil_of_lastFailing? last)] at ran
    rw [← Except.ok.inj ran, message?_failedReport last, text]

end Run

section Declared

variable {policy : Policy} {field : String} {params : List String}
  (distinct : policy.schema.Distinct)

include distinct

theorem failed_of_unwritable {rules text : String} {source : Source} {absent : Json}
    {report : Report} (declared : policy.schema.get? field = some (.ofSource field rules))
    (listed : ∃ spec ∈ (FieldDecl.ofSource field rules).rules, spec.name = "in")
    (ran : validate Registry.empty policy source absent = .ok report)
    (single : ((source field).getD absent).scalarText? = some text)
    (unwritable : RuleSpec.Unwritable text) : report.failedValue? field ≠ none := by
  obtain ⟨spec, listed, named⟩ := listed
  have read : spec ∈ RuleSpec.parseAll rules := by
    rw [FieldDecl.ofSource] at listed
    split at listed
    · exact absurd listed List.not_mem_nil
    · exact listed
  have unshadowed : Registry.empty.resolve? spec.name = some (.builtin .oneOf) :=
    named ▸ Registry.resolve?_empty .oneOf
  intro passed
  rw [Run.failedValue?_eq_none_iff ran, distinct.rulesOf declared] at passed
  have passes := (Run.failure?_eq_none_iff unshadowed).mp (passed spec listed)
  rw [Builtin.evaluate_unwritable read single unwritable] at passes
  exact Verdict.noConfusion passes

variable
  (others : ∀ decl ∈ policy.schema.fields, decl.name ≠ field →
    ∀ spec ∈ decl.rules, Registry.empty.Resolves spec)
  (nonempty : params ≠ []) (plain : ∀ param ∈ params, RuleSpec.Plain param)

include others nonempty plain

/-- What a run reports of a field that is declared with a built-in rule alone, the parameters
written one after the other. The other fields may have any rules that resolve. -/
theorem report_of_written (rule : Builtin)
    (declared : policy.schema.get? field =
      some (.ofSource field (rule.name ++ ":" ++ Text.join "," params)))
    (source : Source) (absent : Json) :
    let value := (source field).getD absent
    ∃ report, validate Registry.empty policy source absent = .ok report ∧
      (report.failedValue? field = none ↔ rule.evaluate value params = .pass) ∧
      ∀ why, rule.evaluate value params = .invalid why →
        report.message? field rule.name = some (Template.render field params why.template) := by
  have unshadowed := Registry.resolve?_empty rule
  have written := FieldDecl.rules_written field rule.plain_name nonempty plain
  have resolved : Registry.empty.ResolvesAll policy.schema := by
    intro decl member spec listed
    by_cases own : decl.name = field
    · have found := (distinct.get?_eq_some_iff field decl).mpr ⟨member, own⟩
      rw [declared] at found
      rw [← Option.some.inj found, written] at listed
      rw [List.mem_singleton.mp listed, Registry.Resolves, unshadowed]
      rfl
    · exact others decl member own spec listed
  have single : policy.schema.rulesOf field = [⟨rule.name, params⟩] :=
    (distinct.rulesOf declared).trans written
  exact Run.report_of_single resolved single unshadowed

/-- Lists mean what is declared. A field with a list of allowed values, in a schema whose other
rules all resolve, fails no rule just if its value is single and the text of it is on the list;
with a list of values that are not allowed it is just if the text is not. Collections fail both
for what they are. And no rule string allows a text with a comma, a colon, or white space at
either end. -/
theorem listed_values (source : Source) (absent : Json) :
    let value := (source field).getD absent
    let collection := (∃ items, value = .array items) ∨ ∃ members, value = .object members
    let single := some (Template.render field params "\x7bFIELD\x7d must be a single value")
    (policy.schema.get? field = some (.ofSource field ("in:" ++ Text.join "," params)) →
      ∃ report, validate Registry.empty policy source absent = .ok report ∧
        (report.failedValue? field = none ↔
          ∃ text, value.scalarText? = some text ∧ text ∈ params) ∧
        (collection → report.message? field "in" = single)) ∧
    (policy.schema.get? field = some (.ofSource field ("not_in:" ++ Text.join "," params)) →
      ∃ report, validate Registry.empty policy source absent = .ok report ∧
        (report.failedValue? field = none ↔
          ∃ text, value.scalarText? = some text ∧ text ∉ params) ∧
        (collection → report.message? field "not_in" = single)) ∧
    (∀ (rules text : String) (value : Json), value.scalarText? = some text →
      RuleSpec.Unwritable text → ∀ spec ∈ RuleSpec.parseAll rules,
        Builtin.oneOf.evaluate value spec.params = .fail) ∧
    ∀ rules text report, policy.schema.get? field = some (.ofSource field rules) →
      (∃ spec ∈ (FieldDecl.ofSource field rules).rules, spec.name = "in") →
      validate Registry.empty policy source absent = .ok report →
      value.scalarText? = some text → RuleSpec.Unwritable text → report.failedValue? field ≠ none := by
  intro value collection single
  have opening : "in:" = Builtin.oneOf.name ++ ":" := by decide
  have opening' : "not_in:" = Builtin.noneOf.name ++ ":" := by decide
  have invalid {wanted : Bool} (collected : collection) :
      Verdict.ofExcept (Builtin.membership wanted value params) = .invalid .notSingle :=
    Builtin.membership_collection wanted ((Json.scalarText?_eq_none_iff value).mpr collected)
  refine ⟨fun declared => ?_, fun declared => ?_, ?_, ?_⟩
  · rw [opening] at declared
    obtain ⟨report, ran, passes, reason⟩ :=
      report_of_written distinct others nonempty plain .oneOf declared source absent
    exact ⟨report, ran, passes.trans Builtin.oneOf_pass_iff,
      fun collected => reason .notSingle (invalid collected)⟩
  · rw [opening'] at declared
    obtain ⟨report, ran, passes, reason⟩ :=
      report_of_written distinct others nonempty plain .noneOf declared source absent
    exact ⟨report, ran, passes.trans Builtin.noneOf_pass_iff,
      fun collected => reason .notSingle (invalid collected)⟩
  · intro rules text value single unwritable spec read
    exact Builtin.evaluate_unwritable read single unwritable
  · intro rules text report declared listed ran single unwritable
    exact failed_of_unwritable distinct declared listed ran single unwritable

end Declared

def boxes : Definition :=
  Definition.ofSchema (Schema.ofDeclarations [("name", "required"), ("size", "in:small,,7")])

/-- Numbers are on a list by their text; collections have none. -/
theorem listed_values_boxes :
    (∃ report, validate Registry.empty boxes.policy (Source.ofJson (.object [("size", .integer 7)]))
      .null = .ok report ∧ report.failedValue? "size" = none) ∧
    ∃ report, validate Registry.empty boxes.policy (Source.ofJson (.object [("size", .array [])]))
      .null = .ok report ∧ report.message? "size" "in" = some "size must be a single value" := by
  have distinct : boxes.policy.schema.Distinct := by decide +kernel
  have others : ∀ decl ∈ boxes.policy.schema.fields, decl.name ≠ "size" →
      ∀ spec ∈ decl.rules, Registry.empty.Resolves spec := by decide +kernel
  have plain : ∀ param ∈ ["small", "", "7"], RuleSpec.Plain param := by
    unfold RuleSpec.Plain
    decide +kernel
  have declared : boxes.policy.schema.get? "size" =
      some (.ofSource "size" ("in:" ++ Text.join "," ["small", "", "7"])) := by decide +kernel
  have nonempty : ["small", "", "7"] ≠ [] := List.cons_ne_nil _ _
  constructor
  · obtain ⟨listed, _⟩ := listed_values distinct others nonempty plain
      (Source.ofJson (.object [("size", .integer 7)])) .null
    obtain ⟨report, ran, passes, _⟩ := listed declared
    exact ⟨report, ran, passes.mpr ⟨"7", by decide +kernel, by decide⟩⟩
  · obtain ⟨listed, _⟩ := listed_values distinct others nonempty plain
      (Source.ofJson (.object [("size", .array [])])) .null
    obtain ⟨report, ran, _, reason⟩ := listed declared
    exact ⟨report, ran, (reason (.inl ⟨[], rfl⟩)).trans (by decide +kernel)⟩

end FieldRules
