import Mathlib.Data.List.Induction
import FieldRules.Proofs.Reports

/-! What message templates can change. Rules that are given by tests pass or fail on
the value and the parameters alone, so templates decide the texts of failures and
nothing else. A built-in rule that does not apply says so in its own words. -/
namespace FieldRules

/-- The rule passes or fails whatever template it is given. -/
def Factory.Steady (factory : Factory) : Prop :=
  ∀ (args : RuleArgs) (message : Option String),
    (factory { args with message }).passes = (factory args).passes

theorem Factory.steady_ofTest (template : String) (test : Json → List String → Bool) :
    (Factory.ofTest template test).Steady := fun _ _ => rfl

namespace Builtin

theorem passes_factory (rule : Builtin) (args : RuleArgs) :
    (rule.factory args).passes = decide (rule.evaluate args.value args.params = .pass) := by
  simp only [factory, Check.run, Check.start]
  cases rule.evaluate args.value args.params <;> simp [Check.record]

theorem steady_factory (rule : Builtin) : rule.factory.Steady := by
  intro args message
  rw [passes_factory, passes_factory]

/-- The reason why a rule does not apply is its message, whatever template it is given. -/
theorem message_factory {rule : Builtin} (args : RuleArgs) {why : Misuse}
    (invalid : rule.evaluate args.value args.params = .invalid why) :
    (rule.factory args).message = args.render why.template := by
  simp only [factory, Check.run, Check.start, invalid, Check.record, Check.message, Check.template]

/-- The message of a rule that fails is the template given for it, or else its own. -/
theorem message_factory_fail {rule : Builtin} (args : RuleArgs)
    (failed : rule.evaluate args.value args.params = .fail) :
    (rule.factory args).message = args.render (args.message.getD rule.defaultMessage) := by
  simp only [factory, Check.run, Check.start, failed, Check.record, Check.message, Check.template]

end Builtin

namespace Registry

/-- All registered rules are given by tests. -/
def OfTests (registry : Registry) : Prop :=
  ∀ name factory, (name, factory) ∈ registry.custom →
    ∃ template test, factory = Factory.ofTest template test

theorem OfTests.steady {registry : Registry} (tests : registry.OfTests) {name : String}
    {kind : RuleKind} (found : registry.resolve? name = some kind) : kind.bind.Steady := by
  rw [resolve?] at found
  split at found
  · next factory here =>
    obtain ⟨template, test, rfl⟩ := tests name factory (Ordered.mem_of_get? here)
    obtain rfl := Option.some.inj found
    exact Factory.steady_ofTest template test
  · obtain ⟨rule, _, rfl⟩ := Option.map_eq_some_iff.mp found
    exact rule.steady_factory

theorem ofTests_empty : empty.OfTests := fun _ _ member => absurd member List.not_mem_nil

theorem OfTests.register {registry : Registry} (tests : registry.OfTests) (registered : String)
    (template : String) (test : Json → List String → Bool) :
    (registry.register registered (Factory.ofTest template test)).OfTests := by
  intro name factory member
  rcases Ordered.mem_put member with same | member
  · exact ⟨template, test, (Prod.mk.inj same).2⟩
  · exact tests name factory member

theorem ofTests_ofRegistrations (tests : List (String × String × (Json → List String → Bool))) :
    (ofRegistrations (tests.map fun (name, template, test) =>
      (name, Factory.ofTest template test))).OfTests := by
  refine List.foldlRecOn (motive := OfTests) _ _ ofTests_empty ?_
  intro registry only registration member
  obtain ⟨⟨name, template, test⟩, _, rfl⟩ := List.mem_map.mp member
  exact only.register name template test

end Registry

namespace Policy

def withTemplates (policy : Policy) (template? : String → String → Option String) : Policy :=
  { policy with template? }

end Policy

namespace Run

section Texts

variable (registry : Registry) (policy : Policy) (source : Source) (absent : Json)

/-- The last one of rules with a name to fail on the value of a field. -/
def lastFailing? (field rule : String) (specs : List RuleSpec) : Option RuleSpec :=
  (specs.filter fun spec => spec.name = rule ∧
    (failure? registry policy field ((source field).getD absent) spec).isSome).getLast?

end Texts

variable {registry : Registry} {policy : Policy} {source : Source} {absent : Json}

theorem of_lastFailing? {field rule : String} {specs : List RuleSpec} {spec : RuleSpec}
    (last : lastFailing? registry policy source absent field rule specs = some spec) :
    spec ∈ specs ∧ spec.name = rule ∧
      (failure? registry policy field ((source field).getD absent) spec).isSome = true := by
  obtain ⟨declared, fails⟩ := List.mem_filter.mp (List.mem_of_getLast? last)
  exact ⟨declared, of_decide_eq_true fails⟩

theorem getLast?_filterMap {α β : Type} (f : α → Option β) (items : List α) :
    (items.filterMap f).getLast? =
      (items.filter fun item => (f item).isSome).getLast?.bind f := by
  induction items using List.reverseRecOn with
  | nil => rfl
  | append_singleton items last ih =>
    rw [List.filterMap_append, List.filter_append]
    cases found : f last <;> simp [found, ih]

/-- The last text noted for a rule is that of the last one to fail. -/
theorem getLast?_ruleNotes (field rule : String) (specs : List RuleSpec) :
    (((ruleNotes registry policy source absent field specs).filter
        (·.rule = rule)).getLast?).map Note.text =
      (lastFailing? registry policy source absent field rule specs).bind
        (failure? registry policy field ((source field).getD absent)) := by
  have named : (ruleNotes registry policy source absent field specs).filter (·.rule = rule) =
      (specs.filter (·.name = rule)).filterMap fun spec =>
        (failure? registry policy field ((source field).getD absent) spec).map fun text =>
          ⟨field, spec.name, text⟩ := by
    rw [ruleNotes, List.filter_filterMap, List.filterMap_filter]
    refine congrArg (List.filterMap · specs) (funext fun spec => ?_)
    cases failure? registry policy field ((source field).getD absent) spec with
    | none => simp
    | some text => by_cases here : spec.name = rule <;> simp [here]
  rw [named, getLast?_filterMap, List.filter_filter, Option.map_bind]
  simp only [lastFailing?, Option.isSome_map, Bool.decide_and, Bool.decide_eq_true, Bool.and_comm]
  refine congrArg (Option.bind _) (funext fun spec => ?_)
  simp only [Function.comp_apply, Option.map_map]
  exact Option.map_id' ..

theorem getInner?_notes (field rule : String) :
    Ordered.getInner? field rule (Messages.ofNotes (notes registry policy source absent)) =
      (lastFailing? registry policy source absent field rule
        (policy.schema.rulesOf field)).bind
        (failure? registry policy field ((source field).getD absent)) := by
  rw [(Messages.reflects_ofNotes _).text, ← getLast?_ruleNotes, ← fieldNotes, ← filter_notes,
    List.filter_filter]
  simp only [Bool.decide_and, Bool.and_comm]

/-- A template is asked for a failing rule by the names of its field and its own. -/
theorem failure?_withTemplates {template? : String → String → Option String} {field : String}
    {spec : RuleSpec} (same : template? field spec.name = policy.template? field spec.name)
    (value : Json) :
    failure? registry (policy.withTemplates template?) field value spec =
      failure? registry policy field value spec := by
  simp only [failure?, Policy.withTemplates, same]

/-- A built-in rule that does not pass gives the message of its check. -/
theorem failure?_builtin {field : String} {value : Json} {spec : RuleSpec} {rule : Builtin}
    (builtin : registry.resolve? spec.name = some (.builtin rule))
    (fails : rule.evaluate value spec.params ≠ .pass) :
    failure? registry policy field value spec =
      some (rule.factory ⟨field, value, spec.params, policy.template? field spec.name⟩).message := by
  have failed : ¬ (rule.factory
      ⟨field, value, spec.params, policy.template? field spec.name⟩).passes = true := by
    rw [Builtin.passes_factory, decide_eq_true_eq]
    exact fails
  rw [failure?, builtin, Option.bind_some]
  exact if_neg failed

/-- A built-in rule that does not apply gives its reason, filled in for the field. -/
theorem failure?_invalid {field : String} {value : Json} {spec : RuleSpec} {rule : Builtin}
    {why : Misuse} (builtin : registry.resolve? spec.name = some (.builtin rule))
    (invalid : rule.evaluate value spec.params = .invalid why) :
    failure? registry policy field value spec =
      some (Template.render field spec.params why.template) := by
  rw [failure?_builtin builtin (by rw [invalid]; exact Verdict.noConfusion)]
  exact congrArg some (Builtin.message_factory _ invalid)

section Tests

variable (tests : registry.OfTests) (template? : String → String → Option String)
include tests

/-- With tests only, templates have no say in whether a rule fails. -/
theorem isSome_failure? (field : String) (value : Json) (spec : RuleSpec) :
    (failure? registry (policy.withTemplates template?) field value spec).isSome =
      (failure? registry policy field value spec).isSome := by
  rw [failure?, failure?]
  cases found : registry.resolve? spec.name with
  | none => rfl
  | some kind =>
    have steady := tests.steady found ⟨field, value, spec.params, policy.template? field spec.name⟩
      (template? field spec.name)
    simp only [Option.bind_some, Policy.withTemplates, steady]
    split <;> rfl

theorem lastFailing?_withTemplates (field rule : String) (specs : List RuleSpec) :
    lastFailing? registry (policy.withTemplates template?) source absent field rule specs =
      lastFailing? registry policy source absent field rule specs := by
  simp only [lastFailing?, isSome_failure? tests]

theorem pairs_notes :
    (notes registry (policy.withTemplates template?) source absent).map Note.pair =
      (notes registry policy source absent).map Note.pair := by
  rw [notes, notes, List.map_filterMap, List.map_filterMap]
  refine congrArg (List.filterMap · _) (funext fun o => ?_)
  have fails : (failure? registry (policy.withTemplates template?) o.plan.field o.plan.value
      o.spec).isSome = (failure? registry policy o.plan.field o.plan.value o.spec).isSome :=
    isSome_failure? tests template? _ _ _
  simp only [Occurrence.note?, Option.map_map, Function.comp_def]
  cases failed : failure? registry policy o.plan.field o.plan.value o.spec with
  | none =>
    rw [failed, Option.isSome_none, Option.isSome_eq_false_iff, Option.isNone_iff_eq_none] at fails
    rw [fails]
  | some text =>
    rw [failed] at fails
    obtain ⟨other, failed'⟩ := Option.isSome_iff_exists.mp fails
    rw [failed']
    rfl

theorem notes_eq_nil_iff :
    notes registry (policy.withTemplates template?) source absent = [] ↔
      notes registry policy source absent = [] := by
  rw [← List.map_eq_nil_iff, pairs_notes tests, List.map_eq_nil_iff]

end Tests

theorem message?_failedReport {field rule : String} {spec : RuleSpec}
    (last : lastFailing? registry policy source absent field rule
      (policy.schema.rulesOf field) = some spec) :
    (failedReport policy source absent (notes registry policy source absent)).message? field rule =
      failure? registry policy field ((source field).getD absent) spec := by
  rw [Report.message?, failedReport, getInner?_notes, last, Option.bind_some]

theorem notes_ne_nil_of_lastFailing? {field rule : String} {spec : RuleSpec}
    (last : lastFailing? registry policy source absent field rule
      (policy.schema.rulesOf field) = some spec) :
    notes registry policy source absent ≠ [] := by
  obtain ⟨_, _, fails⟩ := of_lastFailing? last
  intro none
  have text : Ordered.getInner? field rule
      (Messages.ofNotes (notes registry policy source absent)) = _ := getInner?_notes field rule
  rw [none, last, Option.bind_some] at text
  rw [← text] at fails
  contradiction

variable (policy source absent) in
/-- The reports of failed runs with two sets of templates. -/
theorem failedReport_withTemplates (tests : registry.OfTests)
    (template? : String → String → Option String) :
    let report := failedReport policy source absent (notes registry policy source absent)
    let other := failedReport (policy.withTemplates template?) source absent
      (notes registry (policy.withTemplates template?) source absent)
    other.messages.pairs = report.messages.pairs ∧ other.values = report.values ∧
      ∀ field rule, template? field rule = policy.template? field rule →
        other.message? field rule = report.message? field rule := by
  have pairs : (Messages.ofNotes
      (notes registry (policy.withTemplates template?) source absent)).pairs =
      (Messages.ofNotes (notes registry policy source absent)).pairs :=
    Messages.pairs_ofNotes_congr (pairs_notes tests template?)
  refine ⟨pairs, ?_, ?_⟩
  · simp only [failedReport]
    rw [← Messages.keys_pairs, pairs, Messages.keys_pairs]
  · intro field rule same
    simp only [failedReport, Report.message?, getInner?_notes, lastFailing?_withTemplates tests]
    cases last : lastFailing? registry policy source absent field rule
        (policy.schema.rulesOf field) with
    | none =>
      exact congrArg (Option.bind · _) last
    | some spec =>
      obtain ⟨_, rfl, _⟩ := of_lastFailing? last
      exact (congrArg (Option.bind · _) last).trans (failure?_withTemplates same _)

/-- Templates change texts and nothing else. With a registry of tests, a policy and any
other templates for it, either both runs stop with one error, or both report the same but
for the texts. The text of a rule of a field can change only if its template does, and
never does if the last occurrence to fail is that of a built-in rule which did not apply:
this one gives its reason. -/
theorem templates_change_texts (registry : Registry) (tests : registry.OfTests) (policy : Policy)
    (template? : String → String → Option String) (source : Source) (absent : Json) :
    ((∃ error, validate registry policy source absent = .error error ∧
        validate registry (policy.withTemplates template?) source absent = .error error) ∨
      ∃ report other, validate registry policy source absent = .ok report ∧
        validate registry (policy.withTemplates template?) source absent = .ok other ∧
        other.status = report.status ∧ other.code = report.code ∧ other.info = report.info ∧
        other.messages.pairs = report.messages.pairs ∧ other.values = report.values ∧
        (∀ field rule, other.message? field rule ≠ report.message? field rule →
          template? field rule ≠ policy.template? field rule) ∧
        ∀ field rule spec builtin why,
          lastFailing? registry policy source absent field rule
            (policy.schema.rulesOf field) = some spec →
          registry.resolve? spec.name = some (.builtin builtin) →
          builtin.evaluate ((source field).getD absent) spec.params = .invalid why →
          report.message? field rule = some (Template.render field spec.params why.template) ∧
          other.message? field rule = some (Template.render field spec.params why.template)) ∧
    (∀ (d : Definition) (overrides : Overrides),
      (d.withOverrides overrides).policy = d.policy.withTemplates overrides.get?) ∧
    ∀ tests : List (String × String × (Json → List String → Bool)),
      (Registry.ofRegistrations (tests.map fun (name, template, test) =>
        (name, Factory.ofTest template test))).OfTests := by
  refine ⟨?_, fun _ _ => rfl, Registry.ofTests_ofRegistrations⟩
  by_cases resolved : registry.ResolvesAll policy.schema
  · right
    have resolved' : registry.ResolvesAll (policy.withTemplates template?).schema := resolved
    by_cases passed : notes registry policy source absent = []
    · refine ⟨_, _, validate_passed resolved passed,
        validate_passed resolved' ((notes_eq_nil_iff tests template?).mpr passed), rfl, rfl, rfl,
        rfl, rfl, fun _ _ differs => absurd rfl differs, ?_⟩
      intro field rule spec builtin why last
      exact absurd passed (notes_ne_nil_of_lastFailing? last)
    · have failed : notes registry (policy.withTemplates template?) source absent ≠ [] :=
        fun none => passed ((notes_eq_nil_iff tests template?).mp none)
      obtain ⟨pairs, values, texts⟩ :=
        failedReport_withTemplates policy source absent tests template?
      refine ⟨_, _, validate_failed resolved passed, validate_failed resolved' failed, rfl, rfl,
        rfl, pairs, values, ?_, ?_⟩
      · intro field rule differs same
        exact differs (texts field rule same)
      · intro field rule spec builtin why last found invalid
        have last' : lastFailing? registry (policy.withTemplates template?) source absent field rule
            (policy.schema.rulesOf field) = some spec :=
          (lastFailing?_withTemplates tests template? field rule _).trans last
        rw [message?_failedReport last, message?_failedReport last']
        exact ⟨failure?_invalid found invalid, failure?_invalid found invalid⟩
  · left
    obtain ⟨field, rule, first⟩ := Registry.exists_firstUnknown resolved
    have refused := (Registry.verify_error_iff policy.schema field rule).mpr first
    exact ⟨_, (validate_error_iff source absent _).mpr refused,
      (validate_error_iff source absent _).mpr refused⟩

def ages : Definition := Definition.ofSchema (Schema.ofDeclarations [("age", "even|min:many")])

def isEven (value : Json) (_ : List String) : Bool :=
  match value with
  | .integer number => number % 2 = 0
  | _ => false

def evenNumbers : Registry :=
  Registry.empty.register "even" (Factory.ofTest "\x7bFIELD\x7d must be even" isEven)

theorem templates_change_texts_ages :
    ∃ report other,
      validate evenNumbers ages.policy (Source.ofJson (.object [("age", .integer 3)])) .null =
        .ok report ∧
      validate evenNumbers
          (ages.withOverrides ⟨[("age", [("even", "odd"), ("min", "young")])]⟩).policy
          (Source.ofJson (.object [("age", .integer 3)])) .null = .ok other ∧
      other.messages.pairs = [("age", ["even", "min"])] ∧
      report.message? "age" "even" = some "age must be even" ∧
      other.message? "age" "even" = some "odd" ∧
      report.message? "age" "min" = other.message? "age" "min" := by
  obtain ⟨same, _⟩ := templates_change_texts evenNumbers
    (Registry.ofTests_empty.register "even" "\x7bFIELD\x7d must be even" isEven) ages.policy
    (Overrides.get? ⟨[("age", [("even", "odd"), ("min", "young")])]⟩)
    (Source.ofJson (.object [("age", .integer 3)])) .null
  rcases same with ⟨error, failed, _⟩ | ⟨report, other, ran, ran', _, _, _, pairs, _, _, invalid⟩
  · obtain ⟨report, ran⟩ : ∃ report, validate evenNumbers ages.policy
        (Source.ofJson (.object [("age", .integer 3)])) .null = .ok report :=
      (validate_ok_iff _ _).mpr (by decide +kernel)
    rw [ran] at failed
    contradiction
  · have number : Builtin.min.evaluate (.integer 3) ["many"] =
        .invalid (.notNumeric "min" "many") := by decide +kernel
    obtain ⟨text, text'⟩ := invalid "age" "min" ⟨"min", ["many"]⟩ .min _ (by decide +kernel) rfl
      number
    refine ⟨report, other, ran, ran', pairs.trans ?_, ?_, ?_, text.trans text'.symm⟩
    · exact part_of_report (fun report => report.messages.pairs) ran (by decide +kernel)
    · exact part_of_report (fun report => report.message? "age" "even") ran
        (by decide +kernel)
    · exact part_of_report (fun report => report.message? "age" "even") ran'
        (by decide +kernel)

end Run
end FieldRules
