import FieldRules.Proofs.Rendering
import FieldRules.Proofs.Templates

/-! Messages of the built-in rules without a template given for them. Their own templates
keep placeholders apart by dividers, so each placeholder is rendered on its own. What is
put in for one is rendered again for those replaced later, and a reason that quotes a
parameter is a template as a whole: fields and parameters are sure to be shown as they
are if no placeholder stands in them. -/
namespace FieldRules

open Text (Occurs)
open Template (Part placeholder render sourceOf fillAll Spaced Inert Unindexed Braceless
  Divider divider_ofList braceless_ofList render_spaced render_source render_field)

namespace Builtin

def messageParts : Builtin → List Part
  | .required => [.group "FIELD", .literal " is required"]
  | .min => [.group "FIELD", .literal " must be at least ", .group "0"]
  | .max => [.group "FIELD", .literal " must be at most ", .group "0"]
  | .between =>
    [.group "FIELD", .literal " must be between ", .group "0", .literal " and ", .group "1"]
  | .oneOf => [.group "FIELD", .literal " must be one of: ", .group "PARAMS"]
  | .noneOf => [.group "FIELD", .literal " must not be one of: ", .group "PARAMS"]
  | .email => [.group "FIELD", .literal " must be a valid email"]
  | .url => [.group "FIELD", .literal " must be a valid URL"]
  | .uuid => [.group "FIELD", .literal " must be a valid UUID"]
  | .alpha => [.group "FIELD", .literal " must contain only letters"]
  | .alphaNum => [.group "FIELD", .literal " must contain only letters and numbers"]
  | .numeric => [.group "FIELD", .literal " must contain only numbers"]
  | .pattern => [.group "FIELD", .literal " does not match the required pattern"]

theorem sourceOf_messageParts (rule : Builtin) :
    sourceOf rule.messageParts = rule.defaultMessage := by
  cases rule <;> rfl

theorem spaced_messageParts (rule : Builtin) : Spaced rule.messageParts := by
  have space {rest : List Char} (shut : '{' ∉ ' ' :: rest) : Divider (String.ofList (' ' :: rest)) :=
    divider_ofList shut (by decide) (by decide)
  cases rule with
  | between => exact ⟨space (by decide), space (by decide), trivial⟩
  | required | min | max | oneOf | noneOf | email | url | uuid | alpha | alphaNum | numeric
  | pattern => exact ⟨space (by decide), trivial⟩

theorem braceless_messageParts (rule : Builtin) :
    ∀ part ∈ rule.messageParts, Braceless part.inner := by
  have field : Braceless "FIELD" := braceless_ofList (by decide)
  have all : Braceless "PARAMS" := braceless_ofList (by decide)
  have first : Braceless "0" := braceless_ofList (by decide)
  have second : Braceless "1" := braceless_ofList (by decide)
  -- What remains of each list are its literals.
  cases rule <;> simp only [messageParts, List.forall_mem_cons, List.not_mem_nil, false_implies,
    implies_true, and_true, Part.inner, field, all, first, second, true_and]
  case between => exact ⟨braceless_ofList (by decide), braceless_ofList (by decide)⟩
  all_goals exact braceless_ofList (by decide)

theorem braceless_name (rule : Builtin) : Braceless rule.name := by
  cases rule <;> exact braceless_ofList (by decide)

/-- The parameters that a rule reads as numbers. A missing one reads as the empty text. -/
def numericTexts (params : List String) : Builtin → List String
  | .min | .max => [params[0]?.getD ""]
  | .between => [params[0]?.getD "", params[1]?.getD ""]
  | _ => []

def notNumber (text : String) : Bool := (Numeral.read? text.toList).isNone

/-- The first parameter that should be a finite number and is none. -/
def firstBad? (rule : Builtin) (params : List String) : Option String :=
  (rule.numericTexts params).find? notNumber

section Numbers

variable {params : List String} {text : String}

theorem numberParam_bad (rule : Builtin) {param : Option String}
    (bad : notNumber (param.getD "") = true) :
    numberParam rule param = .error (.notNumeric rule.name (param.getD "")) := by
  rw [notNumber, Option.isNone_iff_eq_none] at bad
  rw [numberParam, bad]

theorem numberParam_good (rule : Builtin) {param : Option String}
    (good : notNumber (param.getD "") = false) : ∃ limit, numberParam rule param = .ok limit := by
  rw [notNumber, Option.isNone_eq_false_iff] at good
  obtain ⟨limit, read⟩ := Option.isSome_iff_exists.mp good
  exact ⟨limit, by rw [numberParam, read]⟩

theorem bound_bad (rule : Builtin) (holds : Binary64 → Binary64 → Bool) (value : Json)
    (bad : [params[0]?.getD ""].find? notNumber = some text) :
    bound rule holds value params = .error (.notNumeric rule.name text) := by
  obtain rfl : text = params[0]?.getD "" := List.mem_singleton.mp (List.mem_of_find?_eq_some bad)
  rw [bound, numberParam_bad rule (List.find?_some bad)]
  rfl

theorem within_bad (value : Json)
    (bad : [params[0]?.getD "", params[1]?.getD ""].find? notNumber = some text) :
    within value params = .error (.notNumeric "between" text) := by
  rw [within]
  cases low : notNumber (params[0]?.getD "") with
  | true =>
    rw [List.find?_cons_of_pos low] at bad
    obtain rfl := Option.some.inj bad
    rw [numberParam_bad _ low]
    rfl
  | false =>
    rw [List.find?_cons_of_neg (by rw [low]; exact Bool.false_ne_true)] at bad
    obtain rfl : text = params[1]?.getD "" := List.mem_singleton.mp (List.mem_of_find?_eq_some bad)
    obtain ⟨limit, read⟩ := numberParam_good .between low
    rw [read, numberParam_bad _ (List.find?_some bad)]
    rfl

/-- Parameters are looked at before the value, and the first that is no number is the one
that the rule complains about. -/
theorem evaluate_firstBad {rule : Builtin} (bad : rule.firstBad? params = some text) (value : Json) :
    rule.evaluate value params = .invalid (.notNumeric rule.name text) := by
  cases rule with
  | min => exact congrArg Verdict.ofExcept (bound_bad .min _ value bad)
  | max => exact congrArg Verdict.ofExcept (bound_bad .max _ value bad)
  | between => exact congrArg Verdict.ofExcept (within_bad value bad)
  | required | oneOf | noneOf | email | url | uuid | alpha | alphaNum | numeric | pattern =>
    contradiction

end Numbers

/-- What a rule says about a parameter that is no number. -/
def numberParts (rule : Builtin) (param : String) : List Part :=
  [.group "FIELD", .literal (": rule '" ++ rule.name ++ "' expects a numeric parameter, got '"),
    .literal param, .literal "'"]

theorem join_numberParts (f : Part → String) (rule : Builtin) (param : String) :
    String.join ((rule.numberParts param).map f) =
      f (.group "FIELD") ++ f (.literal (": rule '" ++ rule.name ++
        "' expects a numeric parameter, got '")) ++ f (.literal param) ++ f (.literal "'") := by
  simp only [numberParts, List.map_cons, List.map_nil, String.join_cons, String.join_nil,
    String.append_empty, String.append_assoc]

theorem sourceOf_numberParts (rule : Builtin) (param : String) :
    sourceOf (rule.numberParts param) = (Misuse.notNumeric rule.name param).template := by
  have opening : placeholder "FIELD" ++ ": rule '" = "\x7bFIELD\x7d: rule '" := by decide
  rw [sourceOf, join_numberParts]
  simp only [Part.source, ← String.append_assoc, opening]
  rfl

theorem spaced_numberParts (rule : Builtin) (param : String) : Spaced (rule.numberParts param) := by
  have start : Divider ": rule '" := divider_ofList (by decide) (by decide) (by decide)
  have stop : Divider "'" := divider_ofList (by decide) (by decide) (by decide)
  have words : Braceless "' expects a numeric parameter, got '" := braceless_ofList (by decide)
  exact ⟨(start.append rule.braceless_name.1).append words.1, stop, trivial⟩

end Builtin

namespace Run

variable {registry : Registry} {policy : Policy} {field : String} {rule : Builtin}

section Shown

variable (unshadowed : registry.resolve? rule.name = some (.builtin rule))
include unshadowed

/-- A rule that fails shows its template, each placeholder rendered on its own. -/
theorem failure?_fail (plain : policy.template? field rule.name = none) {value : Json}
    {params : List String} (failed : rule.evaluate value params = .fail) :
    failure? registry policy field value ⟨rule.name, params⟩ =
      some (String.join (rule.messageParts.map fun part => render field params part.source)) := by
  have fails : rule.evaluate value params ≠ .pass := by
    rw [failed]
    exact Verdict.noConfusion
  have message : failure? registry policy field value ⟨rule.name, params⟩ =
      some (rule.factory ⟨field, value, params, policy.template? field rule.name⟩).message :=
    failure?_builtin unshadowed fails
  rw [message, Builtin.message_factory_fail _ failed, plain, Option.getD_none, RuleArgs.render,
    ← rule.sourceOf_messageParts, render_spaced rule.spaced_messageParts]

/-- A rule that complains about a parameter shows it rendered, whatever template is given. -/
theorem failure?_firstBad {params : List String} {param : String}
    (bad : rule.firstBad? params = some param) (value : Json) :
    failure? registry policy field value ⟨rule.name, params⟩ =
      some (render field params (placeholder "FIELD") ++ ": rule '" ++ rule.name ++
        "' expects a numeric parameter, got '" ++ render field params param ++ "'") := by
  have message : failure? registry policy field value ⟨rule.name, params⟩ =
      some (render field params (Misuse.notNumeric rule.name param).template) :=
    failure?_invalid unshadowed (Builtin.evaluate_firstBad bad value)
  obtain ⟨before, after, _⟩ := rule.spaced_numberParts param
  rw [message, ← rule.sourceOf_numberParts, render_spaced (rule.spaced_numberParts param),
    Builtin.join_numberParts]
  simp only [Part.source, before.render, after.render]
  simp only [String.append_assoc]

end Shown

/-- What a built-in rule without a template given for it says. A rule that fails shows its
own template with every placeholder rendered on its own, and one with a parameter that is
no number quotes that parameter rendered. Both show the field and the parameters as they
are if no placeholder that is replaced later stands in them. -/
theorem builtin_messages (unshadowed : registry.resolve? rule.name = some (.builtin rule))
    (plain : policy.template? field rule.name = none) (value : Json) (params : List String) :
    sourceOf rule.messageParts = rule.defaultMessage ∧
      (rule.evaluate value params = .fail →
        failure? registry policy field value ⟨rule.name, params⟩ =
            some (String.join (rule.messageParts.map fun part => render field params part.source)) ∧
          (¬ Occurs (placeholder "PARAMS") field → Unindexed params.length field →
            (∀ param ∈ params, Unindexed params.length param) →
            failure? registry policy field value ⟨rule.name, params⟩ =
              some (fillAll field params rule.messageParts))) ∧
      ∀ param, rule.firstBad? params = some param →
        failure? registry policy field value ⟨rule.name, params⟩ =
            some (render field params (placeholder "FIELD") ++ ": rule '" ++ rule.name ++
              "' expects a numeric parameter, got '" ++ render field params param ++ "'") ∧
          (¬ Occurs (placeholder "PARAMS") field → Unindexed params.length field →
            Inert params.length param →
            failure? registry policy field value ⟨rule.name, params⟩ =
              some (field ++ ": rule '" ++ rule.name ++
                "' expects a numeric parameter, got '" ++ param ++ "'")) := by
  refine ⟨rule.sourceOf_messageParts, ?_, ?_⟩
  · intro failed
    have shown := failure?_fail unshadowed plain failed
    refine ⟨shown, fun unlisted unindexed unindexed' => shown.trans (congrArg some ?_)⟩
    refine congrArg String.join (List.map_congr_left fun part member => ?_)
    exact render_source unlisted unindexed unindexed' part (rule.braceless_messageParts part member)
  · intro param bad
    have shown : failure? registry policy field value ⟨rule.name, params⟩ = _ :=
      failure?_firstBad unshadowed bad value
    refine ⟨shown, fun unlisted unindexed inert => ?_⟩
    rw [shown, render_field, Text.replace_of_absent unlisted, unindexed.renderParams (by omega),
      inert.render]

theorem builtin_messages_age :
    failure? Registry.empty ages.policy "age" (.integer 3) ⟨"between", ["18", "99"]⟩ =
        some "age must be between 18 and 99" ∧
      failure? Registry.empty ages.policy "age" (.integer 3) ⟨"between", ["1", "many"]⟩ =
        some "age: rule 'between' expects a numeric parameter, got 'many'" := by
  have unshadowed : Registry.empty.resolve? Builtin.between.name = some (.builtin .between) := rfl
  have plain : ages.policy.template? "age" Builtin.between.name = none := rfl
  have free {text : List Char} (shut : '{' ∉ text) : Inert 2 (String.ofList text) :=
    Template.inert_of_no_opener (by rwa [String.toList_ofList]) 2
  have field : Inert 2 "age" := free (by decide)
  obtain ⟨fails, bad⟩ : Builtin.between.evaluate (.integer 3) ["18", "99"] = .fail ∧
      Builtin.between.firstBad? ["1", "many"] = some "many" := by decide
  constructor
  · obtain ⟨_, failed, _⟩ := builtin_messages unshadowed plain (.integer 3) ["18", "99"]
    obtain ⟨_, verbatim⟩ := failed fails
    have params : ∀ param ∈ ["18", "99"], Unindexed 2 param := by
      rw [List.forall_mem_cons, List.forall_mem_singleton]
      exact ⟨(free (by decide)).indices, (free (by decide)).indices⟩
    exact (verbatim field.params field.indices params).trans rfl
  · obtain ⟨_, _, complains⟩ := builtin_messages unshadowed plain (.integer 3) ["1", "many"]
    obtain ⟨_, verbatim⟩ := complains "many" bad
    exact verbatim field.params field.indices (free (by decide))

/-- A parameter that is put in is looked at again, whether it is one of a list or the one
that the rule complains about. -/
theorem builtin_messages_expanded :
    let size := failure? Registry.empty ages.policy "size" (.string "z") ⟨"in", ["\x7b1\x7d", "b"]⟩
    let age := failure? Registry.empty ages.policy "age" (.integer 3) ⟨"min", ["\x7bFIELD\x7d"]⟩
    Builtin.oneOf.evaluate (.string "z") ["\x7b1\x7d", "b"] = .fail ∧
      size = some "size must be one of: b, b" ∧
      size ≠ some (fillAll "size" ["\x7b1\x7d", "b"] Builtin.oneOf.messageParts) ∧
      Builtin.min.firstBad? ["\x7bFIELD\x7d"] = some "\x7bFIELD\x7d" ∧
      age = some "age: rule 'min' expects a numeric parameter, got 'age'" ∧
      age ≠ some "age: rule 'min' expects a numeric parameter, got '\x7bFIELD\x7d'" := by
  intro size age
  have unshadowed : Registry.empty.resolve? Builtin.oneOf.name = some (.builtin .oneOf) := rfl
  have unshadowed' : Registry.empty.resolve? Builtin.min.name = some (.builtin .min) := rfl
  have failed : Builtin.oneOf.evaluate (.string "z") ["\x7b1\x7d", "b"] = .fail := by decide
  have bad : Builtin.min.firstBad? ["\x7bFIELD\x7d"] = some "\x7bFIELD\x7d" := by decide
  have listed : size = some "size must be one of: b, b" := by
    refine (failure?_fail unshadowed rfl failed).trans ?_
    decide
  have quoted : age = some "age: rule 'min' expects a numeric parameter, got 'age'" := by
    refine (failure?_firstBad unshadowed' bad _).trans ?_
    decide
  refine ⟨failed, listed, ?_, bad, quoted, ?_⟩
  · rw [listed]
    decide
  · rw [quoted]
    decide

end Run

end FieldRules
