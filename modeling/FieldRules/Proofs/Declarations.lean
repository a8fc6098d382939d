import Mathlib.Data.List.Nodup
import FieldRules.Proofs.DocumentBuild
import FieldRules.Proofs.Fieldwise
import FieldRules.Proofs.Pieces

/-! Schemas told by the calls that built them. A name is a field from its first
declaration on and keeps that place, and the string declared last for it is the one
that counts. So a schema is built again from the map of its own declarations. -/
namespace FieldRules

theorem nodup_map_concat {α β : Type} {f : α → β} {before : List α} {last : α} :
    ((before ++ [last]).map f).Nodup ↔ f last ∉ before.map f ∧ (before.map f).Nodup := by
  rw [List.map_append, List.map_singleton, ← List.concat_eq_append, List.nodup_concat]

namespace Ordered

/-- Entries with distinct keys are a map as they stand. -/
theorem ofList_of_distinct {α β : Type} [DecidableEq α] {entries : List (α × β)}
    (distinct : (keys entries).Nodup) : ofList entries = entries := by
  induction entries using List.reverseRecOn with
  | nil => rfl
  | append_singleton entries entry ih =>
    obtain ⟨fresh, before⟩ := nodup_map_concat.mp distinct
    have put_last : ofList (entries ++ [entry]) = put entry.1 entry.2 (ofList entries) :=
      List.foldl_append
    rw [put_last, ih before]
    simpa [put] using put_append fresh entry.2 []

end Ordered

theorem FieldDecl.rules_ofSource (name source : String) :
    (ofSource name source).rules =
      if source.toList.all Text.isBlank = true then [] else RuleSpec.parseAll source := by
  have blank : Text.trim source = "" ↔ source.toList.all Text.isBlank = true := by
    rw [Text.trim_eq_empty_iff, List.all_eq_true]
  simp only [ofSource, blank]

namespace Schema

variable {schema : Schema} {declarations : List (String × String)}

def sources (declarations : List (String × String)) (name : String) : List String :=
  (declarations.filter fun entry => entry.1 = name).map Prod.snd

theorem get?_place (decl : FieldDecl) (fields : List FieldDecl) (name : String) :
    get? ⟨place decl fields⟩ name = if decl.name = name then some decl else get? ⟨fields⟩ name := by
  induction fields with
  | nil => by_cases here : decl.name = name <;> simp [get?, place, here]
  | cons other rest ih =>
    simp only [get?] at ih ⊢
    by_cases same : other.name = decl.name
    · by_cases here : decl.name = name <;> simp [place, same, here]
    · by_cases here : other.name = name
      · have apart : decl.name ≠ name := fun own => same (here.trans own.symm)
        simp only [place, if_neg same, if_neg apart, List.find?_cons, beq_iff_eq.mpr here]
      · simp only [place, if_neg same, List.find?_cons, beq_eq_false_iff_ne.mpr here, ih]

theorem get?_declare (schema : Schema) (name source other : String) :
    (schema.declare name source).get? other =
      if name = other then some (FieldDecl.ofSource name source) else schema.get? other :=
  get?_place (FieldDecl.ofSource name source) schema.fields other

theorem ofDeclarations_concat (declarations : List (String × String)) (entry : String × String) :
    ofDeclarations (declarations ++ [entry]) =
      (ofDeclarations declarations).declare entry.1 entry.2 :=
  List.foldl_append

theorem sources_concat (declarations : List (String × String)) (entry : String × String)
    (name : String) :
    sources (declarations ++ [entry]) name =
      if entry.1 = name then sources declarations name ++ [entry.2]
      else sources declarations name := by
  by_cases here : entry.1 = name <;> simp [sources, here]

theorem sources_eq_nil_iff (declarations : List (String × String)) (name : String) :
    sources declarations name = [] ↔ name ∉ declarations.map Prod.fst := by
  rw [sources, List.map_eq_nil_iff, List.filter_eq_nil_iff]
  aesop

/-- The names of a schema are those declared, each at the place of its first declaration. -/
theorem names_ofDeclarations (declarations : List (String × String)) :
    (ofDeclarations declarations).fields.map FieldDecl.name =
      (declarations.map Prod.fst).eraseDups := by
  induction declarations using List.reverseRecOn with
  | nil => rfl
  | append_singleton declarations entry ih =>
    rw [ofDeclarations_concat, declare, map_name_place, ih, List.map_append, List.map_singleton,
      Messages.eraseDups_concat]
    rfl

/-- The string declared last for a name makes its field. -/
theorem get?_ofDeclarations (declarations : List (String × String)) (name : String) :
    (ofDeclarations declarations).get? name =
      (sources declarations name).getLast?.map (FieldDecl.ofSource name) := by
  induction declarations using List.reverseRecOn with
  | nil => rfl
  | append_singleton declarations entry ih =>
    rw [ofDeclarations_concat, get?_declare, ih, sources_concat]
    by_cases here : entry.1 = name
    · simp [here]
    · simp [here]

theorem Distinct.get?_eq_some_iff (distinct : schema.Distinct) (name : String)
    (field : FieldDecl) :
    schema.get? name = some field ↔ field ∈ schema.fields ∧ field.name = name := by
  constructor
  · intro found
    exact ⟨List.mem_of_find?_eq_some found, by simpa using List.find?_some found⟩
  · rintro ⟨member, rfl⟩
    obtain ⟨other, found⟩ : ∃ other, schema.get? field.name = some other := by
      rw [← Option.isSome_iff_exists, get?, List.find?_isSome]
      exact ⟨field, member, beq_self_eq_true _⟩
    have same : other.name = field.name := by simpa using List.find?_some found
    rw [found, List.inj_on_of_nodup_map distinct (List.mem_of_find?_eq_some found) member same]

theorem isSome_get?_ofDeclarations (declarations : List (String × String)) (name : String) :
    ((ofDeclarations declarations).get? name).isSome = true ↔
      name ∈ declarations.map Prod.fst := by
  rw [get?_ofDeclarations, Option.isSome_map, Option.isSome_iff_ne_none, ne_eq,
    List.getLast?_eq_none_iff, sources_eq_nil_iff, not_not]

theorem eq_ofSource_of_mem {field : FieldDecl}
    (member : field ∈ (ofDeclarations declarations).fields) :
    (sources declarations field.name).getLast? = some field.source ∧
      field = FieldDecl.ofSource field.name field.source := by
  have found : (ofDeclarations declarations).get? field.name = some field :=
    ((distinct_ofDeclarations declarations).get?_eq_some_iff _ _).mpr ⟨member, rfl⟩
  rw [get?_ofDeclarations, Option.map_eq_some_iff] at found
  obtain ⟨source, last, made⟩ := found
  obtain rfl : source = field.source := congrArg FieldDecl.source made
  exact ⟨last, made.symm⟩

theorem place_of_fresh {decl : FieldDecl} {fields : List FieldDecl}
    (fresh : decl.name ∉ fields.map FieldDecl.name) : place decl fields = fields ++ [decl] := by
  induction fields with
  | nil => rfl
  | cons other rest ih =>
    rw [List.map_cons, List.mem_cons, not_or] at fresh
    rw [place, if_neg (Ne.symm fresh.1), ih fresh.2, List.cons_append]

/-- Fields made from strings, no two of one name, are declared in order by name and string. -/
theorem ofDeclarations_pairs {fields : List FieldDecl}
    (distinct : (fields.map FieldDecl.name).Nodup)
    (made : ∀ field ∈ fields, field = FieldDecl.ofSource field.name field.source) :
    ofDeclarations (fields.map fun field => (field.name, field.source)) = ⟨fields⟩ := by
  induction fields using List.reverseRecOn with
  | nil => rfl
  | append_singleton fields field ih =>
    obtain ⟨fresh, before⟩ := nodup_map_concat.mp distinct
    have earlier := ih before fun other member => made other (List.mem_append_left _ member)
    have last := made field (List.mem_append_right _ (List.mem_singleton_self _))
    rw [List.map_append, List.map_singleton, ofDeclarations_concat, earlier, declare, ← last,
      place_of_fresh fresh]

theorem Distinct.declarations_eq (distinct : schema.Distinct) :
    schema.declarations = schema.fields.map fun field => (field.name, field.source) := by
  rw [Schema.declarations]
  apply Ordered.ofList_of_distinct
  rw [Ordered.keys, List.map_map]
  exact distinct

theorem isDeclaration_iff (name : String) (value : Json) :
    isDeclaration name value = true ↔
      (∃ source, value = .string source) ∧ ¬ ['_', '_'] <+: name.toList := by
  cases value with
  | string source =>
    rw [isDeclaration, isReserved, Bool.not_eq_true', ← List.isPrefixOf_iff_prefix,
      Bool.not_eq_true, and_iff_right ⟨source, rfl⟩]
  | _ => simp [isDeclaration]

theorem map_declarationsAmong (attributes : List (String × Json)) :
    (declarationsAmong attributes).map (fun entry => (entry.1, Json.string entry.2)) =
      attributes.filter fun entry => isDeclaration entry.1 entry.2 := by
  induction attributes with
  | nil => rfl
  | cons entry rest ih =>
    obtain ⟨name, value⟩ := entry
    rw [List.filter_cons, ← ih]
    cases value with
    | string source =>
      cases reserved : isReserved name <;> simp [declarationsAmong, isDeclaration, reserved]
    | _ => simp [declarationsAmong, isDeclaration]

theorem mem_names_declarationsAmong (attributes : List (String × Json)) (name : String) :
    name ∈ (declarationsAmong attributes).map Prod.fst ↔
      ∃ value, (name, value) ∈ attributes ∧ isDeclaration name value = true := by
  have names : (declarationsAmong attributes).map Prod.fst =
      (attributes.filter fun entry => isDeclaration entry.1 entry.2).map Prod.fst := by
    rw [← map_declarationsAmong, List.map_map]
    rfl
  rw [names, List.mem_map]
  constructor
  · rintro ⟨⟨_, value⟩, member, rfl⟩
    exact ⟨value, List.mem_filter.mp member⟩
  · rintro ⟨value, member⟩
    exact ⟨(name, value), List.mem_filter.mpr member, rfl⟩

/-- Schemas and the calls that build them, for all lists of declarations and of attributes. The
fields are the names declared, in the order of their first declarations; each has the string
declared last for it and the rules read from that string, none if it is blank. A name is found
just if it was declared. The map of a schema's declarations leaves out no field, and to declare
its entries in order gives the schema again. Discovery declares the attributes that are
declarations: the strings under names that do not start with two underscores. -/
theorem built_by_declarations :
    (∀ declarations : List (String × String),
      let schema := ofDeclarations declarations
      schema.fields.map FieldDecl.name = (declarations.map Prod.fst).eraseDups ∧
      (∀ field ∈ schema.fields,
        (sources declarations field.name).getLast? = some field.source ∧
        field.rules = if field.source.toList.all Text.isBlank = true then []
          else RuleSpec.parseAll field.source) ∧
      (∀ name field, schema.get? name = some field ↔
        field ∈ schema.fields ∧ field.name = name) ∧
      (∀ name, (schema.get? name).isSome = true ↔ name ∈ declarations.map Prod.fst) ∧
      schema.declarations.length = schema.fields.length ∧
      ofDeclarations schema.declarations = schema) ∧
    (∀ attributes : List (String × Json),
      (declarationsAmong attributes).map (fun entry => (entry.1, Json.string entry.2)) =
        (attributes.filter fun entry => isDeclaration entry.1 entry.2) ∧
      discover attributes = ofDeclarations (declarationsAmong attributes) ∧
      ∀ name, ((discover attributes).get? name).isSome = true ↔
        ∃ value, (name, value) ∈ attributes ∧ isDeclaration name value = true) ∧
    ∀ name value, isDeclaration name value = true ↔
      (∃ source, value = Json.string source) ∧ ¬ ['_', '_'] <+: name.toList := by
  refine ⟨?_, ?_, isDeclaration_iff⟩
  · intro declarations
    have distinct := distinct_ofDeclarations declarations
    refine ⟨names_ofDeclarations declarations, ?_, distinct.get?_eq_some_iff,
      isSome_get?_ofDeclarations declarations, ?_, ?_⟩
    · intro field member
      obtain ⟨last, made⟩ := eq_ofSource_of_mem member
      exact ⟨last, (congrArg FieldDecl.rules made).trans (FieldDecl.rules_ofSource _ _)⟩
    · rw [distinct.declarations_eq, List.length_map]
    · rw [distinct.declarations_eq]
      exact ofDeclarations_pairs distinct fun field member => (eq_ofSource_of_mem member).2
  · intro attributes
    refine ⟨map_declarationsAmong attributes, discover_eq attributes, fun name => ?_⟩
    rw [discover_eq, isSome_get?_ofDeclarations, mem_names_declarationsAmong]

end Schema

end FieldRules
