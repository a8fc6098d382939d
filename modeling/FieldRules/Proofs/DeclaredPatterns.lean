import FieldRules.Rule.Builtin
import FieldRules.Proofs.Declarations
import FieldRules.Proofs.RuleStrings
import FieldRules.Proofs.SpecText

/-! Patterns written into rule strings. A pattern is cut at bars, colons and commas like
any parameter list, and only the commas come back when the parameters are joined. What
the rule compiles is the pattern as declared just for the patterns that the cutting and
the trimming leave alone. -/
namespace FieldRules

namespace Text

variable {separator : Char} {between : String}

theorem map_toList_split (separator : Char) (text : String) :
    (split separator text).map String.toList = splitChars separator text.toList := by
  rw [split, List.map_map]
  exact (List.map_congr_left fun _ _ => String.toList_ofList).trans (List.map_id _)

theorem join_split (mark : between.toList = [separator]) (text : String) :
    join between (split separator text) = text := by
  rw [join, map_toList_split, mark, ← String.toList_inj, String.toList_ofList]
  exact joinChars_splitChars separator text.toList

theorem split_join (mark : between.toList = [separator]) {pieces : List String}
    (some : pieces ≠ []) (free : ∀ piece ∈ pieces, separator ∉ piece.toList) :
    split separator (join between pieces) = pieces := by
  apply List.map_injective_iff.mpr fun _ _ => String.toList_inj.mp
  rw [map_toList_split, join, String.toList_ofList, mark]
  apply splitChars_joinChars
  · rwa [ne_eq, List.map_eq_nil_iff]
  · intro chars listed
    obtain ⟨piece, member, rfl⟩ := List.mem_map.mp listed
    exact free piece member

theorem splitChars_self {text : List Char} (free : separator ∉ text) :
    splitChars separator text = [text] := by
  have single : [text] ≠ [] := List.cons_ne_nil _ _
  have cut := splitChars_joinChars single (List.forall_mem_singleton.mpr free)
  exact cut

end Text

namespace RuleSpec

variable {name source : String} {params : List String}

/-- A source without bars and colons is read as the parameters between its commas. -/
theorem parseAll_named (named : Trimmed name) (bar : '|' ∉ name.toList) (colon : ':' ∉ name.toList)
    (bar' : '|' ∉ source.toList) (colon' : ':' ∉ source.toList)
    (trimmed : ∀ piece ∈ Text.split ',' source, Trimmed piece) :
    parseAll (name ++ ":" ++ source) = [⟨name, Text.split ',' source⟩] := by
  have chars : (name ++ ":" ++ source).toList = name.toList ++ ':' :: source.toList := by simp
  have one : Text.splitChars '|' (name ++ ":" ++ source).toList =
      [name.toList ++ ':' :: source.toList] := by
    rw [chars]
    apply Text.splitChars_self
    simp [bar, bar']
  have two : Text.splitChars ':' (name.toList ++ ':' :: source.toList) =
      [name.toList, source.toList] := by
    rw [Text.splitChars_append_cons, Text.splitChars_self colon, Text.splitChars_self colon']
    rfl
  -- trimming the source as a whole takes nothing off, because it takes nothing off its pieces
  have tight : Text.Tight source.toList := by
    rw [← Text.joinChars_splitChars ',' source.toList]
    apply Text.tight_joinChars (by decide)
    intro piece cut
    have listed : String.ofList piece ∈ Text.split ',' source := List.mem_map_of_mem cut
    simpa using (trimmed_iff _).mp (trimmed _ listed)
  have kept : ∀ piece ∈ Text.splitChars ',' source.toList,
      String.ofList (Text.trimChars piece) = String.ofList piece := by
    intro piece cut
    have listed : String.ofList piece ∈ Text.split ',' source := List.mem_map_of_mem cut
    simpa [Trimmed, Text.trim] using trimmed _ listed
  rw [parseAll, one, List.map_singleton, parseChars, two]
  simp only [List.map_cons, List.map_nil, List.headD_cons, List.drop_succ_cons, List.drop_zero,
    List.flatten_cons, List.flatten_nil, List.append_nil]
  rw [Text.trimChars_eq_self_iff.mpr ((trimmed_iff name).mp named),
    Text.trimChars_eq_self_iff.mpr tight, String.ofList_toList, List.map_congr_left kept]
  rfl

/-- Parameters that were read have no bars and no colons, and are the pieces between the
commas of their join. -/
theorem params_of_read {rules : String} (read : parseAll rules = [⟨name, params⟩]) :
    '|' ∉ (Text.join "," params).toList ∧ ':' ∉ (Text.join "," params).toList ∧
      Text.split ',' (Text.join "," params) = params ∧ ∀ param ∈ params, Trimmed param := by
  have member : (⟨name, params⟩ : RuleSpec) ∈ parseAll rules := read ▸ List.mem_singleton_self _
  obtain ⟨⟨_, _, some, each⟩, _, barless⟩ := mem_parseAll member
  refine ⟨Text.not_mem_join (by decide) barless,
    Text.not_mem_join (by decide) fun param listed => (each param listed).2.2,
    Text.split_join rfl some fun param listed => (each param listed).2.1,
    fun param listed => (each param listed).1⟩

end RuleSpec

namespace Schema

/-- A pattern is declared for a field in a rule string of its own, whatever the schema. The field
has the pattern rule alone and that rule compiles the pattern as declared, just if the
pattern has no bar and no colon and white space neither before nor after any of its pieces
between commas. -/
theorem declared_pattern_survives (schema : Schema) (field source : String) :
    (∃ params, (schema.declare field ("regex:" ++ source)).get? field =
        some ⟨field, "regex:" ++ source, [⟨"regex", params⟩]⟩ ∧
      Builtin.patternSource params = source) ↔
    '|' ∉ source.toList ∧ ':' ∉ source.toList ∧
      ∀ piece ∈ Text.split ',' source, Text.trim piece = piece := by
  have shown : Text.trim ("regex:" ++ source) ≠ "" := by
    rw [ne_eq, Text.trim_eq_empty_iff]
    intro blank
    exact absurd (blank 'r' (by simp)) (by decide)
  rw [get?_declare, if_pos rfl, FieldDecl.ofSource, if_neg shown]
  constructor
  · rintro ⟨params, declared, rfl⟩
    have read := congrArg FieldDecl.rules (Option.some.inj declared)
    obtain ⟨bar, colon, pieces, trimmed⟩ := RuleSpec.params_of_read read
    refine ⟨bar, colon, ?_⟩
    rw [Builtin.patternSource, pieces]
    exact trimmed
  · rintro ⟨bar, colon, trimmed⟩
    have named : RuleSpec.Trimmed "regex" := by decide
    have read := RuleSpec.parseAll_named named (by decide) (by decide) bar colon trimmed
    have text : "regex" ++ ":" ++ source = "regex:" ++ source :=
      congrArg (· ++ source) (by decide)
    exact ⟨Text.split ',' source, by rw [← text, read], Text.join_split rfl source⟩

end Schema

end FieldRules
