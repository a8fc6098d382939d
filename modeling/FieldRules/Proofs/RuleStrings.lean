import FieldRules.Rule.Spec
import FieldRules.Proofs.SpecText

/-! What reading a rule string keeps. Cutting drops separators and trimming drops blanks,
and nothing else is dropped: the commas between parameters come back where parameters are
joined, so of a segment only its colons and its blanks are lost. -/
namespace FieldRules.Text

variable {separator : Char}

theorem splitChars_append_cons (separator : Char) (text more : List Char) :
    splitChars separator (text ++ separator :: more) =
      splitChars separator text ++ splitChars separator more := by
  simp only [splitChars_eq_splitOn]
  exact List.splitOn_append_cons_self text more

theorem splitChars_cons_self (separator : Char) (rest : List Char) :
    splitChars separator (separator :: rest) = [] :: splitChars separator rest := by
  rw [splitChars, if_pos rfl]

/-- A character that is no separator goes to the front of the first piece. -/
theorem splitChars_cons_of_ne {c : Char} (other : c ≠ separator) (rest : List Char) :
    ∃ piece more, splitChars separator rest = piece :: more ∧
      splitChars separator (c :: rest) = (c :: piece) :: more := by
  obtain ⟨piece, more, cut⟩ := List.exists_cons_of_ne_nil (splitChars_ne_nil separator rest)
  exact ⟨piece, more, cut, by rw [splitChars, if_neg other, cut]⟩

/-- A text has one piece more than it has separators. -/
theorem length_splitChars (separator : Char) (text : List Char) :
    (splitChars separator text).length = text.count separator + 1 := by
  induction text with
  | nil => rfl
  | cons c rest ih =>
    by_cases same : c = separator
    · rw [same, splitChars_cons_self, List.length_cons, ih, List.count_cons_self]
    · obtain ⟨piece, more, cut, cut'⟩ := splitChars_cons_of_ne same rest
      rw [cut', List.count_cons_of_ne same, ← ih, cut, List.length_cons, List.length_cons]

/-- What stands before the first separator; the whole text if there is none. -/
def before (separator : Char) (text : List Char) : List Char :=
  text.takeWhile (· ≠ separator)

/-- What stands after the first separator; nothing if there is none. -/
def after (separator : Char) (text : List Char) : List Char :=
  (text.dropWhile (· ≠ separator)).drop 1

theorem headD_splitChars (separator : Char) (text : List Char) :
    (splitChars separator text).headD [] = before separator text := by
  induction text with
  | nil => rfl
  | cons c rest ih =>
    by_cases same : c = separator
    · rw [same, splitChars_cons_self, before, List.takeWhile_cons_of_neg (by simp)]
      rfl
    · obtain ⟨piece, more, cut, cut'⟩ := splitChars_cons_of_ne same rest
      rw [cut] at ih
      rw [cut', before, List.takeWhile_cons_of_pos (by simp [same]), ← before, ← ih]
      rfl

/-- The pieces put together are the text without its separators. -/
theorem flatten_splitChars (separator : Char) (text : List Char) :
    (splitChars separator text).flatten = text.filter (· ≠ separator) := by
  induction text with
  | nil => rfl
  | cons c rest ih =>
    by_cases same : c = separator
    · rw [same, splitChars_cons_self, List.filter_cons_of_neg (by simp), ← ih]
      rfl
    · obtain ⟨piece, more, cut, cut'⟩ := splitChars_cons_of_ne same rest
      rw [cut', List.filter_cons_of_pos (by simp [same]), ← ih, cut]
      rfl

/-- The pieces after the first come from what stands after the first separator. -/
theorem flatten_drop_splitChars (separator : Char) (text : List Char) :
    ((splitChars separator text).drop 1).flatten =
      (after separator text).filter (· ≠ separator) := by
  induction text with
  | nil => rfl
  | cons c rest ih =>
    by_cases same : c = separator
    · rw [same, splitChars_cons_self, after, List.dropWhile_cons_of_neg (by simp)]
      exact flatten_splitChars separator rest
    · obtain ⟨piece, more, cut, cut'⟩ := splitChars_cons_of_ne same rest
      rw [cut', after, List.dropWhile_cons_of_pos (by simp [same]), ← after, ← ih, cut]
      rfl

def marks (text : List Char) : List Char := text.filter fun c => !isBlank c

theorem marks_append (text more : List Char) : marks (text ++ more) = marks text ++ marks more :=
  List.filter_append ..

theorem marks_dropWhile (text : List Char) : marks (text.dropWhile isBlank) = marks text := by
  induction text with
  | nil => rfl
  | cons c rest ih =>
    cases blank : isBlank c with
    | true => simpa [marks, blank] using ih
    | false => rw [List.dropWhile_cons_of_neg (by simp [blank])]

theorem marks_trimChars (text : List Char) : marks (trimChars text) = marks text := by
  have reversed : ∀ part : List Char, marks part.reverse = (marks part).reverse :=
    fun part => List.filter_reverse ..
  rw [trimChars, reversed, marks_dropWhile, reversed, marks_dropWhile, List.reverse_reverse]

theorem marks_flatten_trimChars (pieces : List (List Char)) :
    marks (pieces.map trimChars).flatten = marks pieces.flatten := by
  induction pieces with
  | nil => rfl
  | cons piece more ih =>
    rw [List.map_cons, List.flatten_cons, List.flatten_cons, marks_append, marks_append,
      marks_trimChars, ih]

theorem marks_joinChars_trimChars (between : List Char) (pieces : List (List Char)) :
    marks (joinChars between (pieces.map trimChars)) = marks (joinChars between pieces) := by
  fun_induction joinChars between pieces with
  | case1 => rfl
  | case2 piece => exact marks_trimChars piece
  | case3 piece next more ih =>
    rw [List.map_cons, List.map_cons, joinChars, ← List.map_cons]
    simp only [marks_append, marks_trimChars, ih]

theorem count_marks {c : Char} (shown : isBlank c = false) (text : List Char) :
    (marks text).count c = text.count c :=
  List.count_filter (by simp [shown])

end FieldRules.Text

namespace FieldRules.RuleSpec

/-- What the parameters of a segment are cut from: its pieces after the name, put together. -/
def paramSource (segment : List Char) : List Char := ((pieces segment).drop 1).flatten

theorem parseChars_eq (segment : List Char) :
    parseChars segment =
      ⟨String.ofList ((pieces segment).headD []),
        (Text.splitChars ',' (paramSource segment)).map fun param =>
          String.ofList (Text.trimChars param)⟩ := rfl

/-- The name is what stands before the first colon, trimmed. -/
theorem toList_name (segment : List Char) :
    (parseChars segment).name.toList = Text.trimChars (Text.before ':' segment) := by
  rw [parseChars_eq, String.toList_ofList, pieces, ← Text.headD_splitChars]
  cases Text.splitChars ':' segment <;> rfl

/-- Up to blanks, the parameters are cut from what stands after the first colon, without
the colons in there. -/
theorem marks_paramSource (segment : List Char) :
    Text.marks (paramSource segment) =
      Text.marks ((Text.after ':' segment).filter (· ≠ ':')) := by
  rw [paramSource, pieces, ← List.map_drop, Text.marks_flatten_trimChars,
    Text.flatten_drop_splitChars]

/-- There is one parameter more than there are commas after the first colon. -/
theorem length_params (segment : List Char) :
    (parseChars segment).params.length = (Text.after ':' segment).count ',' + 1 := by
  have commas : (paramSource segment).count ',' = (Text.after ':' segment).count ',' := by
    rw [← Text.count_marks (by decide), marks_paramSource, Text.count_marks (by decide)]
    exact List.count_filter (by decide)
  rw [parseChars_eq, List.length_map, Text.length_splitChars, commas]

theorem marks_joined_params (segment : List Char) :
    Text.marks (Text.join "," (parseChars segment).params).toList =
      Text.marks (paramSource segment) := by
  have parts : (parseChars segment).params.map String.toList =
      (Text.splitChars ',' (paramSource segment)).map Text.trimChars := by
    rw [parseChars_eq, List.map_map]
    exact List.map_congr_left fun _ _ => String.toList_ofList
  rw [Text.join, String.toList_ofList, parts, Text.marks_joinChars_trimChars]
  exact congrArg Text.marks (Text.joinChars_splitChars ',' _)

/-- A segment loses its colons and its blanks, and nothing else. -/
theorem marks_parseChars (segment : List Char) :
    Text.marks ((parseChars segment).name ++ Text.join "," (parseChars segment).params).toList =
      Text.marks (segment.filter (· ≠ ':')) := by
  have cut : segment.filter (· ≠ ':') =
      Text.before ':' segment ++ (Text.after ':' segment).filter (· ≠ ':') := by
    rw [← Text.flatten_splitChars, ← Text.flatten_drop_splitChars, ← Text.headD_splitChars]
    cases Text.splitChars ':' segment with
    | nil => rfl
    | cons first more => rfl
  rw [String.toList_append, Text.marks_append, toList_name, Text.marks_trimChars,
    marks_joined_params, marks_paramSource, cut, Text.marks_append]

/-- The segments of a rule string are the pieces between its bars. -/
theorem exists_segments (rules : String) :
    ∃ segments, Text.join "|" segments = rules ∧ (∀ segment ∈ segments, '|' ∉ segment.toList) ∧
      segments.length = rules.toList.count '|' + 1 ∧ parseAll rules = segments.map parse := by
  refine ⟨Text.split '|' rules, ?_, ?_, ?_, ?_⟩
  · have lists : (Text.split '|' rules).map String.toList = Text.splitChars '|' rules.toList := by
      rw [Text.split, List.map_map]
      exact (List.map_congr_left fun _ _ => String.toList_ofList).trans (List.map_id _)
    rw [Text.join, lists, ← String.toList_inj, String.toList_ofList]
    exact Text.joinChars_splitChars '|' rules.toList
  · intro segment member
    obtain ⟨piece, cut, rfl⟩ := List.mem_map.mp member
    rw [String.toList_ofList]
    exact Text.not_mem_of_mem_splitChars cut
  · rw [Text.split, List.length_map, Text.length_splitChars]
  · rw [Text.split, List.map_map, parseAll]
    exact List.map_congr_left fun _ _ => congrArg parseChars String.toList_ofList.symm

/-- What is kept of rule strings, for all texts. The specs of two rule strings with a bar
between them are those of the first and then those of the second, and a rule string has one
spec for each of its segments, in order. The name of a segment stands before its first
colon, its parameters between the commas after it, all of them trimmed and free of
delimiters; and but for colons and blanks, the name and the parameters between commas are
the segment again, each character in its place. -/
theorem reading_conserves :
    (∀ first second, parseAll (first ++ "|" ++ second) = parseAll first ++ parseAll second) ∧
    (∀ rules, ∃ segments, Text.join "|" segments = rules ∧
      (∀ segment ∈ segments, '|' ∉ segment.toList) ∧
      segments.length = rules.toList.count '|' + 1 ∧ parseAll rules = segments.map parse) ∧
    ∀ segment,
      let spec := parse segment
      spec.name.toList = Text.trimChars (Text.before ':' segment.toList) ∧
      Trimmed spec.name ∧ ':' ∉ spec.name.toList ∧
      spec.params.length = (Text.after ':' segment.toList).count ',' + 1 ∧
      (∀ param ∈ spec.params, Trimmed param ∧ ',' ∉ param.toList ∧ ':' ∉ param.toList) ∧
      Text.marks (spec.name ++ Text.join "," spec.params).toList =
        Text.marks (segment.toList.filter (· ≠ ':')) := by
  refine ⟨?_, exists_segments, ?_⟩
  · intro first second
    have cut : (first ++ "|" ++ second).toList = first.toList ++ '|' :: second.toList := by
      simp
    rw [parseAll, cut, Text.splitChars_append_cons, List.map_append]
    rfl
  · intro segment
    obtain ⟨trimmed, colonless, _, params⟩ := canonical_parseChars segment.toList
    exact ⟨toList_name segment.toList, trimmed, colonless, length_params segment.toList, params,
      marks_parseChars segment.toList⟩

end FieldRules.RuleSpec
