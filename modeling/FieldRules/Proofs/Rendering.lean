import FieldRules.Rule.Template
import FieldRules.Proofs.Pieces
import FieldRules.Proofs.Replacement

/-! Rendering of templates, which replaces one kind of placeholder after the other in the
text as it then is. Two things keep the replacements apart: a divider, across which no
placeholder can reach, and texts without braces, which cannot make a placeholder together
with their neighbours. On the latter, rendering is the simultaneous reading of a template. -/
namespace FieldRules.Template

open Text (Occurs Apart replace)

def Braceless (text : String) : Prop := '{' ∉ text.toList ∧ '}' ∉ text.toList

instance (text : String) : Decidable (Braceless text) := inferInstanceAs (Decidable (_ ∧ _))

theorem braceless_ofList {text : List Char} (plain : '{' ∉ text ∧ '}' ∉ text) :
    Braceless (String.ofList text) := by
  rw [Braceless, String.toList_ofList]
  exact plain

section Placeholders

variable {name other text value : String}

theorem toList_placeholder (name : String) :
    (placeholder name).toList = '{' :: (name.toList ++ ['}']) := by
  simp [placeholder]

theorem placeholder_ne_empty (name : String) : placeholder name ≠ "" := by
  intro empty
  have chars := congrArg String.toList empty
  rw [toList_placeholder] at chars
  contradiction

/-- The closing brace tells where a name ends. -/
theorem eq_of_closed {name other more : List Char} (closed : '}' ∉ name)
    (closed' : '}' ∉ other) (here : name ++ ['}'] <+: other ++ '}' :: more) : name = other := by
  induction name generalizing other with
  | nil =>
    cases other with
    | nil => rfl
    | cons d rest =>
      rw [List.nil_append, List.cons_append, List.cons_prefix_cons] at here
      exact absurd (here.1 ▸ List.mem_cons_self) closed'
  | cons c name ih =>
    cases other with
    | nil =>
      rw [List.cons_append, List.nil_append, List.cons_prefix_cons] at here
      exact absurd (here.1 ▸ List.mem_cons_self) closed
    | cons d other =>
      rw [List.cons_append, List.cons_append, List.cons_prefix_cons] at here
      rw [here.1, ih (fun later => closed (List.mem_cons_of_mem _ later))
        (fun later => closed' (List.mem_cons_of_mem _ later)) here.2]

theorem eq_of_placeholder {more : List Char} (plain : Braceless name) (plain' : Braceless other)
    (here : (placeholder name).toList <+: (placeholder other).toList ++ more) : name = other := by
  rw [toList_placeholder, toList_placeholder, List.cons_append, List.cons_prefix_cons,
    List.append_assoc] at here
  exact String.toList_inj.mp (eq_of_closed plain.2 plain'.2 here.2)

theorem apart_of_no_opener {more : List Char} (free : '{' ∉ text.toList) :
    Apart (placeholder name).toList text.toList more := by
  rw [toList_placeholder]
  exact Text.apart_of_not_mem free

theorem not_occurs_of_no_opener (free : '{' ∉ text.toList) : ¬ Occurs (placeholder name) text := by
  intro here
  apply free
  apply here.subset
  rw [toList_placeholder]
  exact List.mem_cons_self

theorem no_opener_tail (plain : Braceless other) : '{' ∉ other.toList ++ ['}'] := by
  simp [plain.1]

/-- A placeholder reaches into what follows another only if it is the other. -/
theorem apart_placeholder {more : List Char} (plain : Braceless name) (plain' : Braceless other) :
    Apart (placeholder name).toList (placeholder other).toList more := by
  intro tail suffix some here
  rw [toList_placeholder other, List.suffix_cons_iff] at suffix
  rcases suffix with rfl | suffix
  · rw [← toList_placeholder] at here ⊢
    rw [eq_of_placeholder plain plain' here]
  · rw [toList_placeholder] at here ⊢
    exact Text.apart_of_not_mem (no_opener_tail plain') tail suffix some here

theorem not_occurs_placeholder (plain : Braceless name) (plain' : Braceless other)
    (differs : name ≠ other) : ¬ Occurs (placeholder name) (placeholder other) := by
  intro here
  rw [Occurs, toList_placeholder other, List.infix_cons_iff, ← toList_placeholder] at here
  rcases here with here | here
  · rw [← List.append_nil (placeholder other).toList] at here
    exact differs (eq_of_placeholder plain plain' here)
  · apply no_opener_tail plain'
    apply here.subset
    rw [toList_placeholder]
    exact List.mem_cons_self

theorem isDigit_of_mem_toString {index : Nat} {c : Char} (member : c ∈ (toString index).toList) :
    c.isDigit = true := by
  rw [Nat.toString_eq_repr, Nat.toList_repr] at member
  exact Nat.isDigit_of_mem_toDigits (by decide) (by decide) member

theorem braceless_toString (index : Nat) : Braceless (toString index) :=
  ⟨fun member => absurd (isDigit_of_mem_toString member) (by decide),
    fun member => absurd (isDigit_of_mem_toString member) (by decide)⟩

theorem toString_injective {index place : Nat} (same : toString index = toString place) :
    index = place := by
  rw [Nat.toString_eq_repr, Nat.toString_eq_repr] at same
  have digits := congrArg String.toList same
  rw [Nat.toList_repr, Nat.toList_repr] at digits
  rw [← Nat.ofDigitChars_ten_toDigits (n := index), digits, Nat.ofDigitChars_ten_toDigits]

theorem toString_ne_of_mem {index : Nat} {c : Char} (member : c ∈ name.toList)
    (letter : c.isDigit = false) : toString index ≠ name := by
  rintro rfl
  rw [isDigit_of_mem_toString member] at letter
  contradiction

theorem toString_ne_field (index : Nat) : toString index ≠ "FIELD" :=
  toString_ne_of_mem (c := 'F') (by decide) (by decide)

theorem toString_ne_params (index : Nat) : toString index ≠ "PARAMS" :=
  toString_ne_of_mem (c := 'P') (by decide) (by decide)

theorem renderParams_of_absent {start : Nat} {params : List String}
    (absent : ∀ index < params.length, ¬ Occurs (placeholder (toString (start + index))) text) :
    renderParams start text params = text := by
  induction params generalizing start with
  | nil => rfl
  | cons param rest ih =>
    have first : ¬ Occurs (placeholder (toString start)) text := absent 0 (Nat.zero_lt_succ _)
    rw [renderParams, Text.replace_of_absent first]
    apply ih
    intro index inRange
    rw [Nat.add_right_comm, Nat.add_assoc]
    exact absent (index + 1) (Nat.succ_lt_succ inRange)

end Placeholders

section Dividers

/-- A text that no placeholder reaches across: none begins in it, and its first character
stands in no placeholder. -/
structure Divider (text : String) : Prop where
  shut : '{' ∉ text.toList
  first : ∃ c ∈ text.toList.head?, c.isAlphanum = false ∧ c ≠ '}'

variable {name text : String}

theorem divider_ofList {c : Char} {rest : List Char} (shut : '{' ∉ c :: rest)
    (other : c.isAlphanum = false) (closing : c ≠ '}') : Divider (String.ofList (c :: rest)) := by
  constructor
  · rw [String.toList_ofList]
    exact shut
  · refine ⟨c, ?_, other, closing⟩
    rw [String.toList_ofList]
    rfl

theorem Divider.append {more : String} (divider : Divider text) (shut : '{' ∉ more.toList) :
    Divider (text ++ more) := by
  obtain ⟨c, first, other⟩ := divider.first
  constructor
  · rw [String.toList_append, List.mem_append]
    exact not_or_intro divider.shut shut
  · refine ⟨c, ?_, other⟩
    rw [String.toList_append, List.head?_append, first]
    rfl

theorem replace_divided (alphanumeric : name.toList.all Char.isAlphanum = true)
    (divider : Divider text) (value before after : String) :
    replace (placeholder name) value (before ++ text ++ after) =
      replace (placeholder name) value before ++ text ++ replace (placeholder name) value after := by
  obtain ⟨c, first, other, closing⟩ := divider.first
  obtain ⟨rest, split⟩ := List.head?_eq_some_iff.mp first
  have opening : c ≠ '{' := by
    rintro rfl
    exact divider.shut (split ▸ List.mem_cons_self)
  have foreign : c ∉ (placeholder name).toList := by
    rw [toList_placeholder]
    intro member
    rcases List.mem_cons.mp member with same | member
    · exact opening same
    · rcases List.mem_append.mp member with member | member
      · rw [List.all_eq_true.mp alphanumeric c member] at other
        contradiction
      · exact closing (List.mem_singleton.mp member)
  rw [String.append_assoc, Text.replace_append, Text.replace_append (apart_of_no_opener divider.shut),
    Text.replace_of_absent (not_occurs_of_no_opener divider.shut), String.append_assoc]
  rw [String.toList_append, split]
  exact Text.apart_cons foreign

theorem isAlphanum_toString (index : Nat) :
    (toString index).toList.all Char.isAlphanum = true := by
  rw [List.all_eq_true]
  intro c member
  rw [Char.isAlphanum, isDigit_of_mem_toString member, Bool.or_true]

theorem renderParams_divided (divider : Divider text) (index : Nat) (params : List String)
    (before after : String) :
    renderParams index (before ++ text ++ after) params =
      renderParams index before params ++ text ++ renderParams index after params := by
  induction params generalizing index before after with
  | nil => rfl
  | cons param rest ih =>
    rw [renderParams, replace_divided (isAlphanum_toString index) divider, ih]
    rfl

/-- What stands on either side of a divider is rendered on its own. -/
theorem render_divided (field : String) (params : List String) (divider : Divider text)
    (before after : String) :
    render field params (before ++ text ++ after) =
      render field params before ++ text ++ render field params after := by
  simp only [render]
  rw [replace_divided (by decide) divider, replace_divided (by decide) divider,
    renderParams_divided divider]

/-- In a list the entries are rendered one by one. -/
theorem renderParams_join (divider : Divider text) (index : Nat) (params texts : List String) :
    renderParams index (Text.join text texts) params =
      Text.join text (texts.map fun entry => renderParams index entry params) := by
  induction texts with
  | nil => exact renderParams_of_absent fun _ _ => not_occurs_of_no_opener List.not_mem_nil
  | cons first more ih =>
    cases more with
    | nil => simp [Text.join, Text.joinChars]
    | cons next more =>
      rw [Text.join_cons_cons, renderParams_divided divider, ih, List.map_cons, List.map_cons,
        List.map_cons, Text.join_cons_cons]

end Dividers

section Groups

variable {field name text : String} {params : List String}

/-- What becomes of the field's placeholder: the field is put in and then rendered for
the parameters. -/
theorem render_field (field : String) (params : List String) :
    render field params (placeholder "FIELD") =
      renderParams 0 (replace (placeholder "PARAMS") (Text.join ", " params) field) params := by
  rw [render, Text.replace_self (placeholder_ne_empty _)]

/-- The parameters together are put in one by one, each rendered for all of them. -/
theorem render_params (field : String) (params : List String) :
    render field params (placeholder "PARAMS") =
      Text.join ", " (params.map fun param => renderParams 0 param params) := by
  have stays : ¬ Occurs (placeholder "FIELD") (placeholder "PARAMS") :=
    not_occurs_placeholder (by decide) (by decide) (by decide)
  rw [render, Text.replace_of_absent stays, Text.replace_self (placeholder_ne_empty _),
    renderParams_join (divider_ofList (by decide) (by decide) (by decide))]

theorem renderParams_index {start index : Nat} (inRange : index < params.length) :
    renderParams start (placeholder (toString (start + index))) params =
      renderParams (start + index + 1) params[index] (params.drop (index + 1)) := by
  induction params generalizing start index with
  | nil => exact absurd inRange (Nat.not_lt_zero index)
  | cons param rest ih =>
    rw [renderParams]
    cases index with
    | zero =>
      exact congrArg (renderParams (start + 1) · rest) (Text.replace_self (placeholder_ne_empty _))
    | succ index =>
      have other : toString start ≠ toString (start + (index + 1)) :=
        fun same => absurd (toString_injective same) (by omega)
      have next : start + (index + 1) = start + 1 + index := by omega
      rw [Text.replace_of_absent
        (not_occurs_placeholder (braceless_toString _) (braceless_toString _) other), next]
      exact ih (Nat.lt_of_succ_lt_succ inRange)

/-- A parameter is put in for its index and then rendered for the ones after it. -/
theorem render_index {index : Nat} (field : String) (inRange : index < params.length) :
    render field params (placeholder (toString index)) =
      renderParams (index + 1) params[index] (params.drop (index + 1)) := by
  have plain := braceless_toString index
  have notField : ¬ Occurs (placeholder "FIELD") (placeholder (toString index)) :=
    not_occurs_placeholder (by decide) plain (toString_ne_field index).symm
  have notParams : ¬ Occurs (placeholder "PARAMS") (placeholder (toString index)) :=
    not_occurs_placeholder (by decide) plain (toString_ne_params index).symm
  have shown : renderParams 0 (placeholder (toString (0 + index))) params =
      renderParams (0 + index + 1) params[index] (params.drop (index + 1)) :=
    renderParams_index inRange
  rw [Nat.zero_add] at shown
  rw [render, Text.replace_of_absent notField, Text.replace_of_absent notParams, shown]

end Groups

section Inert

/-- No index of so many parameters stands in a text as a placeholder. -/
def Unindexed (count : Nat) (text : String) : Prop :=
  ∀ index < count, ¬ Occurs (placeholder (toString index)) text

/-- Nothing in a text is a placeholder of a template with so many parameters. -/
structure Inert (count : Nat) (text : String) : Prop where
  field : ¬ Occurs (placeholder "FIELD") text
  params : ¬ Occurs (placeholder "PARAMS") text
  indices : Unindexed count text

variable {field name text : String} {params : List String}

theorem inert_of_no_opener (free : '{' ∉ text.toList) (count : Nat) : Inert count text :=
  ⟨not_occurs_of_no_opener free, not_occurs_of_no_opener free,
    fun _ _ => not_occurs_of_no_opener free⟩

theorem Unindexed.renderParams {count start : Nat} (unindexed : Unindexed count text)
    (within : start + params.length ≤ count) : renderParams start text params = text :=
  renderParams_of_absent fun index inRange => unindexed (start + index) (by omega)

theorem Inert.render (inert : Inert params.length text) : render field params text = text := by
  rw [Template.render, Text.replace_of_absent inert.field, Text.replace_of_absent inert.params]
  exact inert.indices.renderParams (by omega)

namespace Part

theorem fill_field : fill field params (.group "FIELD") = field := rfl

theorem fill_params : fill field params (.group "PARAMS") = Text.join ", " params := rfl

theorem fill_index {index : Nat} (inRange : index < params.length) :
    fill field params (.group (toString index)) = params[index] := by
  have found : (List.range params.length).find? (fun place => toString place == toString index) =
      some index := by
    rw [List.find?_range_eq_some]
    refine ⟨beq_self_eq_true _, List.mem_range.mpr inRange, ?_⟩
    intro place before
    have differs : toString place ≠ toString index :=
      fun same => absurd (toString_injective same) (Nat.ne_of_lt before)
    rw [beq_false_of_ne differs]
    rfl
  rw [fill, value?, if_neg (toString_ne_field index), if_neg (toString_ne_params index), found,
    Option.bind_some, List.getElem?_eq_getElem inRange, Option.getD_some]

theorem fill_other (notField : name ≠ "FIELD") (notParams : name ≠ "PARAMS")
    (noIndex : ∀ index < params.length, name ≠ toString index) :
    fill field params (.group name) = placeholder name := by
  have unknown : (List.range params.length).find? (fun place => toString place == name) = none := by
    rw [List.find?_eq_none]
    intro place member same
    exact noIndex place (List.mem_range.mp member) (eq_of_beq same).symm
  rw [fill, value?, if_neg notField, if_neg notParams, unknown, Option.bind_none, Option.getD_none]

/-- What a part says: its text, or the name between the braces. -/
def inner : Part → String
  | .literal text => text
  | .group name => name

end Part

theorem render_placeholder_other (plain : Braceless name) (notField : name ≠ "FIELD")
    (notParams : name ≠ "PARAMS") (noIndex : ∀ index < params.length, name ≠ toString index) :
    render field params (placeholder name) = placeholder name := by
  apply Inert.render
  refine ⟨not_occurs_placeholder (by decide) plain notField.symm,
    not_occurs_placeholder (by decide) plain notParams.symm, ?_⟩
  intro index inRange
  exact not_occurs_placeholder (braceless_toString index) plain (noIndex index inRange).symm

/-- On its own a part is rendered as it is filled, if none of the placeholders replaced
later stands in what is put in. -/
theorem render_source (unlisted : ¬ Occurs (placeholder "PARAMS") field)
    (unindexed : Unindexed params.length field)
    (unindexed' : ∀ param ∈ params, Unindexed params.length param) (part : Part)
    (plain : Braceless part.inner) : render field params part.source = part.fill field params := by
  cases part with
  | literal text => exact (inert_of_no_opener plain.1 params.length).render
  | group name =>
    have plainName : Braceless name := plain
    by_cases isField : name = "FIELD"
    · subst isField
      rw [Part.source, render_field, Text.replace_of_absent unlisted,
        unindexed.renderParams (by omega), Part.fill_field]
    by_cases isParams : name = "PARAMS"
    · subst isParams
      have kept : params.map (fun param => renderParams 0 param params) = params.map fun param => param :=
        List.map_congr_left fun param member => (unindexed' param member).renderParams (by omega)
      rw [Part.source, render_params, kept, List.map_id', Part.fill_params]
    by_cases isIndex : ∃ index, index < params.length ∧ name = toString index
    · obtain ⟨index, inRange, rfl⟩ := isIndex
      have kept : renderParams (index + 1) params[index] (params.drop (index + 1)) = params[index] :=
        (unindexed' _ (List.getElem_mem inRange)).renderParams (by rw [List.length_drop]; omega)
      rw [Part.source, render_index field inRange, kept, Part.fill_index inRange]
    · have noIndex : ∀ index < params.length, name ≠ toString index :=
        fun index inRange same => isIndex ⟨index, inRange, same⟩
      rw [Part.source, render_placeholder_other plainName isField isParams noIndex,
        Part.fill_other isField isParams noIndex]

end Inert

section Spaced

theorem Divider.render {text : String} (divider : Divider text) (field : String)
    (params : List String) : render field params text = text :=
  (inert_of_no_opener divider.shut _).render

/-- Parts of a template with a divider between neighbours. -/
def Spaced : List Part → Prop
  | [] | [_] => True
  | _ :: .literal text :: rest => Divider text ∧ Spaced rest
  | _ :: .group _ :: _ => False

variable {parts : List Part}

/-- Between dividers every part is rendered on its own, whatever is put in. -/
theorem render_spaced (spaced : Spaced parts) (field : String) (params : List String) :
    render field params (sourceOf parts) =
      String.join (parts.map fun part => render field params part.source) := by
  fun_induction Spaced parts with
  | case1 => exact (inert_of_no_opener List.not_mem_nil _).render
  | case2 part => simp [sourceOf]
  | case3 part text rest ih =>
    obtain ⟨divider, spaced⟩ := spaced
    have written : sourceOf (part :: .literal text :: rest) = part.source ++ text ++ sourceOf rest := by
      simp [sourceOf, Part.source, String.append_assoc]
    rw [written, render_divided field params divider, ih spaced, List.map_cons, List.map_cons,
      String.join_cons, String.join_cons, Part.source, divider.render, String.append_assoc]
  | case4 => contradiction

end Spaced

section Plain

variable {field name text value : String} {params texts : List String}

/-- A piece of a template: its braces, if it has any, are those of one placeholder. -/
inductive Cell : String → Prop where
  | literal {text : String} (plain : Braceless text) : Cell text
  | group {name : String} (plain : Braceless name) : Cell (placeholder name)

theorem cell_source {part : Part} (plain : Braceless part.inner) : Cell part.source := by
  cases part with
  | literal text => exact .literal plain
  | group name => exact .group plain

theorem Cell.apart {more : List Char} (cell : Cell text) (plain : Braceless name) :
    Apart (placeholder name).toList text.toList more := by
  cases cell with
  | literal plain' => exact apart_of_no_opener plain'.1
  | group plain' => exact apart_placeholder plain plain'

/-- Replacing by a text without braces leaves pieces. -/
theorem Cell.replace (cell : Cell text) (plain : Braceless name) (plain' : Braceless value) :
    Cell (replace (placeholder name) value text) := by
  cases cell with
  | literal free =>
    rw [Text.replace_of_absent (not_occurs_of_no_opener free.1)]
    exact .literal free
  | @group other free =>
    by_cases same : name = other
    · subst same
      rw [Text.replace_self (placeholder_ne_empty name)]
      exact .literal plain'
    · rw [Text.replace_of_absent (not_occurs_placeholder plain free same)]
      exact .group free

theorem replace_join (cells : ∀ text ∈ texts, Cell text) (plain : Braceless name) (value : String) :
    replace (placeholder name) value (String.join texts) =
      String.join (texts.map (replace (placeholder name) value)) := by
  induction texts with
  | nil => exact Text.replace_of_absent (not_occurs_of_no_opener List.not_mem_nil)
  | cons text more ih =>
    have cell : Cell text := cells text List.mem_cons_self
    rw [String.join_cons, Text.replace_append (cell.apart plain),
      ih fun later member => cells later (List.mem_cons_of_mem _ member), List.map_cons,
      String.join_cons]

theorem cells_replace (cells : ∀ text ∈ texts, Cell text) (plain : Braceless name)
    (plain' : Braceless value) :
    ∀ text ∈ texts.map (replace (placeholder name) value), Cell text := by
  intro text member
  obtain ⟨before, listed, rfl⟩ := List.mem_map.mp member
  exact (cells before listed).replace plain plain'

theorem renderParams_cells (cells : ∀ text ∈ texts, Cell text)
    (plain : ∀ param ∈ params, Braceless param) (start : Nat) :
    renderParams start (String.join texts) params =
      String.join (texts.map fun text => renderParams start text params) := by
  induction params generalizing start texts with
  | nil => exact congrArg String.join (List.map_id' texts).symm
  | cons param rest ih =>
    have plainParam : Braceless param := plain param List.mem_cons_self
    have plainRest : ∀ later ∈ rest, Braceless later :=
      fun later member => plain later (List.mem_cons_of_mem _ member)
    have next := cells_replace cells (braceless_toString start) plainParam
    rw [renderParams, replace_join cells (braceless_toString start), ih next plainRest, List.map_map]
    rfl

theorem braceless_join (plain : ∀ param ∈ params, Braceless param) :
    Braceless (Text.join ", " params) := by
  constructor
  · exact Text.not_mem_join (by decide) fun param member => (plain param member).1
  · exact Text.not_mem_join (by decide) fun param member => (plain param member).2

/-- The pieces of a template are rendered one by one: a placeholder made of several
of them would need a brace of its own. -/
theorem render_join (cells : ∀ text ∈ texts, Cell text) (plain : Braceless field)
    (plain' : ∀ param ∈ params, Braceless param) :
    render field params (String.join texts) = String.join (texts.map (render field params)) := by
  have named : ∀ text ∈ texts.map (replace (placeholder "FIELD") field), Cell text :=
    cells_replace cells (by decide) plain
  have listed : ∀ text ∈ (texts.map (replace (placeholder "FIELD") field)).map
      (replace (placeholder "PARAMS") (Text.join ", " params)), Cell text :=
    cells_replace named (by decide) (braceless_join plain')
  rw [render, replace_join cells (by decide), replace_join named (by decide),
    renderParams_cells listed plain', List.map_map, List.map_map]
  rfl

/-- On texts without braces rendering reads the template once: what stands for a
placeholder is put in and not looked at again, and everything else stays. -/
theorem render_plain {parts : List Part} (plain : Braceless field)
    (plain' : ∀ param ∈ params, Braceless param) (free : ∀ part ∈ parts, Braceless part.inner) :
    render field params (sourceOf parts) = String.join (parts.map (Part.fill field params)) ∧
      (∀ text, Part.fill field params (.literal text) = text) ∧
      Part.fill field params (.group "FIELD") = field ∧
      Part.fill field params (.group "PARAMS") = Text.join ", " params ∧
      (∀ index (inRange : index < params.length),
        Part.fill field params (.group (toString index)) = params[index]) ∧
      (∀ name, name ≠ "FIELD" → name ≠ "PARAMS" →
        (∀ index < params.length, name ≠ toString index) →
        Part.fill field params (.group name) = placeholder name) := by
  refine ⟨?_, fun _ => rfl, Part.fill_field, Part.fill_params, fun _ => Part.fill_index,
    fun _ => Part.fill_other⟩
  have cells : ∀ text ∈ parts.map Part.source, Cell text := by
    intro text member
    obtain ⟨part, listed, rfl⟩ := List.mem_map.mp member
    exact cell_source (free part listed)
  rw [sourceOf, render_join cells plain plain', List.map_map]
  refine congrArg String.join (List.map_congr_left fun part listed => ?_)
  have inert := inert_of_no_opener plain.1 params.length
  exact render_source inert.params inert.indices
    (fun param member => (inert_of_no_opener (plain' param member).1 _).indices) part (free part listed)

theorem render_plain_age :
    render "age" ["18", "99"] (sourceOf [.group "FIELD", .literal ": ", .group "0", .literal " to ",
      .group "1", .literal ", ", .group "PARAMS", .literal ", ", .group "1", .group "2",
      .group "00", .group "", .group "VALUE"]) =
      "age: 18 to 99, 18, 99, 99\x7b2\x7d\x7b00\x7d\x7b\x7d\x7bVALUE\x7d" := by
  obtain ⟨once, _⟩ := @render_plain "age" ["18", "99"] [.group "FIELD", .literal ": ", .group "0",
    .literal " to ", .group "1", .literal ", ", .group "PARAMS", .literal ", ", .group "1",
    .group "2", .group "00", .group "", .group "VALUE"] (by decide) (by decide) (by decide)
  exact once.trans (by decide +kernel)

end Plain

end FieldRules.Template
