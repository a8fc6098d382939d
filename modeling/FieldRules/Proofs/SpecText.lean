import FieldRules.Rule.Spec
import FieldRules.Proofs.Pieces

/-! Rule strings and specs, both ways. Writing a spec and reading it again gives the
spec just if it is canonical, and reading gives canonical specs only; so every
canonical spec has a text and every text has the meaning of a canonical one. -/
namespace FieldRules.RuleSpec

/-- No bar in the name or in a parameter. A bar would end the segment. -/
def Barless (spec : RuleSpec) : Prop :=
  '|' ∉ spec.name.toList ∧ ∀ param ∈ spec.params, '|' ∉ param.toList

theorem trimmed_iff (text : String) : Trimmed text ↔ Text.Tight text.toList := by
  rw [← Text.trimChars_eq_self_iff, Trimmed, Text.trim, ← String.toList_inj, String.toList_ofList]

section Reading

variable {segment : List Char}

/-- The pieces of a segment between its colons. The first is the name. -/
def pieces (segment : List Char) : List (List Char) :=
  (Text.splitChars ':' segment).map Text.trimChars

theorem pieces_ne_nil (segment : List Char) : pieces segment ≠ [] := by
  rw [pieces, ne_eq, List.map_eq_nil_iff]
  exact Text.splitChars_ne_nil ':' segment

theorem mem_pieces {piece : List Char} (member : piece ∈ pieces segment) :
    Text.Tight piece ∧ ':' ∉ piece ∧ piece.Sublist segment := by
  obtain ⟨raw, cut, rfl⟩ := List.mem_map.mp member
  have part := Text.trimChars_sublist raw
  exact ⟨Text.tight_trimChars raw,
    fun colon => Text.not_mem_of_mem_splitChars cut (part.subset colon),
    part.trans (Text.sublist_of_mem_splitChars cut)⟩

theorem name_mem_pieces (segment : List Char) :
    (parseChars segment).name.toList ∈ pieces segment := by
  rw [parseChars, String.toList_ofList, ← pieces]
  cases read : pieces segment with
  | nil => exact absurd read (pieces_ne_nil segment)
  | cons first more => exact List.mem_cons_self

/-- A parameter is a trimmed piece between the commas of what follows the name. All its
characters are from pieces of the segment. -/
theorem mem_params {param : String} (member : param ∈ (parseChars segment).params) :
    Text.Tight param.toList ∧ ',' ∉ param.toList ∧
      ∀ c ∈ param.toList, ∃ piece ∈ pieces segment, c ∈ piece := by
  obtain ⟨raw, cut, rfl⟩ := List.mem_map.mp member
  rw [String.toList_ofList]
  have part := Text.trimChars_sublist raw
  refine ⟨Text.tight_trimChars raw,
    fun comma => Text.not_mem_of_mem_splitChars cut (part.subset comma), ?_⟩
  intro c here
  have inside := (part.trans (Text.sublist_of_mem_splitChars cut)).subset here
  obtain ⟨piece, listed, here⟩ := List.mem_flatten.mp inside
  exact ⟨piece, List.mem_of_mem_drop listed, here⟩

theorem canonical_parseChars (segment : List Char) : (parseChars segment).Canonical := by
  obtain ⟨tight, colon, _⟩ := mem_pieces (name_mem_pieces segment)
  refine ⟨(trimmed_iff _).mpr tight, colon, ?_, ?_⟩
  · rw [parseChars, ne_eq, List.map_eq_nil_iff]
    exact Text.splitChars_ne_nil ',' _
  · intro param member
    obtain ⟨tight, comma, origin⟩ := mem_params member
    refine ⟨(trimmed_iff param).mpr tight, comma, ?_⟩
    intro colon
    obtain ⟨piece, listed, here⟩ := origin ':' colon
    exact (mem_pieces listed).2.1 here

/-- Reading brings in no bar that the segment has not. -/
theorem barless_parseChars (free : '|' ∉ segment) : (parseChars segment).Barless := by
  refine ⟨fun bar => free ((mem_pieces (name_mem_pieces segment)).2.2.subset bar), ?_⟩
  intro param member bar
  obtain ⟨piece, listed, here⟩ := (mem_params member).2.2 '|' bar
  exact free ((mem_pieces listed).2.2.subset here)

end Reading

section Writing

variable {spec : RuleSpec}

/-- The parameters as they stand between the commas. -/
def paramChars (spec : RuleSpec) : List Char :=
  Text.joinChars [','] (spec.params.map String.toList)

/-- The pieces of a spec that colons keep apart in its text. -/
def textPieces (spec : RuleSpec) : List (List Char) :=
  if spec.meaningfulParams.isEmpty then [spec.name.toList]
  else [spec.name.toList, spec.paramChars]

theorem toList_text (spec : RuleSpec) :
    spec.text.toList = Text.joinChars [':'] spec.textPieces := by
  rw [text, textPieces]
  split
  · rfl
  · simp [Text.joinChars, Text.join, paramChars]

/-- A single empty parameter is not written, and stands for nothing between commas. -/
theorem flatten_drop_textPieces (spec : RuleSpec) :
    (spec.textPieces.drop 1).flatten = spec.paramChars := by
  rw [textPieces, meaningfulParams]
  by_cases placeholder : spec.params = [""]
  · simp [paramChars, placeholder, Text.joinChars]
  · cases params : spec.params with
    | nil => simp [paramChars, params, Text.joinChars]
    | cons param rest => simp_all

theorem headD_textPieces (spec : RuleSpec) : spec.textPieces.headD [] = spec.name.toList := by
  rw [textPieces]
  split <;> rfl

theorem mem_textPieces {piece : List Char} (member : piece ∈ spec.textPieces) :
    piece = spec.name.toList ∨ piece = spec.paramChars := by
  rw [textPieces] at member
  split at member
  · exact .inl (List.mem_singleton.mp member)
  · simpa using member

theorem mem_paramChars {c : Char} (member : c ∈ spec.paramChars) :
    c = ',' ∨ ∃ param ∈ spec.params, c ∈ param.toList := by
  rcases Text.mem_joinChars member with comma | ⟨_, listed, here⟩
  · exact .inl (List.mem_singleton.mp comma)
  · obtain ⟨param, declared, rfl⟩ := List.mem_map.mp listed
    exact .inr ⟨param, declared, here⟩

theorem tight_paramChars (canonical : spec.Canonical) : Text.Tight spec.paramChars := by
  apply Text.tight_joinChars (by decide)
  intro piece listed
  obtain ⟨param, declared, rfl⟩ := List.mem_map.mp listed
  exact (trimmed_iff param).mp (canonical.2.2.2 param declared).1

theorem splitChars_paramChars (canonical : spec.Canonical) :
    Text.splitChars ',' spec.paramChars = spec.params.map String.toList := by
  apply Text.splitChars_joinChars
  · rw [ne_eq, List.map_eq_nil_iff]
    exact canonical.2.2.1
  · intro piece listed
    obtain ⟨param, declared, rfl⟩ := List.mem_map.mp listed
    exact (canonical.2.2.2 param declared).2.1

/-- The pieces that are read are those that were written: no trimming bites on them. -/
theorem pieces_text (canonical : spec.Canonical) : pieces spec.text.toList = spec.textPieces := by
  have cut : Text.splitChars ':' spec.text.toList = spec.textPieces := by
    rw [toList_text]
    apply Text.splitChars_joinChars
    · rw [textPieces]
      split <;> simp
    · intro piece member here
      rcases mem_textPieces member with rfl | rfl
      · exact canonical.2.1 here
      · rcases mem_paramChars here with comma | ⟨param, declared, here⟩
        · exact absurd comma (by decide)
        · exact (canonical.2.2.2 param declared).2.2 here
  rw [pieces, cut]
  refine (List.map_congr_left ?_).trans (List.map_id _)
  intro piece member
  rw [id, Text.trimChars_eq_self_iff]
  rcases mem_textPieces member with rfl | rfl
  · exact (trimmed_iff spec.name).mp canonical.1
  · exact tight_paramChars canonical

theorem parse_text_of_canonical (canonical : spec.Canonical) : parse spec.text = spec := by
  have same : ∀ param ∈ spec.params, Text.trim param = param :=
    fun param declared => (canonical.2.2.2 param declared).1
  rw [parse, parseChars, ← pieces, pieces_text canonical, headD_textPieces,
    flatten_drop_textPieces, splitChars_paramChars canonical, List.map_map, String.ofList_toList]
  refine congrArg (RuleSpec.mk spec.name) ?_
  exact (List.map_congr_left same).trans (List.map_id _)

/-- A spec is read back from its own text just if it is canonical. -/
theorem parse_text_iff : parse spec.text = spec ↔ spec.Canonical := by
  constructor
  · intro same
    rw [← same]
    exact canonical_parseChars spec.text.toList
  · exact parse_text_of_canonical

theorem bar_not_mem_text (barless : spec.Barless) : '|' ∉ spec.text.toList := by
  intro bar
  rw [toList_text] at bar
  rcases Text.mem_joinChars bar with colon | ⟨piece, listed, here⟩
  · exact absurd colon (by decide)
  · rcases mem_textPieces listed with rfl | rfl
    · exact barless.1 here
    · rcases mem_paramChars here with comma | ⟨param, declared, here⟩
      · exact absurd comma (by decide)
      · exact barless.2 param declared here

end Writing

section Lists

variable {specs : List RuleSpec}

theorem mem_parseAll {spec : RuleSpec} {rules : String} (member : spec ∈ parseAll rules) :
    spec.Canonical ∧ spec.Barless := by
  obtain ⟨segment, cut, rfl⟩ := List.mem_map.mp member
  exact ⟨canonical_parseChars segment, barless_parseChars (Text.not_mem_of_mem_splitChars cut)⟩

theorem parseAll_ne_nil (rules : String) : parseAll rules ≠ [] := by
  rw [parseAll, ne_eq, List.map_eq_nil_iff]
  exact Text.splitChars_ne_nil '|' rules.toList

theorem parseAll_join (some : specs ≠ []) (plain : ∀ spec ∈ specs, spec.Canonical ∧ spec.Barless) :
    parseAll (Text.join "|" (specs.map text)) = specs := by
  have cut : Text.splitChars '|' (Text.join "|" (specs.map text)).toList =
      specs.map fun spec => spec.text.toList := by
    rw [Text.join, String.toList_ofList, List.map_map]
    apply Text.splitChars_joinChars
    · rwa [ne_eq, List.map_eq_nil_iff]
    · intro segment listed
      obtain ⟨spec, member, rfl⟩ := List.mem_map.mp listed
      exact bar_not_mem_text (plain spec member).2
  rw [parseAll, cut, List.map_map]
  refine (List.map_congr_left ?_).trans (List.map_id _)
  intro spec member
  exact parse_text_of_canonical (plain spec member).1

end Lists

/-- Reading and writing of specs, for all specs and all texts. A spec is read back from
its text just if it is canonical, and what is read from any text is canonical. A list
of specs is read back from its texts between bars just if it is not empty and its specs
are canonical and have no bars, and what is read from any rule string is such a list. -/
theorem reading_inverts_writing :
    (∀ spec : RuleSpec, parse spec.text = spec ↔ spec.Canonical) ∧
    (∀ segment, (parse segment).Canonical ∧ parse (parse segment).text = parse segment) ∧
    (∀ specs : List RuleSpec, parseAll (Text.join "|" (specs.map text)) = specs ↔
      specs ≠ [] ∧ ∀ spec ∈ specs, spec.Canonical ∧ spec.Barless) ∧
    ∀ rules, parseAll rules ≠ [] ∧ ∀ spec ∈ parseAll rules, spec.Canonical ∧ spec.Barless := by
  refine ⟨fun spec => parse_text_iff, ?_, ?_, ?_⟩
  · intro segment
    have canonical := canonical_parseChars segment.toList
    exact ⟨canonical, parse_text_of_canonical canonical⟩
  · intro specs
    constructor
    · intro same
      rw [← same]
      exact ⟨parseAll_ne_nil _, fun spec => mem_parseAll⟩
    · rintro ⟨some, plain⟩
      exact parseAll_join some plain
  · exact fun rules => ⟨parseAll_ne_nil rules, fun spec => mem_parseAll⟩

end FieldRules.RuleSpec
