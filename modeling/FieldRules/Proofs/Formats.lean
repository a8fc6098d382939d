import Mathlib.Data.List.Basic
import FieldRules.Rule.Builtin
import FieldRules.Proofs.CharacterSets
import FieldRules.Proofs.Searching
import FieldRules.Proofs.PatternCache

/-! The texts that the format rules accept. A pattern that looks at nothing around it has
a language; those of the formats are put together from the languages of their parts and
come out as the formats told without patterns. -/
namespace FieldRules

namespace Pattern

section Characters

theorem mem_asciiLetters (c : Char) : asciiLetters.mem c = c.isAlpha := by
  have letter : c.isAlpha = (c.isUpper || c.isLower) := rfl
  have upper : c.isUpper = decide ('A'.val ≤ c.val ∧ c.val ≤ 'Z'.val) := rfl
  have lower : c.isLower = (decide ('a'.val ≤ c.val) && decide (c.val ≤ 'z'.val)) := rfl
  rw [Bool.eq_iff_iff]
  simp [CharSet.mem, asciiLetters, letter, upper, lower, UInt32.le_iff_toNat_le]

theorem mem_asciiDigits (c : Char) : asciiDigits.mem c = c.isDigit := by
  rw [Bool.eq_iff_iff]
  simp [CharSet.mem, asciiDigits, Char.isDigit, UInt32.le_iff_toNat_le]

theorem mem_asciiAlphanumerics (c : Char) : asciiAlphanumerics.mem c = c.isAlphanum := by
  rw [Char.isAlphanum, ← mem_asciiLetters, ← mem_asciiDigits, Bool.or_comm]
  simp [CharSet.mem, asciiLetters, asciiDigits, asciiAlphanumerics]

theorem mem_labelChars (c : Char) : labelChars.mem c = Format.isLabelChar c := by
  rw [Format.isLabelChar, ← mem_asciiAlphanumerics, ← CharSet.mem_single, Bool.or_comm]
  simp [CharSet.mem, labelChars, asciiAlphanumerics, CharSet.single, CharSet.range]

theorem mem_localChars (c : Char) : localChars.mem c = Format.isLocalChar c := by
  rw [localChars, CharSet.mem_union, mem_asciiAlphanumerics, Format.isLocalChar]
  refine congrArg _ ?_
  rw [Bool.eq_iff_iff, CharSet.mem_ofChars, List.contains_iff_mem]
  rfl

theorem mem_hexDigits (c : Char) : hexDigits.mem c = Format.isHexDigit c := by
  rw [Bool.eq_iff_iff]
  simp [CharSet.mem, hexDigits, Format.isHexDigit, Char.isDigit, Char.le_def,
    UInt32.le_iff_toNat_le]
  omega

theorem mem_visibleChars (c : Char) : visibleChars.mem c = !Text.isBlank c := by
  rw [visibleChars, CharSet.mem_complement, CharSet.mem_blankRanges]

theorem mem_hostStart (c : Char) :
    hostStart.mem c = (!Text.isBlank c && !decide (c ∈ ['/', '$', '.', '?', '#'])) := by
  rw [hostStart, CharSet.mem_difference, mem_visibleChars]
  refine congrArg (fun member => !Text.isBlank c && !member) ?_
  rw [Bool.eq_iff_iff, CharSet.mem_ofChars, decide_eq_true_iff]

theorem mem_notLineFeed (c : Char) : (CharSet.single '\n').complement.mem c = (c != '\n') := by
  rw [CharSet.mem_complement, CharSet.mem_single]
  rfl

end Characters

/-- A pattern matches the texts of a language, whatever stands around them. -/
def Means (p : Pattern) (language : List Char → Prop) : Prop :=
  ∀ before text after, Matches p before text after ↔ language text

section Languages

variable {p q : Pattern} {left right : List Char → Prop} {chars : CharSet} {test : Char → Bool}

theorem Means.seq (first : p.Means left) (second : q.Means right) :
    (Pattern.seq p q).Means fun text => ∃ u v, text = u ++ v ∧ left u ∧ right v := by
  intro before text after
  simp only [matches_seq, first _ _ _, second _ _ _]

theorem Means.optional (body : p.Means left) :
    (optional p).Means fun text => text = [] ∨ left text := by
  intro before text after
  simp [Pattern.optional, matches_times_succ, matches_times_zero, body _ _ _]

theorem means_set (same : ∀ c, chars.mem c = test c) :
    (Pattern.set chars).Means fun text => ∃ c, text = [c] ∧ test c = true := by
  intro before text after
  simp only [matches_set, same]

theorem means_single (c : Char) : (single c).Means fun text => text = [c] := by
  intro before text after
  rw [single, matches_set]
  simp [CharSet.mem_single]

/-- A character, written as itself, in front of a pattern. -/
theorem Means.after (body : p.Means left) (c : Char) :
    (Pattern.seq (single c) p).Means fun text => ∃ rest, text = c :: rest ∧ left rest := by
  intro before text after
  rw [(means_single c).seq body]
  simp

theorem means_star_set (same : ∀ c, chars.mem c = test c) :
    (Pattern.star (.set chars)).Means fun text => ∀ c ∈ text, test c = true := by
  intro before text after
  induction text generalizing before with
  | nil => exact iff_of_true .starNone (by simp)
  | cons c rest ih => simp [matches_star_cons, matches_set, same, ih]

theorem means_plus_set (same : ∀ c, chars.mem c = test c) :
    (plus (.set chars)).Means (Format.Over test) := by
  intro before text after
  rw [plus, (means_set same).seq (means_star_set same)]
  cases text with
  | nil => simp [Format.Over]
  | cons c rest => simp [Format.Over]

theorem means_times_set (same : ∀ c, chars.mem c = test c) (least most : Nat) :
    (Pattern.times least most (.set chars)).Means fun text =>
      least ≤ text.length ∧ text.length ≤ most ∧ ∀ c ∈ text, test c = true := by
  intro before text after
  induction most generalizing least before text with
  | zero =>
    rw [matches_times_zero]
    cases text <;> simp
  | succ most ih =>
    rw [matches_times_succ]
    cases text with
    | nil => simp [matches_set]
    | cons c rest =>
      simp [matches_set, same, ih]
      tauto

/-- Within a label the ends are the characters that are no hyphens. -/
theorem isAlphanum_iff (c : Char) :
    c.isAlphanum = true ↔ Format.isLabelChar c = true ∧ c ≠ '-' := by
  rw [Format.isLabelChar, Bool.or_eq_true, beq_iff_eq]
  constructor
  · intro plain
    refine ⟨.inl plain, ?_⟩
    rintro rfl
    exact absurd plain (by decide)
  · rintro ⟨plain | rfl, other⟩
    · exact plain
    · contradiction

theorem means_label : label.Means Format.Label := by
  have inner := (means_times_set mem_labelChars 0 61).seq (means_set mem_asciiAlphanumerics)
  intro before text after
  rw [label, (means_set mem_asciiAlphanumerics).seq inner.optional]
  simp only [isAlphanum_iff]
  constructor
  · rintro ⟨_, rest, rfl, ⟨c, rfl, first⟩, rfl | ⟨middle, _, rfl, ⟨_, short, all⟩, d, rfl, last⟩⟩
    · simp [Format.Label, Format.Over, first]
    · have all' : ∀ a ∈ [c] ++ (middle ++ [d]), Format.isLabelChar a = true := by
        simpa [first.1, last.1, or_imp, forall_and] using all
      refine ⟨⟨List.cons_ne_nil _ _, all'⟩, ?_, ?_, ?_⟩
      · simp
        omega
      · simpa using first.2
      · rw [List.singleton_append, ← List.cons_append, List.getLast?_concat]
        simpa using last.2
  · -- a label of one character has its ends in one, and leaves the optional part out
    rintro ⟨⟨some, all⟩, short, head, last⟩
    obtain ⟨c, rest, rfl⟩ := List.exists_cons_of_ne_nil some
    refine ⟨[c], rest, rfl, ⟨c, rfl, all c List.mem_cons_self, by simpa using head⟩, ?_⟩
    rcases rest.eq_nil_or_concat' with rfl | ⟨middle, d, rfl⟩
    · exact .inl rfl
    · refine .inr ⟨middle, [d], rfl, ⟨Nat.zero_le _, ?_, ?_⟩, d, rfl, all d (by simp), ?_⟩
      · simp at short
        omega
      · exact fun a member => all a (by simp [member])
      · rw [← List.cons_append, List.getLast?_concat] at last
        simpa using last

theorem domain_of_matches {before first rest after : List Char} (valid : Format.Label first)
    (found : Matches (.star (.seq (single '.') label)) before rest after) :
    Format.Domain (first ++ rest) := by
  generalize pattern : Pattern.star (.seq (single '.') label) = r at found
  induction found generalizing first with
  | starNone =>
    rw [List.append_nil]
    exact .label valid
  | @starMore _ before u v after one _ _ ih =>
    cases pattern
    obtain ⟨next, rfl, valid'⟩ := (means_label.after '.' _ _ _).mp one
    exact .more valid (ih valid' rfl)
  | _ => cases pattern

theorem exists_matches_of_domain {text : List Char} (domain : Format.Domain text) :
    ∃ first rest, text = first ++ rest ∧ Format.Label first ∧
      ∀ before after, Matches (.star (.seq (single '.') label)) before rest after := by
  induction domain with
  | @label text valid => exact ⟨text, [], by simp, valid, fun _ _ => .starNone⟩
  | @more first text valid _ ih =>
    obtain ⟨next, rest, rfl, valid', more⟩ := ih
    refine ⟨first, '.' :: (next ++ rest), rfl, valid, fun before after => ?_⟩
    have one := (means_label.after '.' before ('.' :: next) (rest ++ after)).mpr ⟨next, rfl, valid'⟩
    exact .starMore one (more _ _)

theorem means_domain : domain.Means Format.Domain := by
  intro before text after
  rw [domain, matches_seq]
  constructor
  · rintro ⟨first, rest, rfl, one, more⟩
    exact domain_of_matches ((means_label _ _ _).mp one) more
  · intro domain
    obtain ⟨first, rest, rfl, valid, more⟩ := exists_matches_of_domain domain
    exact ⟨first, rest, rfl, (means_label _ _ _).mpr valid, more _ _⟩

theorem means_email :
    (Pattern.seq (plus (.set localChars)) (.seq (single '@') domain)).Means Format.Email := by
  intro before text after
  rw [(means_plus_set mem_localChars).seq (means_domain.after '@')]
  constructor
  · rintro ⟨name, _, rfl, valid, domain, rfl, valid'⟩
    exact ⟨name, domain, rfl, valid, valid'⟩
  · rintro ⟨name, domain, rfl, valid, valid'⟩
    exact ⟨name, _, rfl, valid, domain, rfl, valid'⟩

theorem means_hexGroup (count : Nat) : (hexGroup count).Means (Format.HexGroup count) := by
  intro before text after
  rw [hexGroup, means_times_set mem_hexDigits]
  constructor
  · rintro ⟨least, most, all⟩
    exact ⟨by omega, all⟩
  · rintro ⟨length, all⟩
    exact ⟨by omega, by omega, all⟩

theorem means_uuid :
    (seqAll [hexGroup 8, single '-', hexGroup 4, single '-', hexGroup 4, single '-',
      hexGroup 4, single '-', hexGroup 12]).Means Format.Uuid := by
  have last := (means_hexGroup 4).seq ((means_hexGroup 12).after '-')
  have third := (means_hexGroup 4).seq (last.after '-')
  have second := (means_hexGroup 4).seq (third.after '-')
  have all := (means_hexGroup 8).seq (second.after '-')
  intro before text after
  refine (all before text after).trans ?_
  constructor
  · rintro ⟨a, _, rfl, ha, _, rfl, b, _, rfl, hb, _, rfl, c, _, rfl, hc, _, rfl, d, _, rfl, hd, e,
      rfl, he⟩
    exact ⟨a, b, c, d, e, rfl, ha, hb, hc, hd, he⟩
  · rintro ⟨a, b, c, d, e, rfl, ha, hb, hc, hd, he⟩
    exact ⟨a, _, rfl, ha, _, rfl, b, _, rfl, hb, _, rfl, c, _, rfl, hc, _, rfl, d, _, rfl, hd, e,
      rfl, he⟩

theorem means_literal : (word : List Char) → (literal word).Means fun text => text = word
  | [] => fun _ _ _ => matches_empty
  | [c] => means_single c
  | c :: d :: rest => by
    intro before text after
    refine ((means_literal (d :: rest)).after c before text after).trans ?_
    simp

theorem scheme_iff (scheme : List Char) :
    scheme = "http://".toList ∨ scheme = "https://".toList ↔
      ∃ s, (s = [] ∨ s = ['s']) ∧ scheme = "http".toList ++ (s ++ "://".toList) := by
  simp [or_and_right, exists_or]

theorem means_url : (seqAll [literal "http".toList, optional (single 's'), literal "://".toList,
    .set hostStart, .set (CharSet.single '\n').complement,
    .star (.set visibleChars)]).Means Format.Url := by
  have path := (means_set mem_notLineFeed).seq (means_star_set mem_visibleChars)
  have host := (means_literal "://".toList).seq ((means_set mem_hostStart).seq path)
  have all := (means_literal "http".toList).seq ((means_single 's').optional.seq host)
  intro before text after
  refine (all before text after).trans ?_
  simp only [Format.Url, scheme_iff, Bool.and_eq_true, Bool.not_eq_true', bne_iff_ne,
    decide_eq_false_iff_not]
  constructor
  · rintro ⟨_, _, rfl, rfl, s, _, rfl, secure, _, _, rfl, rfl, _, _, rfl,
      ⟨first, rfl, start, mark⟩, _, rest, rfl, ⟨second, rfl, other⟩, shown⟩
    exact ⟨_, first, second, rest, by simp, ⟨s, secure, rfl⟩, start, mark, other, shown⟩
  · rintro ⟨_, first, second, rest, rfl, ⟨s, secure, rfl⟩, start, mark, other, shown⟩
    refine ⟨"http".toList, s ++ ("://".toList ++ first :: second :: rest), by simp, rfl, s, _, rfl,
      secure, "://".toList, _, rfl, rfl, [first], second :: rest, rfl, ?_, ?_⟩
    · exact ⟨first, rfl, start, mark⟩
    · exact ⟨[second], rest, rfl, ⟨second, rfl, other⟩, shown⟩

end Languages

/-- A pattern for the whole text occurs in the texts of its language. -/
theorem occurs_whole {p : Pattern} {language : List Char → Prop} (body : p.Means language)
    (text : List Char) : Occurs (whole p) text ↔ language text := by
  rw [← body [] text []]
  constructor
  · rintro ⟨before, part, after, rfl, found⟩
    simp only [whole, matches_seq, matches_look, Anchor.holds] at found
    obtain ⟨_, _, rfl, ⟨rfl, start⟩, u, _, rfl, found, rfl, stop⟩ := found
    obtain rfl : before = [] := by simpa using start
    obtain rfl : after = [] := by simpa using stop
    simpa using found
  · intro found
    have whole_found : Matches p [] (text ++ []) [] := by simpa using found
    refine ⟨[], text, [], by simp, .seq (u := []) (.look rfl) ?_⟩
    simpa using Matches.seq (v := []) whole_found (.look rfl)

end Pattern

/-- The value is single, and its text is one of a language. -/
def Json.Writes (value : Json) (language : List Char → Prop) : Prop :=
  ∃ text, value.scalarText? = some text ∧ language text.toList

section Numerals

theorem over_isDigit_toString_iff (n : Int) :
    Format.Over Char.isDigit (toString n).toList ↔ 0 ≤ n := by
  cases n with
  | ofNat n =>
    have numeral : (toString (Int.ofNat n)).toList = Nat.toDigits 10 n := Nat.toList_repr
    refine iff_of_true ⟨?_, fun c member => ?_⟩ (Int.natCast_nonneg n)
    · rw [numeral]
      exact Nat.toDigits_ne_nil
    · rw [numeral] at member
      exact Nat.isDigit_of_mem_toDigits (by decide) (by decide) member
  | negSucc n =>
    have signed : '-' ∈ (toString (Int.negSucc n)).toList := by
      have numeral : toString (Int.negSucc n) = "-" ++ toString (n + 1) := rfl
      simp [numeral]
    refine iff_of_false (fun digits => ?_) (by omega)
    exact absurd (digits.2 _ signed) (by decide)

theorem Binary64.point_mem_positional (digits : List Char) (power : Int) :
    '.' ∈ positional digits power := by
  rw [positional]
  split <;> simp

theorem Binary64.exponent_mem_scientific (digits : List Char) (power : Int) :
    'e' ∈ scientific digits power := by
  simp [scientific]

theorem Binary64.point_or_exponent_mem_text (x : Binary64) :
    '.' ∈ x.text.toList ∨ 'e' ∈ x.text.toList := by
  rw [text]
  by_cases zero : x.isZero = true
  · simp [zero]
  · simp only [zero, Bool.false_eq_true, if_false, String.toList_ofList]
    -- whatever the sign, the mark is in what follows it
    generalize (if x.negative = true then ['-'] else []) = sign
    rw [List.mem_append, List.mem_append]
    split
    · exact .inl (.inr (point_mem_positional _ _))
    · exact .inr (.inr (exponent_mem_scientific _ _))

theorem Binary64.not_over_isDigit_text (x : Binary64) :
    ¬ Format.Over Char.isDigit x.text.toList := by
  rintro ⟨-, digits⟩
  rcases x.point_or_exponent_mem_text with point | exponent
  · exact absurd (digits _ point) (by decide)
  · exact absurd (digits _ exponent) (by decide)

end Numerals

namespace Builtin

section Verdicts

variable {p : Pattern} {language : List Char → Prop}

theorem format_pass_iff (body : p.Means language) (value : Json) :
    Verdict.ofExcept (format p.whole value) = .pass ↔ value.Writes language := by
  have accepted (text : List Char) : p.whole.search text = true ↔ language text := by
    rw [Pattern.search_iff, Pattern.occurs_whole body]
  cases single : value.scalarText? with
  | none => simp [format, singleText, single, Json.Writes, Verdict.ofExcept]
  | some text =>
    have verdict : Verdict.ofExcept (format p.whole value) =
        .ofBool (p.whole.search text.toList) := by
      rw [format, singleText, single]
      rfl
    rw [verdict, Json.Writes, single]
    simp [Verdict.ofBool, accepted]

/-- A rule for a format cannot be applied to collections, and to these only. -/
theorem format_invalid_iff (p : Pattern) (value : Json) (why : Misuse) :
    Verdict.ofExcept (format p value) = .invalid why ↔
      why = .notSingle ∧
        ((∃ items, value = .array items) ∨ ∃ members, value = .object members) := by
  rw [← Json.scalarText?_eq_none_iff, format, singleText]
  cases value.scalarText? with
  | none => simp [Verdict.ofExcept, eq_comm]
  | some text => simp [Verdict.ofExcept, Verdict.ofBool_ne_invalid]

theorem numeric_pass_iff (value : Json) (params : List String) :
    evaluate .numeric value params = .pass ↔ value.Writes (Format.Over Char.isDigit) :=
  format_pass_iff (Pattern.means_plus_set Pattern.mem_asciiDigits) value

theorem url_pass_iff (value : Json) (params : List String) :
    evaluate .url value params = .pass ↔ value.Writes Format.Url :=
  format_pass_iff Pattern.means_url value

end Verdicts

/-- The format rules accept the texts of their formats and nothing else. Collections have no text,
and of the numbers the integers that are not negative are all digits. -/
theorem formats_accept (value : Json) (params : List String) :
    (evaluate .email value params = .pass ↔ value.Writes Format.Email) ∧
      (evaluate .uuid value params = .pass ↔ value.Writes Format.Uuid) ∧
      (evaluate .alpha value params = .pass ↔ value.Writes (Format.Over Char.isAlpha)) ∧
      (evaluate .alphaNum value params = .pass ↔ value.Writes (Format.Over Char.isAlphanum)) ∧
      (evaluate .numeric value params = .pass ↔ value.Writes (Format.Over Char.isDigit)) ∧
      (∀ n, evaluate .numeric (.integer n) params = .pass ↔ 0 ≤ n) ∧
      (∀ x, evaluate .numeric (.float x) params = .fail) ∧
      ∀ rule ∈ [email, uuid, alpha, alphaNum, numeric], ∀ why,
        evaluate rule value params = .invalid why ↔ why = .notSingle ∧
          ((∃ items, value = .array items) ∨ ∃ members, value = .object members) := by
  refine ⟨format_pass_iff Pattern.means_email value, format_pass_iff Pattern.means_uuid value,
    format_pass_iff (Pattern.means_plus_set Pattern.mem_asciiLetters) value,
    format_pass_iff (Pattern.means_plus_set Pattern.mem_asciiAlphanumerics) value,
    numeric_pass_iff value params, fun n => ?_, fun x => ?_, fun rule listed why => ?_⟩
  · rw [numeric_pass_iff, ← over_isDigit_toString_iff]
    simp [Json.Writes, Json.scalarText?, Json.numberText?]
  · have other : evaluate .numeric (.float x) params ≠ .pass := by
      rw [Ne, numeric_pass_iff]
      rintro ⟨_, ⟨⟩, digits⟩
      exact x.not_over_isDigit_text digits
    have valid (why : Misuse) : evaluate .numeric (.float x) params ≠ .invalid why := by
      rw [Ne, evaluate, format_invalid_iff]
      simp
    cases found : evaluate .numeric (.float x) params with
    | pass => exact absurd found other
    | fail => rfl
    | invalid why => exact absurd found (valid why)
  · simp only [List.mem_cons, List.not_mem_nil, or_false] at listed
    rcases listed with rfl | rfl | rfl | rfl | rfl <;> exact format_invalid_iff _ value why

/-- The rule for addresses of pages looks at the scheme and at the first character of the host.
The character behind that one may be any but a line feed, and only from there on the text has no
white space. -/
theorem url_accepts (value : Json) (params : List String) :
    evaluate .url value params = .pass ↔ ∃ scheme host second rest,
      value.scalarText? = some (String.ofList (scheme ++ host :: second :: rest)) ∧
        (scheme = "http://".toList ∨ scheme = "https://".toList) ∧
        Text.isBlank host = false ∧ host ∉ ['/', '$', '.', '?', '#'] ∧ second ≠ '\n' ∧
        ∀ c ∈ rest, Text.isBlank c = false := by
  rw [url_pass_iff]
  constructor
  · rintro ⟨text, single, scheme, host, second, rest, written, valid⟩
    refine ⟨scheme, host, second, rest, ?_, valid⟩
    rw [single, ← written, String.ofList_toList]
  · rintro ⟨scheme, host, second, rest, single, valid⟩
    exact ⟨_, single, scheme, host, second, rest, String.toList_ofList, valid⟩

/-- A space behind the first character of the host goes through. -/
theorem url_admits_space :
    evaluate .url (.string "http://a b") [] = .pass ∧
      (Json.string "http://a b").scalarText? = some "http://a b" ∧
      ' ' ∈ "http://a b".toList ∧ Text.isBlank ' ' = true := by
  refine ⟨?_, rfl, by decide, by decide⟩
  rw [url_pass_iff]
  have path : ∀ c ∈ ['b'], Text.isBlank c = false := List.forall_mem_singleton.mpr (by decide)
  exact ⟨"http://a b", rfl, "http://".toList, 'a', ' ', ['b'], rfl, .inl rfl, by decide,
    by decide, by decide, path⟩

end Builtin

end FieldRules
