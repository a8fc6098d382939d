import FieldRules.Text.Replace

/-! Replacing a phrase in a text that is put together from parts. Where no occurrence
reaches from one part into the next, the parts can be taken one by one: one without the
phrase stays, and one that is the phrase becomes what is put in its place. -/
namespace FieldRules.Text

def Occurs (phrase text : String) : Prop := phrase.toList <:+: text.toList

instance (phrase text : String) : Decidable (Occurs phrase text) :=
  inferInstanceAs (Decidable (_ <:+: _))

/-- No occurrence of a phrase begins in one text and ends in the next. -/
def Apart (phrase first second : List Char) : Prop :=
  ∀ tail, tail <:+ first → tail ≠ [] → phrase <+: tail ++ second → phrase.length ≤ tail.length

variable {phrase value first second text : List Char}

theorem Apart.of_suffix {tail : List Char} (apart : Apart phrase first second)
    (suffix : tail <:+ first) : Apart phrase tail second :=
  fun later part => apart later (part.trans suffix)

/-- Nothing reaches across a character that is not in the phrase. -/
theorem apart_cons {c : Char} (foreign : c ∉ phrase) : Apart phrase first (c :: second) := by
  intro tail _ _ occurs
  apply Nat.le_of_not_lt
  intro short
  obtain ⟨rest, cut⟩ := occurs
  have here : (phrase ++ rest)[tail.length]? = some c := by
    rw [cut, List.getElem?_append_right (Nat.le_refl _), Nat.sub_self]
    rfl
  rw [List.getElem?_append_left (by omega)] at here
  exact foreign (List.mem_of_getElem? here)

/-- Nothing reaches out of a text without the first character of the phrase. -/
theorem apart_of_not_mem {c : Char} (free : c ∉ first) : Apart (c :: phrase) first second := by
  intro tail suffix some occurs
  obtain ⟨d, rest, rfl⟩ := List.exists_cons_of_ne_nil some
  rw [List.cons_append, List.cons_prefix_cons] at occurs
  rw [occurs.1] at free
  exact absurd (suffix.subset List.mem_cons_self) free

/-- Two parts that no occurrence joins are replaced in one by one. Inside of an occurrence
its other characters are skipped, and these are all in the first part. -/
theorem replaceFrom_append (apart : Apart phrase first second) {skip : Nat}
    (within : skip ≤ first.length) :
    replaceFrom phrase value skip (first ++ second) =
      replaceFrom phrase value skip first ++ replaceFrom phrase value 0 second := by
  induction first generalizing skip with
  | nil =>
    obtain rfl : skip = 0 := Nat.le_zero.mp within
    rfl
  | cons c rest ih =>
    have apart' : Apart phrase rest second := apart.of_suffix (List.suffix_cons c rest)
    cases skip with
    | succ skip => exact ih apart' (Nat.le_of_succ_le_succ within)
    | zero =>
      have same : phrase.isPrefixOf (c :: (rest ++ second)) = phrase.isPrefixOf (c :: rest) := by
        rw [Bool.eq_iff_iff, List.isPrefixOf_iff_prefix, List.isPrefixOf_iff_prefix]
        constructor
        · intro occurs
          have short := apart (c :: rest) List.suffix_rfl (List.cons_ne_nil c rest) occurs
          exact List.prefix_of_prefix_length_le occurs (List.prefix_append (c :: rest) second) short
        · exact fun occurs => occurs.trans (List.prefix_append (c :: rest) second)
      rw [List.cons_append, replaceFrom, replaceFrom, same]
      split
      · next occurs =>
        have length := (List.isPrefixOf_iff_prefix.mp occurs).length_le
        rw [ih apart' (Nat.sub_le_of_le_add length), List.append_assoc]
      · rw [ih apart' (Nat.zero_le _), List.cons_append]

theorem replaceFrom_of_length_le {skip : Nat} (short : text.length ≤ skip) :
    replaceFrom phrase value skip text = [] := by
  induction text generalizing skip with
  | nil => cases skip <;> rfl
  | cons c rest ih =>
    obtain ⟨less, rfl⟩ : ∃ less, skip = less + 1 := Nat.exists_eq_succ_of_ne_zero (by
      rintro rfl
      exact absurd short (by simp))
    exact ih (Nat.le_of_succ_le_succ short)

theorem replaceFrom_of_absent (absent : ¬ phrase <:+: text) :
    replaceFrom phrase value 0 text = text := by
  induction text with
  | nil => rfl
  | cons c rest ih =>
    have other : ¬ phrase.isPrefixOf (c :: rest) = true := by
      rw [List.isPrefixOf_iff_prefix]
      exact fun occurs => absent occurs.isInfix
    rw [replaceFrom, if_neg other, ih fun occurs => absent (List.infix_cons occurs)]

section Texts

variable {phrase value text more : String}

theorem replace_append (apart : Apart phrase.toList text.toList more.toList) :
    replace phrase value (text ++ more) = replace phrase value text ++ replace phrase value more := by
  rw [replace, replace, replace, String.toList_append, ← String.ofList_append]
  refine congrArg String.ofList ?_
  simp only [replaceChars]
  split
  · rfl
  · exact replaceFrom_append apart (Nat.zero_le _)

theorem replace_of_absent (absent : ¬ Occurs phrase text) : replace phrase value text = text := by
  rw [replace, replaceChars, replaceFrom_of_absent absent, ite_self, String.ofList_toList]

theorem replace_self (some : phrase ≠ "") : replace phrase value phrase = value := by
  obtain ⟨c, rest, split⟩ := List.exists_cons_of_ne_nil (mt String.toList_eq_nil_iff.mp some)
  have all : replaceFrom phrase.toList value.toList 0 phrase.toList = value.toList := by
    rw [split, replaceFrom, if_pos (List.isPrefixOf_iff_prefix.mpr List.prefix_rfl),
      replaceFrom_of_length_le (by simp), List.append_nil]
  rw [replace, replaceChars, all, if_neg (by simp [split]), String.ofList_toList]

end Texts

end FieldRules.Text
