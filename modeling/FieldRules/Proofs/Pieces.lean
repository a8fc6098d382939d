import Mathlib.Data.List.DropRight
import FieldRules.Text.Blank
import FieldRules.Text.Split

/-! Cutting, joining and trimming texts. Pieces without a separator are what cutting
their join gives back, and a join of trimmed pieces is trimmed if the separator is
not blank: at either end stands a piece or a separator. -/
namespace FieldRules.Text

variable {separator : Char} {text piece : List Char} {pieces : List (List Char)}

theorem splitChars_eq_splitOn (separator : Char) (text : List Char) :
    splitChars separator text = text.splitOn separator := by
  induction text with
  | nil => simp [splitChars]
  | cons c rest ih =>
    rw [splitChars, List.splitOn_cons_eq_if_modifyHead, ih]
    by_cases same : c = separator
    · simp [same]
    · cases cut : rest.splitOn separator with
      | nil => exact absurd cut (List.splitOn_ne_nil separator rest)
      | cons piece more => simp [same]

theorem joinChars_eq_intercalate (separator : List Char) (pieces : List (List Char)) :
    joinChars separator pieces = separator.intercalate pieces := by
  fun_induction joinChars separator pieces with
  | case1 => rfl
  | case2 piece => simp
  | case3 piece next more ih => rw [ih, List.intercalate_cons_cons]

theorem join_cons_cons (separator first next : String) (more : List String) :
    join separator (first :: next :: more) = first ++ separator ++ join separator (next :: more) := by
  simp [join, joinChars, String.append_assoc]

theorem joinChars_splitChars (separator : Char) (text : List Char) :
    joinChars [separator] (splitChars separator text) = text := by
  rw [splitChars_eq_splitOn, joinChars_eq_intercalate]
  exact List.intercalate_splitOn separator

theorem splitChars_ne_nil (separator : Char) (text : List Char) :
    splitChars separator text ≠ [] := by
  rw [splitChars_eq_splitOn]
  exact List.splitOn_ne_nil separator text

theorem splitChars_joinChars (some : pieces ≠ []) (free : ∀ piece ∈ pieces, separator ∉ piece) :
    splitChars separator (joinChars [separator] pieces) = pieces := by
  rw [splitChars_eq_splitOn, joinChars_eq_intercalate]
  exact List.splitOn_intercalate separator free some

theorem not_mem_of_mem_splitChars (member : piece ∈ splitChars separator text) :
    separator ∉ piece := by
  induction text generalizing piece with
  | nil => simp_all [splitChars]
  | cons c rest ih =>
    rw [splitChars] at member
    split at member
    · rcases List.mem_cons.mp member with rfl | later
      · exact List.not_mem_nil
      · exact ih later
    · rename_i other
      cases cut : splitChars separator rest with
      | nil => exact absurd cut (splitChars_ne_nil separator rest)
      | cons first more =>
        rw [cut] at member ih
        rcases List.mem_cons.mp member with rfl | later
        · rw [List.mem_cons, not_or]
          exact ⟨Ne.symm other, ih List.mem_cons_self⟩
        · exact ih (List.mem_cons_of_mem _ later)

theorem mem_joinChars {c : Char} {between : List Char} (member : c ∈ joinChars between pieces) :
    c ∈ between ∨ ∃ piece ∈ pieces, c ∈ piece := by
  fun_induction joinChars between pieces with
  | case1 => contradiction
  | case2 piece => exact .inr ⟨piece, List.mem_singleton_self piece, member⟩
  | case3 piece next more ih =>
    rw [List.mem_append, List.mem_append] at member
    rcases member with (here | here) | later
    · exact .inr ⟨piece, List.mem_cons_self, here⟩
    · exact .inl here
    · rcases ih later with here | ⟨other, listed, here⟩
      · exact .inl here
      · exact .inr ⟨other, List.mem_cons_of_mem _ listed, here⟩

theorem not_mem_join {c : Char} {between : String} {texts : List String}
    (free : c ∉ between.toList) (free' : ∀ text ∈ texts, c ∉ text.toList) :
    c ∉ (join between texts).toList := by
  intro member
  rw [join, String.toList_ofList] at member
  rcases mem_joinChars member with here | ⟨piece, listed, here⟩
  · exact free here
  · obtain ⟨text, member, rfl⟩ := List.mem_map.mp listed
    exact free' text member here

theorem sublist_joinChars {between : List Char} (member : piece ∈ pieces) :
    piece.Sublist (joinChars between pieces) := by
  fun_induction joinChars between pieces with
  | case1 => contradiction
  | case2 only => rw [List.mem_singleton.mp member]
  | case3 first next more ih =>
    rcases List.mem_cons.mp member with rfl | later
    · rw [List.append_assoc]
      exact List.sublist_append_left _ _
    · exact (ih later).trans (List.sublist_append_right _ _)

theorem sublist_of_mem_splitChars (member : piece ∈ splitChars separator text) :
    piece.Sublist text := by
  have part : piece.Sublist (joinChars [separator] (splitChars separator text)) :=
    sublist_joinChars member
  rwa [joinChars_splitChars] at part

/-- A text with no blank at either end. -/
structure Tight (text : List Char) : Prop where
  first : ∀ c ∈ text.head?, isBlank c = false
  last : ∀ c ∈ text.getLast?, isBlank c = false

theorem trimChars_eq_rdropWhile (text : List Char) :
    trimChars text = (text.dropWhile isBlank).rdropWhile isBlank := rfl

theorem trimChars_sublist (text : List Char) : (trimChars text).Sublist text :=
  (List.rdropWhile_prefix isBlank _).sublist.trans (List.dropWhile_sublist isBlank)

theorem tight_trimChars (text : List Char) : Tight (trimChars text) := by
  rw [trimChars_eq_rdropWhile]
  constructor
  · intro c first
    obtain ⟨rest, kept⟩ := List.head?_eq_some_iff.mp first
    obtain ⟨dropped, split⟩ := List.rdropWhile_prefix isBlank (text.dropWhile isBlank)
    have shown := List.head?_dropWhile_not isBlank text
    rwa [← split, kept, List.cons_append, List.head?_cons] at shown
  · intro c last
    obtain ⟨some, rfl⟩ := List.mem_getLast?_eq_getLast last
    exact Bool.eq_false_iff.mpr (List.rdropWhile_last_not isBlank _ some)

theorem trimChars_eq_self_iff : trimChars text = text ↔ Tight text := by
  constructor
  · intro same
    exact same ▸ tight_trimChars text
  · rintro ⟨first, last⟩
    have front : text.dropWhile isBlank = text := by
      cases text with
      | nil => rfl
      | cons c rest =>
        have shown := first c List.head?_cons
        rw [List.dropWhile_cons_of_neg (by simp [shown])]
    rw [trimChars_eq_rdropWhile, front, List.rdropWhile_eq_self_iff]
    intro some
    simp [last _ (List.getLast_mem_getLast? some)]

theorem trimChars_eq_nil_iff (text : List Char) :
    trimChars text = [] ↔ ∀ c ∈ text, isBlank c = true := by
  rw [trimChars_eq_rdropWhile, List.rdropWhile_eq_nil_iff]
  constructor
  · intro blank
    by_contra shown
    have some : text.dropWhile isBlank ≠ [] := by rwa [ne_eq, List.dropWhile_eq_nil_iff]
    have first := List.head_dropWhile_not isBlank some
    rw [blank _ (List.head_mem some)] at first
    contradiction
  · intro blank
    rw [List.dropWhile_eq_nil_iff.mpr blank]
    exact fun _ member => absurd member List.not_mem_nil

theorem trim_eq_empty_iff (text : String) :
    trim text = "" ↔ ∀ c ∈ text.toList, isBlank c = true := by
  rw [← trimChars_eq_nil_iff, trim, ← String.toList_inj, String.toList_ofList]
  rfl

theorem tight_joinChars (shown : isBlank separator = false) (tight : ∀ piece ∈ pieces, Tight piece) :
    Tight (joinChars [separator] pieces) := by
  fun_induction joinChars [separator] pieces with
  | case1 => exact ⟨by simp, by simp⟩
  | case2 piece => exact tight piece (List.mem_singleton_self piece)
  | case3 piece next more ih =>
    have later := ih fun other member => tight other (List.mem_cons_of_mem _ member)
    have here := tight piece List.mem_cons_self
    constructor
    · intro c first
      rw [List.append_assoc, List.head?_append, Option.mem_def, Option.or_eq_some_iff] at first
      rcases first with first | ⟨_, first⟩
      · exact here.first c first
      · obtain rfl : separator = c := by simpa using first
        exact shown
    · intro c last
      rw [List.getLast?_append, Option.mem_def, Option.or_eq_some_iff] at last
      rcases last with last | ⟨_, last⟩
      · exact later.last c last
      · obtain rfl : separator = c := by simpa using last
        exact shown

end FieldRules.Text
