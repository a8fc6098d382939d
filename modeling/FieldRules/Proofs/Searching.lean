import Mathlib.Tactic.Common
import FieldRules.Pattern.Search

/-! The search against the matches it looks for. A step takes the first character off what
a pattern matches, whichever of its parts takes it and whichever parts before it match
the empty text, and the search keeps, at every position, what is left of the pattern
from every earlier start. So it finds a match just if there is one. -/
namespace FieldRules.Pattern

variable {p q : Pattern} {before text after : List Char} {least most : Nat} {c : Char}

section Parts

theorem matches_empty : Matches .empty before text after ↔ text = [] := by
  constructor
  · rintro ⟨⟩
    rfl
  · rintro rfl
    exact .empty

theorem matches_set {chars : CharSet} :
    Matches (.set chars) before text after ↔ ∃ c, text = [c] ∧ chars.mem c = true := by
  constructor
  · rintro ⟨⟩
    exact ⟨_, rfl, ‹_›⟩
  · rintro ⟨c, rfl, member⟩
    exact .set member

theorem matches_look {anchor : Anchor} :
    Matches (.look anchor) before text after ↔
      text = [] ∧ anchor.holds before.getLast? after.head? = true := by
  constructor
  · rintro ⟨⟩
    exact ⟨rfl, ‹_›⟩
  · rintro ⟨rfl, holds⟩
    exact .look holds

theorem matches_seq :
    Matches (.seq p q) before text after ↔
      ∃ u v, text = u ++ v ∧ Matches p before u (v ++ after) ∧ Matches q (before ++ u) v after := by
  constructor
  · rintro ⟨⟩
    exact ⟨_, _, rfl, ‹_›, ‹_›⟩
  · rintro ⟨u, v, rfl, first, second⟩
    exact .seq first second

theorem matches_alt :
    Matches (.alt p q) before text after ↔
      Matches p before text after ∨ Matches q before text after := by
  constructor
  · intro found
    cases found with
    | left here => exact .inl here
    | right here => exact .inr here
  · rintro (here | here)
    · exact .left here
    · exact .right here

theorem matches_times_zero :
    Matches (.times least 0 p) before text after ↔ least = 0 ∧ text = [] := by
  constructor
  · rintro ⟨⟩
    exact ⟨rfl, rfl⟩
  · rintro ⟨rfl, rfl⟩
    exact .timesNone

theorem matches_times_succ :
    Matches (.times least (most + 1) p) before text after ↔
      (least = 0 ∧ text = []) ∨ ∃ u v, text = u ++ v ∧ Matches p before u (v ++ after) ∧
        Matches (.times (least - 1) most p) (before ++ u) v after := by
  constructor
  · intro found
    cases found with
    | timesNone => exact .inl ⟨rfl, rfl⟩
    | timesMore first more => exact .inr ⟨_, _, rfl, first, more⟩
  · rintro (⟨rfl, rfl⟩ | ⟨u, v, rfl, first, more⟩)
    · exact .timesNone
    · exact .timesMore first more

end Parts

theorem nullable_iff (p : Pattern) (before after : List Char) :
    p.nullable before.getLast? after.head? = true ↔ Matches p before [] after := by
  induction p generalizing before after with
  | empty => simp [nullable, matches_empty]
  | set chars => simp [nullable, matches_set]
  | look anchor => simp [nullable, matches_look]
  | seq p q ih ih' => simp [nullable, matches_seq, ih, ih']
  | alt p q ih ih' => simp [nullable, matches_alt, ih, ih']
  | star p => exact iff_of_true rfl .starNone
  | times least most p ih =>
    rw [nullable, Bool.or_eq_true, Bool.and_eq_true, beq_iff_eq, decide_eq_true_eq, ih]
    induction most generalizing least with
    | zero =>
      simp only [matches_times_zero, and_true]
      omega
    | succ most ih =>
      by_cases none : Matches p before [] after
      · simp [matches_times_succ, none, ← ih]
        omega
      · simp [matches_times_succ, none]

section Copies

/-- Copies in front that take nothing can be left out. -/
theorem matches_star_cons :
    Matches (.star p) before (c :: text) after ↔
      ∃ u v, text = u ++ v ∧ Matches p before (c :: u) (v ++ after) ∧
        Matches (.star p) (before ++ c :: u) v after := by
  constructor
  · intro found
    generalize pattern : Pattern.star p = r, taken : c :: text = w at found
    induction found with
    | starNone => cases taken
    | @starMore _ before u v after first more _ ih =>
      cases pattern
      cases u with
      | nil => simpa using ih rfl taken
      | cons a u =>
        obtain ⟨rfl, rfl⟩ := List.cons.inj taken
        exact ⟨u, v, rfl, first, more⟩
    | _ => cases pattern
  · rintro ⟨u, v, rfl, first, more⟩
    exact .starMore first more

/-- Where none is required, room for more copies takes no match away. -/
theorem Matches.times_le {most' : Nat} (found : Matches (.times 0 most p) before text after)
    (le : most ≤ most') : Matches (.times 0 most' p) before text after := by
  induction most generalizing most' before text with
  | zero =>
    obtain ⟨_, rfl⟩ := matches_times_zero.mp found
    exact .timesNone
  | succ most ih =>
    obtain ⟨most', rfl⟩ : ∃ n, most' = n + 1 := ⟨most' - 1, by omega⟩
    rcases matches_times_succ.mp found with ⟨_, rfl⟩ | ⟨u, v, rfl, first, more⟩
    · exact .timesNone
    · exact .timesMore first (ih more (by omega))

/-- The first copy that takes a character comes after some that take nothing. -/
theorem matches_times_cons :
    Matches (.times least most p) before (c :: text) after ↔
      ∃ skipped < most, (skipped = 0 ∨ Matches p before [] (c :: text ++ after)) ∧
        ∃ u v, text = u ++ v ∧ Matches p before (c :: u) (v ++ after) ∧
          Matches (.times (least - 1 - skipped) (most - 1 - skipped) p) (before ++ c :: u) v
            after := by
  induction most generalizing least with
  | zero => simp [matches_times_zero]
  | succ most ih =>
    rw [matches_times_succ]
    constructor
    · rintro (⟨_, none⟩ | ⟨u, v, taken, first, more⟩)
      · contradiction
      · cases u with
        | nil =>
          obtain rfl : c :: text = v := taken
          rw [List.append_nil] at more
          obtain ⟨skipped, room, _, u, v, rfl, first', more'⟩ := ih.mp more
          refine ⟨skipped + 1, by omega, .inr first, u, v, rfl, first', ?_⟩
          convert more' using 2 <;> omega
        | cons a u =>
          obtain ⟨rfl, rfl⟩ := List.cons.inj taken
          exact ⟨0, by omega, .inl rfl, u, v, rfl, first, more⟩
    · rintro ⟨skipped, room, empty, u, v, rfl, first, more⟩
      right
      cases skipped with
      | zero => exact ⟨c :: u, v, rfl, first, more⟩
      | succ skipped =>
        have empty : Matches p before [] (c :: (u ++ v) ++ after) := by simpa using empty
        refine ⟨[], c :: (u ++ v), rfl, empty, ?_⟩
        rw [List.append_nil]
        refine ih.mpr ⟨skipped, by omega, .inr empty, u, v, rfl, first, ?_⟩
        convert more using 2 <;> omega

/-- No more copies need be left out than are required, and none where a copy cannot be empty. -/
theorem matches_times_cons_few {empty : Bool}
    (tells : empty = true ↔ Matches p before [] (c :: text ++ after)) :
    Matches (.times least most p) before (c :: text) after ↔
      ∃ skipped < min (if empty then max least 1 else 1) most,
        ∃ u v, text = u ++ v ∧ Matches p before (c :: u) (v ++ after) ∧
          Matches (.times (least - 1 - skipped) (most - 1 - skipped) p) (before ++ c :: u) v
            after := by
  rw [matches_times_cons, ← tells]
  constructor
  · rintro ⟨skipped, room, none, u, v, taken, first, more⟩
    by_cases few : skipped < if empty then max least 1 else 1
    · exact ⟨skipped, by omega, u, v, taken, first, more⟩
    · -- so many are left out that no copy is required any more, and fewer would do as well
      obtain rfl : empty = true := by
        rcases none with rfl | none
        · exact absurd (by split <;> omega) few
        · exact none
      rw [if_pos rfl] at few ⊢
      rw [show least - 1 - skipped = 0 by omega] at more
      refine ⟨max least 1 - 1, by omega, u, v, taken, first, ?_⟩
      rw [show least - 1 - (max least 1 - 1) = 0 by omega]
      exact more.times_le (by omega)
  · rintro ⟨skipped, room, rest⟩
    refine ⟨skipped, by omega, ?_, rest⟩
    split at room
    · next none => exact .inr none
    · exact .inl (by omega)

end Copies

theorem matches_followedBy :
    Matches (followedBy p q) before text after ↔ Matches (.seq p q) before text after := by
  cases p with
  | empty => simp [followedBy, matches_seq, matches_empty]
  | _ => rfl

/-- The first character of a sequence is taken by its second part only where the first part
matches the empty text. -/
theorem matches_seq_cons :
    Matches (.seq p q) before (c :: text) after ↔
      (∃ u v, text = u ++ v ∧ Matches p before (c :: u) (v ++ after) ∧
        Matches q (before ++ c :: u) v after) ∨
      (Matches p before [] (c :: text ++ after) ∧ Matches q before (c :: text) after) := by
  rw [matches_seq]
  constructor
  · rintro ⟨u, v, taken, first, second⟩
    cases u with
    | nil =>
      obtain rfl : c :: text = v := taken
      exact .inr ⟨first, by simpa using second⟩
    | cons a u =>
      obtain ⟨rfl, rfl⟩ := List.cons.inj taken
      exact .inl ⟨u, v, rfl, first, second⟩
  · rintro (⟨u, v, rfl, first, second⟩ | ⟨first, second⟩)
    · exact ⟨c :: u, v, rfl, first, second⟩
    · exact ⟨[], c :: text, rfl, first, by simpa using second⟩

theorem step_followedBy
    (left : ∀ text after, (∃ r ∈ p.step before.getLast? c, Matches r (before ++ [c]) text after) ↔
      Matches p before (c :: text) after) :
    (∃ r ∈ (p.step before.getLast? c).map (followedBy · q), Matches r (before ++ [c]) text after) ↔
      ∃ u v, text = u ++ v ∧ Matches p before (c :: u) (v ++ after) ∧
        Matches q (before ++ c :: u) v after := by
  simp only [List.mem_map, exists_exists_and_eq_and, matches_followedBy, matches_seq,
    List.append_assoc, List.singleton_append, ← left]
  constructor
  · rintro ⟨r, member, u, v, taken, first, second⟩
    exact ⟨u, v, taken, ⟨r, member, first⟩, second⟩
  · rintro ⟨u, v, taken, ⟨r, member, first⟩, second⟩
    exact ⟨r, member, u, v, taken, first, second⟩

/-- What is left of a pattern after a character is what the pattern matches from there on. -/
theorem step_iff (p : Pattern) (before : List Char) (c : Char) (text after : List Char) :
    (∃ r ∈ p.step before.getLast? c, Matches r (before ++ [c]) text after) ↔
      Matches p before (c :: text) after := by
  induction p generalizing text after with
  | empty => simp [step, matches_empty]
  | set chars =>
    cases member : chars.mem c <;> simp [step, member, matches_set, matches_empty]
  | look anchor => simp [step, matches_look]
  | alt p q ih ih' => simp [step, or_and_right, exists_or, matches_alt, ih, ih']
  | star p ih => rw [step, step_followedBy ih, matches_star_cons]
  | seq p q ih ih' =>
    have none : p.nullable before.getLast? (some c) = true ↔
        Matches p before [] (c :: text ++ after) := nullable_iff p before (c :: text ++ after)
    simp only [step, List.mem_append, or_and_right, exists_or, step_followedBy ih,
      matches_seq_cons, ← none, ← ih']
    refine or_congr_right ?_
    split <;> simp_all
  | times least most p ih =>
    have none : p.nullable before.getLast? (some c) = true ↔
        Matches p before [] (c :: text ++ after) := nullable_iff p before (c :: text ++ after)
    simp only [step, List.mem_flatMap, List.mem_range, ← exists_and_right, and_assoc,
      matches_times_cons_few none]
    rw [exists_comm]
    simp only [exists_and_left, step_followedBy ih]

/-- A match starts where a text starts. -/
def Starts (p : Pattern) (before text : List Char) : Prop :=
  ∃ u v, text = u ++ v ∧ Matches p before u v

/-- A match starts here or at a later place. -/
def Ahead (p : Pattern) (before text : List Char) : Prop :=
  ∃ skipped rest, text = skipped ++ rest ∧ Starts p (before ++ skipped) rest

theorem starts_nil : Starts p before [] ↔ Matches p before [] [] := by
  simp [Starts]

theorem starts_cons :
    Starts p before (c :: text) ↔
      Matches p before [] (c :: text) ∨
        ∃ q ∈ p.step before.getLast? c, Starts q (before ++ [c]) text := by
  constructor
  · rintro ⟨u, v, taken, found⟩
    cases u with
    | nil =>
      obtain rfl : c :: text = v := taken
      exact .inl found
    | cons a u =>
      obtain ⟨rfl, rfl⟩ := List.cons.inj taken
      obtain ⟨q, member, found⟩ := (step_iff p before c u v).mpr found
      exact .inr ⟨q, member, u, v, rfl, found⟩
  · rintro (found | ⟨q, member, u, v, rfl, found⟩)
    · exact ⟨[], c :: text, rfl, found⟩
    · exact ⟨c :: u, v, rfl, (step_iff p before c u v).mp ⟨q, member, found⟩⟩

theorem ahead_nil : Ahead p before [] ↔ Matches p before [] [] := by
  simp [Ahead, starts_nil]

theorem ahead_cons :
    Ahead p before (c :: text) ↔ Starts p before (c :: text) ∨ Ahead p (before ++ [c]) text := by
  constructor
  · rintro ⟨skipped, rest, taken, found⟩
    cases skipped with
    | nil =>
      obtain rfl : c :: text = rest := taken
      exact .inl (by simpa using found)
    | cons a skipped =>
      obtain ⟨rfl, rfl⟩ := List.cons.inj taken
      exact .inr ⟨skipped, rest, rfl, by simpa using found⟩
  · rintro (found | ⟨skipped, rest, rfl, found⟩)
    · exact ⟨[], c :: text, rfl, by simpa using found⟩
    · exact ⟨c :: skipped, rest, rfl, by simpa using found⟩

/-- The search looks for a match of an active pattern that starts here, and for one of the whole
pattern that starts here or later. -/
theorem searchFrom_iff (p : Pattern) (before text : List Char) (active : List Pattern) :
    p.searchFrom before.getLast? active text = true ↔
      (∃ q ∈ active, Starts q before text) ∨ Ahead p before text := by
  -- for all active patterns at once: one character on, they are what the step has left of them
  induction text generalizing before active with
  | nil =>
    have empty := fun q => nullable_iff q before []
    rw [List.head?_nil] at empty
    simp [searchFrom, empty, starts_nil, ahead_nil, or_comm]
  | cons c rest ih =>
    have empty := fun q => nullable_iff q before (c :: rest)
    have further := ih (before ++ [c]) (distinct ((p :: active).flatMap (step before.getLast? c)))
    rw [List.head?_cons] at empty
    rw [List.getLast?_concat] at further
    have now : (∃ q ∈ active, Starts q before (c :: rest)) ∨ Starts p before (c :: rest) ↔
        ∃ q ∈ p :: active, Starts q before (c :: rest) := by
      simp [or_comm]
    rw [searchFrom, Bool.or_eq_true, further, ahead_cons, ← or_assoc, ← or_assoc, now]
    apply or_congr_left
    simp only [List.any_eq_true, empty, mem_distinct, List.mem_flatMap, starts_cons, and_or_left,
      exists_or]
    apply or_congr_right
    constructor
    · rintro ⟨r, ⟨q, member, left⟩, found⟩
      exact ⟨q, member, r, left, found⟩
    · rintro ⟨q, member, r, left, found⟩
      exact ⟨r, ⟨q, member, left⟩, found⟩

/-- The search finds a match in a text just if there is one. -/
theorem search_iff (p : Pattern) (text : List Char) : p.search text = true ↔ Occurs p text := by
  have found := searchFrom_iff p [] text []
  rw [List.getLast?_nil] at found
  simp [search, found, Occurs, Ahead, Starts, List.append_assoc]

end FieldRules.Pattern
