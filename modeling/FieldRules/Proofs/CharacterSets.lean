import FieldRules.Text.Blank
import FieldRules.Text.CharSet

/-! Sets of characters by their members. Bringing ranges into sorted form changes no
membership, and between the ranges of that form lie just the characters that are in
none of them, surrogates being no characters at all. -/
namespace FieldRules.CharSet

variable {ranges rest : List (Nat × Nat)} {n low high : Nat}

def Within (n : Nat) (ranges : List (Nat × Nat)) : Prop :=
  ∃ range ∈ ranges, range.1 ≤ n ∧ n ≤ range.2

theorem within_cons :
    Within n ((low, high) :: rest) ↔ (low ≤ n ∧ n ≤ high) ∨ Within n rest := by
  simp [Within]

theorem within_append {more : List (Nat × Nat)} :
    Within n (ranges ++ more) ↔ Within n ranges ∨ Within n more := by
  simp [Within, or_and_right, exists_or]

theorem mem_iff (set : CharSet) (c : Char) : set.mem c = true ↔ Within c.toNat set.ranges := by
  simp [mem, Within]

theorem mem_single (a c : Char) : (single a).mem c = (c == a) := by
  rw [Bool.eq_iff_iff, mem_iff, single, range, within_cons, beq_iff_eq, ← Char.toNat_inj]
  simp [Within]
  omega

/-- Ranges that stand in order with something between any two, none of them empty. -/
structure Ascending (ranges : List (Nat × Nat)) : Prop where
  apart : ranges.Pairwise fun a b => a.2 < b.1
  filled : ∀ range ∈ ranges, range.1 ≤ range.2

theorem Ascending.cons_iff :
    Ascending ((low, high) :: rest) ↔
      (∀ range ∈ rest, high < range.1) ∧ low ≤ high ∧ Ascending rest := by
  constructor
  · rintro ⟨apart, filled⟩
    obtain ⟨first, apart⟩ := List.pairwise_cons.mp apart
    obtain ⟨own, filled⟩ := List.forall_mem_cons.mp filled
    exact ⟨first, own, apart, filled⟩
  · rintro ⟨first, own, apart, filled⟩
    exact ⟨List.pairwise_cons.mpr ⟨first, apart⟩, List.forall_mem_cons.mpr ⟨own, filled⟩⟩

section Coalescing

theorem pairwise_joined {next : Nat × Nat}
    (sorted : ((low, high) :: next :: rest).Pairwise fun a b => a.1 ≤ b.1) (high' : Nat) :
    ((low, high') :: rest).Pairwise fun a b => a.1 ≤ b.1 := by
  obtain ⟨first, later⟩ := List.pairwise_cons.mp sorted
  refine List.pairwise_cons.mpr ⟨?_, later.of_cons⟩
  exact fun range member => first range (List.mem_cons_of_mem _ member)

/-- Joining a range to those after it, which start no earlier, keeps all members. -/
theorem within_coalesceFrom (sorted : ((low, high) :: rest).Pairwise fun a b => a.1 ≤ b.1) :
    Within n (coalesceFrom low high rest) ↔ (low ≤ n ∧ n ≤ high) ∨ Within n rest := by
  induction rest generalizing low high with
  | nil => rw [coalesceFrom, within_cons]
  | cons next rest ih =>
    obtain ⟨low', high'⟩ := next
    obtain ⟨first, later⟩ := List.pairwise_cons.mp sorted
    have start : low ≤ low' := first _ List.mem_cons_self
    rw [coalesceFrom, within_cons]
    split
    · rw [ih (pairwise_joined sorted _), ← or_assoc]
      exact or_congr_left (by omega)
    · rw [within_cons, ih later]

theorem le_of_mem_coalesceFrom (sorted : ((low, high) :: rest).Pairwise fun a b => a.1 ≤ b.1)
    {range : Nat × Nat} (member : range ∈ coalesceFrom low high rest) : low ≤ range.1 := by
  induction rest generalizing low high with
  | nil =>
    obtain rfl := List.mem_singleton.mp member
    exact Nat.le_refl low
  | cons next rest ih =>
    obtain ⟨low', high'⟩ := next
    obtain ⟨first, later⟩ := List.pairwise_cons.mp sorted
    have start : low ≤ low' := first _ List.mem_cons_self
    rw [coalesceFrom] at member
    split at member
    · exact ih (pairwise_joined sorted _) member
    · rcases List.mem_cons.mp member with rfl | inside
      · exact Nat.le_refl _
      · exact Nat.le_trans start (ih later inside)

theorem ascending_coalesceFrom (sorted : ((low, high) :: rest).Pairwise fun a b => a.1 ≤ b.1)
    (filled : ∀ range ∈ (low, high) :: rest, range.1 ≤ range.2) :
    Ascending (coalesceFrom low high rest) := by
  induction rest generalizing low high with
  | nil =>
    rw [coalesceFrom]
    exact ⟨List.pairwise_singleton _ _, filled⟩
  | cons next rest ih =>
    obtain ⟨low', high'⟩ := next
    obtain ⟨first, later⟩ := List.pairwise_cons.mp sorted
    obtain ⟨own, filled'⟩ := List.forall_mem_cons.mp filled
    rw [coalesceFrom]
    split
    · apply ih (pairwise_joined sorted _)
      refine List.forall_mem_cons.mpr ⟨?_, (List.forall_mem_cons.mp filled').2⟩
      exact Nat.le_trans own (Nat.le_max_left _ _)
    · next between =>
      refine Ascending.cons_iff.mpr ⟨?_, own, ih later filled'⟩
      intro range member
      have start := le_of_mem_coalesceFrom later member
      omega

end Coalescing

def sortedRanges (ranges : List (Nat × Nat)) : List (Nat × Nat) :=
  (ranges.filter fun range => decide (range.1 ≤ range.2)).mergeSort fun a b => decide (a.1 ≤ b.1)

theorem pairwise_sortedRanges (ranges : List (Nat × Nat)) :
    (sortedRanges ranges).Pairwise fun a b => a.1 ≤ b.1 := by
  have sorted : (sortedRanges ranges).Pairwise fun a b => decide (a.1 ≤ b.1) = true := by
    apply List.pairwise_mergeSort
    · simp
      omega
    · simp
      omega
  simpa using sorted

theorem mem_sortedRanges {range : Nat × Nat} :
    range ∈ sortedRanges ranges ↔ range ∈ ranges ∧ range.1 ≤ range.2 := by
  simp [sortedRanges]

theorem within_sortedRanges : Within n (sortedRanges ranges) ↔ Within n ranges := by
  constructor
  · rintro ⟨range, member, bounds⟩
    exact ⟨range, (mem_sortedRanges.mp member).1, bounds⟩
  · rintro ⟨range, member, bounds⟩
    exact ⟨range, mem_sortedRanges.mpr ⟨member, Nat.le_trans bounds.1 bounds.2⟩, bounds⟩

theorem within_ofRanges : Within n (ofRanges ranges).ranges ↔ Within n ranges := by
  have sorted := pairwise_sortedRanges ranges
  refine Iff.trans ?_ within_sortedRanges
  change Within n (coalesce (sortedRanges ranges)) ↔ _
  cases listed : sortedRanges ranges with
  | nil => rfl
  | cons first rest =>
    rw [listed] at sorted
    rw [coalesce, within_coalesceFrom sorted, within_cons]

theorem ascending_ofRanges (ranges : List (Nat × Nat)) : Ascending (ofRanges ranges).ranges := by
  have sorted := pairwise_sortedRanges ranges
  have filled : ∀ range ∈ sortedRanges ranges, range.1 ≤ range.2 :=
    fun range member => (mem_sortedRanges.mp member).2
  change Ascending (coalesce (sortedRanges ranges))
  cases listed : sortedRanges ranges with
  | nil => exact ⟨List.Pairwise.nil, by simp [coalesce]⟩
  | cons first rest =>
    rw [listed] at sorted filled
    exact ascending_coalesceFrom sorted filled

theorem mem_union (a b : CharSet) (c : Char) : (a.union b).mem c = (a.mem c || b.mem c) := by
  rw [Bool.eq_iff_iff, Bool.or_eq_true, mem_iff, mem_iff, mem_iff, union, within_ofRanges,
    within_append]

theorem mem_ofChars (chars : List Char) (c : Char) : (ofChars chars).mem c = true ↔ c ∈ chars := by
  rw [mem_iff, ofChars, within_ofRanges]
  constructor
  · rintro ⟨_, member, bounds⟩
    obtain ⟨a, listed, rfl⟩ := List.mem_map.mp member
    have same : c = a := Char.toNat_inj.mp (Nat.le_antisymm bounds.2 bounds.1)
    exact same ▸ listed
  · intro listed
    exact ⟨_, List.mem_map_of_mem listed, Nat.le_refl _, Nat.le_refl _⟩

section Complement

/-- A number that is the code point of a character. -/
theorem isValidChar_toNat (c : Char) : c.toNat.isValidChar := c.valid

theorem within_gap (valid : n.isValidChar) : Within n (gap low high) ↔ low ≤ n ∧ n ≤ high := by
  rw [Nat.isValidChar] at valid
  rw [gap]
  split <;> split <;> split <;> simp [Within] <;> omega

theorem within_gapsFrom (valid : n.isValidChar) {next : Nat} (ascending : Ascending ranges)
    (ahead : ∀ range ∈ ranges, next ≤ range.1) :
    Within n (gapsFrom next ranges) ↔ next ≤ n ∧ ¬ Within n ranges := by
  induction ranges generalizing next with
  | nil =>
    rw [gapsFrom, within_gap valid]
    have top : n ≤ last := by
      rw [Nat.isValidChar] at valid
      simp only [last]
      omega
    simp [Within, top]
  | cons range rest ih =>
    obtain ⟨low, high⟩ := range
    obtain ⟨after, own, ascending⟩ := Ascending.cons_iff.mp ascending
    have start : next ≤ low := ahead _ List.mem_cons_self
    have later := ih ascending after
    rw [gapsFrom, within_cons]
    split
    · rw [within_append, within_gap valid, later]
      have before : n < low → ¬ Within n rest := by
        rintro less ⟨range, member, bounds⟩
        have := after range member
        omega
      grind
    · rw [later]
      grind

theorem mem_complement (set : CharSet) (c : Char) : set.complement.mem c = !set.mem c := by
  rw [Bool.eq_iff_iff, Bool.not_eq_true', ← Bool.not_eq_true, mem_iff, mem_iff, complement,
    within_gapsFrom (isValidChar_toNat c) (ascending_ofRanges _) fun _ _ => Nat.zero_le _,
    within_ofRanges]
  simp

end Complement

theorem mem_inter (a b : CharSet) (c : Char) : (a.inter b).mem c = (a.mem c && b.mem c) := by
  simp [inter, mem_complement, mem_union]

theorem mem_difference (a b : CharSet) (c : Char) :
    (a.difference b).mem c = (a.mem c && !b.mem c) := by
  rw [difference, mem_inter, mem_complement]

theorem mem_blankRanges (c : Char) : (⟨Text.blankRanges⟩ : CharSet).mem c = Text.isBlank c := by
  rw [Bool.eq_iff_iff]
  simp [mem, Text.blankRanges, Text.isBlank]
  omega

end FieldRules.CharSet
