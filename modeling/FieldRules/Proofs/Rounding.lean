import Mathlib.Algebra.Order.Ring.Int
import FieldRules.Number.Binary64

/-! Rounding of integers to binary64. An integer goes to the nearest one with 53 significant
bits, and of two equally near to the even multiple of their spacing. The spacing is one up to
`2 ^ 53` and doubles with every further bit, so small integers stay as they are, rounding keeps
the order, and two integers become one only if both are large and lie close together. -/
namespace FieldRules.Binary64

/-- How far apart the integers with 53 significant bits are around a natural. -/
def spacing (n : Nat) : Nat := 2 ^ (n.log2 - 52)

/-- The multiple of a step nearest to a natural; a tie goes to the even multiple. -/
def nearestMultiple (n step : Nat) : Nat :=
  let below := n / step * step
  if 2 * (n - below) < step then below
  else if step < 2 * (n - below) then below + step
  else if n / step % 2 = 0 then below else below + step

/-- The natural with 53 significant bits nearest to a natural. -/
def nearest (n : Nat) : Nat := nearestMultiple n (spacing n)

/-- The integer with 53 significant bits nearest to an integer. -/
def rounded (n : Int) : Int := n.sign * nearest n.natAbs

section Multiples

variable {a b n step : Nat}

theorem nearestMultiple_bounds (n step : Nat) :
    n / step * step ≤ nearestMultiple n step ∧
      nearestMultiple n step ≤ n / step * step + step := by
  rw [nearestMultiple]
  split_ifs <;> omega

theorem nearestMultiple_of_dvd (divides : step ∣ n) : nearestMultiple n step = n := by
  have whole : n / step * step = n := Nat.div_mul_cancel divides
  rw [nearestMultiple, whole]
  rw [Nat.sub_self, Nat.mul_zero]
  rcases Nat.eq_zero_or_pos step with rfl | positive
  · obtain rfl : n = 0 := by simpa using divides
    simp
  · rw [if_pos positive]

theorem nearestMultiple_error (positive : 0 < step) (n : Nat) :
    2 * n ≤ 2 * nearestMultiple n step + step ∧ 2 * nearestMultiple n step ≤ 2 * n + step := by
  have rest : n / step * step + n % step = n := Nat.div_add_mod' n step
  have short : n % step < step := Nat.mod_lt n positive
  rw [nearestMultiple]
  split_ifs <;> omega

theorem nearestMultiple_mono (positive : 0 < step) (le : a ≤ b) :
    nearestMultiple a step ≤ nearestMultiple b step := by
  have quotients : a / step ≤ b / step := Nat.div_le_div_right le
  rcases Nat.eq_or_lt_of_le quotients with same | less
  · rw [nearestMultiple, nearestMultiple, same]
    split_ifs <;> omega
  · calc nearestMultiple a step ≤ a / step * step + step := (nearestMultiple_bounds a step).2
      _ = (a / step + 1) * step := by rw [Nat.add_one_mul]
      _ ≤ b / step * step := Nat.mul_le_mul_right step less
      _ ≤ nearestMultiple b step := (nearestMultiple_bounds b step).1

end Multiples

section Naturals

variable {n : Nat}

theorem spacing_pos (n : Nat) : 0 < spacing n := Nat.two_pow_pos _

theorem nearest_of_log2_le (small : n.log2 ≤ 52) : nearest n = n := by
  have one : spacing n = 1 := by rw [spacing, Nat.sub_eq_zero_of_le small, Nat.pow_zero]
  rw [nearest, one, nearestMultiple_of_dvd (Nat.one_dvd n)]

theorem nearest_of_small (small : n ≤ 2 ^ 53) : nearest n = n := by
  rcases Nat.eq_or_lt_of_le small with rfl | less
  · decide +kernel
  · rcases Nat.eq_zero_or_pos n with rfl | positive
    · decide
    · have bits : n.log2 < 53 := (Nat.log2_lt positive.ne').mpr less
      exact nearest_of_log2_le (by omega)

/-- Rounding leaves a natural between the powers of two around it. -/
theorem nearest_between_powers (nonzero : n ≠ 0) :
    2 ^ n.log2 ≤ nearest n ∧ nearest n ≤ 2 ^ (n.log2 + 1) := by
  have lower : 2 ^ n.log2 ≤ n := Nat.log2_self_le nonzero
  have upper : n < 2 ^ (n.log2 + 1) := Nat.lt_log2_self
  rcases Nat.le_total n.log2 52 with small | large
  · rw [nearest_of_log2_le small]
    exact ⟨lower, upper.le⟩
  · have first : 2 ^ n.log2 = 2 ^ 52 * spacing n := by
      rw [spacing, ← Nat.pow_add]
      congr 1
      omega
    have last : 2 ^ (n.log2 + 1) = 2 ^ 53 * spacing n := by
      rw [Nat.pow_succ, first]
      omega
    have least : 2 ^ 52 ≤ n / spacing n := by
      rw [Nat.le_div_iff_mul_le (spacing_pos n), ← first]
      exact lower
    have most : n / spacing n < 2 ^ 53 := by
      rw [Nat.div_lt_iff_lt_mul (spacing_pos n), ← last]
      exact upper
    obtain ⟨below, above⟩ := nearestMultiple_bounds n (spacing n)
    constructor
    · rw [first]
      exact (Nat.mul_le_mul_right _ least).trans below
    · rw [last]
      refine above.trans ?_
      rw [← Nat.add_one_mul]
      exact Nat.mul_le_mul_right _ most

theorem log2_mono {a b : Nat} (nonzero : a ≠ 0) (le : a ≤ b) : a.log2 ≤ b.log2 := by
  have later : b ≠ 0 := by omega
  rw [Nat.le_log2 later]
  exact (Nat.log2_self_le nonzero).trans le

/-- The spacing may change between two naturals; there is a power of two between them then. -/
theorem nearest_mono {a b : Nat} (le : a ≤ b) : nearest a ≤ nearest b := by
  rcases Nat.eq_zero_or_pos a with rfl | positive
  · rw [nearest_of_small (Nat.zero_le _)]
    exact Nat.zero_le _
  · have nonzero : a ≠ 0 := positive.ne'
    rcases Nat.eq_or_lt_of_le (log2_mono nonzero le) with same | less
    · have grid : spacing a = spacing b := by rw [spacing, spacing, same]
      rw [nearest, nearest, grid]
      exact nearestMultiple_mono (spacing_pos b) le
    · have later : b ≠ 0 := by omega
      calc nearest a ≤ 2 ^ (a.log2 + 1) := (nearest_between_powers nonzero).2
        _ ≤ 2 ^ b.log2 := Nat.pow_le_pow_right Nat.two_pos less
        _ ≤ nearest b := (nearest_between_powers later).1

theorem nearest_error (fits : n < 2 ^ 64) : n ≤ nearest n + 1024 ∧ nearest n ≤ n + 1024 := by
  have step : spacing n ≤ 2 ^ 11 := by
    rcases Nat.eq_zero_or_pos n with rfl | positive
    · decide
    · have bits : n.log2 < 64 := (Nat.log2_lt positive.ne').mpr fits
      exact Nat.pow_le_pow_right Nat.two_pos (by omega)
  have error : 2 * n ≤ 2 * nearest n + spacing n ∧ 2 * nearest n ≤ 2 * n + spacing n :=
    nearestMultiple_error (spacing_pos n) n
  omega

end Naturals

section Conversion

variable {n : Nat}

def oneUnits : Nat := 2 ^ (-minExponent).toNat

theorem oneUnits_pos : 0 < oneUnits := Nat.two_pow_pos _

theorem units_mk (negative : Bool) (significand : Nat) (exponent : Int) :
    (⟨negative, significand, exponent⟩ : Binary64).units =
      (if negative then -1 else 1) *
        ((significand * 2 ^ (exponent - minExponent).toNat : Nat) : Int) := by
  rw [units, Nat.shiftLeft_eq]
  cases negative <;> simp

theorem gridExponent_one (nonzero : n ≠ 0) : gridExponent n 1 = (n.log2 : Int) - 52 := by
  have lower : 2 ^ n.log2 ≤ n := Nat.log2_self_le nonzero
  have first : max ((n.log2 : Int) - (Nat.log2 1 : Int) - 53) minExponent = (n.log2 : Int) - 53 := by
    rw [show Nat.log2 1 = 0 by decide, minExponent]
    omega
  -- the first guess is a grid on which the number has 54 bits
  have full : 1 <<< 53 ≤ (gridSteps n 1 ((n.log2 : Int) - 53)).1 := by
    rw [gridSteps, Nat.shiftLeft_eq, Nat.shiftLeft_eq, Nat.shiftLeft_eq, Nat.one_mul, Nat.one_mul]
    rcases Nat.le_total n.log2 53 with few | many
    · have up : (-((n.log2 : Int) - 53)).toNat = 53 - n.log2 := by omega
      have none : ((n.log2 : Int) - 53).toNat = 0 := by omega
      rw [up, none, Nat.pow_zero, Nat.div_one]
      calc 2 ^ 53 = 2 ^ n.log2 * 2 ^ (53 - n.log2) := by rw [← Nat.pow_add]; congr 1; omega
        _ ≤ n * 2 ^ (53 - n.log2) := Nat.mul_le_mul_right _ lower
    · have none : (-((n.log2 : Int) - 53)).toNat = 0 := by omega
      have down : ((n.log2 : Int) - 53).toNat = n.log2 - 53 := by omega
      rw [none, down, Nat.pow_zero, Nat.mul_one, Nat.le_div_iff_mul_le (Nat.two_pow_pos _),
        ← Nat.pow_add]
      refine Nat.le_trans (Nat.pow_le_pow_right Nat.two_pos ?_) lower
      omega
  rw [gridExponent, first, if_neg (Nat.not_lt.mpr full)]
  omega

/-- On a grid of whole steps the nearest step gives the nearest multiple. -/
theorem nearestStep_mul (n bits : Nat) :
    nearestStep n 1 bits * 2 ^ bits = nearestMultiple n (2 ^ bits) := by
  have rest : n / 2 ^ bits * 2 ^ bits + n % 2 ^ bits = n := Nat.div_add_mod' n (2 ^ bits)
  have same : n - n / 2 ^ bits * 2 ^ bits = n % 2 ^ bits := by omega
  have grid : gridSteps n 1 bits = (n / 2 ^ bits, 2 * (n % 2 ^ bits), 2 ^ bits) := by
    rw [gridSteps, Int.toNat_natCast, show (-(bits : Int)).toNat = 0 by omega]
    simp only [Nat.shiftLeft_eq, Nat.pow_zero, Nat.mul_one, Nat.one_mul]
  rw [nearestStep, grid, nearestMultiple, same]
  dsimp only
  split_ifs <;> simp only [Nat.add_one_mul]

/-- On a grid finer than the integers every natural is a step. -/
theorem nearestStep_of_small (n bits : Nat) : nearestStep n 1 (-(bits : Int)) = n * 2 ^ bits := by
  have grid : gridSteps n 1 (-(bits : Int)) = (n * 2 ^ bits, 0, 1) := by
    rw [gridSteps, Int.neg_neg, Int.toNat_natCast, show (-(bits : Int)).toNat = 0 by omega]
    simp [Nat.shiftLeft_eq, Nat.mod_one]
  rw [nearestStep, grid]
  rfl

/-- A quotient within the range is the nearest step of its grid. -/
theorem exists_ofRatio {num den : Nat} (nonzero : num ≠ 0)
    (least : minExponent ≤ gridExponent num den) (most : gridExponent num den < maxExponent)
    (steps : nearestStep num den (gridExponent num den) ≤ 2 ^ 53) (negative : Bool) :
    ∃ x, ofRatio negative num den = some x ∧ x.units = (if negative then -1 else 1) *
      ((nearestStep num den (gridExponent num den) *
        2 ^ (gridExponent num den - minExponent).toNat : Nat) : Int) := by
  rw [ofRatio, if_neg nonzero]
  dsimp only
  rcases Nat.lt_or_eq_of_le steps with few | last
  · rw [if_pos (by simpa using few), if_pos most.le]
    exact ⟨_, rfl, units_mk _ _ _⟩
  · have half : nearestStep num den (gridExponent num den) / 2 = 2 ^ 52 := by
      rw [last]
      rfl
    have next : (gridExponent num den + 1 - minExponent).toNat =
        (gridExponent num den - minExponent).toNat + 1 := by omega
    rw [if_neg (by simp [last]), if_pos (by omega)]
    refine ⟨_, rfl, ?_⟩
    have doubled (k : Nat) : 2 ^ 52 * 2 ^ (k + 1) = 2 ^ 53 * 2 ^ k := by
      rw [Nat.pow_succ]
      omega
    rw [units_mk, half, next, last, doubled]

/-- What the steps of the grid of a natural come to, in units. -/
theorem nearestStep_units (nonzero : n ≠ 0) :
    nearestStep n 1 (gridExponent n 1) ≤ 2 ^ 53 ∧
      nearestStep n 1 (gridExponent n 1) * 2 ^ (gridExponent n 1 - minExponent).toNat =
        nearest n * oneUnits := by
  obtain ⟨_, upper⟩ := nearest_between_powers nonzero
  rw [gridExponent_one nonzero, oneUnits, minExponent]
  rcases Nat.le_total n.log2 52 with small | large
  · have finer : (n.log2 : Int) - 52 = -((52 - n.log2 : Nat) : Int) := by omega
    rw [nearest_of_log2_le small] at upper ⊢
    rw [finer, nearestStep_of_small]
    constructor
    · calc n * 2 ^ (52 - n.log2) ≤ 2 ^ (n.log2 + 1) * 2 ^ (52 - n.log2) :=
          Nat.mul_le_mul_right _ upper
        _ = 2 ^ 53 := by rw [← Nat.pow_add]; congr 1; omega
    · rw [Nat.mul_assoc, ← Nat.pow_add]
      congr 2
      omega
  · have coarser : (n.log2 : Int) - 52 = ((n.log2 - 52 : Nat) : Int) := by omega
    rw [nearest, spacing, ← nearestStep_mul] at upper ⊢
    rw [coarser]
    constructor
    · refine Nat.le_of_mul_le_mul_right (upper.trans ?_) (Nat.two_pow_pos (n.log2 - 52))
      rw [← Nat.pow_add]
      exact Nat.pow_le_pow_right Nat.two_pos (by omega)
    · rw [Nat.mul_assoc, ← Nat.pow_add]
      congr 2

end Conversion

section Integers

variable {a b n : Int}

theorem rounded_natCast (n : Nat) : rounded n = nearest n := by
  cases n with
  | zero => rfl
  | succ n =>
    rw [rounded, Int.sign_natCast_of_ne_zero n.succ_ne_zero, Int.one_mul, Int.natAbs_natCast]

theorem rounded_neg (n : Int) : rounded (-n) = -rounded n := by
  rw [rounded, rounded, Int.sign_neg, Int.natAbs_neg, Int.neg_mul]

theorem rounded_cases (n : Int) :
    (0 ≤ n ∧ rounded n = nearest n.natAbs) ∨ (n < 0 ∧ rounded n = -nearest n.natAbs) := by
  rcases Int.lt_or_le n 0 with sign | sign
  · obtain ⟨k, rfl⟩ := Int.exists_eq_neg_ofNat sign.le
    exact .inr ⟨sign, by rw [rounded_neg, rounded_natCast, Int.natAbs_neg, Int.natAbs_natCast]⟩
  · obtain ⟨k, rfl⟩ := Int.eq_ofNat_of_zero_le sign
    exact .inl ⟨sign, rounded_natCast k⟩

theorem rounded_mono (le : a ≤ b) : rounded a ≤ rounded b := by
  rcases rounded_cases a with ⟨sign, value⟩ | ⟨sign, value⟩ <;>
    rcases rounded_cases b with ⟨sign', value'⟩ | ⟨sign', value'⟩
  · have order : nearest a.natAbs ≤ nearest b.natAbs := nearest_mono (by omega)
    omega
  · omega
  · omega
  · have order : nearest b.natAbs ≤ nearest a.natAbs := nearest_mono (by omega)
    omega

theorem rounded_le_iff : rounded a ≤ rounded b ↔ a ≤ b ∨ rounded a = rounded b := by
  constructor
  · intro le
    rcases Int.le_total a b with order | order
    · exact .inl order
    · exact .inr (Int.le_antisymm le (rounded_mono order))
  · rintro (order | same)
    · exact rounded_mono order
    · exact Int.le_of_eq same

/-- An integer of less than 54 bits is one with itself alone. -/
theorem rounded_eq_iff_of_small (small : a.natAbs < 2 ^ 53) : rounded a = rounded b ↔ a = b := by
  constructor
  · intro same
    have exact_a : nearest a.natAbs = a.natAbs := nearest_of_small small.le
    have close : b.natAbs < 2 ^ 53 := by
      by_contra large
      have least : nearest (2 ^ 53) ≤ nearest b.natAbs := nearest_mono (Nat.not_lt.mp large)
      rw [nearest_of_small (Nat.le_refl _)] at least
      rcases rounded_cases a with ⟨_, value⟩ | ⟨_, value⟩ <;>
        rcases rounded_cases b with ⟨_, value'⟩ | ⟨_, value'⟩ <;> omega
    have exact_b : nearest b.natAbs = b.natAbs := nearest_of_small close.le
    rcases rounded_cases a with ⟨_, value⟩ | ⟨_, value⟩ <;>
      rcases rounded_cases b with ⟨_, value'⟩ | ⟨_, value'⟩ <;> omega
  · rintro rfl
    rfl

/-- Integers of 64 bits that become one differ by one spacing at most. -/
theorem near_of_rounded_eq (fits : a.natAbs < 2 ^ 64) (fits' : b.natAbs < 2 ^ 64)
    (same : rounded a = rounded b) : (a - b).natAbs ≤ 2048 := by
  have error := nearest_error fits
  have error' := nearest_error fits'
  rcases rounded_cases a with ⟨_, value⟩ | ⟨_, value⟩ <;>
    rcases rounded_cases b with ⟨_, value'⟩ | ⟨_, value'⟩ <;> omega

/-- A natural of 64 bits with a sign, as a binary64 number. -/
theorem exists_ofRatio_one {n : Nat} (fits : n < 2 ^ 64) (negative : Bool) :
    ∃ x, ofRatio negative n 1 = some x ∧
      x.units = rounded (if negative then -(n : Int) else n) * oneUnits := by
  have signed : rounded (if negative then -(n : Int) else n) =
      (if negative then -1 else 1) * (nearest n : Int) := by
    cases negative with
    | false => simp [rounded_natCast]
    | true => simp [rounded_neg, rounded_natCast]
  rw [signed, Int.mul_assoc, ← Nat.cast_mul]
  rcases Nat.eq_zero_or_pos n with rfl | positive
  · refine ⟨zero negative, rfl, ?_⟩
    rw [zero, units_mk, nearest_of_small (Nat.zero_le _), Nat.zero_mul, Nat.zero_mul]
  · have nonzero : n ≠ 0 := positive.ne'
    have bits : n.log2 < 64 := (Nat.log2_lt nonzero).mpr fits
    have exponent := gridExponent_one nonzero
    obtain ⟨steps, same⟩ := nearestStep_units nonzero
    have least : minExponent ≤ gridExponent n 1 := by
      rw [exponent, minExponent]
      omega
    have most : gridExponent n 1 < maxExponent := by
      rw [exponent, maxExponent]
      omega
    obtain ⟨x, made, value⟩ := exists_ofRatio nonzero least most steps negative
    exact ⟨x, made, by rw [value, same]⟩

/-- An integer of 64 bits as a binary64 number. -/
theorem exists_ofInt? (fits : n.natAbs < 2 ^ 64) :
    ∃ x, ofInt? n = some x ∧ x.units = rounded n * oneUnits := by
  obtain ⟨x, made, value⟩ := exists_ofRatio_one fits (decide (n < 0))
  have signed : (if decide (n < 0) then -(n.natAbs : Int) else n.natAbs) = n := by
    simp only [decide_eq_true_eq]
    split_ifs <;> omega
  exact ⟨x, made, by rw [value, signed]⟩

theorem le_of_rounded {x y : Binary64} (value : x.units = rounded a * oneUnits)
    (value' : y.units = rounded b * oneUnits) : x.le y = true ↔ rounded a ≤ rounded b := by
  have positive : (0 : Int) < oneUnits := Int.natCast_pos.mpr oneUnits_pos
  rw [le, decide_eq_true_eq, value, value', Int.mul_le_mul_iff_of_pos_right positive]

end Integers

end FieldRules.Binary64
