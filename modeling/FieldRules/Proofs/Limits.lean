import FieldRules.Proofs.BuiltinMessages
import FieldRules.Proofs.DocumentBuild
import FieldRules.Proofs.PatternCache
import FieldRules.Proofs.Rounding

/-! Limits on the size of a value. A rule with two limits says what the two rules with one of
them say together, about the parameters as well as about the value. Sizes and limits are
compared as binary64 numbers, so an integer is compared with a limit as the two are after
rounding: the answer is that of the integers unless both are large and round to one number. -/
namespace FieldRules

namespace Numeral

open Binary64 (ofDecimal ofRatio digitCount rounded oneUnits exists_ofRatio_one)

variable {text digits : List Char} {negative : Bool} {n : Int}

/-- A numeral without a point and an exponent has the value of its digits. -/
theorem read?_of_decimal (taken : takeSign text = (negative, digits)) (decimal : Decimal digits) :
    read? text = ofDecimal negative (ofDigits digits) 0 := by
  obtain ⟨nonempty, all⟩ := decimal
  have whole : digits.takeWhile isDigit = digits := List.takeWhile_eq_self_iff.mpr all
  have rest : digits.dropWhile isDigit = [] := List.dropWhile_eq_nil_iff.mpr all
  have some_digit : digits.isEmpty = false := List.isEmpty_eq_false_iff.mpr nonempty
  simp [read?, taken, whole, rest, some_digit, exponent?]

theorem ofDecimal_of_small {n : Nat} (fits : n < 2 ^ 64) (negative : Bool) :
    ofDecimal negative n 0 = ofRatio negative n 1 := by
  rcases Nat.eq_zero_or_pos n with rfl | positive
  · rfl
  · have few : digitCount n ≤ 20 := by
      rw [digitCount, Nat.length_toDigits_le_iff (by decide) (by decide)]
      exact fits.trans (by decide)
    rw [ofDecimal, if_neg positive.ne']
    simp only [Int.zero_add]
    rw [if_neg (by omega), if_neg (by omega)]
    simp

theorem exists_read? (read : int? text = some n) (fits : n.natAbs < 2 ^ 64) :
    ∃ x, read? text = some x ∧ x.units = rounded n * oneUnits := by
  cases taken : takeSign text with
  | mk negative digits =>
    obtain ⟨decimal, rfl⟩ := (int?_of_takeSign taken n).mp read
    have fits : ofDigits digits < 2 ^ 64 := by
      cases negative <;> simpa using fits
    rw [read?_of_decimal taken decimal, ofDecimal_of_small fits]
    exact exists_ofRatio_one fits negative

end Numeral

namespace Verdict

/-- A verdict says what two others say together. -/
structure Joint (both first second : Verdict) : Prop where
  invalid_iff : (∃ why, both = .invalid why) ↔
    (∃ why, first = .invalid why) ∨ ∃ why, second = .invalid why
  pass_iff : both = .pass ↔ first = .pass ∧ second = .pass
  fail_iff : both = .fail ↔ (∀ why, first ≠ .invalid why) ∧ (∀ why, second ≠ .invalid why) ∧
    ¬ (first = .pass ∧ second = .pass)

variable {first second : Verdict}

theorem Joint.of_invalid (why : Misuse)
    (either : (∃ why, first = .invalid why) ∨ ∃ why, second = .invalid why) :
    Joint (.invalid why) first second where
  invalid_iff := ⟨fun _ => either, fun _ => ⟨why, rfl⟩⟩
  pass_iff := by rcases either with ⟨_, rfl⟩ | ⟨_, rfl⟩ <;> simp
  fail_iff := by rcases either with ⟨_, rfl⟩ | ⟨_, rfl⟩ <;> simp

theorem Joint.of_ofBool (a b : Bool) : Joint (ofBool (a && b)) (ofBool a) (ofBool b) where
  invalid_iff := by cases a <;> cases b <;> simp [ofBool]
  pass_iff := by cases a <;> cases b <;> simp [ofBool]
  fail_iff := by cases a <;> cases b <;> simp [ofBool]

end Verdict

namespace Builtin

open Binary64 (rounded oneUnits exists_ofInt? le_of_rounded rounded_le_iff rounded_eq_iff_of_small
  near_of_rounded_eq)

section Measures

variable {value : Json} {params : List String} {low high : Binary64}

theorem bound_good (rule : Builtin) (holds : Binary64 → Binary64 → Bool)
    (read : Numeral.read? (params[0]?.getD "").toList = some low) :
    bound rule holds value params = (measure value).map fun size => holds size low := by
  rw [bound, numberParam, read]
  cases measure value <;> rfl

theorem within_good (read : Numeral.read? (params[0]?.getD "").toList = some low)
    (read' : Numeral.read? (params[1]?.getD "").toList = some high) :
    within value params = (measure value).map fun size => low.le size && size.le high := by
  rw [within, numberParam, read, numberParam, read']
  cases measure value <;> rfl

end Measures

section Limits

variable {low high : String}

theorem exists_limits (good : [low, high].find? notNumber = none) :
    ∃ least most, Numeral.read? low.toList = some least ∧ Numeral.read? high.toList = some most := by
  have number {text : String} (listed : text ∈ [low, high]) :
      ∃ limit, Numeral.read? text.toList = some limit := by
    have read : ¬ notNumber text = true := List.find?_eq_none.mp good text listed
    rwa [notNumber, Bool.not_eq_true, Option.isNone_eq_false_iff, Option.isSome_iff_exists] at read
  obtain ⟨least, read⟩ := number (List.mem_cons.mpr (.inl rfl))
  obtain ⟨most, read'⟩ := number (List.mem_cons_of_mem low (List.mem_singleton.mpr rfl))
  exact ⟨least, most, read, read'⟩

/-- What comes of the three rules if their limits are numbers. -/
theorem evaluate_limits (value : Json) {least most : Binary64}
    (read : Numeral.read? low.toList = some least)
    (read' : Numeral.read? high.toList = some most) :
    Builtin.min.evaluate value [low] = .ofExcept ((measure value).map fun size => least.le size) ∧
      Builtin.max.evaluate value [high] =
        .ofExcept ((measure value).map fun size => size.le most) ∧
      Builtin.between.evaluate value [low, high] =
        .ofExcept ((measure value).map fun size => least.le size && size.le most) :=
  ⟨congrArg Verdict.ofExcept (bound_good .min _ read),
    congrArg Verdict.ofExcept (bound_good .max _ read'),
    congrArg Verdict.ofExcept (within_good read read')⟩

theorem evaluate_badLimit {text : String} (bad : [low, high].find? notNumber = some text)
    (value : Json) :
    Builtin.between.evaluate value [low, high] = .invalid (.notNumeric "between" text) := by
  have first : Builtin.between.firstBad? [low, high] = some text := bad
  exact evaluate_firstBad first value

theorem joint_between (value : Json) (low high : String) :
    (Builtin.between.evaluate value [low, high]).Joint
      (Builtin.min.evaluate value [low]) (Builtin.max.evaluate value [high]) := by
  cases bad : [low, high].find? notNumber with
  | some text =>
    have wrong : notNumber text = true := List.find?_some bad
    have single {rule : Builtin} (reads : rule.numericTexts [text] = [text]) :
        rule.evaluate value [text] = .invalid (.notNumeric rule.name text) :=
      evaluate_firstBad (by rw [firstBad?, reads, List.find?_cons_of_pos wrong]) value
    have listed : text = low ∨ text = high := by
      simpa using List.mem_of_find?_eq_some bad
    rw [evaluate_badLimit bad]
    refine .of_invalid _ ?_
    rcases listed with rfl | rfl
    · exact .inl ⟨_, single rfl⟩
    · exact .inr ⟨_, single rfl⟩
  | none =>
    obtain ⟨least, most, read, read'⟩ := exists_limits bad
    obtain ⟨first, second, both⟩ := evaluate_limits value read read'
    rw [first, second, both]
    cases measure value with
    | error why => exact .of_invalid why (.inl ⟨why, rfl⟩)
    | ok size => exact .of_ofBool _ _

theorem between_invalid_iff (value : Json) (low high : String) (why : Misuse) :
    Builtin.between.evaluate value [low, high] = .invalid why ↔
      (∃ text, [low, high].find? notNumber = some text ∧ why = .notNumeric "between" text) ∨
        [low, high].find? notNumber = none ∧ value.size? = none ∧ why = .noSize := by
  cases bad : [low, high].find? notNumber with
  | some text =>
    simp [evaluate_badLimit bad, eq_comm]
  | none =>
    obtain ⟨least, most, read, read'⟩ := exists_limits bad
    obtain ⟨_, _, both⟩ := evaluate_limits value read read'
    rw [both, measure]
    cases value.size? with
    | none => simp [Except.map, Verdict.ofExcept, eq_comm]
    | some size => simp [Except.map, Verdict.ofExcept, Verdict.ofBool_ne_invalid]

/-- The rule with two limits says what the rules with one of them say together. It complains
about the first parameter that is no number, whatever the value is, and about a value without a
size if there is no such parameter. A missing parameter reads as the empty text, and those past
the second do not count. -/
theorem between_joins_limits (value : Json) (params : List String) :
    let low := params[0]?.getD ""
    let high := params[1]?.getD ""
    let both := Builtin.between.evaluate value params
    both.Joint (Builtin.min.evaluate value [low]) (Builtin.max.evaluate value [high]) ∧
      (∀ why, both = .invalid why ↔
        (∃ text, [low, high].find? notNumber = some text ∧ why = .notNumeric "between" text) ∨
          [low, high].find? notNumber = none ∧ value.size? = none ∧ why = .noSize) ∧
      ∀ rest, Builtin.between.evaluate value (low :: high :: rest) = both :=
  ⟨joint_between value _ _, between_invalid_iff value _ _, fun _ => rfl⟩

example : Builtin.between.evaluate (.bool true) ["18"] = .invalid (.notNumeric "between" "") := by
  decide

end Limits

section Integers

variable {n low high : Int} {lowText highText : String}

/-- The integers of 64 bits, with or without a sign. -/
def Fits (n : Int) : Prop := -2 ^ 63 ≤ n ∧ n < 2 ^ 64

theorem Fits.natAbs_lt (fits : Fits n) : n.natAbs < 2 ^ 64 := by
  obtain ⟨lower, upper⟩ := fits
  omega

theorem measure_integer (fits : Fits n) :
    ∃ size, measure (.integer n) = .ok size ∧ size.units = rounded n * oneUnits := by
  obtain ⟨size, made, units⟩ := exists_ofInt? fits.natAbs_lt
  exact ⟨size, by rw [measure, Json.size?, made], units⟩

/-- What comes of the three rules on integers: the comparison of the rounded ones. -/
theorem evaluate_integers (fits : Fits n) (fits_low : Fits low) (fits_high : Fits high)
    (read : Numeral.int? lowText.toList = some low)
    (read' : Numeral.int? highText.toList = some high) :
    Builtin.min.evaluate (.integer n) [lowText] = .ofBool (decide (rounded low ≤ rounded n)) ∧
      Builtin.max.evaluate (.integer n) [highText] = .ofBool (decide (rounded n ≤ rounded high)) ∧
      Builtin.between.evaluate (.integer n) [lowText, highText] =
        .ofBool (decide (rounded low ≤ rounded n) && decide (rounded n ≤ rounded high)) := by
  obtain ⟨size, sized, units⟩ := measure_integer fits
  obtain ⟨least, made, units_least⟩ := Numeral.exists_read? read fits_low.natAbs_lt
  obtain ⟨most, made', units_most⟩ := Numeral.exists_read? read' fits_high.natAbs_lt
  have above : least.le size = decide (rounded low ≤ rounded n) :=
    Bool.eq_iff_iff.mpr ((le_of_rounded units_least units).trans decide_eq_true_iff.symm)
  have below : size.le most = decide (rounded n ≤ rounded high) :=
    Bool.eq_iff_iff.mpr ((le_of_rounded units units_most).trans decide_eq_true_iff.symm)
  obtain ⟨first, second, both⟩ := evaluate_limits (.integer n) made made'
  rw [first, second, both, sized, ← above, ← below]
  exact ⟨rfl, rfl, rfl⟩

/-- Integers that round to one number are the same, or both are large and lie close together. -/
theorem eq_or_near (fits : Fits n) (fits' : Fits low) (same : rounded low = rounded n) :
    low = n ∨ 2 ^ 53 ≤ low.natAbs ∧ 2 ^ 53 ≤ n.natAbs ∧ (low - n).natAbs ≤ 2048 := by
  rcases Nat.lt_or_ge low.natAbs (2 ^ 53) with small | large
  · exact .inl ((rounded_eq_iff_of_small small).mp same)
  · rcases Nat.lt_or_ge n.natAbs (2 ^ 53) with small | large'
    · exact .inl ((rounded_eq_iff_of_small small).mp same.symm).symm
    · exact .inr ⟨large, large', near_of_rounded_eq fits'.natAbs_lt fits.natAbs_lt same⟩

/-- Limits on integers hold as they hold of the integers, save that an integer past a limit is
let through if the two round to one binary64 number. This takes an integer and a limit of more
than 53 bits that lie close together; all others are compared exactly. -/
theorem integer_limits (fits : Fits n) (fits_low : Fits low) (fits_high : Fits high)
    (read : Numeral.int? lowText.toList = some low)
    (read' : Numeral.int? highText.toList = some high) :
    (Builtin.min.evaluate (.integer n) [lowText] = .pass ↔ low ≤ n ∨ rounded low = rounded n) ∧
      (Builtin.max.evaluate (.integer n) [highText] = .pass ↔ n ≤ high ∨ rounded n = rounded high) ∧
      (Builtin.between.evaluate (.integer n) [lowText, highText] = .pass ↔
        (low ≤ n ∨ rounded low = rounded n) ∧ (n ≤ high ∨ rounded n = rounded high)) ∧
      (∀ why, Builtin.min.evaluate (.integer n) [lowText] ≠ .invalid why ∧
        Builtin.max.evaluate (.integer n) [highText] ≠ .invalid why ∧
        Builtin.between.evaluate (.integer n) [lowText, highText] ≠ .invalid why) ∧
      ∀ limit, Fits limit →
        (∃ x, Binary64.ofInt? limit = some x ∧ x.units = rounded limit * oneUnits) ∧
          (rounded limit = rounded n → limit = n ∨
            2 ^ 53 ≤ limit.natAbs ∧ 2 ^ 53 ≤ n.natAbs ∧ (limit - n).natAbs ≤ 2048) := by
  obtain ⟨least, most, both⟩ := evaluate_integers fits fits_low fits_high read read'
  rw [least, most, both]
  refine ⟨?_, ?_, ?_, ?_, fun limit fits' => ⟨exists_ofInt? fits'.natAbs_lt, eq_or_near fits fits'⟩⟩
  · rw [Verdict.ofBool_pass_iff, decide_eq_true_iff, rounded_le_iff]
  · rw [Verdict.ofBool_pass_iff, decide_eq_true_iff, rounded_le_iff]
  · rw [Verdict.ofBool_pass_iff, Bool.and_eq_true, decide_eq_true_iff, decide_eq_true_iff,
      rounded_le_iff, rounded_le_iff]
  · intro why
    exact ⟨Verdict.ofBool_ne_invalid _ why, Verdict.ofBool_ne_invalid _ why,
      Verdict.ofBool_ne_invalid _ why⟩

/-- The least integer that rounding moves, as a limit: the integer before it is let through. -/
theorem integer_limits_rounded :
    Fits 9007199254740992 ∧ Fits 9007199254740993 ∧
      Numeral.int? "9007199254740993".toList = some 9007199254740993 ∧
      rounded 9007199254740993 = rounded 9007199254740992 ∧
      Builtin.min.evaluate (.integer 9007199254740992) ["9007199254740993"] = .pass := by
  have fits : Fits 9007199254740992 := ⟨by decide, by decide⟩
  have fits' : Fits 9007199254740993 := ⟨by decide, by decide⟩
  have read : Numeral.int? "9007199254740993".toList = some 9007199254740993 := by decide +kernel
  have same : rounded 9007199254740993 = rounded 9007199254740992 := by decide +kernel
  obtain ⟨least, _⟩ := integer_limits fits fits' fits' read read
  exact ⟨fits, fits', read, same, least.mpr (.inr same)⟩

/-- Large integers are not compared exactly. -/
theorem integer_limits_inexact :
    ¬ ∀ n low high lowText highText, Fits n → Fits low → Fits high →
      Numeral.int? lowText.toList = some low → Numeral.int? highText.toList = some high →
      (Builtin.min.evaluate (.integer n) [lowText] = .pass ↔ low ≤ n) ∧
        (Builtin.max.evaluate (.integer n) [highText] = .pass ↔ n ≤ high) ∧
        (Builtin.between.evaluate (.integer n) [lowText, highText] = .pass ↔
          low ≤ n ∧ n ≤ high) := by
  intro exactly
  have passes : Builtin.min.evaluate (.integer 9007199254740992) ["9007199254740993"] = .pass := by
    decide +kernel
  obtain ⟨least, _⟩ := exactly 9007199254740992 9007199254740993 9007199254740993
    "9007199254740993" "9007199254740993" ⟨by decide, by decide⟩ ⟨by decide, by decide⟩
    ⟨by decide, by decide⟩ (by decide +kernel) (by decide +kernel)
  exact absurd (least.mp passes) (by decide)

end Integers

end Builtin

end FieldRules
