import Mathlib
import Windowing.Duration.Text

set_option autoImplicit false

/-! # Reading a duration setting

A duration setting is trimmed and then read one of two ways: a text that is a decimal integer (with
an optional sign) is a count of milliseconds, anything else is a duration text with units. Negative
values are refused on both ways (`parseSetting_eq_ok_iff`).

The refusal of negative values is checked on the count, before it is scaled to nanoseconds, and the
scaling wraps around like every product of durations. A count is therefore read exactly, and as a
non-negative duration, precisely while its nanoseconds fit a duration, that is up to
9223372036854 milliseconds (`parseSetting_millis_exact_iff`). One millisecond more and the setting
reads as a negative duration (`millis_setting_wraps_negative`). -/

namespace Windowing.Duration

/-- The integer of a duration made from an integer that fits one is that integer. -/
theorem toInt_ofInt_of_fits {x : Int} (h₀ : -2 ^ 63 ≤ x) (h₁ : x < 2 ^ 63) :
    (Int64.ofInt x).toInt = x := by
  rw [Int64.toInt_ofInt]
  exact Int.bmod_eq_of_le (by simp [Int64.size]; omega) (by simp [Int64.size]; omega)

/-- What a duration setting reads as: a decimal integer is a count of milliseconds, refused when
negative and otherwise scaled to nanoseconds with wrap-around; any other text is read as a duration
text, refused when negative. -/
theorem parseSetting_eq_ok_iff {s : String} {d : Duration} :
    parseSetting s = .ok d ↔
      (∃ n, Text.parseDecimalInt64 (Text.trimBlank s) = some n ∧ 0 ≤ n ∧
          d = Int64.ofInt (n * 1000000)) ∨
        (Text.parseDecimalInt64 (Text.trimBlank s) = none ∧ parse (Text.trimBlank s) = .ok d ∧
          0 ≤ d) := by
  dsimp only [parseSetting]
  cases hn : Text.parseDecimalInt64 (Text.trimBlank s) with
  | some n =>
    -- a decimal integer: only the first way can read it
    by_cases hneg : n < 0
    · simp only [if_pos hneg, reduceCtorEq, false_iff, false_and, or_false, Option.some.injEq]
      rintro ⟨_, rfl, h0, -⟩
      omega
    · have hmul : Int64.ofInt n * 1000000 = Int64.ofInt (n * 1000000) := by
        rw [Int64.ofInt_mul]; rfl
      simp only [if_neg hneg, Except.ok.injEq, reduceCtorEq, false_and, or_false,
        Option.some.injEq, hmul]
      constructor
      · rintro rfl; exact ⟨n, rfl, by omega, rfl⟩
      · rintro ⟨_, rfl, -, rfl⟩; rfl
  | none =>
    -- any other text: only the second way can read it
    cases hp : parse (Text.trimBlank s) with
    | error e => simp
    | ok d' =>
      by_cases hneg : d' < 0
      · simp only [if_pos hneg, reduceCtorEq, false_iff, false_and, exists_false, false_or,
          true_and, Except.ok.injEq, not_and]
        rintro rfl
        exact Int64.not_le.2 hneg
      · simp only [if_neg hneg, Except.ok.injEq, reduceCtorEq, false_and, exists_false, false_or,
          true_and]
        constructor
        · rintro rfl; exact ⟨rfl, Int64.not_lt.1 hneg⟩
        · rintro ⟨rfl, -⟩; rfl

/-- A count of milliseconds is read exactly, as a non-negative duration, precisely while its
nanoseconds fit a duration. -/
theorem parseSetting_millis_exact_iff {s : String} {n : Int} {d : Duration}
    (hn : Text.parseDecimalInt64 (Text.trimBlank s) = some n) (h : parseSetting s = .ok d) :
    0 ≤ n ∧ (0 ≤ d ∧ d.toInt = n * 1000000 ↔ n * 1000000 < 2 ^ 63) := by
  obtain ⟨n', hn', h0, rfl⟩ | ⟨hnone, -⟩ := parseSetting_eq_ok_iff.1 h
  · obtain rfl : n' = n := Option.some.inj (hn'.symm.trans hn)
    refine ⟨h0, fun ⟨_, he⟩ => he ▸ Int64.toInt_lt _, fun hfit => ?_⟩
    have hexact := toInt_ofInt_of_fits (by omega) hfit
    exact ⟨Int64.le_iff_toInt_le.2 (by rw [hexact, Int64.toInt_zero]; omega), hexact⟩
  · rw [hn] at hnone
    cases hnone

/-- Past 9223372036854 milliseconds a setting wraps around: 9223372036855 milliseconds read as a
negative duration. -/
theorem millis_setting_wraps_negative :
    ∃ d, parseSetting "9223372036855" = .ok d ∧ d < 0 :=
  ⟨-9223372036854551616, rfl, by decide⟩

end Windowing.Duration
