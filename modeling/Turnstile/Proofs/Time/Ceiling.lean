import Turnstile.Proofs.Number.Nearest
import Turnstile.Time.Instant

/-!
# Whole seconds that cover a span

The count of whole seconds that covers a span of milliseconds goes through one binary64 quotient.
Up to half a million years that quotient is off by less than a millisecond, so rounding it up gives
the count that exact arithmetic gives.
-/

namespace Turnstile.Time

open Number

/-- The longest span, in milliseconds, whose length in seconds lies below the forty-fourth power of
two or meets it. -/
def longestSpan : Nat := 1000 * twoTo 44

/-- A quotient is found where its nearest number is finite. -/
theorem divide?_of_isFinite {numerator : Int} {denominator : Nat}
    (whole : (Binary64.nearest ⟨numerator, denominator⟩).isFinite = true) :
    Binary64.divide? numerator denominator = some (Binary64.nearest ⟨numerator, denominator⟩) := by
  unfold Binary64.divide?
  split
  · rename_i found
    rw [found] at whole
    cases whole
  · rfl

/-- The least count of seconds that covers a span is the least count of thousands. -/
theorem ceilDiv_thousand_bounds (milliseconds : Int) :
    1000 * (ceilDiv milliseconds 1000 - 1) < milliseconds ∧
      milliseconds ≤ 1000 * ceilDiv milliseconds 1000 := by
  unfold ceilDiv
  rw [Int.fdiv_eq_ediv_of_nonneg _ (Int.natCast_nonneg _)]
  push_cast
  omega

/-- Up to the longest span the count of seconds is exact. -/
theorem ceilSeconds?_eq_ceilDiv {milliseconds : Int} (small : milliseconds.natAbs ≤ longestSpan) :
    ceilSeconds? milliseconds = some (ceilDiv milliseconds 1000) := by
  obtain ⟨least, most⟩ := ceilDiv_thousand_bounds milliseconds
  generalize counted : ceilDiv milliseconds 1000 = count at least most
  have found (value : Binary64) (near : Binary64.nearest ⟨milliseconds, 1000⟩ = value)
      (whole : value.isFinite = true) (above : (count : ℚ) - 1 < value.toRat)
      (below : value.toRat ≤ count) : ceilSeconds? milliseconds = some count := by
    have quotient : seconds? milliseconds = some value := by
      rw [seconds?, divide?_of_isFinite (near ▸ whole), near]
    rw [ceilSeconds?, quotient, Option.bind_some, Binary64.ceil?_eq_ceil whole]
    congr 1
    exact Int.ceil_eq_iff.mpr ⟨above, below⟩
  by_cases multiple : milliseconds = 1000 * count
  · have digits : count.natAbs ≤ twoTo 53 := by
      have bound : twoTo 44 ≤ twoTo 53 := by decide
      have size : milliseconds.natAbs = 1000 * count.natAbs := by omega
      unfold longestSpan at small
      omega
    have numerator : milliseconds = count * (1000 : Nat) := by
      push_cast
      omega
    obtain ⟨whole, value⟩ :=
      Binary64.nearest_whole ⟨milliseconds, 1000⟩ (Nat.succ_pos 999) numerator digits
    refine found _ rfl whole ?_ ?_
    · rw [value]
      linarith
    · rw [value]
  · have strictly : milliseconds.natAbs < longestSpan := by
      by_contra equal
      have edge : milliseconds.natAbs = 1000 * twoTo 44 := by
        unfold longestSpan at small equal
        omega
      omega
    have below : |(⟨milliseconds, 1000⟩ : Fraction).toRat| < 2 ^ (44 : Int) := by
      have size : ((milliseconds.natAbs : Int) : ℚ) = |(milliseconds : ℚ)| := by
        rw [Int.natCast_natAbs, Int.cast_abs]
      have bound : ((milliseconds.natAbs : Nat) : ℚ) < (longestSpan : Nat) := by
        exact_mod_cast strictly
      rw [← Int.cast_natCast, size, longestSpan, Nat.cast_mul, cast_twoTo] at bound
      rw [Fraction.toRat, abs_div, div_lt_iff₀ (by norm_num)]
      push_cast at bound ⊢
      rw [abs_of_pos (by norm_num : (0 : ℚ) < 1000), mul_comm]
      exact bound
    obtain ⟨whole, error⟩ := Binary64.nearest_error ⟨milliseconds, 1000⟩ (Nat.succ_pos 999)
      (by decide) (by decide) below
    obtain ⟨under, above⟩ := abs_le.mp error
    have unit : (2 : ℚ) ^ ((44 : Int) - 54) = 1 / 1024 := by norm_num
    have value : (⟨milliseconds, 1000⟩ : Fraction).toRat = milliseconds / 1000 := rfl
    rw [unit, value] at under above
    have lower : (1000 : ℚ) * (count - 1) + 1 ≤ milliseconds := by exact_mod_cast least
    have upper : (milliseconds : ℚ) + 1 ≤ 1000 * count := by
      have strict : milliseconds + 1 ≤ 1000 * count := by omega
      exact_mod_cast strict
    refine found _ rfl whole ?_ ?_
    · linarith
    · linarith

end Turnstile.Time
