import Turnstile.Proofs.Number.Order
import Turnstile.Proofs.Policy.Lifetime

/-!
# Clocks that tell milliseconds

A store clock that counts whole seconds adds a lifetime exactly. One that counts in binary64 rounds
the sum, by less than a millisecond as long as the sum stays below the forty-fourth power of two.
On either clock a key outlasts every window that binary64 scores can tell apart.
-/

namespace Turnstile

open Number Time

namespace Time.Seconds

/-- The reading is a whole number, or a finite binary64 number that is far from the size at which
neighbours lie a millisecond apart. -/
def TellsMilliseconds : Seconds → Prop
  | .whole _ => True
  | .binary count => count.isFinite = true ∧ |count.toRat| ≤ 2 ^ (42 : Int)

/-- A binary64 reading and a lifetime are added with an error of at most half a unit of the last
place. -/
theorem later_binary_error {count : Binary64} (finite : count.isFinite = true) {seconds : Int}
    (digits : seconds.natAbs ≤ twoTo 53) {exponent : Int} (normal : -1021 ≤ exponent)
    (room : exponent ≤ 1023) (below : |count.toRat + seconds| < 2 ^ exponent) :
    |((binary count).later seconds).instant - (count.toRat + seconds)| ≤ 2 ^ (exponent - 54) := by
  obtain ⟨countFraction, countFound, countPositive, countValue⟩ := Binary64.exists_fraction finite
  obtain ⟨whole, exactly⟩ := Binary64.ofInt_toRat digits
  obtain ⟨addedFraction, addedFound, addedPositive, addedValue⟩ := Binary64.exists_fraction whole
  have sum : (countFraction.add addedFraction).toRat = count.toRat + seconds := by
    rw [Fraction.toRat_add countPositive addedPositive, countValue, addedValue, exactly]
  have deadline : (binary count).later seconds =
      .binary (Binary64.nearest (countFraction.add addedFraction)) := by
    simp only [later, Binary64.add, countFound, addedFound]
  rw [deadline, instant_binary, ← sum]
  rw [← sum] at below
  exact (Binary64.nearest_error _ (Nat.mul_pos countPositive addedPositive) normal room below).2

end Time.Seconds

namespace Limit

variable {limit : Limit}

/-- The lifetime of a key is the window rounded up to seconds, and a minute. -/
theorem ttl_of_window_le (small : limit.window ≤ longestSpan) :
    limit.ttl = .ok (ceilDiv limit.window 1000 + 60) := by
  have positive := limit.window_pos
  rw [ttl_eq_ok_iff, ttl?, ceilSeconds?_eq_ceilDiv (by omega)]
  rfl

/-- On a clock that tells milliseconds a key outlasts its window. -/
theorem outlasts_of_tellsMilliseconds (small : limit.window ≤ twoTo 53) {reading : Seconds}
    (fine : reading.TellsMilliseconds) : limit.Outlasts reading := by
  have positive := limit.window_pos
  have span : (twoTo 53 : Int) ≤ longestSpan := by decide
  have lifetime := ttl_of_window_le (small.trans span)
  obtain ⟨least, most⟩ := ceilDiv_thousand_bounds limit.window
  cases reading with
  | whole count =>
    exact (outlasts_whole_iff limit count).mpr ⟨_, lifetime, by omega⟩
  | binary count =>
    refine ⟨_, lifetime, ?_⟩
    obtain ⟨finite, size⟩ := fine
    generalize ceilDiv limit.window 1000 = seconds at least most
    have upper : 1000 * (seconds + 60) ≤ twoTo 53 + 61000 := by omega
    have digits : (seconds + 60).natAbs ≤ twoTo 53 := by
      have bound : twoTo 53 + 61000 ≤ 1000 * twoTo 53 := by decide
      omega
    have below : |count.toRat + (seconds + 60 : Int)| < 2 ^ (44 : Int) := by
      obtain ⟨under, above⟩ := abs_le.mp size
      have upperRat : (1000 : ℚ) * (seconds + 60) ≤ (twoTo 53 : Nat) + 61000 := by
        exact_mod_cast upper
      have lowerRat : (0 : ℚ) ≤ seconds + 60 := by
        have nonnegative : 0 ≤ seconds + 60 := by omega
        exact_mod_cast nonnegative
      rw [cast_twoTo] at upperRat
      norm_num at under above upperRat
      rw [abs_lt]
      norm_num
      constructor <;> linarith
    have error := Seconds.later_binary_error finite digits (by decide) (by decide) below
    rw [Seconds.instant_binary]
    have unit : (2 : ℚ) ^ ((44 : Int) - 54) = 1 / 1024 := by norm_num
    have cover : (limit.window : ℚ) ≤ 1000 * seconds := by exact_mod_cast most
    obtain ⟨under, _⟩ := abs_le.mp error
    rw [unit] at under
    push_cast at under
    linarith

end Limit

end Turnstile
