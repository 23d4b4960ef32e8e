import Mathlib.Algebra.Order.Field.Rat
import Mathlib.Tactic.Linarith
import Turnstile.Proofs.Number.Nearest
import Turnstile.Time.Seconds

/-!
# Readings as rational instants

Every reading of a store clock has an exact rational instant, and the order of readings is the
order of their instants. Two readings keep step over a span of milliseconds when the clock did not
go back between them and ran ahead of the span by at most a minute.
-/

namespace Turnstile.Time.Seconds

open Number

/-- The exact instant of a reading in seconds. -/
def instant (reading : Seconds) : ℚ := reading.value.numerator / reading.value.denominator

/-- The exact value of a reading is a quotient by a positive number. -/
theorem value_denominator_pos (reading : Seconds) : 0 < reading.value.denominator := by
  cases reading with
  | whole count => exact Nat.one_pos
  | binary count =>
    cases count with
    | finite negative significand exponent =>
      simp only [value, Binary64.toFraction?]
      split
      · exact Nat.one_pos
      · exact twoTo_pos _
    | infinite negative => exact Nat.one_pos
    | nan => exact Nat.one_pos

/-- Readings are ordered as their instants. -/
theorem le_iff_instant (left right : Seconds) :
    left.le right = true ↔ left.instant ≤ right.instant := by
  have leftPositive : (0 : ℚ) < left.value.denominator :=
    Nat.cast_pos.mpr left.value_denominator_pos
  have rightPositive : (0 : ℚ) < right.value.denominator :=
    Nat.cast_pos.mpr right.value_denominator_pos
  rw [instant, instant, div_le_div_iff₀ leftPositive rightPositive]
  simp only [le, Fraction.le, decide_eq_true_eq]
  exact_mod_cast Iff.rfl

/-- One reading is beyond another exactly when its instant is later. -/
theorem le_eq_false_iff (left right : Seconds) :
    left.le right = false ↔ right.instant < left.instant := by
  rw [← Bool.not_eq_true, le_iff_instant, not_le]

/-- One reading is not before another exactly when its instant is not. -/
theorem lt_eq_false_iff (left right : Seconds) :
    left.lt right = false ↔ right.instant ≤ left.instant := by
  rw [← le_iff_instant]
  simp only [lt, le, Fraction.lt, Fraction.le, decide_eq_false_iff_not, decide_eq_true_eq, not_lt]

/-- The instant of a whole reading is its count. -/
@[simp] theorem instant_whole (count : Int) : (whole count).instant = count := by
  simp [instant, value, Fraction.ofInt]

/-- The instant of a binary64 reading is its value. -/
theorem instant_binary (count : Binary64) : (binary count).instant = count.toRat := by
  show ((count.toFraction?.getD (Fraction.ofInt 0)).numerator : ℚ) /
      (count.toFraction?.getD (Fraction.ofInt 0)).denominator =
    (count.toFraction?.map Fraction.toRat).getD 0
  cases count.toFraction? with
  | none => simp [Fraction.ofInt]
  | some fraction => rfl

/-- Between two calls that lie a span of milliseconds apart the clock did not go back, and it
advanced by at most the span and a minute. -/
def KeepsStep (earlier later : Seconds) (span : Int) : Prop :=
  earlier.instant ≤ later.instant ∧ later.instant - earlier.instant ≤ |(span : ℚ)| / 1000 + 60

/-- A clock that stands still keeps step with every span. -/
theorem KeepsStep.refl (reading : Seconds) (span : Int) : KeepsStep reading reading span := by
  have nonnegative : (0 : ℚ) ≤ |(span : ℚ)| / 1000 := div_nonneg (abs_nonneg _) (by norm_num)
  exact ⟨le_rfl, by linarith⟩

end Turnstile.Time.Seconds
