import Mathlib.Algebra.Order.Field.Rat
import Mathlib.Algebra.Order.Round
import Mathlib.Data.Rat.Floor
import Mathlib.Tactic.FieldSimp
import Mathlib.Tactic.Linarith
import Mathlib.Tactic.Positivity
import Turnstile.Number.Binary64

/-!
# Nearest numbers

The value of a binary64 number as a rational. A quotient below a power of two is off its nearest
number by at most half a unit in the fifty-third digit below that power; a quotient that is a whole
number of at most fifty-three digits is not rounded at all, so such whole numbers keep their order.
-/

namespace Turnstile.Number

/-- The value of a fraction. -/
def Fraction.toRat (fraction : Fraction) : ℚ := fraction.numerator / fraction.denominator

/-- Powers of two are powers of two among the rationals. -/
theorem cast_twoTo (exponent : Nat) : ((twoTo exponent : Nat) : ℚ) = 2 ^ (exponent : Int) := by
  rw [twoTo, zpow_natCast]
  exact Nat.cast_pow 2 exponent

namespace Binary64

/-- The value of a number; one that is not finite counts as zero. -/
def toRat (number : Binary64) : ℚ := (number.toFraction?.map Fraction.toRat).getD 0

/-- A finite number stands for its significand times its power of two. -/
theorem toRat_finite (negative : Bool) (significand : Nat) (exponent : Int) :
    (finite negative significand exponent).toRat =
      (if negative then -1 else 1) * significand * 2 ^ exponent := by
  simp only [toRat, toFraction?]
  split
  · rename_i nonnegative
    obtain ⟨size, rfl⟩ := Int.eq_ofNat_of_zero_le nonnegative
    cases negative <;> simp [Fraction.toRat, cast_twoTo]
  · rename_i small
    obtain ⟨size, rfl⟩ : ∃ size : Nat, exponent = -size := ⟨(-exponent).toNat, by omega⟩
    cases negative <;> simp [Fraction.toRat, cast_twoTo, div_eq_mul_inv]

/-! ## The place of the last digit -/

section Place

/-- A scaled quotient is the quotient divided by the power of two. -/
theorem scaled_div (numerator denominator : Nat) (exponent : Int) :
    ((scaled numerator denominator exponent).1 : ℚ) / (scaled numerator denominator exponent).2 =
      numerator / denominator / 2 ^ exponent := by
  unfold scaled
  split
  · rename_i nonnegative
    obtain ⟨size, rfl⟩ := Int.eq_ofNat_of_zero_le nonnegative
    simp only [Int.toNat_natCast, Nat.cast_mul, cast_twoTo]
    rw [div_div]
  · rename_i small
    obtain ⟨size, rfl⟩ : ∃ size : Nat, exponent = -size := ⟨(-exponent).toNat, by omega⟩
    simp only [neg_neg, Int.toNat_natCast, Nat.cast_mul, cast_twoTo]
    rw [zpow_neg, div_inv_eq_mul, mul_div_right_comm]

variable {numerator denominator : Nat} (positive : 0 < denominator)
include positive

/-- What is scaled has a positive denominator. -/
theorem scaled_pos (numerator : Nat) (exponent : Int) :
    0 < (scaled numerator denominator exponent).2 := by
  unfold scaled
  split
  · exact Nat.mul_pos positive (twoTo_pos _)
  · exact positive

/-- A positive quotient lies between the powers of two that its lengths in digits tell. -/
theorem log2_bounds (nonzero : numerator ≠ 0) :
    (2 : ℚ) ^ ((Nat.log2 numerator : Int) - Nat.log2 denominator - 1) < numerator / denominator ∧
      (numerator : ℚ) / denominator <
        2 ^ ((Nat.log2 numerator : Int) - Nat.log2 denominator + 1) := by
  have lower : ((2 ^ Nat.log2 numerator : Nat) : ℚ) ≤ numerator := by
    exact_mod_cast Nat.log2_self_le nonzero
  have upper : (numerator : ℚ) < (2 ^ (Nat.log2 numerator + 1) : Nat) := by
    exact_mod_cast Nat.lt_log2_self
  have below : ((2 ^ Nat.log2 denominator : Nat) : ℚ) ≤ denominator := by
    exact_mod_cast Nat.log2_self_le positive.ne'
  have above : (denominator : ℚ) < (2 ^ (Nat.log2 denominator + 1) : Nat) := by
    exact_mod_cast Nat.lt_log2_self
  have size : (0 : ℚ) < denominator := by exact_mod_cast positive
  push_cast at lower upper below above
  have two : (2 : ℚ) ≠ 0 := two_ne_zero
  constructor
  · rw [lt_div_iff₀ size]
    calc
      (2 : ℚ) ^ ((Nat.log2 numerator : Int) - Nat.log2 denominator - 1) * denominator
          < 2 ^ ((Nat.log2 numerator : Int) - Nat.log2 denominator - 1) *
              2 ^ (Nat.log2 denominator + 1) := by
            exact mul_lt_mul_of_pos_left above (zpow_pos two_pos _)
      _ = 2 ^ Nat.log2 numerator := by
        rw [← zpow_natCast, ← zpow_natCast, ← zpow_add₀ two]
        congr 1
        push_cast
        omega
      _ ≤ numerator := lower
  · rw [div_lt_iff₀ size]
    calc
      (numerator : ℚ) < 2 ^ (Nat.log2 numerator + 1) := upper
      _ = 2 ^ ((Nat.log2 numerator : Int) - Nat.log2 denominator + 1) *
            2 ^ Nat.log2 denominator := by
        rw [← zpow_natCast, ← zpow_natCast, ← zpow_add₀ two]
        congr 1
        push_cast
        omega
      _ ≤ 2 ^ ((Nat.log2 numerator : Int) - Nat.log2 denominator + 1) * denominator := by
        exact mul_le_mul_of_nonneg_left below (zpow_pos two_pos _).le

/-- The quotient has at most fifty-three digits before the place of the last one, and fewer only
at the smallest exponent. -/
theorem placeExponent_bounds (nonzero : numerator ≠ 0) :
    (numerator : ℚ) / denominator < 2 ^ (placeExponent numerator denominator + 53) ∧
      -1074 ≤ placeExponent numerator denominator ∧
      (placeExponent numerator denominator = -1074 ∨
        (2 : ℚ) ^ (placeExponent numerator denominator + 52) ≤ numerator / denominator) := by
  obtain ⟨lower, upper⟩ := log2_bounds positive nonzero
  unfold placeExponent
  simp only
  generalize guessed : (Nat.log2 numerator : Int) - Nat.log2 denominator - 52 = guess
  have fewer : (scaled numerator denominator guess).1 <
      twoTo 52 * (scaled numerator denominator guess).2 ↔
        (numerator : ℚ) / denominator < 2 ^ (guess + 52) := by
    have size : (0 : ℚ) < (scaled numerator denominator guess).2 := by
      exact_mod_cast scaled_pos positive numerator guess
    rw [← Nat.cast_lt (α := ℚ), Nat.cast_mul, cast_twoTo, ← div_lt_iff₀ size, scaled_div,
      div_lt_iff₀ (zpow_pos two_pos guess), ← zpow_add₀ two_ne_zero]
    rw [add_comm guess]
    rfl
  have least : (2 : ℚ) ^ (guess + 51) < numerator / denominator := by
    rw [← guessed]
    convert lower using 2
    ring
  have most : (numerator : ℚ) / denominator < 2 ^ (guess + 53) := by
    rw [← guessed]
    convert upper using 2
    ring
  generalize chosen : (if (scaled numerator denominator guess).1 <
    twoTo 52 * (scaled numerator denominator guess).2 then guess - 1 else guess) = place
  have inside : (numerator : ℚ) / denominator < 2 ^ (place + 53) ∧
      (2 : ℚ) ^ (place + 52) ≤ numerator / denominator := by
    rw [← chosen]
    split
    · rename_i short
      rw [show guess - 1 + 53 = guess + 52 by omega, show guess - 1 + 52 = guess + 51 by omega]
      exact ⟨fewer.mp short, least.le⟩
    · rename_i long
      exact ⟨most, not_lt.mp fun short => long (fewer.mpr short)⟩
  refine ⟨inside.1.trans_le ?_, le_max_right _ _, ?_⟩
  · exact zpow_le_zpow_right₀ one_le_two (by omega)
  · rcases le_total (-1074) place with normal | small
    · rw [max_eq_left normal]
      exact .inr inside.2
    · exact .inl (max_eq_right small)

/-- The place of the last digit of a quotient below a power of two. -/
theorem placeExponent_le (nonzero : numerator ≠ 0) {exponent : Int} (normal : -1021 ≤ exponent)
    (below : (numerator : ℚ) / denominator < 2 ^ exponent) :
    placeExponent numerator denominator ≤ exponent - 53 := by
  obtain ⟨_, _, least | lower⟩ := placeExponent_bounds positive nonzero
  · omega
  · have order := (zpow_lt_zpow_iff_right₀ (one_lt_two (α := ℚ))).mp (lower.trans_lt below)
    omega

end Place

/-! ## The rounded value -/

/-- An even quotient of two. -/
theorem roundHalfEven_error (numerator : Nat) {denominator : Nat} (positive : 0 < denominator) :
    |(roundHalfEven numerator denominator : ℚ) - numerator / denominator| ≤ 1 / 2 := by
  have below := two_mul_le_of_roundHalfEven numerator denominator positive
  have above := roundHalfEven_two_mul_le numerator denominator positive
  have size : (0 : ℚ) < denominator := by exact_mod_cast positive
  have belowRat : 2 * (numerator : ℚ) ≤
      2 * (roundHalfEven numerator denominator * denominator) + denominator := by
    exact_mod_cast below
  have aboveRat : 2 * ((roundHalfEven numerator denominator : ℚ) * denominator) ≤
      2 * numerator + denominator := by
    exact_mod_cast above
  rw [abs_le]
  constructor
  · rw [neg_le_sub_iff_le_add, div_le_iff₀ size]
    linarith
  · rw [sub_le_iff_le_add, ← sub_le_iff_le_add', le_div_iff₀ size]
    linarith

/-- A rounded exact quotient is the quotient. -/
theorem roundHalfEven_mul_left (quotient : Nat) {denominator : Nat} (positive : 0 < denominator) :
    roundHalfEven (quotient * denominator) denominator = quotient := by
  simp [roundHalfEven, Nat.mul_div_cancel _ positive, positive]

/-- Assembling keeps the value of a significand that has grown by at most one digit. -/
theorem assemble_value (negative : Bool) {significand : Nat} {exponent : Int}
    (grown : significand ≤ twoTo 53) (room : exponent + 1 ≤ 971) :
    ∃ digits place, assemble negative significand exponent = finite negative digits place ∧
      (digits : ℚ) * 2 ^ place = significand * 2 ^ exponent := by
  unfold assemble
  split
  · rw [if_pos (by omega)]
    exact ⟨_, _, rfl, rfl⟩
  · have same : significand = twoTo 53 := by omega
    refine ⟨_, _, rfl, ?_⟩
    rw [same]
    have half : twoTo 53 / 2 = twoTo 52 := by decide
    rw [half, cast_twoTo, cast_twoTo, ← zpow_add₀ two_ne_zero, ← zpow_add₀ two_ne_zero]
    congr 1
    ring

/-- What a number of fifty-three digits is rounded to has grown by at most one digit. -/
theorem le_twoTo_of_error {significand : Nat} {number : ℚ} (few : number < 2 ^ (53 : Int))
    (error : |(significand : ℚ) - number| ≤ 1 / 2) : significand ≤ twoTo 53 := by
  have strict : (significand : ℚ) < (twoTo 53 : Nat) + 1 := by
    obtain ⟨_, upper⟩ := abs_le.mp error
    rw [cast_twoTo]
    push_cast at few ⊢
    linarith
  have next : significand < twoTo 53 + 1 := by exact_mod_cast strict
  exact Nat.lt_succ_iff.mp next

/-- A rounded quotient below a power of two is off by at most half a unit of its last place. -/
theorem nearestMagnitude_error (negative : Bool) (numerator : Nat) {denominator : Nat}
    (positive : 0 < denominator) {exponent : Int} (normal : -1021 ≤ exponent)
    (room : exponent ≤ 1023) (below : (numerator : ℚ) / denominator < 2 ^ exponent) :
    ∃ digits place, nearestMagnitude negative numerator denominator = finite negative digits place ∧
      |(digits : ℚ) * 2 ^ place - numerator / denominator| ≤ 2 ^ (exponent - 54) := by
  unfold nearestMagnitude
  split
  · rename_i zero
    refine ⟨0, 0, rfl, ?_⟩
    rw [zero]
    simp only [Nat.cast_zero, zero_mul, zero_div, sub_zero, abs_zero]
    exact (zpow_pos two_pos _).le
  · rename_i nonzero
    have place := placeExponent_le positive nonzero normal below
    have few := (placeExponent_bounds positive nonzero).1
    generalize placeExponent numerator denominator = last at place few
    simp only
    have error := roundHalfEven_error (scaled numerator denominator last).1
      (scaled_pos positive numerator last)
    rw [scaled_div] at error
    generalize roundHalfEven _ _ = significand at error ⊢
    have unit : (0 : ℚ) < 2 ^ last := zpow_pos two_pos last
    have grown : significand ≤ twoTo 53 := by
      refine le_twoTo_of_error ?_ error
      rw [div_lt_iff₀ unit, ← zpow_add₀ two_ne_zero, add_comm]
      exact few
    have small : last + 1 ≤ 971 := by omega
    obtain ⟨digits, spot, assembled, value⟩ := assemble_value negative grown small
    refine ⟨digits, spot, assembled, ?_⟩
    rw [value]
    have split : (numerator : ℚ) / denominator = numerator / denominator / 2 ^ last * 2 ^ last := by
      rw [div_mul_cancel₀ _ unit.ne']
    calc
      |(significand : ℚ) * 2 ^ last - numerator / denominator|
          = |(significand : ℚ) - numerator / denominator / 2 ^ last| * 2 ^ last := by
            rw [← abs_of_pos unit, ← abs_mul, abs_of_pos unit, sub_mul, ← split]
      _ ≤ 1 / 2 * 2 ^ last := mul_le_mul_of_nonneg_right error unit.le
      _ = 2 ^ (last - 1) := by
        rw [zpow_sub_one₀ two_ne_zero]
        ring
      _ ≤ 2 ^ (exponent - 54) := zpow_le_zpow_right₀ one_le_two (by omega)

/-- A whole quotient of at most fifty-three digits is whole at the place of its last digit. -/
theorem exists_scaled_mul_left {quotient denominator : Nat} (small : quotient ≤ twoTo 53)
    (positive : 0 < denominator) (nonzero : quotient * denominator ≠ 0) :
    let last := placeExponent (quotient * denominator) denominator
    last ≤ 1 ∧ ∃ whole, (scaled (quotient * denominator) denominator last).1 =
        whole * (scaled (quotient * denominator) denominator last).2 ∧
      (whole : ℚ) * 2 ^ last = quotient := by
  intro last
  have size : (denominator : ℚ) ≠ 0 := by exact_mod_cast positive.ne'
  have value : ((quotient * denominator : Nat) : ℚ) / denominator = quotient := by
    rw [Nat.cast_mul, mul_div_cancel_right₀ _ size]
  have bound : (quotient : ℚ) ≤ 2 ^ (53 : Int) := by
    have cast : (quotient : ℚ) ≤ (twoTo 53 : Nat) := by exact_mod_cast small
    rw [cast_twoTo] at cast
    exact cast
  have place : last ≤ 1 := by
    have below : ((quotient * denominator : Nat) : ℚ) / denominator < 2 ^ (54 : Int) := by
      rw [value]
      exact bound.trans_lt (zpow_lt_zpow_right₀ one_lt_two (by decide))
    exact placeExponent_le positive nonzero (by decide) below
  refine ⟨place, ?_⟩
  rcases Int.lt_or_le 0 last with above | below
  · -- The one such quotient is the power of two itself.
    have one : last = 1 := by omega
    have least : (2 : ℚ) ^ (last + 52) ≤ (quotient * denominator : Nat) / denominator := by
      rcases (placeExponent_bounds positive nonzero).2.2 with least | lower
      · omega
      · exact lower
    rw [value, one] at least
    have same : quotient = twoTo 53 := by
      have cast : (quotient : ℚ) = (twoTo 53 : Nat) := by
        rw [cast_twoTo]
        exact le_antisymm bound least
      exact_mod_cast cast
    refine ⟨twoTo 52, ?_, ?_⟩
    · have double : twoTo 53 = twoTo 52 * twoTo 1 := by decide
      rw [one, same, double]
      show twoTo 52 * twoTo 1 * denominator = twoTo 52 * (denominator * twoTo 1)
      ring
    · rw [one, same, cast_twoTo, cast_twoTo, ← zpow_add₀ two_ne_zero]
      rfl
  · obtain ⟨shift, negated⟩ : ∃ shift : Nat, last = -shift := ⟨(-last).toNat, by omega⟩
    rw [negated]
    refine ⟨quotient * twoTo shift, ?_, ?_⟩
    · unfold scaled
      split
      · have none : shift = 0 := by omega
        subst none
        simp [twoTo]
      · simp only [neg_neg, Int.toNat_natCast]
        ring
    · rw [Nat.cast_mul, cast_twoTo, mul_assoc, ← zpow_add₀ two_ne_zero]
      simp

/-- A whole quotient of at most fifty-three digits is not rounded. -/
theorem nearestMagnitude_mul_left (negative : Bool) {quotient denominator : Nat}
    (small : quotient ≤ twoTo 53) (positive : 0 < denominator) :
    ∃ digits place,
      nearestMagnitude negative (quotient * denominator) denominator =
        finite negative digits place ∧ (digits : ℚ) * 2 ^ place = quotient := by
  unfold nearestMagnitude
  split
  · rename_i zero
    have none : quotient = 0 := by
      rcases Nat.mul_eq_zero.mp zero with none | none
      · exact none
      · omega
    exact ⟨0, 0, rfl, by simp [none]⟩
  · rename_i nonzero
    obtain ⟨place, whole, whole_scaled, value⟩ := exists_scaled_mul_left small positive nonzero
    have grown : whole ≤ twoTo 53 := by
      have few := (placeExponent_bounds positive nonzero).1
      have size : (denominator : ℚ) ≠ 0 := by exact_mod_cast positive.ne'
      rw [Nat.cast_mul, mul_div_cancel_right₀ _ size, ← value, add_comm,
        zpow_add₀ two_ne_zero] at few
      have strict : (whole : ℚ) < (twoTo 53 : Nat) := by
        rw [cast_twoTo]
        exact lt_of_mul_lt_mul_right few (zpow_pos two_pos _).le
      exact_mod_cast strict.le
    simp only
    rw [whole_scaled, roundHalfEven_mul_left _ (scaled_pos positive _ _)]
    generalize placeExponent (quotient * denominator) denominator = last at place value ⊢
    have small : last + 1 ≤ 971 := by omega
    obtain ⟨digits, spot, assembled, same⟩ := assemble_value negative grown small
    exact ⟨digits, spot, assembled, same.trans value⟩

/-! ## Numbers of either sign -/

/-- A finite number has a fraction of its value. -/
theorem exists_fraction {number : Binary64} (whole : number.isFinite = true) :
    ∃ fraction, number.toFraction? = some fraction ∧ 0 < fraction.denominator ∧
      fraction.toRat = number.toRat := by
  cases number with
  | finite negative significand exponent =>
    simp only [toRat, toFraction?]
    split
    · exact ⟨_, rfl, Nat.one_pos, rfl⟩
    · exact ⟨_, rfl, twoTo_pos _, rfl⟩
  | infinite negative => cases whole
  | nan => cases whole

/-- Finite numbers are ordered as their values. -/
theorem le_iff_toRat {left right : Binary64} (finiteLeft : left.isFinite = true)
    (finiteRight : right.isFinite = true) : left.le right = true ↔ left.toRat ≤ right.toRat := by
  obtain ⟨first, foundFirst, firstPositive, firstValue⟩ := exists_fraction finiteLeft
  obtain ⟨second, foundSecond, secondPositive, secondValue⟩ := exists_fraction finiteRight
  have compared : left.le right = first.le second := by
    cases left with
    | finite =>
      cases right with
      | finite =>
        simp only [le, foundFirst, foundSecond]
      | infinite => cases finiteRight
      | nan => cases finiteRight
    | infinite => cases finiteLeft
    | nan => cases finiteLeft
  have firstSize : (0 : ℚ) < first.denominator := by exact_mod_cast firstPositive
  have secondSize : (0 : ℚ) < second.denominator := by exact_mod_cast secondPositive
  rw [compared, ← firstValue, ← secondValue, Fraction.toRat, Fraction.toRat,
    div_le_div_iff₀ firstSize secondSize]
  simp only [Fraction.le, decide_eq_true_eq]
  exact_mod_cast Iff.rfl

/-- The size of a fraction, with its sign, is its value. -/
theorem toRat_eq_sign_mul (value : Fraction) :
    value.toRat = (if value.numerator < 0 then -1 else 1) *
      ((value.numerator.natAbs : ℚ) / value.denominator) := by
  unfold Fraction.toRat
  have size : ((value.numerator.natAbs : Int) : ℚ) = |(value.numerator : ℚ)| := by
    rw [Int.natCast_natAbs, Int.cast_abs]
  rw [← Int.cast_natCast (value.numerator.natAbs), size]
  split
  · rename_i negative
    rw [abs_of_neg (by exact_mod_cast negative), neg_one_mul, neg_div, neg_neg]
  · rename_i nonnegative
    rw [abs_of_nonneg (by exact_mod_cast not_lt.mp nonnegative), one_mul]

/-- A fraction below a power of two in size is rounded by at most half a unit of its last place. -/
theorem nearest_error (value : Fraction) (positive : 0 < value.denominator) {exponent : Int}
    (normal : -1021 ≤ exponent) (room : exponent ≤ 1023)
    (below : |value.toRat| < 2 ^ exponent) :
    (nearest value).isFinite = true ∧
      |(nearest value).toRat - value.toRat| ≤ 2 ^ (exponent - 54) := by
  have signed := toRat_eq_sign_mul value
  have size : |value.toRat| = (value.numerator.natAbs : ℚ) / value.denominator := by
    have nonnegative : (0 : ℚ) ≤ (value.numerator.natAbs : ℚ) / value.denominator := by positivity
    rw [signed, abs_mul, abs_of_nonneg nonnegative]
    split <;> simp
  rw [size] at below
  obtain ⟨digits, place, found, error⟩ :=
    nearestMagnitude_error (value.numerator < 0) _ positive normal room below
  unfold nearest
  rw [found, toRat_finite, signed]
  refine ⟨rfl, ?_⟩
  by_cases negative : value.numerator < 0
  · simp only [negative, decide_true, if_true]
    rw [neg_one_mul, neg_one_mul, neg_mul, neg_sub_neg, abs_sub_comm]
    exact error
  · simp only [negative, decide_false, Bool.false_eq_true, if_false, one_mul]
    exact error

/-- A fraction that is a whole number of at most fifty-three digits is not rounded. -/
theorem nearest_whole (value : Fraction) (positive : 0 < value.denominator) {whole : Int}
    (multiple : value.numerator = whole * value.denominator) (small : whole.natAbs ≤ twoTo 53) :
    (nearest value).isFinite = true ∧ (nearest value).toRat = whole := by
  have size : value.numerator.natAbs = whole.natAbs * value.denominator := by
    rw [multiple, Int.natAbs_mul, Int.natAbs_natCast]
  have sign : value.numerator < 0 ↔ whole < 0 := by
    have above : (0 : Int) < value.denominator := by exact_mod_cast positive
    rw [multiple]
    exact ⟨fun negative => neg_of_mul_neg_left negative above.le,
      fun negative => mul_neg_of_neg_of_pos negative above⟩
  obtain ⟨digits, place, found, same⟩ :=
    nearestMagnitude_mul_left (value.numerator < 0) small positive
  unfold nearest
  rw [size, found, toRat_finite, mul_assoc, same]
  refine ⟨rfl, ?_⟩
  have magnitude : ((whole.natAbs : Nat) : ℚ) = |(whole : ℚ)| := by
    rw [← Int.cast_abs, ← Int.natCast_natAbs, Int.cast_natCast]
  rw [magnitude]
  by_cases negative : whole < 0
  · have below : (whole : ℚ) < 0 := by exact_mod_cast negative
    simp [sign.mpr negative, abs_of_neg below]
  · have above : (0 : ℚ) ≤ whole := by exact_mod_cast not_lt.mp negative
    simp [mt sign.mp negative, abs_of_nonneg above]

/-- A whole number of at most fifty-three digits is a binary64 number. -/
theorem ofInt_toRat {number : Int} (small : number.natAbs ≤ twoTo 53) :
    (ofInt number).isFinite = true ∧ (ofInt number).toRat = number :=
  nearest_whole _ Nat.one_pos (Int.mul_one number).symm small

/-- Whole numbers of at most fifty-three digits keep their order. -/
theorem ofInt_le_ofInt {left right : Int} (leftSmall : left.natAbs ≤ twoTo 53)
    (rightSmall : right.natAbs ≤ twoTo 53) :
    (ofInt left).le (ofInt right) = decide (left ≤ right) := by
  obtain ⟨finiteLeft, leftValue⟩ := ofInt_toRat leftSmall
  obtain ⟨finiteRight, rightValue⟩ := ofInt_toRat rightSmall
  rw [Bool.eq_iff_iff, le_iff_toRat finiteLeft finiteRight, leftValue, rightValue, Int.cast_le,
    decide_eq_true_iff]

/-! ## Rounding up -/

/-- The least whole number not below a quotient is the ceiling of its value. -/
theorem ceilDiv_eq_ceil (numerator : Int) (denominator : Nat) :
    ceilDiv numerator denominator = ⌈(numerator : ℚ) / denominator⌉ := by
  unfold ceilDiv
  have floor := Rat.floor_intCast_div_natCast (-numerator) denominator
  rw [Int.fdiv_eq_ediv_of_nonneg _ (Int.natCast_nonneg _), ← floor, Int.cast_neg, neg_div,
    Int.floor_neg, neg_neg]

/-- Rounding a finite number up gives the ceiling of its value. -/
theorem ceil?_eq_ceil {number : Binary64} (whole : number.isFinite = true) :
    number.ceil? = some ⌈number.toRat⌉ := by
  obtain ⟨fraction, found, _, value⟩ := exists_fraction whole
  unfold ceil?
  rw [found, ← value]
  simp only [Option.bind_eq_bind, Option.bind_some]
  rw [ceilDiv_eq_ceil]
  rfl

end Binary64

end Turnstile.Number
