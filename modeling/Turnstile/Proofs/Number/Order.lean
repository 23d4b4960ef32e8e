import Turnstile.Proofs.Number.Nearest
import Turnstile.Proofs.Time.Ceiling
import Turnstile.Proofs.Time.Reading

/-!
# Rounding keeps the order

Of two fractions, the lesser is rounded to the lesser number: at one place a nearest whole number
grows with the quotient, and a quotient with an earlier last place stays below every one with a
later. So the count of seconds that covers a span grows with the span, and a deadline with its
lifetime.
-/

namespace Turnstile.Number

/-- The rounded quotient is the whole part of the exact one, or the next number. -/
theorem roundHalfEven_bounds (numerator denominator : Nat) :
    numerator / denominator ≤ roundHalfEven numerator denominator ∧
      roundHalfEven numerator denominator ≤ numerator / denominator + 1 := by
  unfold roundHalfEven
  simp only
  repeat' split
  all_goals omega

/-- Of two quotients the lesser is rounded to the lesser whole number. -/
theorem roundHalfEven_mono {first second low high : Nat} (firstPositive : 0 < low)
    (secondPositive : 0 < high) (order : first * high ≤ second * low) :
    roundHalfEven first low ≤ roundHalfEven second high := by
  have whole : first / low ≤ second / high := by
    rw [Nat.le_div_iff_mul_le secondPositive]
    refine Nat.le_of_mul_le_mul_right ?_ firstPositive
    calc
      first / low * high * low = first / low * low * high := Nat.mul_right_comm ..
      _ ≤ first * high := Nat.mul_le_mul_right _ (Nat.div_mul_le_self ..)
      _ ≤ second * low := order
  rcases Nat.lt_or_eq_of_le whole with less | same
  · have below := (roundHalfEven_bounds first low).2
    have above := (roundHalfEven_bounds second high).1
    omega
  · -- With one whole part, the remainders are in the order of the quotients.
    have rest : first % low * high ≤ second % high * low := by
      have split : first * high = low * (second / high) * high + first % low * high := by
        rw [← Nat.add_mul, ← same, Nat.div_add_mod]
      have splitToo : second * low = low * (second / high) * high + second % high * low := by
        calc
          second * low = (second / high * high + second % high) * low := by rw [Nat.div_add_mod']
          _ = low * (second / high) * high + second % high * low := by ring
      omega
    have up (half : low ≤ 2 * (first % low)) : high ≤ 2 * (second % high) := by
      refine Nat.le_of_mul_le_mul_left ?_ firstPositive
      nlinarith
    have strictlyUp (half : low < 2 * (first % low)) : high < 2 * (second % high) := by
      refine Nat.lt_of_mul_lt_mul_left (a := low) ?_
      nlinarith
    unfold roundHalfEven
    simp only [same]
    repeat' split
    all_goals omega

namespace Binary64

variable {first second low high : Nat} (firstPositive : 0 < low) (secondPositive : 0 < high)
include firstPositive secondPositive

/-- Of two quotients the lesser has the lesser last place. -/
theorem placeExponent_mono (firstNonzero : first ≠ 0) (secondNonzero : second ≠ 0)
    (order : (first : ℚ) / low ≤ second / high) :
    placeExponent first low ≤ placeExponent second high := by
  obtain ⟨_, least, smallest | lower⟩ := placeExponent_bounds firstPositive firstNonzero
  · obtain ⟨_, leastToo, _⟩ := placeExponent_bounds secondPositive secondNonzero
    omega
  · obtain ⟨upper, _, _⟩ := placeExponent_bounds secondPositive secondNonzero
    have exponents := (zpow_lt_zpow_iff_right₀ (one_lt_two (α := ℚ))).mp
      (lower.trans_lt (order.trans_lt upper))
    omega

omit secondPositive in
/-- The rounded significand at the last place has at most one digit more than fifty-three, and
fifty-three at least but for the smallest exponent. -/
theorem significand_bounds (nonzero : first ≠ 0) :
    let last := placeExponent first low
    let parts := scaled first low last
    roundHalfEven parts.1 parts.2 ≤ twoTo 53 ∧
      (last = -1074 ∨ twoTo 52 ≤ roundHalfEven parts.1 parts.2) := by
  intro last parts
  have unit : (0 : ℚ) < 2 ^ last := zpow_pos two_pos last
  have error := roundHalfEven_error parts.1 (scaled_pos firstPositive first last)
  rw [scaled_div] at error
  obtain ⟨upper, _, lower⟩ := placeExponent_bounds firstPositive nonzero
  constructor
  · refine le_twoTo_of_error ?_ error
    rw [div_lt_iff₀ unit, ← zpow_add₀ two_ne_zero, add_comm]
    exact upper
  · refine lower.imp_right fun lower => ?_
    have digits : ((twoTo 52 : Nat) : ℚ) ≤ first / low / 2 ^ last := by
      rw [cast_twoTo, le_div_iff₀ unit, ← zpow_add₀ two_ne_zero, add_comm]
      exact lower
    have close := (abs_le.mp error).1
    have near : ((twoTo 52 : Nat) : ℚ) < (roundHalfEven parts.1 parts.2 : ℚ) + 1 := by linarith
    have next : twoTo 52 < roundHalfEven parts.1 parts.2 + 1 := by exact_mod_cast near
    exact Nat.lt_succ_iff.mp next

omit firstPositive secondPositive in
/-- The size of a finite number. -/
theorem abs_toRat_finite (negative : Bool) (significand : Nat) (exponent : Int) :
    |(finite negative significand exponent).toRat| = significand * 2 ^ exponent := by
  have unit : (0 : ℚ) < 2 ^ exponent := zpow_pos two_pos exponent
  rw [toRat_finite, abs_mul, abs_mul, Nat.abs_cast, abs_of_pos unit]
  cases negative <;> simp

omit firstPositive secondPositive in
/-- A significand with one digit more at most keeps its value where the result is finite. -/
theorem abs_toRat_assemble {negative : Bool} {significand : Nat} {exponent : Int}
    (grown : significand ≤ twoTo 53)
    (known : (assemble negative significand exponent).isFinite = true) :
    |(assemble negative significand exponent).toRat| = significand * 2 ^ exponent := by
  unfold assemble at known ⊢
  split at known
  · rename_i few
    rw [if_pos few]
    split at known
    · rename_i room
      rw [if_pos room, abs_toRat_finite]
    · cases known
  · rename_i many
    rw [if_neg many]
    split at known
    · rename_i room
      have same : significand = twoTo 53 := by omega
      have half : twoTo 53 / 2 = twoTo 52 := by decide
      rw [if_pos room, abs_toRat_finite, same, half, cast_twoTo, cast_twoTo,
        ← zpow_add₀ two_ne_zero, ← zpow_add₀ two_ne_zero]
      congr 1
      push_cast
      ring
    · cases known

omit firstPositive secondPositive in
/-- A significand at an earlier place, or a lesser one at the same, is finite with the other. -/
theorem isFinite_assemble_of_le {negative other : Bool} {less more : Nat} {place last : Int}
    (grown : less ≤ twoTo 53) (places : place ≤ last) (digits : place = last → less ≤ more)
    (known : (assemble other more last).isFinite = true) :
    (assemble negative less place).isFinite = true := by
  have room : (more < twoTo 53 ∧ last ≤ 971) ∨ last + 1 ≤ 971 := by
    unfold assemble at known
    split at known
    · split at known
      · exact .inl ⟨‹_›, ‹_›⟩
      · cases known
    · split at known
      · exact .inr ‹_›
      · cases known
  unfold assemble
  rcases Int.lt_or_eq_of_le places with before | same
  · rw [if_pos (show place ≤ 971 by omega), if_pos (show place + 1 ≤ 971 by omega)]
    split <;> rfl
  · have fewer := digits same
    by_cases few : less < twoTo 53
    · rw [if_pos few, if_pos (show place ≤ 971 by omega)]
      rfl
    · rw [if_neg few, if_pos (show place + 1 ≤ 971 by omega)]
      rfl

/-- Of two quotients the lesser is rounded to the lesser number, a finite one if the greater is. -/
theorem nearestMagnitude_mono (negative other : Bool) (order : (first : ℚ) / low ≤ second / high)
    (known : (nearestMagnitude other second high).isFinite = true) :
    (nearestMagnitude negative first low).isFinite = true ∧
      |(nearestMagnitude negative first low).toRat| ≤
        |(nearestMagnitude other second high).toRat| := by
  by_cases nothing : first = 0
  · have zero : nearestMagnitude negative first low = .finite negative 0 0 := if_pos nothing
    rw [zero, abs_toRat_finite, Nat.cast_zero, zero_mul]
    exact ⟨rfl, abs_nonneg _⟩
  have something : second ≠ 0 := by
    rintro rfl
    have above : (0 : ℚ) < first / low :=
      div_pos (by exact_mod_cast Nat.pos_of_ne_zero nothing) (by exact_mod_cast firstPositive)
    rw [Nat.cast_zero, zero_div] at order
    exact absurd order (not_le.mpr above)
  obtain ⟨few, _⟩ := significand_bounds firstPositive nothing
  obtain ⟨fewToo, many⟩ := significand_bounds secondPositive something
  have places := placeExponent_mono firstPositive secondPositive nothing something order
  have least := (placeExponent_bounds firstPositive nothing).2.1
  -- At one place the significands are in the order of the quotients.
  have digits (same : placeExponent first low = placeExponent second high) :
      roundHalfEven (scaled first low (placeExponent first low)).1
          (scaled first low (placeExponent first low)).2 ≤
        roundHalfEven (scaled second high (placeExponent second high)).1
          (scaled second high (placeExponent second high)).2 := by
    rw [← same]
    generalize placeExponent first low = last
    have lowSize := scaled_pos firstPositive first last
    have highSize := scaled_pos secondPositive second last
    refine roundHalfEven_mono lowSize highSize ?_
    have quotients : (first : ℚ) / low / 2 ^ last ≤ second / high / 2 ^ last :=
      div_le_div_of_nonneg_right order (zpow_pos two_pos last).le
    rw [← scaled_div, ← scaled_div, div_le_div_iff₀ (by exact_mod_cast lowSize)
      (by exact_mod_cast highSize)] at quotients
    exact_mod_cast quotients
  unfold nearestMagnitude at known ⊢
  rw [if_neg something] at known
  rw [if_neg nothing, if_neg something]
  simp only at known ⊢
  have finite := @isFinite_assemble_of_le negative other _ _ _ _ few places digits known
  refine ⟨finite, ?_⟩
  rw [abs_toRat_assemble few finite, abs_toRat_assemble fewToo known]
  rcases Int.lt_or_eq_of_le places with before | same
  · have full : ((twoTo 52 : Nat) : ℚ) ≤ (roundHalfEven
        (scaled second high (placeExponent second high)).1
        (scaled second high (placeExponent second high)).2 : ℚ) := by
      exact_mod_cast many.resolve_left (by omega)
    have grown : (roundHalfEven (scaled first low (placeExponent first low)).1
        (scaled first low (placeExponent first low)).2 : ℚ) ≤ (twoTo 53 : Nat) := by
      exact_mod_cast few
    generalize placeExponent first low = place at *
    generalize placeExponent second high = last at *
    calc
      _ ≤ ((twoTo 53 : Nat) : ℚ) * 2 ^ place :=
        mul_le_mul_of_nonneg_right grown (zpow_pos two_pos _).le
      _ = 2 ^ (53 + place) := by
        rw [cast_twoTo, ← zpow_add₀ two_ne_zero]
        rfl
      _ ≤ 2 ^ (52 + last) := zpow_le_zpow_right₀ one_le_two (by omega)
      _ = ((twoTo 52 : Nat) : ℚ) * 2 ^ last := by
        rw [cast_twoTo, ← zpow_add₀ two_ne_zero]
        rfl
      _ ≤ _ := mul_le_mul_of_nonneg_right full (zpow_pos two_pos _).le
  · have fewer := digits same
    rw [← same] at fewer ⊢
    have cast : (roundHalfEven (scaled first low (placeExponent first low)).1
        (scaled first low (placeExponent first low)).2 : ℚ) ≤
      (roundHalfEven (scaled second high (placeExponent first low)).1
        (scaled second high (placeExponent first low)).2 : ℚ) := by
      exact_mod_cast fewer
    exact mul_le_mul_of_nonneg_right cast (zpow_pos two_pos _).le

omit firstPositive secondPositive in
/-- A rounded quotient has the sign that it is given. -/
theorem toRat_nearestMagnitude (negative : Bool) (numerator denominator : Nat) :
    (nearestMagnitude negative numerator denominator).toRat =
      (if negative then -1 else 1) * |(nearestMagnitude negative numerator denominator).toRat| := by
  have signed (significand : Nat) (exponent : Int) :
      (finite negative significand exponent).toRat =
        (if negative then -1 else 1) * |(finite negative significand exponent).toRat| := by
    rw [abs_toRat_finite, toRat_finite, mul_assoc]
  have unbounded : (infinite negative).toRat =
      (if negative then -1 else 1) * |(infinite negative).toRat| := by
    simp [toRat, toFraction?]
  unfold nearestMagnitude
  split
  · exact signed 0 0
  · simp only
    unfold assemble
    split <;> split <;> first | exact signed _ _ | exact unbounded

omit firstPositive secondPositive in
/-- Of two fractions the lesser is rounded to the lesser number. -/
theorem nearest_mono {left right : Fraction} (leftPositive : 0 < left.denominator)
    (rightPositive : 0 < right.denominator) (order : left.toRat ≤ right.toRat)
    (leftFinite : (nearest left).isFinite = true) (rightFinite : (nearest right).isFinite = true) :
    (nearest left).toRat ≤ (nearest right).toRat := by
  have leftSign := toRat_eq_sign_mul left
  have rightSign := toRat_eq_sign_mul right
  have forwards := @nearestMagnitude_mono left.numerator.natAbs right.numerator.natAbs
    left.denominator right.denominator leftPositive rightPositive
  have backwards := @nearestMagnitude_mono right.numerator.natAbs left.numerator.natAbs
    right.denominator left.denominator rightPositive leftPositive
  have leftSize : (0 : ℚ) ≤ (left.numerator.natAbs : ℚ) / left.denominator := by positivity
  have rightSize : right.numerator < 0 →
      (0 : ℚ) < (right.numerator.natAbs : ℚ) / right.denominator := by
    intro negative
    exact div_pos (by exact_mod_cast Int.natAbs_pos.mpr negative.ne)
      (by exact_mod_cast rightPositive)
  unfold nearest at leftFinite rightFinite ⊢
  rw [toRat_nearestMagnitude, toRat_nearestMagnitude (decide (right.numerator < 0))]
  generalize (left.numerator.natAbs : ℚ) / left.denominator = less at *
  generalize (right.numerator.natAbs : ℚ) / right.denominator = more at *
  by_cases leftNegative : left.numerator < 0 <;> by_cases rightNegative : right.numerator < 0 <;>
    simp only [leftNegative, rightNegative, if_true, if_false, decide_true, decide_false,
      Bool.false_eq_true] at leftSign rightSign rightSize leftFinite rightFinite ⊢
  · have sizes := (backwards true true (by linarith) leftFinite).2
    linarith
  · have leftAbs := abs_nonneg
      (nearestMagnitude true left.numerator.natAbs left.denominator).toRat
    have rightAbs := abs_nonneg
      (nearestMagnitude false right.numerator.natAbs right.denominator).toRat
    linarith
  · have above := rightSize trivial
    linarith
  · have sizes := (forwards false false (by linarith) rightFinite).2
    linarith

end Binary64

/-- The value of a sum is the sum of the values. -/
theorem Fraction.toRat_add {left right : Fraction} (leftPositive : 0 < left.denominator)
    (rightPositive : 0 < right.denominator) :
    (left.add right).toRat = left.toRat + right.toRat := by
  have leftSize : (left.denominator : ℚ) ≠ 0 := by exact_mod_cast leftPositive.ne'
  have rightSize : (right.denominator : ℚ) ≠ 0 := by exact_mod_cast rightPositive.ne'
  simp only [Fraction.toRat, Fraction.add]
  push_cast
  rw [div_add_div _ _ leftSize rightSize]
  ring

end Turnstile.Number

namespace Turnstile.Time

open Number

/-- The count of seconds that covers a span grows with the span. -/
theorem ceilSeconds?_mono {short long : Int} (nonnegative : 0 ≤ short) (order : short ≤ long)
    {count : Int} (found : ceilSeconds? long = some count) :
    ∃ fewer, ceilSeconds? short = some fewer ∧ fewer ≤ count := by
  have known : (Binary64.nearest ⟨long, 1000⟩).isFinite = true := by
    cases rounded : Binary64.nearest ⟨long, 1000⟩ with
    | finite negative significand exponent => rfl
    | infinite negative =>
      rw [ceilSeconds?, seconds?, Binary64.divide?, rounded] at found
      cases found
    | nan =>
      rw [ceilSeconds?, seconds?, Binary64.divide?, rounded] at found
      cases found
  have quotients : (short.natAbs : ℚ) / (1000 : Nat) ≤ long.natAbs / (1000 : Nat) := by
    have sizes : short.natAbs ≤ long.natAbs := by omega
    exact div_le_div_of_nonneg_right (by exact_mod_cast sizes) (by norm_num)
  have finite : (Binary64.nearest ⟨short, 1000⟩).isFinite = true :=
    (Binary64.nearestMagnitude_mono (Nat.succ_pos 999) (Nat.succ_pos 999) _ _ quotients known).1
  have value {span : Int} (rounded : (Binary64.nearest ⟨span, 1000⟩).isFinite = true) :
      ceilSeconds? span = some ⌈(Binary64.nearest ⟨span, 1000⟩).toRat⌉ := by
    rw [ceilSeconds?, seconds?, divide?_of_isFinite rounded, Option.bind_some,
      Binary64.ceil?_eq_ceil rounded]
  have spans : (⟨short, 1000⟩ : Fraction).toRat ≤ (⟨long, 1000⟩ : Fraction).toRat :=
    div_le_div_of_nonneg_right (by exact_mod_cast order) (by norm_num)
  refine ⟨_, value finite, ?_⟩
  rw [value known] at found
  rw [← Option.some.inj found]
  exact Int.ceil_le_ceil (Binary64.nearest_mono (Nat.succ_pos 999) (Nat.succ_pos 999) spans finite
    known)

namespace Seconds

/-- The reading is a number of seconds. -/
def isFinite : Seconds → Bool
  | .whole _ => true
  | .binary count => count.isFinite

/-- A deadline grows with the lifetime that it is computed from. -/
theorem later_mono {reading : Seconds} {seconds more : Int} (order : seconds ≤ more)
    (finite : (reading.later seconds).isFinite = true)
    (finiteToo : (reading.later more).isFinite = true) :
    (reading.later seconds).instant ≤ (reading.later more).instant := by
  cases reading with
  | whole count =>
    rw [later_whole, later_whole, instant_whole, instant_whole]
    exact_mod_cast (show count + seconds ≤ count + more by omega)
  | binary count =>
    have parts {lifetime : Int} (known : ((binary count).later lifetime).isFinite = true) :
        count.isFinite = true ∧ (Binary64.ofInt lifetime).isFinite = true := by
      revert known
      unfold later
      simp only [isFinite, Binary64.add]
      cases count <;> cases Binary64.ofInt lifetime <;>
        simp [Binary64.toFraction?, Binary64.isFinite]
    obtain ⟨own, lesser⟩ := parts finite
    obtain ⟨_, greater⟩ := parts finiteToo
    obtain ⟨base, foundBase, basePositive, _⟩ := Binary64.exists_fraction own
    obtain ⟨low, foundLow, lowPositive, lowValue⟩ := Binary64.exists_fraction lesser
    obtain ⟨high, foundHigh, highPositive, highValue⟩ := Binary64.exists_fraction greater
    have lifetimes : low.toRat ≤ high.toRat := by
      rw [lowValue, highValue]
      refine Binary64.nearest_mono Nat.one_pos Nat.one_pos ?_ lesser greater
      simp only [Fraction.toRat, Fraction.ofInt, Nat.cast_one, div_one]
      exact_mod_cast order
    unfold later isFinite at finite finiteToo
    unfold later
    simp only [Binary64.add, foundBase, foundLow, foundHigh] at finite finiteToo ⊢
    rw [instant_binary, instant_binary]
    refine Binary64.nearest_mono (Nat.mul_pos basePositive lowPositive)
      (Nat.mul_pos basePositive highPositive) ?_ finite finiteToo
    rw [Fraction.toRat_add basePositive lowPositive, Fraction.toRat_add basePositive highPositive]
    linarith

end Seconds

end Turnstile.Time
