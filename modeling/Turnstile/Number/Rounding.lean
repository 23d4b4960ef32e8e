/-!
# Rounding quotients

Quotients of whole numbers rounded to a whole number: to the nearest, a tie going to the even
neighbour, and upward. The nearest neighbour is never more than half a unit away.
-/

namespace Turnstile.Number

/-- The whole number nearest to a quotient; a tie goes to the even neighbour. -/
def roundHalfEven (numerator denominator : Nat) : Nat :=
  let quotient := numerator / denominator
  let twice := 2 * (numerator % denominator)
  if twice < denominator then quotient
  else if denominator < twice then quotient + 1
  else if quotient % 2 = 0 then quotient else quotient + 1

/-- The rounded quotient is at most half a unit below the exact one. -/
theorem two_mul_le_of_roundHalfEven (numerator denominator : Nat) (positive : 0 < denominator) :
    2 * numerator ≤ 2 * (roundHalfEven numerator denominator * denominator) + denominator := by
  have split := Nat.div_add_mod numerator denominator
  have remainder := Nat.mod_lt numerator positive
  have comm := Nat.mul_comm denominator (numerator / denominator)
  unfold roundHalfEven
  simp only
  split
  · omega
  · have := Nat.add_mul (numerator / denominator) 1 denominator
    repeat' split
    all_goals omega

/-- The rounded quotient is at most half a unit above the exact one. -/
theorem roundHalfEven_two_mul_le (numerator denominator : Nat) (positive : 0 < denominator) :
    2 * (roundHalfEven numerator denominator * denominator) ≤ 2 * numerator + denominator := by
  have split := Nat.div_add_mod numerator denominator
  have remainder := Nat.mod_lt numerator positive
  have comm := Nat.mul_comm denominator (numerator / denominator)
  unfold roundHalfEven
  simp only
  split
  · omega
  · have := Nat.add_mul (numerator / denominator) 1 denominator
    repeat' split
    all_goals omega

/-- The nearest whole number to a quotient of either sign; a tie goes to the even neighbour. -/
def roundSigned (numerator : Int) (denominator : Nat) : Int :=
  let size : Int := roundHalfEven numerator.natAbs denominator
  if numerator < 0 then -size else size

/-- The least whole number not below a quotient. -/
def ceilDiv (numerator : Int) (denominator : Nat) : Int :=
  -((-numerator).fdiv denominator)

end Turnstile.Number
