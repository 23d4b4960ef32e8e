import Turnstile.Number.Power
import Turnstile.Number.Rounding

/-!
# Binary64 numbers

A binary64 number is a sign, a significand below `2 ^ 53` and a power of two, or an infinity, or
not a number. Every operation is exact arithmetic on whole numbers followed by one rounding to
the nearest representable neighbour, a tie going to the even significand.
-/

namespace Turnstile.Number

/-- A binary64 number; a finite one stands for `± significand * 2 ^ exponent`. -/
inductive Binary64 where
  | finite (negative : Bool) (significand : Nat) (exponent : Int)
  | infinite (negative : Bool)
  | nan
deriving DecidableEq, Repr, Inhabited

/-- A quotient of whole numbers, the denominator positive where the value is meant. -/
structure Fraction where
  numerator : Int
  denominator : Nat
deriving DecidableEq, Repr, Inhabited

namespace Fraction

/-- A whole number as a fraction. -/
def ofInt (number : Int) : Fraction := ⟨number, 1⟩

/-- The order of the values. -/
def le (left right : Fraction) : Bool :=
  left.numerator * right.denominator ≤ right.numerator * left.denominator

/-- The strict order of the values. -/
def lt (left right : Fraction) : Bool :=
  left.numerator * right.denominator < right.numerator * left.denominator

/-- The sum of the values. -/
def add (left right : Fraction) : Fraction :=
  ⟨left.numerator * right.denominator + right.numerator * left.denominator,
    left.denominator * right.denominator⟩

/-- The product of the values. -/
def mul (left right : Fraction) : Fraction :=
  ⟨left.numerator * right.numerator, left.denominator * right.denominator⟩

/-- The opposite value. -/
def neg (value : Fraction) : Fraction := ⟨-value.numerator, value.denominator⟩

end Fraction

namespace Binary64

/-- A quotient divided by a power of two, as a numerator and a denominator. -/
def scaled (numerator denominator : Nat) (exponent : Int) : Nat × Nat :=
  if 0 ≤ exponent then (numerator, denominator * twoTo exponent.toNat)
  else (numerator * twoTo (-exponent).toNat, denominator)

/-- The exponent of the last place of the binary64 numbers next to a positive quotient: the
scaled quotient has fifty-three binary digits before the point, unless the smallest exponent
leaves it fewer. -/
def placeExponent (numerator denominator : Nat) : Int :=
  let guess : Int := (Nat.log2 numerator : Int) - Nat.log2 denominator - 52
  let parts := scaled numerator denominator guess
  max (if parts.1 < twoTo 52 * parts.2 then guess - 1 else guess) (-1074)

/-- Assemble a rounded significand, which may have grown by one digit, with its exponent; beyond
the greatest exponent there is only infinity. -/
def assemble (negative : Bool) (significand : Nat) (exponent : Int) : Binary64 :=
  if significand < twoTo 53 then
    if exponent ≤ 971 then .finite negative significand exponent else .infinite negative
  else if exponent + 1 ≤ 971 then .finite negative (significand / 2) (exponent + 1)
  else .infinite negative

/-- The binary64 number nearest to a non-negative quotient with the given sign. -/
def nearestMagnitude (negative : Bool) (numerator denominator : Nat) : Binary64 :=
  if numerator = 0 then .finite negative 0 0
  else
    let exponent := placeExponent numerator denominator
    let parts := scaled numerator denominator exponent
    assemble negative (roundHalfEven parts.1 parts.2) exponent

/-- The binary64 number nearest to a fraction. -/
def nearest (value : Fraction) : Binary64 :=
  nearestMagnitude (value.numerator < 0) value.numerator.natAbs value.denominator

/-- The binary64 number nearest to a whole number. -/
def ofInt (number : Int) : Binary64 := nearest (Fraction.ofInt number)

/-- The exact value of a finite number. -/
def toFraction? : Binary64 → Option Fraction
  | .finite negative significand exponent =>
    let sign : Int := if negative then -1 else 1
    if 0 ≤ exponent then some ⟨sign * (significand * twoTo exponent.toNat : Nat), 1⟩
    else some ⟨sign * significand, twoTo (-exponent).toNat⟩
  | _ => none

/-- The sign is minus. -/
def isNegative : Binary64 → Bool
  | .finite negative _ _ => negative
  | .infinite negative => negative
  | .nan => false

/-- Neither an infinity nor not a number. -/
def isFinite : Binary64 → Bool
  | .finite .. => true
  | _ => false

/-- The value is zero, of either sign. -/
def isZero : Binary64 → Bool
  | .finite _ significand _ => significand == 0
  | _ => false

/-- Strictly above zero. -/
def isPositive : Binary64 → Bool
  | .finite negative significand _ => !negative && significand != 0
  | .infinite negative => !negative
  | .nan => false

/-- The whole number that a finite number equals, if it equals one. -/
def toInt? (number : Binary64) : Option Int := do
  let value ← number.toFraction?
  if value.numerator % value.denominator = 0 then
    some (value.numerator / value.denominator)
  else none

/-- The part before the point of a finite number. -/
def truncate? (number : Binary64) : Option Int := do
  let value ← number.toFraction?
  some (value.numerator.tdiv value.denominator)

/-- The least whole number not below a finite number. -/
def ceil? (number : Binary64) : Option Int := do
  let value ← number.toFraction?
  some (ceilDiv value.numerator value.denominator)

/-- The order of the numbers; a value that is not a number is not comparable. -/
def le : Binary64 → Binary64 → Bool
  | .nan, _ => false
  | _, .nan => false
  | .infinite negative, right => negative || right == .infinite false
  | _, .infinite negative => !negative
  | left, right =>
    match left.toFraction?, right.toFraction? with
    | some l, some r => l.le r
    | _, _ => false

/-- The rounded sum of two finite numbers; anything else is not a number. -/
def add (left right : Binary64) : Binary64 :=
  match left.toFraction?, right.toFraction? with
  | some l, some r => nearest (l.add r)
  | _, _ => .nan

/-- The rounded difference of two finite numbers; anything else is not a number. -/
def sub (left right : Binary64) : Binary64 :=
  match left.toFraction?, right.toFraction? with
  | some l, some r => nearest (l.add r.neg)
  | _, _ => .nan

/-- The rounded product of two finite numbers; anything else is not a number. -/
def mul (left right : Binary64) : Binary64 :=
  match left.toFraction?, right.toFraction? with
  | some l, some r => nearest (l.mul r)
  | _, _ => .nan

/-- The rounded quotient of a whole number by a positive whole number; `none` when it is beyond
the finite numbers. -/
def divide? (numerator : Int) (denominator : Nat) : Option Binary64 :=
  match nearest ⟨numerator, denominator⟩ with
  | .infinite _ => none
  | number => some number

/-- The number nearest to `digits * 10 ^ scale` with the given sign. Scales so far out that the
digits cannot matter are cut off first. -/
def ofDecimal (negative : Bool) (digits : Nat) (scale : Int) : Binary64 :=
  let reach := scale + (Nat.log2 digits / 3 : Nat)
  if digits = 0 then .finite negative 0 0
  else if reach < -400 then .finite negative 0 0
  else if 400 < scale then .infinite negative
  else if 0 ≤ scale then nearestMagnitude negative (digits * tenTo scale.toNat) 1
  else nearestMagnitude negative digits (tenTo (-scale).toNat)

end Binary64

end Turnstile.Number
