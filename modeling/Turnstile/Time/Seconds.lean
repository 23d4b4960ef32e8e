import Turnstile.Number.Binary64

/-!
# Readings of a store clock

A store clock counts seconds, either in whole numbers or in binary64. Sums and differences of
whole readings are exact; those that involve a binary64 reading are rounded. The order is that of
the exact values in every case.
-/

namespace Turnstile.Time

open Number

/-- A reading of a store clock. -/
inductive Seconds where
  | whole (count : Int)
  | binary (count : Binary64)
deriving DecidableEq, Repr, Inhabited

namespace Seconds

/-- The exact value of a reading; a reading that is not finite counts as zero. -/
def value : Seconds → Fraction
  | .whole count => Fraction.ofInt count
  | .binary count => count.toFraction?.getD (Fraction.ofInt 0)

/-- The order of readings. -/
def le (left right : Seconds) : Bool := left.value.le right.value

/-- The strict order of readings. -/
def lt (left right : Seconds) : Bool := left.value.lt right.value

/-- The reading as a binary64 number. -/
def toBinary64 : Seconds → Binary64
  | .whole count => Binary64.ofInt count
  | .binary count => count

/-- The reading a count of whole seconds later. -/
def later (reading : Seconds) (seconds : Int) : Seconds :=
  match reading with
  | .whole count => .whole (count + seconds)
  | .binary count => .binary (count.add (Binary64.ofInt seconds))

/-- The seconds from one reading to another. -/
def since (reading origin : Seconds) : Seconds :=
  match reading, origin with
  | .whole left, .whole right => .whole (left - right)
  | _, _ => .binary (reading.toBinary64.sub origin.toBinary64)

/-- A span of seconds in whole milliseconds: the rounded binary64 product by a thousand, to the
nearest whole number. -/
def toMilliseconds (span : Seconds) : Int :=
  match (span.toBinary64.mul (Binary64.ofInt 1000)).toFraction? with
  | some product => roundSigned product.numerator product.denominator
  | none => 0

/-- Whole readings are ordered as their counts. -/
@[simp] theorem whole_le_whole (left right : Int) :
    (whole left).le (whole right) = decide (left ≤ right) := by
  simp [le, value, Fraction.le, Fraction.ofInt]

/-- Whole readings add exactly. -/
@[simp] theorem later_whole (count seconds : Int) :
    (whole count).later seconds = whole (count + seconds) := rfl

end Seconds

end Turnstile.Time
