/-!
# Powers

Powers of the bases in which numbers are kept and written, and the words that powers of two
bound. The laws below are those from which
all others follow: the power at zero, at the next exponent, and that none is zero.
-/

namespace Turnstile.Number

/-- A power of two. -/
def twoTo (exponent : Nat) : Nat := Nat.pow 2 exponent

/-- A power of ten. -/
def tenTo (exponent : Nat) : Nat := Nat.pow 10 exponent

/-- The number fits into a signed word of that many bits and one for the sign. -/
def fitsWord (bits : Nat) (number : Int) : Bool :=
  -(twoTo bits : Int) ≤ number && number < (twoTo bits : Int)

/-- The power of two at zero is one. -/
theorem twoTo_zero : twoTo 0 = 1 := rfl

/-- The next power of two is twice as much. -/
theorem twoTo_succ (exponent : Nat) : twoTo (exponent + 1) = 2 * twoTo exponent :=
  Nat.mul_comm _ 2

/-- Powers of two are positive. -/
theorem twoTo_pos (exponent : Nat) : 0 < twoTo exponent := Nat.pow_pos (by decide)

/-- The power of ten at zero is one. -/
theorem tenTo_zero : tenTo 0 = 1 := rfl

/-- The next power of ten is ten times as much. -/
theorem tenTo_succ (exponent : Nat) : tenTo (exponent + 1) = 10 * tenTo exponent :=
  Nat.mul_comm _ 10

/-- Powers of ten are positive. -/
theorem tenTo_pos (exponent : Nat) : 0 < tenTo exponent := Nat.pow_pos (by decide)

end Turnstile.Number
