import Mathlib.Algebra.Group.Nat.Defs
import Turnstile.Text.Digest

/-!
# Digits of digests and of numbers

Hexadecimal digits in a fixed count: how many there are, which characters they are, and which
numbers they tell apart. The short digest of a text has sixteen of them. Letters and digits in
general stand among the first 128 characters.
-/

namespace Turnstile

namespace Text

/-- Letters and digits are among the first 128 characters. -/
theorem toNat_lt_of_isAlphanum {c : Char} (fits : c.isAlphanum = true) : c.toNat < 128 := by
  delta Char.isAlphanum Char.isAlpha Char.isUpper Char.isLower Char.isDigit at fits
  simp only [Bool.or_eq_true, Bool.and_eq_true, decide_eq_true_eq, UInt32.le_iff_toNat_le] at fits
  have greatest : 'Z'.val.toNat = 90 ∧ 'z'.val.toNat = 122 ∧ '9'.val.toNat = 57 := ⟨rfl, rfl, rfl⟩
  have code : c.toNat = c.val.toNat := rfl
  omega

namespace Digest

/-- A digit is the one below sixteen that it is written as. -/
theorem digitChar_inj {first second : Nat} (small : first < 16) (other : second < 16)
    (same : Nat.digitChar first = Nat.digitChar second) : first = second := by
  have distinct : ∀ first < 16, ∀ second < 16,
      Nat.digitChar first = Nat.digitChar second → first = second := by decide
  exact distinct first small second other same

/-- There are as many digits as the width. -/
@[simp] theorem length_hexDigits (width number : Nat) :
    (hexDigits width number).length = width := by
  induction width generalizing number with
  | zero => rfl
  | succ width ih => rw [hexDigits, List.length_append, ih, List.length_singleton]

/-- Every digit of a number is one of the sixteen. -/
theorem exists_of_mem_hexDigits {width number : Nat} {c : Char}
    (member : c ∈ hexDigits width number) : ∃ digit < 16, c = Nat.digitChar digit := by
  induction width generalizing number with
  | zero => cases member
  | succ width ih =>
    rcases List.mem_append.mp member with high | low
    · exact ih high
    · exact ⟨number % 16, Nat.mod_lt _ (by decide), List.mem_singleton.mp low⟩

/-- Numbers that a width has room for are told apart by their digits. -/
theorem hexDigits_inj {width first second : Nat} (room : first < 16 ^ width)
    (other : second < 16 ^ width) (same : hexDigits width first = hexDigits width second) :
    first = second := by
  induction width generalizing first second with
  | zero => omega
  | succ width ih =>
    rw [pow_succ] at room other
    obtain ⟨high, low⟩ := List.append_inj' same rfl
    have upper : first / 16 = second / 16 := ih (by omega) (by omega) high
    have lower : first % 16 = second % 16 :=
      digitChar_inj (Nat.mod_lt _ (by decide)) (Nat.mod_lt _ (by decide))
        (List.singleton_inj.mp low)
    omega

/-- Numbers of the same digits leave the same remainder. -/
theorem mod_eq_of_hexDigits_eq {width first second : Nat}
    (same : hexDigits width first = hexDigits width second) :
    first % 16 ^ width = second % 16 ^ width := by
  induction width generalizing first second with
  | zero => simp only [pow_zero, Nat.mod_one]
  | succ width ih =>
    obtain ⟨high, low⟩ := List.append_inj' same rfl
    have upper : first / 16 % 16 ^ width = second / 16 % 16 ^ width := ih high
    have lower : first % 16 = second % 16 :=
      digitChar_inj (Nat.mod_lt _ (by decide)) (Nat.mod_lt _ (by decide))
        (List.singleton_inj.mp low)
    rw [pow_succ, Nat.mul_comm, Nat.mod_mul, Nat.mod_mul, upper, lower]

end Digest

end Text

/-- The digest of an identifier has sixteen digits. -/
theorem length_hashIdentifier (identifier : String) : (hashIdentifier identifier).length = 16 := by
  simp [hashIdentifier, Text.Digest.short, Text.Digest.sha256]

end Turnstile
