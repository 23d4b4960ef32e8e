import Turnstile.Limiter.Basic
import Turnstile.Proofs.Text.Digest

/-!
# Names of entries

An entry is named by its instant and a serial number in twelve hexadecimal digits. As many serial
numbers as there are such texts give different names, whatever the instants.
-/

namespace Turnstile

namespace Limiter

open Text.Digest

/-- Entries of the same name have the same serial number. -/
theorem serial_eq_of_entryId_eq {now later : Int} {serial next : Nat} (room : serial < 16 ^ 12)
    (other : next < 16 ^ 12) (same : entryId now serial = entryId later next) : serial = next := by
  have lists := congrArg String.toList same
  simp only [entryId, String.toList_append, String.toList_ofList] at lists
  obtain ⟨_, digits⟩ := List.append_inj' lists (by rw [length_hexDigits, length_hexDigits])
  exact hexDigits_inj room other digits

/-- Numbers less than a whole round apart give different names at one instant. -/
theorem entryId_ne_of_lt {now : Int} {serial next : Nat} (after : serial < next)
    (near : next < serial + 16 ^ 12) : entryId now serial ≠ entryId now next := by
  intro same
  have lists := congrArg String.toList same
  simp only [entryId, String.toList_append, String.toList_ofList] at lists
  obtain ⟨_, digits⟩ := List.append_inj' lists (by rw [length_hexDigits, length_hexDigits])
  have remainders := mod_eq_of_hexDigits_eq digits
  have round : (16 : Nat) ^ 12 = 281474976710656 := rfl
  rw [round] at near remainders
  omega

end Limiter

end Turnstile
