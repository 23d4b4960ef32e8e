import Turnstile.Proofs.Access
import Turnstile.Proofs.Text.Case
import Turnstile.Quota

/-!
# Spellings of a mail address

An address may be spelled with blanks around it, and with ASCII letters in either case. All such
spellings have one normal form, which is its own: small letters have no other small form, and none
of them is a blank that could be cut off.
-/

namespace Turnstile

variable {address other : String}

/-- The characters of a normalized address are trimmed and then made small. -/
theorem toList_normalizeEmail (address : String) :
    (normalizeEmail address).toList = Text.lowerChars (Text.stripChars address.toList) := by
  rw [normalizeEmail, Text.toList_lower, Text.toList_strip]

/-- The normal form of an address is its own normal form. -/
theorem normalizeEmail_normalizeEmail (address : String) :
    normalizeEmail (normalizeEmail address) = normalizeEmail address := by
  rw [← String.toList_inj, toList_normalizeEmail, toList_normalizeEmail,
    Text.stripChars_lowerChars_stripChars, Text.lowerChars_lowerChars]

/-- An address spelled in another way: with blanks around it, or with ASCII letters in another
case. -/
inductive Respells : String → String → Prop
  | padded {before after : String} (left : Access.IsBlank before) (right : Access.IsBlank after)
      (address : String) : Respells address (before ++ (address ++ after))
  | recased {address other : String}
      (same : address.toList.map Char.toLower = other.toList.map Char.toLower) :
      Respells address other

/-- An address spelled in another way has the same normal form. -/
theorem Respells.normalizeEmail_eq (respells : Respells address other) :
    normalizeEmail address = normalizeEmail other := by
  cases respells with
  | padded left right =>
    rw [normalizeEmail, normalizeEmail, Access.strip_padded left right]
  | recased same =>
    have small (text : String) : (normalizeEmail text).toList =
        Text.lowerChars (Text.stripChars (text.toList.map Char.toLower)) := by
      rw [toList_normalizeEmail, Text.stripChars_map_toLower]
      exact (Text.lowerFrom_map_toLower [] _).symm
    rw [← String.toList_inj, small, small, same]

/-- The other address is spelled in ways that lead from the one to it, or is its normal form. -/
def IsSpelling (address other : String) : Prop :=
  Relation.EqvGen Respells address other ∨ other = normalizeEmail address

/-- All spellings of an address have one normal form. -/
theorem IsSpelling.normalizeEmail_eq (spelling : IsSpelling address other) :
    normalizeEmail other = normalizeEmail address := by
  rcases spelling with respelled | rfl
  · induction respelled with
    | rel _ _ step => exact step.normalizeEmail_eq.symm
    | refl => rfl
    | symm _ _ _ ih => exact ih.symm
    | trans _ _ _ _ _ first second => exact second.trans first
  · exact normalizeEmail_normalizeEmail address

end Turnstile
