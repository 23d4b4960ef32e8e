import Turnstile.Http.RequestId
import Turnstile.Proofs.Text.Digest

/-!
# Which identifiers are usable

A well-formed identifier has one to 128 characters of a fixed alphabet. Every generated identifier
is well formed. From outside, every well-formed identifier is usable, and so is each with a line
feed after it; nothing else is.
-/

namespace Turnstile.Http.RequestId

/-- The characters that an identifier is written with. -/
def alphabet : List Char :=
  "ABCDEFGHIJKLMNOPQRSTUVWXYZabcdefghijklmnopqrstuvwxyz0123456789._:-".toList

/-- One to 128 characters of the alphabet. -/
structure IsWellFormed (id : String) : Prop where
  nonempty : 1 ≤ id.length
  short : id.length ≤ 128
  letters : ∀ c ∈ id.toList, c ∈ alphabet

/-- A well-formed identifier, or one with a line feed after it. -/
def IsAccepted (text : String) : Prop :=
  IsWellFormed text ∨ ∃ id, IsWellFormed id ∧ text = id ++ "\n"

/-! ## The alphabet -/

/-- The characters of identifiers are ASCII characters. -/
theorem toNat_lt_of_isIdChar {c : Char} (fits : isIdChar c = true) : c.toNat < 128 := by
  have marks : ['.', '_', ':', '-'].all (fun mark => decide (mark.toNat < 128)) = true := by
    decide
  simp only [isIdChar, Bool.or_eq_true, decide_eq_true_eq] at fits
  rcases fits with (((named | point) | score) | colon) | hyphen
  · exact Text.toNat_lt_of_isAlphanum named
  all_goals
    refine of_decide_eq_true (List.all_eq_true.mp marks c ?_)
    simp only [*, List.mem_cons, true_or, or_true]

/-- The alphabet lists the characters of identifiers. -/
theorem isIdChar_iff {c : Char} : isIdChar c = true ↔ c ∈ alphabet := by
  constructor
  · intro fits
    have listed : ∀ code < 128, isIdChar (Char.ofNat code) = true →
        Char.ofNat code ∈ alphabet := by decide +kernel
    have told := listed c.toNat (toNat_lt_of_isIdChar fits)
    rw [Char.ofNat_toNat] at told
    exact told fits
  · intro member
    exact List.all_eq_true.mp (show alphabet.all isIdChar = true by decide) c member

/-! ## Identifiers from outside -/

/-- A text is plain when it is well formed. -/
theorem isPlain_iff {text : String} : isPlain text.toList = true ↔ IsWellFormed text := by
  have letters : text.toList.all isIdChar = true ↔ ∀ c ∈ text.toList, c ∈ alphabet := by
    simp only [List.all_eq_true, isIdChar_iff]
  rw [isPlain, Bool.and_eq_true, Bool.and_eq_true, letters, decide_eq_true_eq, decide_eq_true_eq,
    String.length_toList]
  constructor
  · rintro ⟨⟨nonempty, short⟩, written⟩
    exact ⟨nonempty, short, written⟩
  · rintro ⟨nonempty, short, written⟩
    exact ⟨⟨nonempty, short⟩, written⟩

/-- A line feed at the end is dropped. -/
theorem dropFinalLineFeed_concat (text : List Char) :
    dropFinalLineFeed (text ++ ['\n']) = text := by
  rw [dropFinalLineFeed, if_pos List.getLast?_concat, List.dropLast_concat]

/-- The usable identifiers are the well-formed ones, each also with a line feed after it. -/
theorem isUsable_iff {text : String} : isUsable text = true ↔ IsAccepted text := by
  rw [isUsable, Bool.or_eq_true, isPlain_iff, IsAccepted]
  constructor
  · rintro (own | cut)
    · exact .inl own
    · by_cases ends : text.toList.getLast? = some '\n'
      · obtain ⟨id, split⟩ := List.getLast?_eq_some_iff.mp ends
        rw [split, dropFinalLineFeed_concat] at cut
        refine .inr ⟨String.ofList id, isPlain_iff.mp (by rwa [String.toList_ofList]), ?_⟩
        apply String.toList_inj.mp
        rw [split, String.toList_append, String.toList_ofList]
        rfl
      · rw [dropFinalLineFeed, if_neg ends] at cut
        exact .inl (isPlain_iff.mp cut)
  · rintro (own | ⟨id, fine, rfl⟩)
    · exact .inl own
    · refine .inr ?_
      rw [String.toList_append, show "\n".toList = ['\n'] from rfl, dropFinalLineFeed_concat]
      exact isPlain_iff.mpr fine

/-- A well-formed identifier has no line feed. -/
theorem IsWellFormed.lineFeed_not_mem {id : String} (fine : IsWellFormed id) : '\n' ∉ id.toList :=
  fun member => absurd (fine.letters _ member) (by decide)

/-- An accepted identifier that does not end in a line feed is well formed. -/
theorem IsAccepted.isWellFormed {text : String} (accepted : IsAccepted text)
    (ends : text.toList.getLast? ≠ some '\n') : IsWellFormed text := by
  rcases accepted with own | ⟨id, -, rfl⟩
  · exact own
  · refine absurd ?_ ends
    rw [String.toList_append]
    exact List.getLast?_concat

/-! ## Generated identifiers -/

/-- Hexadecimal digits are in the alphabet. -/
theorem mem_alphabet_of_mem_hexDigits {width number : Nat} {c : Char}
    (member : c ∈ Text.Digest.hexDigits width number) : c ∈ alphabet := by
  have digits : ∀ digit < 16, Nat.digitChar digit ∈ alphabet := by decide
  obtain ⟨digit, small, rfl⟩ := Text.Digest.exists_of_mem_hexDigits member
  exact digits digit small

/-- A generated identifier has thirty-six characters. -/
theorem length_generate (serial : Nat) : (generate serial).length = 36 := by
  simp [generate, ← String.length_toList]

/-- Every generated identifier is well formed. -/
theorem isWellFormed_generate (serial : Nat) : IsWellFormed (generate serial) where
  nonempty := by rw [length_generate]; decide
  short := by rw [length_generate]; decide
  letters c member := by
    have fixed : ("-".toList ++ "-0000-0000-000000000000".toList).all alphabet.contains = true := by
      decide
    have listed (c) (own : c ∈ "-".toList ++ "-0000-0000-000000000000".toList) : c ∈ alphabet :=
      List.contains_iff_mem.mp (List.all_eq_true.mp fixed c own)
    simp only [generate, String.toList_append, String.toList_ofList, List.mem_append] at member
    rcases member with ((high | hyphen) | low) | zeros
    · exact mem_alphabet_of_mem_hexDigits (List.mem_of_mem_take high)
    · exact listed c (List.mem_append_left _ hyphen)
    · exact mem_alphabet_of_mem_hexDigits (List.mem_of_mem_drop low)
    · exact listed c (List.mem_append_right _ zeros)

end Turnstile.Http.RequestId
