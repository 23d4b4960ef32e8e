import Mathlib.Data.List.Basic
import Turnstile.Json.Reader
import Turnstile.Json.Writer

/-!
# Quoted texts are read back

A text that a body quotes is read back as it was, and what follows its closing quote is left. So
texts that are quoted in front of others can be told from what is written.
-/

namespace Turnstile.Json

open Text

/-- A hexadecimal digit has the value that it was written for. -/
theorem hexValue?_digitChar {digit : Nat} (small : digit < 16) :
    hexValue? (Nat.digitChar digit) = some digit := by
  have all : ∀ digit < 16, hexValue? (Nat.digitChar digit) = some digit := by decide
  exact all digit small

/-- An escape of a code unit is read back, if anything follows it. -/
theorem fourHex?_unitEscape {unit : Nat} (small : unit < 65536) {text : List Point}
    (more : text ≠ []) :
    fourHex? (((unitEscape unit).drop 2).map .char ++ text) = some (unit, text) := by
  have follows : text.isEmpty = false := List.isEmpty_eq_false_iff.mpr more
  have value : unit / 4096 % 16 * 4096 + unit / 256 % 16 * 256 + unit / 16 % 16 * 16 + unit % 16 =
      unit := by omega
  have digit (number : Nat) : hexValue? (Nat.digitChar (number % 16)) = some (number % 16) :=
    hexValue?_digitChar (Nat.mod_lt _ (by decide))
  simp only [unitEscape, List.drop_succ_cons, List.drop_zero, List.map_cons, List.map_nil,
    List.cons_append, List.nil_append, fourHex?, follows, digit, Bool.false_eq_true, if_false,
    Option.bind_eq_bind, Option.bind_some, value]

/-- A quoted character is read as the character. -/
theorem readString_quoteChar (fuel opened : Nat) (taken : List Point) (c : Char)
    {text : List Point} (more : text ≠ []) :
    readString (fuel + 1) opened taken ((quoteChar false c).map .char ++ text) =
      readString fuel opened (.char c :: taken) text := by
  have code {other : Char} (same : c.toNat = other.toNat) : c = other := by
    rw [← Char.ofNat_toNat c, same, Char.ofNat_toNat]
  unfold quoteChar
  split
  · subst c
    rfl
  split
  · subst c
    rfl
  split
  · subst c
    rfl
  split
  · subst c
    rfl
  split
  · subst c
    rfl
  split
  · obtain rfl : c = Char.ofNat 0x0C := code ‹_›
    rfl
  split
  · obtain rfl : c = Char.ofNat 0x08 := code ‹_›
    rfl
  split
  · -- What has no short escape is read back from its code.
    rename_i low
    have read : fourHex? (((unitEscape c.toNat).drop 2).map .char ++ text) =
        some (c.toNat, text) := fourHex?_unitEscape (by omega) more
    have single : isHighUnit c.toNat = false := by
      unfold isHighUnit
      simp only [Bool.and_eq_false_iff, decide_eq_false_iff_not]
      omega
    show readString (fuel + 1) opened taken
      (.char '\\' :: .char 'u' :: (((unitEscape c.toNat).drop 2).map .char ++ text)) = _
    simp only [readString, read, single, Point.ofCode_toNat, Bool.false_eq_true, if_false]
  split
  · contradiction
  · rename_i notQuote notSlash _ _ _ _ _ high _
    show readString (fuel + 1) opened taken (.char c :: text) = _
    have plain : ¬(Point.char c).code ≤ 0x1F := by
      show ¬c.toNat ≤ 0x1F
      omega
    conv_lhs => unfold readString
    split
    · cases ‹_ = []›
    · exact absurd (Point.char.inj (List.cons.inj ‹_›).1) notQuote
    · exact absurd (Point.char.inj (List.cons.inj ‹_›).1) notSlash
    · obtain ⟨rfl, rfl⟩ := List.cons.inj ‹_›
      rw [if_neg plain]

/-- A quoted text is read back, and what follows it is left. -/
theorem readString_quoted (opened : Nat) (text : List Char) (rest : List Point) {fuel : Nat}
    (enough : text.length < fuel) (taken : List Point) :
    readString fuel opened taken
        ((text.flatMap (quoteChar false)).map .char ++ .char '"' :: rest) =
      .ok (taken.reverse ++ text.map .char, rest) := by
  induction text generalizing fuel taken with
  | nil =>
    obtain ⟨fuel, rfl⟩ := Nat.exists_eq_succ_of_ne_zero (Nat.ne_of_gt enough)
    simp only [List.flatMap_nil, List.map_nil, List.nil_append, readString, List.append_nil]
  | cons c text ih =>
    obtain ⟨fuel, rfl⟩ := Nat.exists_eq_succ_of_ne_zero (Nat.ne_zero_of_lt enough)
    have more : (text.flatMap (quoteChar false)).map Point.char ++ .char '"' :: rest ≠ [] := by
      simp
    have fewer : text.length < fuel := Nat.lt_of_succ_lt_succ enough
    rw [List.flatMap_cons, List.map_append, List.append_assoc,
      readString_quoteChar fuel opened taken c more, ih fewer (.char c :: taken),
      List.reverse_cons, List.append_assoc, List.singleton_append, List.map_cons]

/-- Texts quoted in front of others are told from what is written. -/
theorem quote_append_inj {first second restOfFirst restOfSecond : String}
    (same : quote false first ++ restOfFirst = quote false second ++ restOfSecond) :
    first = second ∧ restOfFirst = restOfSecond := by
  have written (text rest : String) : points (quote false text ++ rest) =
      .char '"' :: ((text.toList.flatMap (quoteChar false)).map .char ++
        .char '"' :: points rest) := by
    simp [quote, points]
  have inside := congrArg points same
  rw [written, written] at inside
  have read := congrArg (readString (first.length + second.length + 1) 0 [])
    (List.cons.inj inside).2
  have enough : first.toList.length < first.length + second.length + 1 ∧
      second.toList.length < first.length + second.length + 1 := by
    rw [String.length_toList, String.length_toList]
    omega
  rw [readString_quoted 0 _ _ enough.1, readString_quoted 0 _ _ enough.2] at read
  obtain ⟨texts, rests⟩ := Prod.mk.inj (Except.ok.inj read)
  exact ⟨points_injective texts, points_injective rests⟩

end Turnstile.Json
