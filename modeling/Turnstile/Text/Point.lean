/-!
# Code points

A text from outside may hold surrogates: code points that are no characters and stand for half of
one in UTF-16. A text is made of characters exactly when none of its code points is a surrogate.
-/

namespace Turnstile.Text

/-- A code point: a character, or the surrogate at an offset from the first. -/
inductive Point where
  | char (c : Char)
  | surrogate (offset : Fin 0x800)
deriving DecidableEq, Repr, Inhabited

/-- A unit of UTF-16 that starts a pair. -/
def isHighUnit (unit : Nat) : Bool := 0xD800 ≤ unit && unit ≤ 0xDBFF

/-- A unit of UTF-16 that ends a pair. -/
def isLowUnit (unit : Nat) : Bool := 0xDC00 ≤ unit && unit ≤ 0xDFFF

/-- The code of the character of a pair of units. -/
def pairCode (high low : Nat) : Nat := 0x10000 + (high - 0xD800) * 1024 + (low - 0xDC00)

namespace Point

/-- The code of a code point. -/
def code : Point → Nat
  | char c => c.toNat
  | surrogate offset => 0xD800 + offset

/-- The code point of a code. -/
def ofCode (code : Nat) : Point :=
  if within : 0xD800 ≤ code ∧ code ≤ 0xDFFF then surrogate ⟨code - 0xD800, by omega⟩
  else char (Char.ofNat code)

/-- The character that a code point is. -/
def char? : Point → Option Char
  | char c => some c
  | surrogate _ => none

/-- The code point is a surrogate. -/
def isSurrogate (point : Point) : Bool := point.char?.isNone

/-- The code point is an ASCII digit. -/
def isDigit (point : Point) : Bool := (point.char?.map Char.isDigit).getD false

/-- A character is the character that it is. -/
@[simp] theorem char?_char (c : Char) : (char c).char? = some c := rfl

/-- The code of a character is the code of its code point. -/
theorem ofCode_toNat (c : Char) : ofCode c.toNat = char c := by
  have valid : ¬(0xD800 ≤ c.toNat ∧ c.toNat ≤ 0xDFFF) := by
    have := c.valid
    simp only [UInt32.isValidChar, Nat.isValidChar] at this
    unfold Char.toNat
    omega
  rw [ofCode, dif_neg valid, Char.ofNat_toNat]

end Point

/-- The code points of a text. -/
def points (text : String) : List Point := text.toList.map .char

/-- The text of the characters among code points. -/
def charsOf (points : List Point) : String := String.ofList (points.filterMap Point.char?)

/-- The text of code points without surrogates. -/
def ofPoints? (points : List Point) : Option String :=
  (points.mapM Point.char?).map String.ofList

open Point in
/-- Code points are characters exactly when they are those of the characters. -/
theorem mapM_char?_eq_some {points : List Point} {chars : List Char} :
    points.mapM Point.char? = some chars ↔ points = chars.map .char := by
  induction points generalizing chars with
  | nil => cases chars <;> simp
  | cons point rest ih =>
    cases point with
    | surrogate offset => cases chars <;> simp [Point.char?]
    | char c =>
      rw [List.mapM_cons, char?_char]
      cases chars with
      | nil => simp [Option.bind_eq_some_iff]
      | cons first others =>
        simp only [Option.bind_eq_bind, Option.bind_some, Option.bind_eq_some_iff, ih,
          Option.pure_def, Option.some.injEq, List.cons.injEq, List.map_cons, char.injEq]
        constructor
        · rintro ⟨_, rest, rfl, rfl⟩
          exact ⟨rfl, rest⟩
        · rintro ⟨rfl, rest⟩
          exact ⟨others, rest, rfl, rfl⟩

/-- Code points have a text exactly when they are those of the text. -/
theorem ofPoints?_eq_some {list : List Point} {text : String} :
    ofPoints? list = some text ↔ list = points text := by
  unfold ofPoints? points
  constructor
  · intro read
    obtain ⟨chars, found, rfl⟩ := Option.map_eq_some_iff.mp read
    rw [String.toList_ofList]
    exact mapM_char?_eq_some.mp found
  · rintro rfl
    rw [mapM_char?_eq_some.mpr rfl, Option.map_some, String.ofList_toList]

/-- The text of the code points of a text. -/
@[simp] theorem ofPoints?_points (text : String) : ofPoints? (points text) = some text :=
  ofPoints?_eq_some.mpr rfl

/-- A text is told by its code points. -/
theorem points_injective {first second : String} (same : points first = points second) :
    first = second := by
  have read := congrArg ofPoints? same
  rw [ofPoints?_points, ofPoints?_points] at read
  exact Option.some.inj read

end Turnstile.Text
