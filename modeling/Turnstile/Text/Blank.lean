/-!
# Blank characters

Two classes of blank characters and the removal of a class from both ends of a text. The wide
class also holds the four information separators; the standard class is the White_Space property.
A text also falls into pieces at the occurrences of a character.
-/

namespace Turnstile.Text

/-- The White_Space property of Unicode. -/
def isWhiteSpace (c : Char) : Bool :=
  let code := c.toNat
  (0x09 ≤ code && code ≤ 0x0D) || code == 0x20 || code == 0x85 || code == 0xA0 ||
    code == 0x1680 || (0x2000 ≤ code && code ≤ 0x200A) || code == 0x2028 || code == 0x2029 ||
    code == 0x202F || code == 0x205F || code == 0x3000

/-- White_Space together with the information separators U+001C to U+001F. -/
def isBlank (c : Char) : Bool :=
  isWhiteSpace c || (0x1C ≤ c.toNat && c.toNat ≤ 0x1F)

/-- Drop the characters of a class from both ends. -/
def trimBy (cut : Char → Bool) (text : List Char) : List Char :=
  ((text.dropWhile cut).reverse.dropWhile cut).reverse

/-- Drop blanks, in the wide sense, from both ends of a list of characters. -/
def stripChars (text : List Char) : List Char := trimBy isBlank text

/-- Drop blanks, in the wide sense, from both ends. -/
def strip (text : String) : String := String.ofList (stripChars text.toList)

/-- Drop White_Space from both ends. -/
def trim (text : String) : String := String.ofList (trimBy isWhiteSpace text.toList)

/-- The characters of a trimmed text. -/
@[simp] theorem toList_strip (text : String) : (strip text).toList = stripChars text.toList := by
  simp [strip]

/-- Every standard white space character is a wide blank. -/
theorem isBlank_of_isWhiteSpace (c : Char) (h : isWhiteSpace c = true) : isBlank c = true := by
  simp [isBlank, h]

/-- The pieces of a text between the occurrences of one character; there is always a piece. -/
def splitAt (mark : Char) : List Char → List (List Char)
  | [] => [[]]
  | c :: rest =>
    if c = mark then [] :: splitAt mark rest
    else match splitAt mark rest with
      | [] => [[c]]
      | piece :: pieces => (c :: piece) :: pieces

/-- The pieces of a text between the occurrences of one character, as strings. -/
def splitOnChar (mark : Char) (text : String) : List String :=
  (splitAt mark text.toList).map String.ofList

end Turnstile.Text
