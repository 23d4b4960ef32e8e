import Turnstile.Text.Digest

/-!
# Request identifiers

A request brings its own identifier or gets a generated one. An identifier from outside is
accepted if it is short and made of harmless characters, one line feed at its end left aside.
-/

namespace Turnstile.Http.RequestId

/-- The characters of an identifier: ASCII letters and digits, point, underscore, colon, hyphen. -/
def isIdChar (c : Char) : Bool :=
  c.isAlphanum || c = '.' || c = '_' || c = ':' || c = '-'

/-- The greatest length of an identifier. -/
def longest : Nat := 128

/-- One to 128 identifier characters. -/
def isPlain (text : List Char) : Bool :=
  0 < text.length && text.length ≤ longest && text.all isIdChar

/-- A text without the line feed at its end, if there is one. -/
def dropFinalLineFeed (text : List Char) : List Char :=
  if text.getLast? = some '\n' then text.dropLast else text

/-- An identifier from outside is usable. -/
def isUsable (text : String) : Bool :=
  isPlain text.toList || isPlain (dropFinalLineFeed text.toList)

/-- The generated identifier of a number: the number in the first forty-eight bits. -/
def generate (serial : Nat) : String :=
  let digits := Text.Digest.hexDigits 12 serial
  String.ofList (digits.take 8) ++ "-" ++ String.ofList (digits.drop 8) ++
    "-0000-0000-000000000000"

end Turnstile.Http.RequestId
