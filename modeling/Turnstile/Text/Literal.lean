import Turnstile.Json.Value
import Turnstile.Json.Writer
import Turnstile.Text.HiddenTable

/-!
# Literals

The quoted literal of a text and the plain text of a value, as they appear where a value is put
into a message. Characters that do not print are escaped.
-/

namespace Turnstile.Text

open Number

/-- The character prints as itself inside a literal: it is not in the first hidden range that does
not end before it. -/
def isPrintable (c : Char) : Bool :=
  match hiddenRanges.find? fun range => c.toNat ≤ range.2 with
  | some range => c.toNat < range.1
  | none => true

/-- An escape by code point with two, four or eight hexadecimal digits. -/
def codeEscape (code : Nat) : List Char :=
  let digits (width : Nat) : List Char :=
    (List.range width).reverse.map fun place => Nat.digitChar (code / twoTo (4 * place) % 16)
  if code < 0x100 then '\\' :: 'x' :: digits 2
  else if code < 0x10000 then '\\' :: 'u' :: digits 4
  else '\\' :: 'U' :: digits 8

/-- A character inside a literal with the given quote. -/
def literalChar (mark : Char) (c : Char) : List Char :=
  if c = mark || c = '\\' then ['\\', c]
  else if c = '\n' then ['\\', 'n']
  else if c = '\r' then ['\\', 'r']
  else if c = '\t' then ['\\', 't']
  else if isPrintable c then [c]
  else codeEscape c.toNat

/-- A quoted literal: single quotes, unless the text holds one and no double quote. -/
def literal (text : String) : String :=
  let chars := text.toList
  let mark := if chars.contains '\'' && !chars.contains '"' then '"' else '\''
  String.ofList (mark :: chars.flatMap (literalChar mark) ++ [mark])

mutual

/-- The literal of a value. -/
def valueLiteral : Json → String
  | .null => "None"
  | .bool value => if value then "True" else "False"
  | .int value => toString value
  | .float value => value.text
  | .str value => literal value
  | .arr items => "[" ++ itemsLiteral items ++ "]"
  | .obj members => "\x7b" ++ membersLiteral members ++ "\x7d"

/-- The literals of the items of an array. -/
def itemsLiteral : List Json → String
  | [] => ""
  | [item] => valueLiteral item
  | item :: rest => valueLiteral item ++ ", " ++ itemsLiteral rest

/-- The literals of the members of an object. -/
def membersLiteral : List (String × Json) → String
  | [] => ""
  | [member] => memberLiteral member
  | member :: rest => memberLiteral member ++ ", " ++ membersLiteral rest

/-- The literals of a name and its value. -/
def memberLiteral : String × Json → String
  | (name, value) => literal name ++ ": " ++ valueLiteral value

end

/-- The text of a value inside a message: a string as it is, anything else as its literal. -/
def valueText : Json → String
  | .str value => value
  | other => valueLiteral other

end Turnstile.Text
