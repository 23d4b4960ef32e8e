import Turnstile.Json.Value

/-!
# Writing JSON

One writer serves the log lines and the response bodies; a `Dialect` record holds what differs:
the separators, whether text outside printable ASCII is escaped, and whether the numbers that
JSON cannot name may be written.
-/

namespace Turnstile.Json

open Number

/-- The choices of a JSON text. -/
structure Dialect where
  itemSeparator : String
  nameSeparator : String
  asciiOnly : Bool

/-- Log lines: a blank after each separator. -/
def Dialect.line (asciiOnly : Bool) : Dialect := ⟨", ", ": ", asciiOnly⟩

/-- Response bodies: no blanks, all characters as they are. -/
def Dialect.compact : Dialect := ⟨",", ":", false⟩

/-- A code unit as an escape with four hexadecimal digits. -/
def unitEscape (unit : Nat) : List Char :=
  ['\\', 'u', Nat.digitChar (unit / 4096 % 16), Nat.digitChar (unit / 256 % 16),
    Nat.digitChar (unit / 16 % 16), Nat.digitChar (unit % 16)]

/-- A character as escapes of its UTF-16 code units. -/
def charEscape (c : Char) : List Char :=
  let code := c.toNat
  if code < 0x10000 then unitEscape code
  else
    let offset := code - 0x10000
    unitEscape (0xD800 + offset / 1024) ++ unitEscape (0xDC00 + offset % 1024)

/-- A character inside a quoted text. -/
def quoteChar (asciiOnly : Bool) (c : Char) : List Char :=
  if c = '"' then ['\\', '"']
  else if c = '\\' then ['\\', '\\']
  else if c = '\n' then ['\\', 'n']
  else if c = '\r' then ['\\', 'r']
  else if c = '\t' then ['\\', 't']
  else if c.toNat = 0x0C then ['\\', 'f']
  else if c.toNat = 0x08 then ['\\', 'b']
  else if c.toNat < 0x20 then unitEscape c.toNat
  else if asciiOnly && 0x7F ≤ c.toNat then charEscape c
  else [c]

/-- A quoted text. -/
def quote (asciiOnly : Bool) (text : String) : String :=
  "\"" ++ String.ofList (text.toList.flatMap (quoteChar asciiOnly)) ++ "\""

/-- Binary64 numbers in JSON: the shortest text, with the customary names beyond the finite. -/
def numberLayout : Layout := { Layout.plain with infinity := "Infinity", notANumber := "NaN" }

mutual

/-- The text of a value. -/
def write (dialect : Dialect) : Json → String
  | .null => "null"
  | .bool value => if value then "true" else "false"
  | .int value => toString value
  | .float value => numberLayout.text value
  | .str value => quote dialect.asciiOnly value
  | .arr items => "[" ++ writeItems dialect items ++ "]"
  | .obj members => "\x7b" ++ writeMembers dialect members ++ "\x7d"

/-- The texts of the items of an array. -/
def writeItems (dialect : Dialect) : List Json → String
  | [] => ""
  | [item] => write dialect item
  | item :: rest => write dialect item ++ dialect.itemSeparator ++ writeItems dialect rest

/-- The texts of the members of an object. -/
def writeMembers (dialect : Dialect) : List (String × Json) → String
  | [] => ""
  | [member] => writeMember dialect member
  | member :: rest =>
    writeMember dialect member ++ dialect.itemSeparator ++ writeMembers dialect rest

/-- The text of one member. -/
def writeMember (dialect : Dialect) : String × Json → String
  | (name, value) =>
    quote dialect.asciiOnly name ++ dialect.nameSeparator ++ write dialect value

end

mutual

/-- Every binary64 number in the value is finite. -/
def isFinite : Json → Bool
  | .float value => value.isFinite
  | .arr items => itemsFinite items
  | .obj members => membersFinite members
  | _ => true

/-- Every binary64 number in the items is finite. -/
def itemsFinite : List Json → Bool
  | [] => true
  | item :: rest => isFinite item && itemsFinite rest

/-- Every binary64 number in the members is finite. -/
def membersFinite : List (String × Json) → Bool
  | [] => true
  | member :: rest => memberFinite member && membersFinite rest

/-- Every binary64 number in the member is finite. -/
def memberFinite : String × Json → Bool
  | (_, value) => isFinite value

end

/-- The text of a response body. -/
def compact (value : Json) : String := write Dialect.compact value

end Turnstile.Json
