import Turnstile.Text.Encoding

/-!
# Percent escapes

Reading a text in which a percent sign and two hexadecimal digits stand for a byte. A percent sign
without them stands for itself. The bytes are read as UTF-8; each longest start of a character
that does not continue as one, and each byte that starts none, becomes a replacement character.
-/

namespace Turnstile.Text

/-- The value of a hexadecimal digit. -/
def hexValue? (c : Char) : Option Nat :=
  if c.isDigit then some (c.toNat - '0'.toNat)
  else if 'a' ≤ c && c ≤ 'f' then some (c.toNat - 'a'.toNat + 10)
  else if 'A' ≤ c && c ≤ 'F' then some (c.toNat - 'A'.toNat + 10)
  else none

/-- The bytes of a text with escapes. -/
def escapedBytes : List Char → List UInt8
  | [] => []
  | '%' :: high :: low :: rest =>
    match hexValue? high, hexValue? low with
    | some high, some low => UInt8.ofNat (16 * high + low) :: escapedBytes rest
    | _, _ => 0x25 :: escapedBytes (high :: low :: rest)
  | c :: rest => c.toString.toUTF8.toList ++ escapedBytes rest

/-- What stands for bytes that form no character. -/
def replacement : Char := '\uFFFD'

/-- Take a byte where a character may start. -/
def takeFirst (byte : UInt8) : List Char × Option OpenChar :=
  if byte < 0x80 then ([Char.ofNat byte.toNat], none)
  else match OpenChar.ofByte? false byte with
    | some start => ([], some start)
    | none => ([replacement], none)

/-- Take a byte. -/
def takeByte (start : Option OpenChar) (byte : UInt8) : List Char × Option OpenChar :=
  match start with
  | none => takeFirst byte
  | some pending =>
    if pending.admits byte then
      let next := pending.add byte
      if next.missing = 0 then ([Char.ofNat next.value], none) else ([], some next)
    else
      let next := takeFirst byte
      (replacement :: next.1, next.2)

/-- Read bytes as characters. -/
def readBytes (start : Option OpenChar) : List UInt8 → List Char
  | [] => if start.isSome then [replacement] else []
  | byte :: rest =>
    let next := takeByte start byte
    next.1 ++ readBytes next.2 rest

/-- The text that a text with escapes stands for. -/
def unescape (text : String) : String :=
  String.ofList (readBytes none (escapedBytes text.toList))

end Turnstile.Text
