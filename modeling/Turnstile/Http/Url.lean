import Turnstile.Failure
import Turnstile.Text.Encoding

/-!
# Addresses and header values

What stands before a path in an address, the escapes of a location header, and the characters that
headers and bodies may hold.
-/

namespace Turnstile.Http

open Text

/-- The host that an address shows where the request names none. -/
def ownHost : String := "testserver"

/-- What stands before the path in the address of a request to a host. -/
def originOf (host : Option String) : String := "http://" ++ host.getD ownHost

/-- The character stands for itself in a location. -/
def isLocationChar (c : Char) : Bool :=
  c.isAlphanum || "_.-~:/%#?=@[]!$&'()*+,;".toList.contains c

/-- One byte as a percent escape. -/
def percentEscape (byte : UInt8) : List Char :=
  let digit (value : Nat) : Char := (Nat.digitChar value).toUpper
  ['%', digit (byte.toNat / 16), digit (byte.toNat % 16)]

/-- A text as a location. -/
def locationText (text : String) : String :=
  String.ofList (text.toList.flatMap fun c =>
    if isLocationChar c then [c] else c.toString.toUTF8.toList.flatMap percentEscape)

/-- The code point fits into one byte. -/
def isNarrow (point : Point) : Bool := point.code < 256

/-- The failure of writing a text one byte per character, where it cannot be. -/
def narrowFault? (text : String) : Option Failure :=
  (encodeText? "latin-1" "ordinal not in range(256)" isNarrow (points text)).map
    (.ofKind .encoding)

/-- The failure of writing code points as UTF-8, where they hold surrogates. -/
def surrogateFault? (text : List Point) : Option Failure :=
  (encodeText? "utf-8" "surrogates not allowed" (!·.isSurrogate) text).map (.ofKind .encoding)

/-- The failure of reading bytes as UTF-8. -/
def decodeFault (bytes : List UInt8) (error : DecodeError) : Failure :=
  .ofKind .decoding (decodeText bytes error)

end Turnstile.Http
