import Turnstile.Text.Literal
import Turnstile.Text.Point

/-!
# Encodings

Reading bytes as text. UTF-8 is read byte by byte: a byte either is a character, or starts one of
several bytes and says between which bounds the next byte lies. Bytes whose encoding is not told
are taken for UTF-8, UTF-16 or UTF-32 by a mark at their front, or else by where zero bytes stand;
then surrogates are let through. What cannot be read or written in an encoding is told with its
place.
-/

namespace Turnstile.Text

/-! ## UTF-8 -/

/-- The start of a character of several bytes: its value so far, how many bytes are to come, and
between which bounds the next one lies. -/
structure OpenChar where
  value : Nat
  missing : Nat
  least : UInt8
  most : UInt8

namespace OpenChar

/-- The start of a character whose further bytes are bounded only as such. -/
def plain (value missing : Nat) : OpenChar := ⟨value, missing, 0x80, 0xBF⟩

/-- The character of several bytes that a byte starts. The bounds leave out codes that have a
shorter form, codes beyond the last, and surrogates unless they are let through. -/
def ofByte? (surrogates : Bool) (byte : UInt8) : Option OpenChar :=
  let value := byte.toNat
  if value < 0xC2 then none
  else if value < 0xE0 then some (plain (value - 0xC0) 1)
  else if value < 0xF0 then
    some
      { plain (value - 0xE0) 2 with
        least := if value = 0xE0 then 0xA0 else 0x80
        most := if value = 0xED && !surrogates then 0x9F else 0xBF }
  else if value < 0xF5 then
    some
      { plain (value - 0xF0) 3 with
        least := if value = 0xF0 then 0x90 else 0x80
        most := if value = 0xF4 then 0x8F else 0xBF }
  else none

/-- The byte may come next. -/
def admits (start : OpenChar) (byte : UInt8) : Bool := start.least ≤ byte && byte ≤ start.most

/-- The start with one more byte. -/
def add (start : OpenChar) (byte : UInt8) : OpenChar :=
  plain (start.value * 64 + byte.toNat % 64) (start.missing - 1)

end OpenChar

/-- Why bytes are not UTF-8. -/
inductive DecodeCause where
  | invalidStart
  | invalidContinuation
  | unexpectedEnd
deriving DecidableEq, Repr

/-- The wording of a cause. -/
def DecodeCause.message : DecodeCause → String
  | .invalidStart => "invalid start byte"
  | .invalidContinuation => "invalid continuation byte"
  | .unexpectedEnd => "unexpected end of data"

/-- Bytes that are not UTF-8: from which on, how many, and why. -/
structure DecodeError where
  start : Nat
  count : Nat
  cause : DecodeCause
deriving DecidableEq, Repr

/-- Read bytes as UTF-8, a character being open perhaps; `first` is the position of the byte that
opened it and `here` that of the next byte. -/
def readUtf8From (surrogates : Bool) (first here : Nat) :
    Option OpenChar → List UInt8 → Except DecodeError (List Point)
  | none, [] => .ok []
  | some _, [] => .error ⟨first, here - first, .unexpectedEnd⟩
  | none, byte :: rest =>
    if byte < 0x80 then do
      return .char (Char.ofNat byte.toNat) ::
        (← readUtf8From surrogates (here + 1) (here + 1) none rest)
    else match OpenChar.ofByte? surrogates byte with
      | some start => readUtf8From surrogates here (here + 1) (some start) rest
      | none => .error ⟨here, 1, .invalidStart⟩
  | some start, byte :: rest =>
    let next := start.add byte
    if !start.admits byte then .error ⟨first, here - first, .invalidContinuation⟩
    else if next.missing = 0 then do
      return .ofCode next.value :: (← readUtf8From surrogates (here + 1) (here + 1) none rest)
    else readUtf8From surrogates first (here + 1) (some next) rest

/-- Read bytes as UTF-8. -/
def readUtf8 (surrogates : Bool) (bytes : List UInt8) : Except DecodeError (List Point) :=
  readUtf8From surrogates 0 0 none bytes

/-- Read bytes as a text in UTF-8. -/
def readText (bytes : List UInt8) : Except DecodeError String :=
  (readUtf8 false bytes).map charsOf

/-! ## Other encodings -/

/-- Numbers put together in twos, to the base of the smaller place. -/
def joinPairs (base : Nat) (bigFirst : Bool) : List Nat → Option (List Nat)
  | [] => some []
  | [_] => none
  | a :: b :: rest =>
    let joined := if bigFirst then a * base + b else b * base + a
    (joinPairs base bigFirst rest).map (joined :: ·)

/-- The units of two bytes each. -/
def unitsOf (bigFirst : Bool) (bytes : List UInt8) : Option (List Nat) :=
  joinPairs 0x100 bigFirst (bytes.map UInt8.toNat)

/-- The code points of units of UTF-16; a unit without its other half is a surrogate. -/
def joinUnits : List Nat → List Point
  | [] => []
  | [unit] => [.ofCode unit]
  | first :: second :: rest =>
    if isHighUnit first && isLowUnit second then
      .char (Char.ofNat (pairCode first second)) :: joinUnits rest
    else .ofCode first :: joinUnits (second :: rest)

/-- The codes of four bytes each. -/
def codesOf (bigFirst : Bool) (bytes : List UInt8) : Option (List Nat) := do
  joinPairs 0x10000 bigFirst (← unitsOf bigFirst bytes)

/-- How bytes stand for text. -/
inductive Encoding where
  | utf8
  | utf16 (bigFirst : Bool)
  | utf32 (bigFirst : Bool)
deriving DecidableEq, Repr

namespace Encoding

/-- Marks at the front of bytes that tell their encoding. A longer mark stands before one that it
begins with. -/
def marks : List (List UInt8 × Encoding) :=
  [([0x00, 0x00, 0xFE, 0xFF], .utf32 true), ([0xFF, 0xFE, 0x00, 0x00], .utf32 false),
   ([0xFE, 0xFF], .utf16 true), ([0xFF, 0xFE], .utf16 false), ([0xEF, 0xBB, 0xBF], .utf8)]

/-- The encoding of bytes that start with an ASCII character, by where zero bytes stand. -/
def guess : List UInt8 → Encoding
  | a :: b :: c :: d :: _ =>
    if a = 0 then (if b = 0 then .utf32 true else .utf16 true)
    else if b = 0 then (if c = 0 && d = 0 then .utf32 false else .utf16 false)
    else .utf8
  | [a, b] => if a = 0 then .utf16 true else if b = 0 then .utf16 false else .utf8
  | _ => .utf8

/-- The encoding of bytes, and the bytes after the mark that tells it. -/
def detect (bytes : List UInt8) : Encoding × List UInt8 :=
  match marks.find? (·.1.isPrefixOf bytes) with
  | some (mark, encoding) => (encoding, bytes.drop mark.length)
  | none => (guess bytes, bytes)

/-- Read bytes in an encoding, surrogates let through. -/
def read? (bytes : List UInt8) : Encoding → Option (List Point)
  | .utf8 => (readUtf8 true bytes).toOption
  | .utf16 bigFirst => (unitsOf bigFirst bytes).map joinUnits
  | .utf32 bigFirst => do
    let codes ← codesOf bigFirst bytes
    if codes.all (· < 0x110000) then some (codes.map .ofCode) else none

end Encoding

/-- Read bytes whose encoding is not told. -/
def readBytes? (bytes : List UInt8) : Option (List Point) :=
  let found := Encoding.detect bytes
  found.1.read? found.2

/-! ## Faults -/

/-- A place of one or more, or of one as such. -/
def placeText (one : String) (start count : Nat) (many : String) : String :=
  if count = 1 then one ++ " in position " ++ toString start
  else many ++ " in position " ++ toString start ++ "-" ++ toString (start + count - 1)

/-- Bytes are not UTF-8, in words. -/
def decodeText (bytes : List UInt8) (error : DecodeError) : String :=
  let byte := ((bytes.drop error.start).headD 0).toNat
  let shown := String.ofList ['0', 'x', Nat.digitChar (byte / 16), Nat.digitChar (byte % 16)]
  "'utf-8' codec can't decode " ++
    placeText ("byte " ++ shown) error.start error.count "bytes" ++ ": " ++ error.cause.message

/-- Where code points do not fit into an encoding, in words: the first of them that do not, and
those after it. -/
def encodeText? (codec reason : String) (fits : Point → Bool) (text : List Point) :
    Option String :=
  let parts := text.span fits
  match parts.2 with
  | [] => none
  | first :: rest =>
    let count := (rest.takeWhile (!fits ·)).length + 1
    let shown := "character '" ++ String.ofList (codeEscape first.code) ++ "'"
    some ("'" ++ codec ++ "' codec can't encode " ++
      placeText shown parts.1.length count "characters" ++ ": " ++ reason)

end Turnstile.Text
