import Turnstile.Json.Wide
import Turnstile.Text.Percent

/-!
# Reading JSON

A recursive-descent reader over code points. Beyond the standard grammar it accepts the three
names of the numbers that are not finite. Arrays and objects are followed as deep as there is room.
A refused text yields a cause and the count of code points left at the fault, from which the
position follows.
-/

namespace Turnstile.Json

open Number Text

/-- Why a text is not JSON. -/
inductive ReadCause where
  | expectingValue
  | expectingName
  | expectingColon
  | expectingComma
  | unterminatedString
  | controlCharacter
  | invalidEscape
  | invalidUnicodeEscape
  | extraData
  | oversizedNumber
  | tooDeep
  | undecodable
deriving DecidableEq, Repr

/-- The wording of a cause. -/
def ReadCause.message : ReadCause → String
  | .expectingValue => "Expecting value"
  | .expectingName => "Expecting property name enclosed in double quotes"
  | .expectingColon => "Expecting ':' delimiter"
  | .expectingComma => "Expecting ',' delimiter"
  | .unterminatedString => "Unterminated string starting at"
  | .controlCharacter => "Invalid control character at"
  | .invalidEscape => "Invalid \\escape"
  | .invalidUnicodeEscape => "Invalid \\uXXXX escape"
  | .extraData => "Extra data"
  | .oversizedNumber => "Too many digits"
  | .tooDeep => "Too deep"
  | .undecodable => "Undecodable bytes"

/-- The cause lies in the grammar, so that its place is told. -/
def ReadCause.isTold : ReadCause → Bool
  | .oversizedNumber | .tooDeep | .undecodable => false
  | _ => true

/-- A fault and how many code points were left where it lies. -/
structure ReadFault where
  cause : ReadCause
  left : Nat
deriving DecidableEq, Repr

/-- A fault and the position where it lies. -/
structure ReadError where
  cause : ReadCause
  position : Nat
deriving DecidableEq, Repr

/-- What reading a piece gives: a result and the rest of the text. -/
abbrev Read (α : Type) := Except ReadFault (α × List Point)

/-- Blank, tab, line feed or carriage return. -/
def isGap (point : Point) : Bool :=
  point = .char ' ' || point = .char '\t' || point = .char '\n' || point = .char '\r'

/-- Skip the gap before the next token. -/
def skipGap (text : List Point) : List Point := text.dropWhile isGap

/-- Four hexadecimal digits followed by at least one more code point. -/
def fourHex? : List Point → Option (Nat × List Point)
  | .char a :: .char b :: .char c :: .char d :: rest => do
    if rest.isEmpty then none
    let a ← hexValue? a
    let b ← hexValue? b
    let c ← hexValue? c
    let d ← hexValue? d
    some (a * 4096 + b * 256 + c * 16 + d, rest)
  | _ => none

/-- The character of a single-letter escape. -/
def simpleEscape? (point : Point) : Option Char := do
  let c ← point.char?
  if c = '"' ∨ c = '\\' ∨ c = '/' then some c
  else if c = 'b' then some (Char.ofNat 0x08)
  else if c = 'f' then some (Char.ofNat 0x0C)
  else if c = 'n' then some '\n'
  else if c = 'r' then some '\r'
  else if c = 't' then some '\t'
  else none

/-- The second half of a pair of unit escapes, when one follows; `ok none` when none does. -/
def pairedUnit (high : Nat) (rest : List Point) :
    Except ReadFault (Option (Point × List Point)) :=
  match rest with
  | .char '\\' :: .char 'u' :: more =>
    if more.length < 5 then .ok none
    else match fourHex? more with
      | none => .error ⟨.invalidUnicodeEscape, more.length + 1⟩
      | some (low, after) =>
        if isLowUnit low then .ok (some (.char (Char.ofNat (pairCode high low)), after))
        else .ok none
  | _ => .ok none

/-- The inside of a string up to its closing quote; `opened` counts the code points left at the
opening quote and `taken` holds those already read, last first. -/
def readString (fuel : Nat) (opened : Nat) (taken : List Point) (text : List Point) :
    Read (List Point) :=
  match fuel with
  | 0 => .error ⟨.unterminatedString, opened⟩
  | fuel + 1 =>
    match text with
    | [] => .error ⟨.unterminatedString, opened⟩
    | .char '"' :: rest => .ok (taken.reverse, rest)
    | .char '\\' :: rest =>
      match rest with
      | [] => .error ⟨.unterminatedString, opened⟩
      | .char 'u' :: digits =>
        match fourHex? digits with
        | none => .error ⟨.invalidUnicodeEscape, digits.length + 1⟩
        | some (unit, after) =>
          if isHighUnit unit then
            match pairedUnit unit after with
            | .error fault => .error fault
            | .ok (some (joined, final)) => readString fuel opened (joined :: taken) final
            | .ok none => readString fuel opened (.ofCode unit :: taken) after
          else readString fuel opened (.ofCode unit :: taken) after
      | letter :: after =>
        match simpleEscape? letter with
        | some plain => readString fuel opened (.char plain :: taken) after
        | none => .error ⟨.invalidEscape, rest.length + 1⟩
    | point :: rest =>
      if point.code ≤ 0x1F then .error ⟨.controlCharacter, text.length⟩
      else readString fuel opened (point :: taken) rest

/-- The value of a list of decimal digits. -/
def digitsValue (digits : List Point) : Nat :=
  digits.foldl (fun acc digit => acc * 10 + (digit.code - '0'.toNat)) 0

/-- The digits at the front of a text and the rest. -/
def spanDigits (text : List Point) : List Point × List Point := text.span Point.isDigit

/-- The exponent part of a number, if a whole one follows. -/
def readExponent (text : List Point) : Option (Int × List Point) :=
  match text with
  | mark :: rest =>
    if mark = .char 'e' ∨ mark = .char 'E' then
      let signed := match rest with
        | .char '-' :: more => (true, more)
        | .char '+' :: more => (false, more)
        | more => (false, more)
      let parts := spanDigits signed.2
      if parts.1.isEmpty then none
      else
        let size : Int := digitsValue parts.1
        some (if signed.1 then -size else size, parts.2)
    else none
  | [] => none

/-- The fraction part of a number, if a whole one follows. -/
def readFraction (text : List Point) : Option (List Point × List Point) :=
  match text with
  | .char '.' :: rest =>
    let parts := spanDigits rest
    if parts.1.isEmpty then none else some parts
  | _ => none

/-- The most digits of a whole number. -/
def mostDigits : Nat := 4300

/-- A number: whole digits without a spare leading zero, then a fraction and an exponent, each
taken only when it is whole. -/
def readNumber (text : List Point) : Read Wide :=
  let signed := match text with
    | .char '-' :: rest => (true, rest)
    | _ => (false, text)
  let whole := match signed.2 with
    | .char '0' :: rest => ([Point.char '0'], rest)
    | _ => spanDigits signed.2
  if whole.1.isEmpty then .error ⟨.expectingValue, text.length⟩
  else
    let fraction := readFraction whole.2
    let afterFraction := (fraction.map (·.2)).getD whole.2
    let exponent := readExponent afterFraction
    let rest := (exponent.map (·.2)).getD afterFraction
    if fraction.isNone && exponent.isNone && mostDigits < whole.1.length then
      .error ⟨.oversizedNumber, text.length⟩
    else if fraction.isNone && exponent.isNone then
      let size : Int := digitsValue whole.1
      .ok (.int (if signed.1 then -size else size), rest)
    else
      let places := (fraction.map (·.1)).getD []
      let scale := (exponent.map (·.1)).getD 0 - places.length
      .ok (.float (Binary64.ofDecimal signed.1 (digitsValue (whole.1 ++ places)) scale), rest)

/-- The named values and the text of each. -/
def namedValues : List (String × Wide) :=
  [("null", .null), ("true", .bool true), ("false", .bool false), ("NaN", .float .nan),
   ("Infinity", .float (.infinite false)), ("-Infinity", .float (.infinite true))]

/-- The named value at the front of a text. -/
def readNamed? (text : List Point) : Option (Wide × List Point) :=
  namedValues.findSome? fun entry =>
    let name := points entry.1
    if name.isPrefixOf text then some (entry.2, text.drop name.length) else none

mutual

/-- One value; `room` counts the arrays and objects that may still be opened. -/
def readValue (fuel room : Nat) (text : List Point) : Read Wide :=
  match fuel with
  | 0 => .error ⟨.expectingValue, text.length⟩
  | fuel + 1 =>
    match text with
    | .char '"' :: rest =>
      match readString text.length text.length [] rest with
      | .ok (value, after) => .ok (.str value, after)
      | .error fault => .error fault
    | .char '\x7b' :: rest =>
      if room = 0 then .error ⟨.tooDeep, text.length⟩
      else match skipGap rest with
        | .char '\x7d' :: after => .ok (.obj [], after)
        | inner => readMembers fuel (room - 1) [] inner
    | .char '[' :: rest =>
      if room = 0 then .error ⟨.tooDeep, text.length⟩
      else match skipGap rest with
        | .char ']' :: after => .ok (.arr [], after)
        | inner => readItems fuel (room - 1) [] inner
    | _ =>
      match readNamed? text with
      | some found => .ok found
      | none => readNumber text

/-- The items of an array up to its closing bracket. -/
def readItems (fuel room : Nat) (taken : List Wide) (text : List Point) : Read Wide :=
  match fuel with
  | 0 => .error ⟨.expectingValue, text.length⟩
  | fuel + 1 =>
    match readValue fuel room text with
    | .error fault => .error fault
    | .ok (item, rest) =>
      match skipGap rest with
      | .char ']' :: after => .ok (.arr (item :: taken).reverse, after)
      | .char ',' :: after => readItems fuel room (item :: taken) (skipGap after)
      | other => .error ⟨.expectingComma, other.length⟩

/-- The members of an object up to its closing brace; a repeated name keeps its first place and
takes the last value. -/
def readMembers (fuel room : Nat) (taken : Wide.Members) (text : List Point) : Read Wide :=
  match fuel with
  | 0 => .error ⟨.expectingName, text.length⟩
  | fuel + 1 =>
    match text with
    | .char '"' :: rest =>
      match readString text.length text.length [] rest with
      | .error fault => .error fault
      | .ok (name, afterName) =>
        match skipGap afterName with
        | .char ':' :: afterColon =>
          match readValue fuel room (skipGap afterColon) with
          | .error fault => .error fault
          | .ok (value, afterValue) =>
            let members := setMember taken name value
            match skipGap afterValue with
            | .char '\x7d' :: after => .ok (.obj members, after)
            | .char ',' :: after => readMembers fuel room members (skipGap after)
            | other => .error ⟨.expectingComma, other.length⟩
        | other => .error ⟨.expectingColon, other.length⟩
    | _ => .error ⟨.expectingName, text.length⟩

end

/-- Read a whole text as one value. -/
def readPoints (room : Nat) (text : List Point) : Except ReadError Wide :=
  let total := text.length
  let located (fault : ReadFault) : ReadError := ⟨fault.cause, total - fault.left⟩
  match readValue (2 * total + 2) room (skipGap text) with
  | .error fault => .error (located fault)
  | .ok (value, rest) =>
    match skipGap rest with
    | [] => .ok value
    | other => .error ⟨.extraData, total - other.length⟩

/-- Read a body, whose encoding is not told. -/
def readBody (room : Nat) (bytes : List UInt8) : Except ReadError Wide :=
  match readBytes? bytes with
  | some text => readPoints room text
  | none => .error ⟨.undecodable, 0⟩

/-- Read a text as one value without surrogates, with room for all that it opens. -/
def ofText? (text : String) : Option Json :=
  (readPoints text.length (points text)).toOption.bind Wide.toJson?

end Turnstile.Json
