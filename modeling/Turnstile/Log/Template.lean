import Turnstile.Failure
import Turnstile.Number.Figures

/-!
# Message templates

A message template holds conversions, each a percent sign with flags, a width, a precision and a
letter; a star takes the width or precision from the arguments, and two percent signs stand for
one. Filling a template puts the
arguments in one by one. A mapping as the only argument is looked up by the names in conversions
and is also the one argument of a conversion without a name.
-/

namespace Turnstile.Log.Template

open Number

/-- The options of one conversion. -/
structure Conversion where
  minus : Bool := false
  plus : Bool := false
  blank : Bool := false
  zero : Bool := false
  alternate : Bool := false
  width : Nat := 0
  precision : Option Nat := none
  letter : Char := 's'

/-- The arguments left, and the mapping if there is one. -/
structure Arguments where
  left : List Json
  mapping : Option (List (String × Json))

/-- Too few arguments. -/
def tooFew : Failure := .ofKind .type "not enough arguments for format string"

/-- Too many arguments. -/
def tooMany : Failure := .ofKind .type "not all arguments converted during string formatting"

/-- A conversion that stops short. -/
def incomplete : Failure := .ofKind .value "incomplete format"

/-- Take the next argument. -/
def take (arguments : Arguments) : Except Failure (Json × Arguments) :=
  match arguments.left with
  | value :: rest => .ok (value, { arguments with left := rest })
  | [] => .error tooFew

/-- An argument as a whole number that is one. -/
def exactWhole? : Json → Option Int
  | .int value => some value
  | .bool value => some (if value then 1 else 0)
  | _ => none

/-- What stands before the parenthesis that closes an open one, and what comes after it. -/
def closeName : Nat → List Char → Option (List Char × List Char)
  | _, [] => none
  | depth, c :: rest =>
    if c = ')' then
      match depth with
      | 0 => some ([], rest)
      | depth + 1 => (closeName depth rest).map fun (name, after) => (c :: name, after)
    else
      let deeper := if c = '(' then depth + 1 else depth
      (closeName deeper rest).map fun (name, after) => (c :: name, after)

/-- Read a name in parentheses, if there is one; what it names is then the next argument. -/
def readName (arguments : Arguments) : List Char → Except Failure (List Char × Arguments)
  | '(' :: rest =>
    match arguments.mapping with
    | none => .error (.ofKind .type "format requires a mapping")
    | some members =>
      match closeName 0 rest with
      | none => .error (.ofKind .value "incomplete format key")
      | some (name, after) =>
        match members.lookup (String.ofList name) with
        | some value => .ok (after, { arguments with left := [value] })
        | none => .error (.ofKind .key (String.ofList name))
  | rest => .ok (rest, arguments)

/-- Read flags. -/
def readFlags (conversion : Conversion) : List Char → Conversion × List Char
  | '-' :: rest => readFlags { conversion with minus := true } rest
  | '+' :: rest => readFlags { conversion with plus := true } rest
  | ' ' :: rest => readFlags { conversion with blank := true } rest
  | '0' :: rest => readFlags { conversion with zero := true } rest
  | '#' :: rest => readFlags { conversion with alternate := true } rest
  | rest => (conversion, rest)

/-- Read a number, zero when there are no digits. -/
def readCount (text : List Char) : Nat × List Char :=
  let parts := text.span Char.isDigit
  (parts.1.foldl (fun acc c => acc * 10 + (c.toNat - '0'.toNat)) 0, parts.2)

/-- The greatest width. -/
def mostWidth : Nat := twoTo 63 - 1

/-- The greatest precision. -/
def mostPrecision : Nat := twoTo 31 - 1

/-- Read a number, or take it from the arguments where a star stands. -/
def readSize (most : Nat) (arguments : Arguments) :
    List Char → Except Failure (Int × List Char × Arguments)
  | '*' :: rest => do
    let (value, left) ← take arguments
    match exactWhole? value with
    | none => .error (.ofKind .type "a size is a whole number")
    | some size =>
      if most < size.natAbs then .error (.ofKind .overflow "size out of range")
      else return (size, rest, left)
  | text =>
    let (size, rest) := readCount text
    if most < size then .error (.ofKind .value "size too big") else .ok (size, rest, arguments)

/-- Read the conversion after a percent sign. A width below zero means its size, on the left. -/
def readConversion (text : List Char) (arguments : Arguments) :
    Except Failure (Conversion × List Char × Arguments) := do
  let (rest, arguments) ← readName arguments text
  let (flagged, rest) := readFlags {} rest
  let (width, rest, arguments) ← readSize mostWidth arguments rest
  let (precision, rest, arguments) ← match rest with
    | '.' :: more => do
      let (places, after, arguments) ← readSize mostPrecision arguments more
      pure (some places.toNat, after, arguments)
    | other => pure (none, other, arguments)
  let rest := match rest with
    | 'h' :: more | 'l' :: more | 'L' :: more => more
    | other => other
  match rest with
  | [] => .error incomplete
  | letter :: after =>
    let minus := flagged.minus || decide (width < 0)
    return ({ flagged with minus, width := width.natAbs, precision, letter }, after, arguments)

/-- Pad a text to the width. -/
def pad (conversion : Conversion) (text : String) : String :=
  let blanks := String.ofList (List.replicate (conversion.width - text.length) ' ')
  if conversion.minus then text ++ blanks else blanks ++ text

/-- Pad the digits of a number, with its sign and mark, to the width. -/
def padNumber (conversion : Conversion) (negative : Bool) (mark digits : String) : String :=
  let sign := if negative then "-" else if conversion.plus then "+"
    else if conversion.blank then " " else ""
  let lead := sign ++ mark
  if conversion.zero && !conversion.minus then
    let zeros := List.replicate (conversion.width - (lead.length + digits.length)) '0'
    lead ++ String.ofList zeros ++ digits
  else pad conversion (lead ++ digits)

/-- Digits of a number in a base, with at least the count of the precision. -/
def digitsIn (conversion : Conversion) (base number : Nat) : String :=
  let digits := Nat.toDigits base number
  let places := conversion.precision.getD 0
  String.ofList (List.replicate (places - digits.length) '0' ++ digits)

/-- An argument that is no number where one is needed. -/
def notNumber : Failure := .ofKind .type "a number is required"

/-- An argument that is no whole number where one is needed. -/
def notWhole : Failure := .ofKind .type "a whole number is required"

/-- An argument that is no character where one is needed. -/
def notChar : Failure := .ofKind .type "a character is required"

/-- An argument as a whole number, cut toward zero. -/
def whole (argument : Json) : Except Failure Int :=
  match argument, exactWhole? argument with
  | _, some value => .ok value
  | .float (.infinite _), _ => .error (.ofKind .overflow "infinity is not whole")
  | .float value, _ =>
    match value.truncate? with
    | some value => .ok value
    | none => .error (.ofKind .value "not a number")
  | _, none => .error notNumber

/-- A text cut to the precision. -/
def cut (conversion : Conversion) (text : String) : String :=
  match conversion.precision with
  | some places => String.ofList (text.toList.take places)
  | none => text

/-- A text in ASCII, other characters by their codes. -/
def asciiOnly (text : String) : String :=
  String.ofList (text.toList.flatMap fun c =>
    if c.toNat < 128 then [c] else Text.codeEscape c.toNat)

/-- Convert a whole number. -/
def convertWhole (conversion : Conversion) (base : Nat) (mark : String) (value : Int) : String :=
  padNumber conversion (value < 0) (if conversion.alternate then mark else "")
    (digitsIn conversion base value.natAbs)

/-- Convert a number to a base that takes whole numbers only. -/
def convertExact (conversion : Conversion) (base : Nat) (mark : String) (argument : Json) :
    Except Failure String :=
  match exactWhole? argument with
  | some value => .ok (convertWhole conversion base mark value)
  | none => .error notWhole

/-- An argument as a binary64 number. -/
def binary (argument : Json) : Except Failure Binary64 :=
  match argument, exactWhole? argument with
  | .float value, _ => .ok value
  | _, some value =>
    let nearest := Binary64.ofInt value
    if nearest.isFinite then .ok nearest
    else .error (.ofKind .overflow "too large a number")
  | _, none => .error notNumber

/-- Convert a binary64 number. -/
def convertBinary (conversion : Conversion) (number : Binary64) : String :=
  let places := conversion.precision.getD 6
  let letter := conversion.letter.toLower
  let text :=
    if letter = 'f' then
      let fixed := number.fixedText places
      if conversion.alternate && places = 0 && number.isFinite then fixed ++ "." else fixed
    else if letter = 'e' then number.scientificText places conversion.alternate
    else number.generalText places conversion.alternate
  let digits := if number.isNegative then String.ofList (text.toList.drop 1) else text
  padNumber conversion number.isNegative ""
    (if conversion.letter.isUpper then digits.toUpper else digits)

/-- Convert a character or its code. -/
def convertChar (conversion : Conversion) (argument : Json) : Except Failure String :=
  match argument, exactWhole? argument with
  | _, some code =>
    if 0 ≤ code ∧ code < 0x110000 then
      .ok (pad conversion (Char.ofNat code.toNat).toString)
    else .error (.ofKind .overflow "no such character")
  | .str text, _ =>
    if text.length = 1 then .ok (pad conversion text)
    else .error notChar
  | _, none => .error notChar

/-- Convert one argument. -/
def convert (conversion : Conversion) (argument : Json) : Except Failure String :=
  match conversion.letter with
  | 's' => .ok (pad conversion (cut conversion (Text.valueText argument)))
  | 'r' => .ok (pad conversion (cut conversion (Text.valueLiteral argument)))
  | 'a' => .ok (pad conversion (cut conversion (asciiOnly (Text.valueLiteral argument))))
  | 'd' | 'i' | 'u' => (whole argument).map (convertWhole conversion 10 "")
  | 'o' => convertExact conversion 8 "0o" argument
  | 'x' => convertExact conversion 16 "0x" argument
  | 'X' => (convertExact conversion 16 "0x" argument).map String.toUpper
  | 'e' | 'E' | 'f' | 'F' | 'g' | 'G' => (binary argument).map (convertBinary conversion)
  | 'c' => convertChar conversion argument
  | _ => .error (.ofKind .value "unsupported format character")

/-- Fill from left to right. Arguments may be left over only beside a mapping. -/
def fillFrom (fuel : Nat) (text : List Char) (arguments : Arguments) : Except Failure String :=
  match fuel with
  | 0 => .error incomplete
  | fuel + 1 =>
    match text with
    | [] =>
      if arguments.left.isEmpty || arguments.mapping.isSome then .ok "" else .error tooMany
    | '%' :: '%' :: rest => return "%" ++ (← fillFrom fuel rest arguments)
    | '%' :: rest => do
      let (conversion, after, arguments) ← readConversion rest arguments
      let (argument, left) ← take arguments
      let shown ← convert conversion argument
      return shown ++ (← fillFrom fuel after left)
    | c :: rest => return c.toString ++ (← fillFrom fuel rest arguments)

/-- The arguments as conversions find them. -/
def Arguments.ofList : List Json → Arguments
  | [.obj (member :: members)] => ⟨[.obj (member :: members)], some (member :: members)⟩
  | values => ⟨values, none⟩

/-- Fill a template. Without arguments the template is the message. -/
def fill (template : String) (arguments : List Json) : Except Failure String :=
  let text := template.toList
  if arguments.isEmpty then .ok template
  else fillFrom (text.length + 1) text (.ofList arguments)

end Turnstile.Log.Template
