import Turnstile.Number.Binary64
import Turnstile.Text.Blank
import Turnstile.Text.Digit
import Turnstile.Validation.Complaint

/-!
# Numerals

Reading numbers from texts. White space around a numeral is ignored, single underscores may stand
between its digits, and a whole number may carry a tail of zero decimals.
-/

namespace Turnstile.Validation.Numeral

open Number

/-- The value of decimal digits; `none` when there are none or something else stands among them. -/
def digits? (text : List Char) : Option Nat :=
  if text.isEmpty || !text.all Char.isDigit then none
  else some (text.foldl (fun acc c => acc * 10 + (c.toNat - '0'.toNat)) 0)

/-- Take single underscores out; `none` when one stands at an end or two stand together. -/
def joinGroups (text : List Char) : Option (List Char) :=
  let pieces := Text.splitAt '_' text
  if pieces.any (·.isEmpty) then none else some pieces.flatten

/-- Drop zeros, and underscores after the first, in front of a whole number, down to its last
zero. A text that starts with a minus sign is left alone. -/
def dropLeadingZeros : List Char → Option (List Char)
  | '0' :: rest =>
    match rest.dropWhile fun c => c = '0' || c = '_' with
    | [] => some [('0' :: rest).getLastD '0']
    | '.' :: after =>
      let gone := rest.takeWhile fun c => c = '0' || c = '_'
      some (('0' :: gone).getLastD '0' :: '.' :: after)
    | c :: after => if c.isDigit then some (c :: after) else none
  | c :: rest => if c.isDigit || c = '-' then some (c :: rest) else none
  | [] => none

/-- Drop a point followed by zeros only, at least one. -/
def dropZeroDecimals (text : List Char) : List Char :=
  let parts := text.span (· != '.')
  match parts.2 with
  | _ :: decimals =>
    if !decimals.isEmpty && decimals.all (· = '0') then parts.1 else text
  | [] => text

/-- The most digits of a whole number. -/
def longest : Nat := 4300

/-- A whole number without a spare leading zero, perhaps with a minus sign. -/
def plainWhole (text : List Char) : Except Complaint Int :=
  let signed := match text with
    | '-' :: rest => (true, rest)
    | _ => (false, text)
  if 1 < signed.2.length && signed.2.head? = some '0' then .error .unreadableWhole
  else match digits? signed.2 with
    | none => .error .unreadableWhole
    | some size =>
      if longest < signed.2.length then .error .oversizedWhole
      else .ok (if signed.1 then -(size : Int) else size)

/-- Read a whole number. -/
def whole (text : String) : Except Complaint Int :=
  let trimmed := Text.trimBy Text.isWhiteSpace text.toList
  let unsigned? := match trimmed with
    | '+' :: rest => if rest.head? = some '-' then none else some rest
    | _ => some trimmed
  match unsigned?.bind dropLeadingZeros with
  | none => .error .unreadableWhole
  | some rest =>
    let significant := dropZeroDecimals rest
    plainWhole ((joinGroups significant).getD significant)

/-- A text in small ASCII letters. -/
def small (text : List Char) : String := String.ofList (text.map Char.toLower)

/-- The exponent after the digits of a number: nothing, or a mark, a sign and digits. -/
def exponent? : List Char → Option Int
  | [] => some 0
  | c :: rest =>
    if c = 'e' ∨ c = 'E' then
      match rest with
      | '-' :: more => (digits? more).map fun size => -(size : Int)
      | '+' :: more => (digits? more).map fun size => (size : Int)
      | more => (digits? more).map fun size => (size : Int)
    else none

/-- A number without a sign: digits with a point somewhere or nowhere, then an exponent. -/
def magnitude? (negative : Bool) (text : List Char) : Option Binary64 := do
  let front := text.span Char.isDigit
  let decimals := match front.2 with
    | '.' :: rest => rest.span Char.isDigit
    | rest => ([], rest)
  let digits ← digits? (front.1 ++ decimals.1)
  let exponent ← exponent? decimals.2
  some (Binary64.ofDecimal negative digits (exponent - decimals.1.length))

/-- A binary64 number, perhaps with a sign, by digits or by name. -/
def signed? (text : List Char) : Option Binary64 :=
  let parts := match text with
    | '-' :: rest => (true, rest)
    | '+' :: rest => (false, rest)
    | _ => (false, text)
  let name := small parts.2
  if name = "inf" ∨ name = "infinity" then some (.infinite parts.1)
  else if name = "nan" then some .nan
  else magnitude? parts.1 parts.2

/-- Read a binary64 number. -/
def binary (text : String) : Except Complaint Binary64 :=
  let direct := signed? (Text.trimBy Text.isWhiteSpace text.toList)
  match direct.or ((joinGroups text.toList).bind signed?) with
  | some number => .ok number
  | none => .error .unreadableNumber

/-- Take single underscores between digits out. -/
def joinDigits (afterDigit : Bool) : List Char → Option (List Char)
  | [] => some []
  | '_' :: c :: rest =>
    if afterDigit && c.isDigit then (joinDigits true rest).map (c :: ·) else none
  | c :: rest =>
    if c = '_' then none else (joinDigits c.isDigit rest).map (c :: ·)

/-- A numeral in the digits of any script, in ASCII digits and without blanks around it. -/
def plainNumeral (text : String) : Option (List Char) :=
  joinDigits false ((Text.trimBy Text.isWhiteSpace text.toList).map Text.plainDigit)

/-- A whole number in the digits of any script, without decimals. -/
def count? (text : String) : Option Int := do
  let shown ← plainNumeral text
  let parts := match shown with
    | '-' :: rest => (true, rest)
    | '+' :: rest => (false, rest)
    | _ => (false, shown)
  let size ← digits? parts.2
  if longest < parts.2.length then none else some (if parts.1 then -(size : Int) else size)

/-- A binary64 number in the digits of any script. -/
def measure? (text : String) : Option Binary64 := (plainNumeral text).bind signed?

end Turnstile.Validation.Numeral
