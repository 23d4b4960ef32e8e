import Turnstile.Json.Value
import Turnstile.Validation.Checked
import Turnstile.Validation.Numeral

/-!
# Reading given values

Readers of single values. They are lenient about form: a text that spells a truth value or a
number is read as one, and a truth value counts as a number. They are strict about meaning.
-/

namespace Turnstile.Validation

open Number

/-- A reader of one value. -/
abbrev Reading (α : Type) := Json → Except Complaint α

namespace Reading

/-- The texts that spell true, in small letters. -/
def trueTexts : List String := ["true", "1", "yes", "y", "on", "t"]

/-- The texts that spell false, in small letters. -/
def falseTexts : List String := ["false", "0", "no", "n", "off", "f"]

/-- A number as a truth value. -/
def truthOfWhole (number : Int) : Except Complaint Bool :=
  if number = 0 then .ok false else if number = 1 then .ok true else .error .unreadableTruth

/-- A whole number of sixty-four bits. -/
def isWord (number : Int) : Bool := fitsWord 63 number

/-- A truth value. -/
def truth : Reading Bool
  | .bool value => .ok value
  | .str text =>
    let spelled := Numeral.small text.toList
    if trueTexts.contains spelled then .ok true
    else if falseTexts.contains spelled then .ok false
    else .error .unreadableTruth
  | .int value => if isWord value then truthOfWhole value else .error .notTruth
  | .float value =>
    match value.toInt? with
    | some whole => if isWord whole then truthOfWhole whole else .error .notTruth
    | none => .error .notTruth
  | _ => .error .notTruth

/-- A whole number. -/
def whole : Reading Int
  | .bool value => .ok (if value then 1 else 0)
  | .int value => .ok value
  | .str text => Numeral.whole text
  | .float value =>
    if !value.isFinite then .error .notFinite
    else match value.toInt? with
      | none => .error .fractional
      | some whole => if isWord whole then .ok whole else .error .oversizedWhole
  | _ => .error .notWhole

/-- A binary64 number. -/
def binary : Reading Binary64
  | .bool value => .ok (Binary64.ofInt (if value then 1 else 0))
  | .float value => .ok value
  | .str text => Numeral.binary text
  | .int value =>
    let number := Binary64.ofInt value
    if number.isFinite then .ok number else .error .notNumber
  | _ => .error .notNumber

/-- A text. -/
def text : Reading String
  | .str value => .ok value
  | _ => .error .notText

/-- A text whose count of characters lies within bounds. -/
def within (least most : Nat) (value : String) : Except Complaint String :=
  if value.length < least then .error (.tooShort least)
  else if most < value.length then .error (.tooLong most)
  else .ok value

/-- Null, or what another reader reads. -/
def optional {α : Type} (reading : Reading α) : Reading (Option α)
  | .null => .ok none
  | given => (reading given).map some

/-- A whole number above a bound. -/
def wholeAbove (bound : Int) : Reading { value : Int // bound < value } := fun given => do
  let value ← whole given
  if above : bound < value then .ok ⟨value, above⟩ else .error (.notAbove bound)

/-- A whole number not below a bound. -/
def wholeFrom (bound : Int) : Reading { value : Int // bound ≤ value } := fun given => do
  let value ← whole given
  if reached : bound ≤ value then .ok ⟨value, reached⟩ else .error (.below bound)

/-- A positive binary64 number; a value that is not a number is not positive. -/
def positive : Reading Binary64 := fun given => do
  let value ← binary given
  if value.isPositive then .ok value else .error (.notAbove 0)

/-- One of the listed names, each standing for a value. -/
def oneOf {α : Type} (choices : List (String × α)) : Reading α
  | .str name =>
    match choices.lookup name with
    | some value => .ok value
    | none => .error (.notListed (choices.map (·.1)))
  | _ => .error (.notListed (choices.map (·.1)))

/-- What is given under a name, read; a reader without a default demands it. -/
def given {ν α : Type} (found : Option ν) (name : String) (reading : ν → Except Complaint α)
    (default? : Option α) : Checked α :=
  match found, default? with
  | some value, _ => Checked.ofExcept name (reading value)
  | none, some value => .accepted value
  | none, none => .refused [⟨[name], .missing⟩]

/-- The member of that name, read. -/
def member {α : Type} (members : List (String × Json)) (name : String) (reading : Reading α)
    (default? : Option α) : Checked α :=
  given (members.lookup name) name reading default?

end Reading

end Turnstile.Validation
