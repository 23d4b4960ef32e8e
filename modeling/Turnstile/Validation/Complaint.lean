/-!
# Complaints

What can be wrong with a given value, and where it stands. A complaint has a short kind, which is
part of every answer about it, and a sentence for the caller.
-/

namespace Turnstile.Validation

/-- What is wrong with a value. -/
inductive Complaint where
  | missing
  | unexpected
  | notText
  | notUnicode
  | tooShort (least : Nat)
  | tooLong (most : Nat)
  | notTruth
  | unreadableTruth
  | notWhole
  | unreadableWhole
  | oversizedWhole
  | fractional
  | notFinite
  | notNumber
  | unreadableNumber
  | notAbove (bound : Int)
  | below (bound : Int)
  | notListed (choices : List String)
  | notNamed (choices : List String)
  | notGroup
  | notObject
  | notMapping
deriving DecidableEq, Repr

/-- The text of choices: each in single quotes, the last after the word "or". -/
def choicesText (choices : List String) : String :=
  let quoted := choices.map fun choice => "'" ++ choice ++ "'"
  match quoted.reverse with
  | [] => ""
  | [only] => only
  | last :: before => String.intercalate ", " before.reverse ++ " or " ++ last

namespace Complaint

/-- The kind of a complaint. -/
def kind : Complaint → String
  | .missing => "missing"
  | .unexpected => "extra_forbidden"
  | .notText => "string_type"
  | .notUnicode => "string_unicode"
  | .tooShort _ => "string_too_short"
  | .tooLong _ => "string_too_long"
  | .notTruth => "bool_type"
  | .unreadableTruth => "bool_parsing"
  | .notWhole => "int_type"
  | .unreadableWhole => "int_parsing"
  | .oversizedWhole => "int_parsing_size"
  | .fractional => "int_from_float"
  | .notFinite => "finite_number"
  | .notNumber => "float_type"
  | .unreadableNumber => "float_parsing"
  | .notAbove _ => "greater_than"
  | .below _ => "greater_than_equal"
  | .notListed _ => "literal_error"
  | .notNamed _ => "enum"
  | .notGroup => "model_type"
  | .notObject => "model_attributes_type"
  | .notMapping => "dict_type"

/-- A count of characters in words. -/
def charactersText (count : Nat) : String :=
  toString count ++ (if count = 1 then " character" else " characters")

/-- The sentence for the caller. -/
def message : Complaint → String
  | .missing => "Field required"
  | .unexpected => "Extra inputs are not permitted"
  | .notText => "Input should be a valid string"
  | .notUnicode =>
    "Input should be a valid string, unable to parse raw data as a unicode string"
  | .tooShort least => "String should have at least " ++ charactersText least
  | .tooLong most => "String should have at most " ++ charactersText most
  | .notTruth => "Input should be a valid boolean"
  | .unreadableTruth => "Input should be a valid boolean, unable to interpret input"
  | .notWhole => "Input should be a valid integer"
  | .unreadableWhole => "Input should be a valid integer, unable to parse string as an integer"
  | .oversizedWhole =>
    "Unable to parse input string as an integer, exceeded maximum size"
  | .fractional => "Input should be a valid integer, got a number with a fractional part"
  | .notFinite => "Input should be a finite number"
  | .notNumber => "Input should be a valid number"
  | .unreadableNumber => "Input should be a valid number, unable to parse string as a number"
  | .notAbove bound => "Input should be greater than " ++ toString bound
  | .below bound => "Input should be greater than or equal to " ++ toString bound
  | .notListed choices => "Input should be " ++ choicesText choices
  | .notNamed choices => "Input should be " ++ choicesText choices
  | .notGroup => "Input should be a valid dictionary or instance"
  | .notObject => "Input should be a valid dictionary or object to extract fields from"
  | .notMapping => "Input should be a valid dictionary"

end Complaint

/-- A complaint and the path of names to the value it is about. -/
structure Finding where
  place : List String
  complaint : Complaint
deriving DecidableEq, Repr

end Turnstile.Validation
