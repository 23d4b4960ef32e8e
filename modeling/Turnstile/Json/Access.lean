import Turnstile.Json.Value

/-!
# Looking into JSON values

Reading a value as one kind of value. A value of another kind reads as the empty one of the kind
asked for, so that absent, null and unsuitable values need no cases of their own; where the
difference counts, the reading is an option.
-/

namespace Turnstile.Json

open Number

/-- The members of an object. -/
def members : Json → List (String × Json)
  | .obj members => members
  | _ => []

/-- The items of an array. -/
def items : Json → List Json
  | .arr items => items
  | _ => []

/-- A string. -/
def text? : Json → Option String
  | .str text => some text
  | _ => none

/-- A string, else the empty one. -/
def text (value : Json) : String := value.text?.getD ""

/-- A whole number; decimals are cut off, and true counts as one. -/
def whole : Json → Int
  | .int value => value
  | .bool value => if value then 1 else 0
  | .float value => value.truncate?.getD 0
  | _ => 0

/-- A binary64 number. -/
def binary : Json → Binary64
  | .float value => value
  | other => .ofInt other.whole

/-- The pairs of names and values in an array of such pairs. -/
def pairs (value : Json) : List (String × Json) :=
  value.items.filterMap fun
    | .arr [.str name, content] => some (name, content)
    | _ => none

/-- The pairs of names and texts in an array of such pairs. -/
def textPairs (value : Json) : List (String × String) :=
  value.pairs.map fun (name, content) => (name, content.text)

/-- The texts of an array. -/
def texts (value : Json) : List String := value.items.map text

/-- The members of an object as texts. -/
def textMembers (value : Json) : List (String × String) :=
  value.members.map fun (name, content) => (name, content.text)

/-- An object of texts. -/
def ofTexts (entries : List (String × String)) : Json :=
  .obj (entries.map fun (name, value) => (name, .str value))

end Turnstile.Json
