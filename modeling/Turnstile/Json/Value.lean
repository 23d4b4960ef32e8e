import Turnstile.Number.Shortest

/-!
# JSON values

A JSON value keeps whole numbers exact and apart from binary64 numbers, and the members of an
object in order, each name once.
-/

namespace Turnstile

open Number

/-- A JSON value. -/
inductive Json where
  | null
  | bool (value : Bool)
  | int (value : Int)
  | float (value : Binary64)
  | str (value : String)
  | arr (items : List Json)
  | obj (members : List (String × Json))
deriving Inhabited, Repr

namespace Json

/-- A string, or null. -/
def ofOption : Option String → Json
  | some text => .str text
  | none => .null

/-- A natural number. -/
def nat (number : Nat) : Json := .int number

/-- The member of that name. -/
def member? (members : List (String × Json)) (name : String) : Option Json := members.lookup name

/-- Set a member: in place when the name is there, at the end otherwise. -/
def setMember {κ ν : Type} [BEq κ] (members : List (κ × ν)) (name : κ) (value : ν) :
    List (κ × ν) :=
  if members.any (·.1 == name) then
    members.map fun entry => if entry.1 == name then (name, value) else entry
  else members ++ [(name, value)]

/-- Remove a member. -/
def dropMember (members : List (String × Json)) (name : String) : List (String × Json) :=
  members.filter (·.1 != name)

/-- Set several members in turn. -/
def setMembers (members updates : List (String × Json)) : List (String × Json) :=
  updates.foldl (fun acc entry => setMember acc entry.1 entry.2) members

/-- A value counts as set unless it is null, false, zero or empty. -/
def truthy : Json → Bool
  | .null => false
  | .bool value => value
  | .int value => value != 0
  | .float value => !value.isZero
  | .str value => !value.isEmpty
  | .arr items => !items.isEmpty
  | .obj members => !members.isEmpty

/-- The value is null. -/
def isNull : Json → Bool
  | .null => true
  | _ => false

end Json

end Turnstile
