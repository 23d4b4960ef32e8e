import Turnstile.Json.Writer
import Turnstile.Text.Encoding

/-!
# JSON values with surrogates

A JSON text may name surrogates by escapes, so what is read from a request is a value whose texts
are lists of code points. It is written as other values are, but a text with a surrogate has no
bytes; a value whose texts are all made of characters is written as the JSON value that it is.
-/

namespace Turnstile

open Number Text

/-- A JSON value whose texts may hold surrogates. -/
inductive Wide where
  | null
  | bool (value : Bool)
  | int (value : Int)
  | float (value : Binary64)
  | str (value : List Point)
  | arr (items : List Wide)
  | obj (members : List (List Point × Wide))
deriving Inhabited, Repr

namespace Wide

/-- The members of an object, each name once. -/
abbrev Members := List (List Point × Wide)

/-- A text made of characters. -/
def text (value : String) : Wide := .str (points value)

/-- The member of that name. -/
def member? (members : Members) (name : String) : Option Wide := members.lookup (points name)

/-! ## To and from JSON values -/

mutual

/-- A JSON value as a value whose texts may hold surrogates. -/
def ofJson : Json → Wide
  | .null => .null
  | .bool value => .bool value
  | .int value => .int value
  | .float value => .float value
  | .str value => .text value
  | .arr items => .arr (ofItems items)
  | .obj members => .obj (ofMembers members)

/-- The items of an array. -/
def ofItems : List Json → List Wide
  | [] => []
  | item :: rest => ofJson item :: ofItems rest

/-- The members of an object. -/
def ofMembers : List (String × Json) → Members
  | [] => []
  | member :: rest => ofMember member :: ofMembers rest

/-- A member of an object. -/
def ofMember : String × Json → List Point × Wide
  | (name, value) => (points name, ofJson value)

end

mutual

/-- The JSON value of a value without surrogates. -/
def toJson? : Wide → Option Json
  | .null => some .null
  | .bool value => some (.bool value)
  | .int value => some (.int value)
  | .float value => some (.float value)
  | .str value => (ofPoints? value).map .str
  | .arr items => (toItems? items).map .arr
  | .obj members => (toMembers? members).map .obj

/-- The items of an array without surrogates. -/
def toItems? : List Wide → Option (List Json)
  | [] => some []
  | item :: rest => do return (← toJson? item) :: (← toItems? rest)

/-- The members of an object without surrogates. -/
def toMembers? : Members → Option (List (String × Json))
  | [] => some []
  | member :: rest => do return (← toMember? member) :: (← toMembers? rest)

/-- A member without surrogates. -/
def toMember? : List Point × Wide → Option (String × Json)
  | (name, value) => do return (← ofPoints? name, ← toJson? value)

end

/-! ## Preparing and writing -/

/-- The name starts as names that are kept from view do. -/
def isPrivate (name : List Point) : Bool := (points "_sa").isPrefixOf name

mutual

/-- A value without the members whose names are kept from view. -/
def visible : Wide → Wide
  | .arr items => .arr (visibleItems items)
  | .obj members => .obj (visibleMembers members)
  | other => other

/-- The items of an array. -/
def visibleItems : List Wide → List Wide
  | [] => []
  | item :: rest => visible item :: visibleItems rest

/-- The members of an object that are not kept from view. -/
def visibleMembers : Members → Members
  | [] => []
  | (name, value) :: rest =>
    if isPrivate name then visibleMembers rest else (name, visible value) :: visibleMembers rest

end

mutual

/-- How many arrays and objects with something in them lie within one another. -/
def depth : Wide → Nat
  | .arr items => itemsDepth items
  | .obj members => membersDepth members
  | _ => 0

/-- The depth of an array with the items. -/
def itemsDepth : List Wide → Nat
  | [] => 0
  | item :: rest => max (depth item + 1) (itemsDepth rest)

/-- The depth of an object with the members. -/
def membersDepth : Members → Nat
  | [] => 0
  | (_, value) :: rest => max (depth value + 1) (membersDepth rest)

end

mutual

/-- Every binary64 number in the value is finite. -/
def isFinite : Wide → Bool
  | .float value => value.isFinite
  | .arr items => itemsFinite items
  | .obj members => membersFinite members
  | _ => true

/-- Every binary64 number in the items is finite. -/
def itemsFinite : List Wide → Bool
  | [] => true
  | item :: rest => isFinite item && itemsFinite rest

/-- Every binary64 number in the members is finite. -/
def membersFinite : Members → Bool
  | [] => true
  | (_, value) :: rest => isFinite value && membersFinite rest

end

/-- A code point inside a quoted text. -/
def quotePoint : Point → List Point
  | .char c => (Json.quoteChar false c).map .char
  | .surrogate offset => [.surrogate offset]

/-- A quoted text. -/
def quote (text : List Point) : List Point :=
  .char '"' :: (text.flatMap quotePoint ++ [.char '"'])

mutual

/-- The text of a value in the body of a response. -/
def compact : Wide → List Point
  | .null => points "null"
  | .bool value => points (if value then "true" else "false")
  | .int value => points (toString value)
  | .float value => points (Json.numberLayout.text value)
  | .str value => quote value
  | .arr items => .char '[' :: (compactItems items ++ [.char ']'])
  | .obj members => .char '\x7b' :: (compactMembers members ++ [.char '\x7d'])

/-- The texts of the items of an array. -/
def compactItems : List Wide → List Point
  | [] => []
  | [item] => compact item
  | item :: rest => compact item ++ .char ',' :: compactItems rest

/-- The texts of the members of an object. -/
def compactMembers : Members → List Point
  | [] => []
  | [member] => compactMember member
  | member :: rest => compactMember member ++ .char ',' :: compactMembers rest

/-- The text of one member. -/
def compactMember : List Point × Wide → List Point
  | (name, value) => quote name ++ .char ':' :: compact value

end

end Wide

end Turnstile
