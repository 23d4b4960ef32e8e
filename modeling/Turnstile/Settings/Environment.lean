import Turnstile.Json.Value
import Turnstile.Text.Case
import Turnstile.Validation.Reading

/-!
# Environments and sources

An environment is a list of variables. A setting is found under its name whatever the case of the
letters; of several spellings the last in the list counts. A source joins values given directly
with an environment, and a value given directly counts first.
-/

namespace Turnstile.Settings

open Validation

/-- Variables and their values, in order. -/
abbrev Environment := List (String × String)

namespace Environment

/-- The value of a variable under its exact name. -/
def spelled? (environment : Environment) (name : String) : Option String := environment.lookup name

/-- The value of the last variable whose name in small letters is the given one. -/
def find? (environment : Environment) (name : String) : Option String :=
  (environment.reverse.find? fun entry => Text.lower entry.1 == name).map (·.2)

/-- Add variables that are not there under their exact names. -/
def extend (environment : Environment) (more : List (String × String)) : Environment :=
  more.foldl (fun acc entry => if (acc.lookup entry.1).isSome then acc else acc ++ [entry])
    environment

end Environment

/-- Where the settings of one group come from. -/
structure Source where
  /-- Values given directly, under the names of the settings. -/
  given : List (String × Json)
  environment : Environment
  /-- What the names of the group's variables start with, in small letters. -/
  mark : String

namespace Source

/-- The value of a setting, if there is one. -/
def value? (source : Source) (name : String) : Option Json :=
  (source.given.lookup name).or ((source.environment.find? (source.mark ++ name)).map .str)

/-- Read a setting; without a value it has its default. -/
def setting {α : Type} (source : Source) (name : String) (reading : Reading α) (default : α) :
    Checked α :=
  match source.value? name with
  | some given => Checked.ofExcept name (reading given)
  | none => .accepted default

/-- Findings for the given values whose names are not among the known ones. -/
def unknown (source : Source) (known : List String) : List Finding :=
  (source.given.filter fun entry => !known.contains entry.1).map fun entry =>
    ⟨[entry.1], .unexpected⟩

end Source

end Turnstile.Settings
