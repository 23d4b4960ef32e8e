import Turnstile.Json.Value
import Turnstile.Text.Case
import Turnstile.Text.Digest

/-!
# Scrubbing

Two sets of field names decide what may appear in a log line. The value of a sensitive field is
replaced by a fixed mark, whatever it is; a text in a hashed field is replaced by its digest. Both
rules reach into objects and arrays at any depth, and names are compared in small letters.
-/

namespace Turnstile.Log

/-- What stands in for the value of a sensitive field. -/
def redacted : Json := .str "[REDACTED]"

/-- The field names whose values are secrets. -/
def sensitiveDefaults : List String :=
  ["api_key", "x-api-key", "app_api_keys", "authorization", "cookie", "set-cookie", "password",
   "secret", "token", "invitation_token", "redis_url"]

/-- The field names whose values identify someone. -/
def hashedDefaults : List String :=
  ["key", "identifier", "user_id", "tenant_id", "client_ip", "email", "invitee_email"]

/-- The names that scrubbing looks for, in small letters. -/
structure ScrubRules where
  sensitive : List String
  hashed : List String
deriving Repr, Inhabited

namespace ScrubRules

/-- The customary rules. -/
def defaults : ScrubRules := ⟨sensitiveDefaults, hashedDefaults⟩

/-- Rules for given names; an empty list means the customary one. -/
def make (sensitive hashed : List String) : ScrubRules where
  sensitive := (if sensitive.isEmpty then sensitiveDefaults else sensitive).map Text.lower
  hashed := (if hashed.isEmpty then hashedDefaults else hashed).map Text.lower

/-- The name is that of a sensitive field. -/
def isSensitive (rules : ScrubRules) (name : String) : Bool :=
  rules.sensitive.contains (Text.lower name)

/-- The name is that of a hashed field. -/
def isHashed (rules : ScrubRules) (name : String) : Bool :=
  rules.hashed.contains (Text.lower name)

mutual

/-- Scrub a value that stands under no name. -/
def value (rules : ScrubRules) : Json → Json
  | .arr items => .arr (scrubItems rules items)
  | .obj members => .obj (scrubMembers rules members)
  | other => other

/-- Scrub the items of an array. -/
def scrubItems (rules : ScrubRules) : List Json → List Json
  | [] => []
  | item :: rest => value rules item :: scrubItems rules rest

/-- Scrub the members of an object. -/
def scrubMembers (rules : ScrubRules) : List (String × Json) → List (String × Json)
  | [] => []
  | entry :: rest => scrubMember rules entry :: scrubMembers rules rest

/-- Scrub one member: a secret is hidden, an identifying text is digested, and anything else is
scrubbed inside. -/
def scrubMember (rules : ScrubRules) : String × Json → String × Json
  | (name, content) =>
    if rules.isSensitive name then (name, redacted)
    else
      match content with
      | .str text =>
        if rules.isHashed name then (name, .str (hashIdentifier text)) else (name, .str text)
      | other => (name, value rules other)

end

/-- Scrub a value that stands under a name. -/
def field (rules : ScrubRules) (name : String) (content : Json) : Json :=
  (scrubMember rules (name, content)).2

end ScrubRules

end Turnstile.Log
