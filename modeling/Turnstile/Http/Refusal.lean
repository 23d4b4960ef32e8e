import Turnstile.Http.Message
import Turnstile.Validation.Checked

/-!
# Refused inputs

The answer to a request whose body or path is not what an endpoint asks for: one entry per
complaint with its kind, place and sentence, the input it is about, and its bounds. An input that
cannot be shown or written leaves the request without that answer.
-/

namespace Turnstile.Http

open Text Validation

/-- What a refusal is about: a value, or a body that is not JSON. -/
inductive Input where
  | json (value : Wide)
  | bytes (content : List UInt8)
deriving Repr

/-- Arrays and objects lie within one another deeper than there is room for. -/
def tooDeep : Failure := .ofKind .recursion "maximum recursion depth exceeded"

/-- An input as it is shown: a value without the members that are kept from view, and bytes as the
text in UTF-8 that they are. -/
def Input.shown (room : Nat) : Input → Except Failure Wide
  | .json value => if value.visible.depth ≤ room then .ok value.visible else .error tooDeep
  | .bytes content =>
    match readText content with
    | .ok text => .ok (.text text)
    | .error error => .error (decodeFault content error)

/-- A complaint about a request. -/
structure Refusal where
  kind : String
  place : List Json
  message : String
  input : Input
  context : List (String × Json) := []
deriving Repr

/-- The bounds that a complaint names. -/
def complaintContext : Complaint → List (String × Json)
  | .tooShort least => [("min_length", Json.nat least)]
  | .tooLong most => [("max_length", Json.nat most)]
  | .notAbove bound => [("gt", .int bound)]
  | .below bound => [("ge", .int bound)]
  | .notListed choices => [("expected", .str (choicesText choices))]
  | .notNamed choices => [("expected", .str (choicesText choices))]
  | _ => []

namespace Refusal

/-- The refusal of a complaint about an input at a place. -/
def ofComplaint (place : List Json) (complaint : Complaint) (input : Input) : Refusal :=
  ⟨complaint.kind, place, complaint.message, input, complaintContext complaint⟩

/-- The refusal of a body that is not JSON. -/
def ofReadError (error : Json.ReadError) : Refusal :=
  ⟨"json_invalid", [.str "body", Json.nat error.position], "JSON decode error", .json (.obj []),
    [("error", .str error.cause.message)]⟩

/-- A refusal as JSON, the input shown as given. -/
def entry (refusal : Refusal) (input : Wide) : Wide :=
  let base : Wide.Members :=
    [(points "type", .text refusal.kind), (points "loc", .arr (Wide.ofItems refusal.place)),
     (points "msg", .text refusal.message), (points "input", input)]
  .obj (if refusal.context.isEmpty then base
    else base ++ [(points "ctx", .obj (Wide.ofMembers refusal.context))])

/-- A refusal as JSON. -/
def toWide (room : Nat) (refusal : Refusal) : Except Failure Wide :=
  (refusal.input.shown room).map refusal.entry

end Refusal

/-- The response to refused inputs, shown as deep as there is room. -/
def Response.ofRefusals (room : Nat) (refusals : List Refusal) : Except Failure Response := do
  let entries ← refusals.mapM (Refusal.toWide room)
  Response.ofWide 422 (.obj [(points "detail", .arr entries)]) []

end Turnstile.Http
