import Turnstile.Failure
import Turnstile.Http.Route
import Turnstile.Text.Case

/-!
# The description of the interface

A description of the interface is a JSON document. Completing one adds what the service as a whole
knows: the groups of endpoints, how operators identify themselves, and which operations need their
key or may be refused for the rate of requests. What a document already says is kept, save the keys
that an operators' operation needs. The endpoints are outlined by the same rules.
-/

namespace Turnstile

namespace Service.Description

open Http

/-- The title of the interface. -/
def title : String := "Tenant Rate Limit API"

/-- The version of the interface. -/
def version : String := "0.1.0"

/-- The groups of endpoints. -/
inductive Area where
  | invitations
  | tenants
  | limits
  | health
deriving DecidableEq, Repr

namespace Area

/-- The groups in order. -/
def all : List Area := [.invitations, .tenants, .limits, .health]

/-- The name of a group. -/
def name : Area → String
  | .invitations => "Invitations"
  | .tenants => "Tenants"
  | .limits => "Rate Limits"
  | .health => "Health"

/-- What a group is about. -/
def text : Area → String
  | .invitations => "Invitation creation and acceptance (rate limited)."
  | .tenants => "Tenant creation and joining (rate limited)."
  | .limits => "Operator status and reset of rate limit counters."
  | .health => "Liveness and readiness checks."

/-- The entry of a group. -/
def entry (area : Area) : Json :=
  .obj [("name", .str area.name), ("description", .str area.text)]

end Area

/-- The name under which the operators' key is described. -/
def keyName : String := "ApiKeyAuth"

/-- The header that carries an operator's key. -/
def keyHeader : String := "X-API-Key"

/-- How operators identify themselves. -/
def keyScheme : Json :=
  .obj [("type", .str "apiKey"), ("in", .str "header"), ("name", .str keyHeader),
    ("description", .str "Operator API key for rate limit administration.")]

/-- The key that an operators' operation needs. -/
def keyNeed : Json := .arr [.obj [(keyName, .arr [])]]

/-- The answer to requests that come too often. -/
def tooOften : Json :=
  .obj [("description",
    .str "Rate limit exceeded. See Retry-After and X-RateLimit-* headers.")]

/-- What the service as a whole adds to the operations of a path. -/
inductive Treatment where
  | keyed
  | limited
  | plain
deriving DecidableEq, Repr

/-- A text occurs in another. -/
def occurs (part : List Char) : List Char → Bool
  | [] => part.isEmpty
  | c :: rest => part.isPrefixOf (c :: rest) || occurs part rest

/-- The treatment of a path. -/
def treatment (path : String) : Treatment :=
  if occurs "/rate-limits".toList path.toList then .keyed
  else if path.startsWith "/v1/" then .limited
  else .plain

/-- The members of what should be an object. -/
def objectMembers : Json → Except Failure (List (String × Json))
  | .obj members => .ok members
  | _ => .error (.ofKind .attribute "not an object")

/-- Amend the member of an object, which starts as the given value if it is missing. -/
def amend (name : String) (start : Json) (change : Json → Except Failure Json) (value : Json) :
    Except Failure Json := do
  let members ← objectMembers value
  let changed ← change ((members.lookup name).getD start)
  return .obj (Json.setMember members name changed)

/-- Give an object a member unless it has one. -/
def provide (name : String) (content : Json) : Json → Except Failure Json :=
  amend name content .ok

/-- An object without members. -/
def empty : Json := .obj []

/-- The name of a group as an entry tells it. Entries are looked up by name, so that a name cannot
be an array or an object. -/
def entryName (entry : Json) : Except Failure (Option String) := do
  match (← objectMembers entry).lookup "name" with
  | some (.str name) => return some name
  | some (.arr _) | some (.obj _) => .error (.ofKind .type "unhashable type")
  | _ => return none

/-- The groups with those that are missing after them. -/
def completeAreas : Json → Except Failure Json
  | .arr entries => do
    let names ← entries.mapM entryName
    let missing := Area.all.filter fun area => !names.contains (some area.name)
    return .arr (entries ++ missing.map Area.entry)
  | .str _ | .obj _ => .error (.ofKind .attribute "not an array")
  | _ => .error (.ofKind .type "not iterable")

/-- An operation with what its path adds; what is no object is left alone. -/
def completeOperation (path : String) (operation : Json) : Except Failure Json :=
  match operation, treatment path with
  | .obj members, .keyed => .ok (.obj (Json.setMember members "security" keyNeed))
  | .obj members, .limited => amend "responses" empty (provide "429" tooOften) (.obj members)
  | other, _ => .ok other

/-- The operations of a path with what the path adds. -/
def completePath (entry : String × Json) : Except Failure (String × Json) := do
  let operations ← objectMembers entry.2
  let completed ← operations.mapM fun operation => do
    return (operation.1, ← completeOperation entry.1 operation.2)
  return (entry.1, .obj completed)

/-- The paths, if there are any, with what they add. -/
def completePaths (document : Json) : Except Failure Json := do
  let members ← objectMembers document
  match members.lookup "paths" with
  | none => return document
  | some paths =>
    let completed ← (← objectMembers paths).mapM completePath
    return .obj (Json.setMember members "paths" (.obj completed))

/-- Complete a document. -/
def complete (document : Json) : Except Failure Json := do
  let keyed ← amend "components" empty
    (amend "securitySchemes" empty (provide keyName keyScheme)) document
  let grouped ← amend "tags" (.arr []) completeAreas keyed
  completePaths grouped

/-- The document to show: one kept from before, else a fresh one completed. -/
def shown (kept fresh : Json) : Except Failure Json :=
  if kept.truthy then .ok kept else complete fresh

end Service.Description

namespace Http.Endpoint

open Service.Description

/-- The group of an endpoint. -/
def area : Endpoint → Area
  | .createInvitation | .openInvitation | .acceptInvitation => .invitations
  | .createTenant | .joinTenant => .tenants
  | .health | .readiness => .health
  | _ => .limits

/-- The names of the arguments in the path of an endpoint. -/
def argumentNames : Endpoint → List String
  | .openInvitation | .acceptInvitation => ["token"]
  | .joinTenant | .tenantStatus => ["tenant_id"]
  | .userStatus | .adminStatus => ["user_id"]
  | .scopeStatus | .scopeReset => ["scope", "identifier"]
  | _ => []

/-- The pieces of a path with names in place of arguments. -/
def fillPieces : List Piece → List String → String
  | [], _ => ""
  | .literal text :: pieces, names => "/" ++ text ++ fillPieces pieces names
  | .argument :: pieces, name :: names => "/\x7b" ++ name ++ "\x7d" ++ fillPieces pieces names
  | .argument :: pieces, [] => "/" ++ fillPieces pieces []

/-- The path of an endpoint with names in place of arguments. -/
def template (endpoint : Endpoint) : String := fillPieces endpoint.pieces endpoint.argumentNames

/-- The schema of the body that an endpoint reads. -/
def bodySchema? : Endpoint → Option String
  | .createInvitation => some "CreateInvitationRequest"
  | .createTenant => some "CreateTenantRequest"
  | _ => none

/-- The inputs of an endpoint besides the body: where each stands and what it is called. -/
def inputs (endpoint : Endpoint) : List (String × String) :=
  endpoint.argumentNames.map (fun name => ("path", name)) ++
    (if endpoint.isOperator then [("header", keyHeader)] else [])

/-- The status of a request that is fulfilled. -/
def fulfilled : Endpoint → Nat
  | .createInvitation | .createTenant | .joinTenant => 202
  | .scopeReset => 204
  | _ => 200

/-- The statuses that an endpoint is described with. -/
def statuses (endpoint : Endpoint) : List Nat :=
  let checksInput := !endpoint.inputs.isEmpty || endpoint.bodySchema?.isSome
  endpoint.fulfilled :: (if checksInput then [422] else []) ++
    (if treatment endpoint.template = .limited then [429] else [])

/-- The outline of an endpoint. -/
def outline (endpoint : Endpoint) : Json :=
  .obj
    [("tags", .arr [.str endpoint.area.name]),
     ("security", if treatment endpoint.template = .keyed then keyNeed else .null),
     ("responses", .arr (endpoint.statuses.map fun status => .str (toString status))),
     ("parameters", .arr (endpoint.inputs.map fun input => .arr [.str input.1, .str input.2])),
     ("body", Json.ofOption (endpoint.bodySchema?.map ("#/components/schemas/" ++ ·)))]

/-- The endpoints whose paths need the operators' key are those for operators. -/
theorem treatment_template_eq_keyed_iff (endpoint : Endpoint) :
    treatment endpoint.template = .keyed ↔ endpoint.isOperator = true := by
  cases endpoint <;> decide +kernel

end Http.Endpoint

namespace Service.Description

open Http

/-- The names of the schemas that the endpoints refer to. -/
def schemaNames : List String :=
  ["CreateInvitationRequest", "CreateTenantRequest", "HTTPValidationError", "OperationAccepted",
   "PolicyResponse", "RateLimitScope", "RateLimitStatus", "ScopeConfigResponse",
   "ScopedStatusResponse", "ValidationError"]

/-- The outline of the interface. -/
def outline : Json :=
  .obj
    [("title", .str title), ("version", .str version),
     ("operations", .obj (Endpoint.all.map fun endpoint =>
       (Text.lower endpoint.method ++ " " ++ endpoint.template, endpoint.outline))),
     ("tags", .arr (Area.all.map Area.entry)),
     ("security_schemes", .obj [(keyName, keyScheme)]),
     ("schemas", .arr (schemaNames.map Json.str))]

end Service.Description

end Turnstile
