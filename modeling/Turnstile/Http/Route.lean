import Turnstile.Text.Blank

/-!
# Routes

The endpoints in the order in which a path is held against them, and what becomes of a path: an
endpoint takes it, or only with another method, or a shorter path would be taken, or none is. The
pages on which the interface is described are left out.
-/

namespace Turnstile.Http

/-- A piece of the path of an endpoint. -/
inductive Piece where
  | literal (text : String)
  | argument
deriving DecidableEq, Repr

/-- The endpoints. -/
inductive Endpoint where
  | createInvitation
  | openInvitation
  | acceptInvitation
  | createTenant
  | joinTenant
  | showPolicy
  | tenantStatus
  | userStatus
  | adminStatus
  | scopeStatus
  | scopeReset
  | health
  | readiness
deriving DecidableEq, Repr, Inhabited

namespace Endpoint

/-- The endpoints in order. -/
def all : List Endpoint :=
  [.createInvitation, .openInvitation, .acceptInvitation, .createTenant, .joinTenant, .showPolicy,
   .tenantStatus, .userStatus, .adminStatus, .scopeStatus, .scopeReset, .health, .readiness]

/-- The method of an endpoint. -/
def method : Endpoint → String
  | .createInvitation | .acceptInvitation | .createTenant | .joinTenant => "POST"
  | .scopeReset => "DELETE"
  | _ => "GET"

/-- The path of an endpoint. -/
def pieces : Endpoint → List Piece
  | .createInvitation => [.literal "v1", .literal "invitations"]
  | .openInvitation => [.literal "v1", .literal "invitation-acceptance", .argument]
  | .acceptInvitation => [.literal "v1", .literal "invitation-acceptance", .argument]
  | .createTenant => [.literal "v1", .literal "tenants"]
  | .joinTenant => [.literal "v1", .literal "tenants", .argument, .literal "join"]
  | .showPolicy => [.literal "v1", .literal "rate-limits", .literal "policy"]
  | .tenantStatus => [.literal "v1", .literal "rate-limits", .literal "tenants", .argument]
  | .userStatus => [.literal "v1", .literal "rate-limits", .literal "users", .argument]
  | .adminStatus => [.literal "v1", .literal "rate-limits", .literal "admins", .argument]
  | .scopeStatus => [.literal "v1", .literal "rate-limits", .argument, .argument]
  | .scopeReset => [.literal "v1", .literal "rate-limits", .argument, .argument]
  | .health => [.literal "health"]
  | .readiness => [.literal "health", .literal "ready"]

/-- The endpoint is for operators. -/
def isOperator : Endpoint → Bool
  | .showPolicy | .tenantStatus | .userStatus | .adminStatus | .scopeStatus | .scopeReset => true
  | _ => false

end Endpoint

/-- The arguments of a path that fits the pieces. An argument is not empty; a literal at the end
may be followed by one line feed. -/
def fit : List Piece → List String → Option (List String)
  | [], [] => some []
  | [.literal text], [segment] =>
    if segment = text ∨ segment = text ++ "\n" then some [] else none
  | .literal text :: pieces, segment :: segments =>
    if segment = text then fit pieces segments else none
  | .argument :: pieces, segment :: segments =>
    if segment.isEmpty then none else (fit pieces segments).map (segment :: ·)
  | _, _ => none

/-- The segments of a path that starts with a slash. -/
def segmentsOf (path : String) : Option (List String) :=
  match Text.splitOnChar '/' path with
  | "" :: segments => some segments
  | _ => none

/-- The arguments with which a path fits an endpoint. -/
def Endpoint.arguments? (endpoint : Endpoint) (path : String) : Option (List String) := do
  fit endpoint.pieces (← segmentsOf path)

/-- What becomes of a path. -/
inductive Dispatch where
  | taken (endpoint : Endpoint) (arguments : List String)
  | wrongMethod (allowed : String)
  | moved (path : String)
  | unknown
deriving DecidableEq, Repr

/-- A path without the slashes at its end. -/
def dropSlashes (path : String) : String :=
  String.ofList (path.toList.reverse.dropWhile (· = '/')).reverse

/-- Decide on a method and a path. -/
def dispatch (method path : String) : Dispatch :=
  let fitting := Endpoint.all.filterMap fun endpoint =>
    (endpoint.arguments? path).map fun arguments => (endpoint, arguments)
  match fitting.find? (·.1.method == method) with
  | some (endpoint, arguments) => .taken endpoint arguments
  | none =>
    match fitting.head? with
    | some (endpoint, _) => .wrongMethod endpoint.method
    | none =>
      let shorter := dropSlashes path
      if path != "/" && path.endsWith "/" &&
          Endpoint.all.any fun endpoint => (endpoint.arguments? shorter).isSome then
        .moved shorter
      else .unknown

end Turnstile.Http
