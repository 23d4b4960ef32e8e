import Turnstile.Access
import Turnstile.Http.RequestId
import Turnstile.Http.Route
import Turnstile.Service.Problems
import Turnstile.Service.Schema
import Turnstile.Settings.Basic

/-!
# The service

The service joins settings, guard and endpoints. A request to an endpoint is handled in a fixed
order: a body that should be JSON is read, then keys are checked or budgets charged, and only then
are the inputs checked and the work done. What was charged stays charged if an input is refused.
-/

namespace Turnstile

open Http Log Store

/-- A service with its settings. -/
structure Service where
  settings : Settings

namespace Service

variable {σ : Type}

/-- The guard that the settings describe. -/
def guard (service : Service) : Guard where
  policy := service.settings.limits.policy
  limitSource := service.settings.service.limitSource
  includeHeaders := service.settings.service.limitHeaders
  enabled := service.settings.service.limitsEnabled

/-- The limits in force. -/
def policy (service : Service) : Policy := service.guard.policy

/-- The clocks of a request handled at one instant. -/
def clocksAt (now : Int) : Clocks := ⟨now, now⟩

/-- The headers of an admission, if headers are wanted. -/
def admissionHeaders (service : Service) (admission : Admission) :
    Except Failure (List (String × String)) :=
  if service.guard.includeHeaders then service.guard.headersFor admission else .ok []

/-- Charge the budgets of an operation; yields the headers for the response. -/
def charge [Backend σ] (service : Service) (operation : Operation) (sparesAdmins : Bool)
    (now : Int) (request : Request) : Action (Node σ) (List (String × String)) := do
  if service.guard.enabled then
    let last ← service.guard.evaluate operation request.principal (some request.address)
      (clocksAt now) sparesAdmins
    match last with
    | some admission => Action.ofExcept (service.admissionHeaders admission)
    | none => return []
  else return []

/-- Charge the budget of an invited address; yields the headers for the response. -/
def chargeEmail [Backend σ] (service : Service) (email : String) (now : Int) :
    Action (Node σ) (List (String × String)) := do
  if service.guard.enabled then
    let admission ← service.guard.enforceEmail email (clocksAt now)
    Action.ofExcept (service.admissionHeaders admission)
  else return []

/-- Respond with a JSON value. -/
def respond (status : Nat) (value : Json) (headers : List (String × String)) :
    Action (Node σ) Response :=
  Action.ofExcept (Response.ofJson status value headers)

/-- Respond that an operation is accepted. -/
def accept (status : Nat) (operation : Operation) (tenant : Option String)
    (headers : List (String × String)) : Action (Node σ) Response := do
  let body : Acceptance := { operation := operation.name, tenant }
  let response ← respond status body.toJson []
  return response.withHeaders headers

/-- Respond with the reasons why inputs are refused. -/
def refuse (request : Request) (refusals : List Refusal) : Action (Node σ) Response :=
  Action.ofExcept (Response.ofRefusals request.shownRoom refusals)

/-- A short answer that names what is wrong with a path. -/
def detail (status : Nat) (text : String) (headers : List (String × String)) :
    Action (Node σ) Response :=
  respond status (.obj [("detail", .str text)]) headers

/-- Refuse a body that is not read. -/
def refuseBody (request : Request) (error : Json.ReadError) : Action (Node σ) Response :=
  if error.cause.isTold then refuse request [Refusal.ofReadError error]
  else detail 400 "There was an error parsing the body" []

/-- Read the body as an order; a body that is not JSON is refused before anything is charged. -/
def withOrder {α : Type} (request : Request)
    (read : Wide.Members → Validation.Checked α)
    (next : Except (List Refusal) α → Action (Node σ) Response) : Action (Node σ) Response :=
  match request.payload with
  | .error error => refuseBody request error
  | .ok payload => next (readOrder read payload)

/-- Take the order of an invitation: charge the tenant and the inviter, then the address. -/
def createInvitation [Backend σ] (service : Service) (now : Int) (request : Request) :
    Action (Node σ) Response :=
  withOrder request InvitationOrder.read fun order => do
    let headers ← service.charge .invitationCreation false now request
    match order with
    | .error refusals => refuse request refusals
    | .ok order =>
      let own ← service.chargeEmail order.email now
      accept 202 .invitationCreation request.principal.tenantId
        (own.foldl (fun acc entry => Headers.set acc entry.1 entry.2) headers)

/-- Take a visit to an invitation link or its acceptance: charge the address and the user. -/
def visitInvitation [Backend σ] (service : Service) (now : Int) (request : Request) :
    Action (Node σ) Response := do
  let headers ← service.charge .invitationAcceptance false now request
  accept 200 .invitationAcceptance none headers

/-- Take the order of a tenant: charge the user, unless an administrator. -/
def createTenant [Backend σ] (service : Service) (now : Int) (request : Request) :
    Action (Node σ) Response :=
  withOrder request TenantOrder.read fun order => do
    let headers ← service.charge .tenantCreation true now request
    match order with
    | .error refusals => refuse request refusals
    | .ok _ => accept 202 .tenantCreation none headers

/-- Take a user's wish to join a tenant: charge the user. -/
def joinTenant [Backend σ] (service : Service) (tenant : String) (now : Int)
    (request : Request) : Action (Node σ) Response := do
  let headers ← service.charge .tenantJoining false now request
  accept 202 .tenantJoining (some tenant) headers

/-- The identifier under which a scope counts what an operator names. -/
def quotaIdentifier (scope : Scope) (identifier : String) : String :=
  if scope = .invitationEmail then normalizeEmail identifier else identifier

/-- The names of the scopes. -/
def scopeNames : List String := Scope.all.map Scope.name

/-- Find the scope that an operator names, or refuse. -/
def withScope (request : Request) (name : String) (next : Scope → Action (Node σ) Response) :
    Action (Node σ) Response :=
  match Scope.ofName? name with
  | some scope => next scope
  | none => refuse request [Refusal.ofComplaint [.str "path", .str "scope"]
      (.notNamed scopeNames) (.json (.text name))]

/-- Show the limits in force. -/
def showPolicy (service : Service) : Action (Node σ) Response := do
  let table ← service.policy.listing
  respond 200 (PolicyView.ofTable table).toJson []

/-- Show several windows of one identifier. -/
def showWindows [Backend σ] (service : Service) (scopes : List (String × Scope))
    (identifier : String) (now : Int) : Action (Node σ) Response := do
  let verdicts ← Quota.statuses service.policy scopes identifier now
  let body ← Action.ofExcept (windowsJson verdicts)
  respond 200 body []

/-- Show one window. -/
def showWindow [Backend σ] (service : Service) (scope : Scope) (identifier : String)
    (now : Int) : Action (Node σ) Response := do
  let verdict ← Quota.status service.policy scope (quotaIdentifier scope identifier) now
  let body ← Action.ofExcept (WindowView.jsonOf verdict)
  respond 200 body []

/-- Empty one budget. -/
def resetWindow [Backend σ] (service : Service) (scope : Scope) (identifier : String) :
    Action (Node σ) Response := do
  Quota.reset service.policy scope (quotaIdentifier scope identifier)
  return Response.ofStatus 204

/-- Tell whether the store answers; the service is up either way. -/
def readiness [Backend σ] : Action (Node σ) Response := do
  let reply ← Node.call .ping
  let up := reply.toFlag
  respond 200 (.obj
    [("status", .str (if up then "ok" else "degraded")),
     ("store", .str (if up then "up" else "down"))]) []

/-- Check the key that an operator sends. -/
def verifyOperator (service : Service) (request : Request) : Action (Node σ) Unit :=
  Access.verify service.settings.service.keyRequired service.settings.service.keys
    (request.headers.first? "x-api-key")

/-- Do the work of an endpoint, keys aside. -/
def perform [Backend σ] (service : Service) (endpoint : Endpoint) (arguments : List String)
    (now : Int) (request : Request) : Action (Node σ) Response :=
  let first := arguments.headD ""
  let second := (arguments.drop 1).headD ""
  match endpoint with
  | .createInvitation => service.createInvitation now request
  | .openInvitation => service.visitInvitation now request
  | .acceptInvitation => service.visitInvitation now request
  | .createTenant => service.createTenant now request
  | .joinTenant => service.joinTenant first now request
  | .showPolicy => service.showPolicy
  | .tenantStatus => service.showWindows Quota.tenantScopes first now
  | .userStatus => service.showWindows Quota.userScopes first now
  | .adminStatus => service.showWindows Quota.adminScopes first now
  | .scopeStatus => withScope request first fun scope => service.showWindow scope second now
  | .scopeReset => withScope request first fun scope => service.resetWindow scope second
  | .health => respond 200 (.obj [("status", .str "ok")]) []
  | .readiness => readiness

/-- Handle a request to an endpoint; operators are checked first. -/
def handle [Backend σ] (service : Service) (endpoint : Endpoint) (arguments : List String)
    (now : Int) (request : Request) : Action (Node σ) Response := do
  if endpoint.isOperator then service.verifyOperator request
  service.perform endpoint arguments now request

/-- Point to another path at the origin of a request. -/
def redirect (request : Request) (path : String) : Action (Node σ) Response := do
  let address ← Action.ofExcept (request.addressOf path)
  return ⟨307, [("content-length", "0"), ("location", locationText address)], ""⟩

/-- Answer a request by its method and path. -/
def route [Backend σ] (service : Service) (now : Int) (request : Request) :
    Action (Node σ) Response :=
  match dispatch request.method request.path with
  | .taken endpoint arguments => service.handle endpoint arguments now request
  | .wrongMethod allowed => detail 405 "Method Not Allowed" [("Allow", allowed)]
  | .unknown => detail 404 "Not Found" []
  | .moved path => redirect request path

/-- Answer a request; a problem is reported and answered too, if its path can be told. -/
def answer [Backend σ] (service : Service) (now : Int) (id : String) (request : Request) :
    Action (Node σ) Response := do
  match ← (service.route now request).attempt with
  | .ok response => return response
  | .error (.problem found) =>
    let path ← Action.ofExcept request.shownPath
    Action.report (problemEvent found path)
    Action.ofExcept (problemResponse found (some id))
  | .error failure => Action.fail failure

end Service

end Turnstile
