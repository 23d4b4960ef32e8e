import Turnstile.Log.Record
import Turnstile.Service.Basic
import Turnstile.Service.Journal

/-!
# Exchanges

A whole exchange: the request gets its identifier, is answered, and the response tells the
identifier and the time taken. The identifier is bound while the request is handled, so every
event of that time belongs to it; afterwards none is bound. A failure that nothing answered is
answered here and passed on, unless the path of the request cannot be told.
-/

namespace Turnstile.Service

open Http Log Number Store

/-- An event and the identifier of the request at hand when it was reported. -/
structure Noted where
  request : Option String
  event : Event
deriving Repr, Inhabited

/-- What a request leads to. -/
structure Exchange where
  response : Response
  /-- The failure that is passed on after its response. -/
  raised : Option Failure := none
  events : List Noted := []
deriving Inhabited

variable {σ : Type}

/-- The part that reports finished requests. -/
def requestLogger : String := "tenant_ratelimit.core.middleware"

/-- Milliseconds that handling a request took. -/
def duration (request : Request) : Binary64 := request.elapsed.mul (Binary64.ofInt 1000)

/-- The event of a finished request, with the path that is shown. -/
def completedEvent (request : Request) (path : String) (response : Response) : Event where
  severity := .info
  logger := requestLogger
  message := "http.request_completed"
  fields :=
    [("method", .str request.method), ("path", .str path),
     ("status_code", Json.nat response.status),
     ("duration_ms", .float ((duration request).roundPlaces 2)),
     ("rate_limited", .bool (response.status == 429))]

/-- The header that carries the identifier of a request, as configured. -/
def requestHeader (service : Service) : String := service.settings.log.requestHeader

/-- The identifier of a request: its own if that is usable, else a generated one. -/
def identify (header : String) (request : Request) : Action (Node σ) String := do
  let own := (request.headers.first? (Text.lower header)).getD ""
  if RequestId.isUsable own then return own
  else return RequestId.generate (← Node.takeSerial)

/-- The response with the identifier and the time taken. -/
def signed (header id : String) (request : Request) (response : Response) : Response :=
  { response with
    headers := ((Headers.set response.headers (Text.lower header) id).setIfAbsent
      "x-request-duration-ms" ((duration request).fixedText 2)) }

/-- The exchange of a request that ended with a failure nothing answered. Where the path of the
request cannot be told, this is a failure of its own, and the server answers. -/
def failed (service : Service) (request : Request) (id : Option String) (failure : Failure)
    (before : List Noted) : Exchange :=
  match request.shownPath with
  | .ok path =>
    ⟨faultResponse id (requestHeader service), some failure,
      before ++ [⟨none, faultEvent failure request.method path id⟩]⟩
  | .error untold => ⟨bareResponse, some untold, before⟩

/-- An interrupted request leaves no response behind. -/
def noResponse : Failure := .ofKind .runtime "No response returned."

/-- Handle a request whose identifier is known. -/
def exchangeAs [Backend σ] (service : Service) (now : Int) (id : String) (request : Request)
    (node : Node σ) : Exchange × Node σ :=
  let step := service.answer now id request node
  let noted := step.events.map fun event => Noted.mk (some id) event
  match step.outcome with
  | .ok response =>
    match request.shownPath with
    | .ok path =>
      (⟨signed (requestHeader service) id request response, none,
        noted ++ [⟨some id, completedEvent request path response⟩]⟩, step.state)
    | .error untold => (failed service request (some id) untold noted, step.state)
  | .error failure =>
    let passed := if failure.isInterruption then noResponse else failure
    (failed service request (some id) passed noted, step.state)

/-- Handle a request. -/
def exchange [Backend σ] (service : Service) (now : Int) (request : Request) (node : Node σ) :
    Exchange × Node σ :=
  let header := requestHeader service
  match narrowFault? (Text.lower header) with
  | some failure => (failed service request none failure [], node)
  | none =>
    let found := identify header request node
    match found.outcome with
    | .ok id => exchangeAs service now id request found.state
    | .error failure => (failed service request none failure [], found.state)

/-- The records of events at an instant that reach the log. -/
def recordsOf (level : String) (now : Int) (events : List Noted) :
    List (Option String × Record) :=
  (events.filter fun noted => (thresholdOf level).rank ≤ noted.event.severity.rank).map
    fun noted => (noted.request, Record.ofEvent now noted.event)

/-- The event of a service that is ready, with the name of the kind of its store. -/
def createdEvent (service : Service) (storeKind : String) : Event where
  severity := .info
  logger := "tenant_ratelimit.core.app_factory"
  message := "app.created"
  fields :=
    [("store_backend", .str storeKind),
     ("rate_limit_enabled", .bool service.guard.enabled)]

/-- Release the store. -/
def shutDown [Backend σ] : Action (Node σ) Unit := do
  let _ ← Node.call .close
  return ()

end Turnstile.Service
