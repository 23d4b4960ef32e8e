import Turnstile.Http.Message
import Turnstile.Http.Url
import Turnstile.Log.Event

/-!
# Failures as responses

A problem is answered with its status, code, message and details, and with the headers of a
denial. A fault is answered without a word about its cause. Each is reported with the path of its
request; where that cannot be told, the server answers by itself.
-/

namespace Turnstile.Service

open Http Log

/-- The part that reports failures. -/
def failureLogger : String := "tenant_ratelimit.core.exception_handlers"

/-- The body of an error response. Empty details are left out. -/
def errorBody (code message : String) (request : Option String)
    (details : Option (List (String × Json))) : Json :=
  let base : List (String × Json) :=
    [("code", .str code), ("message", .str message), ("request_id", Json.ofOption request)]
  let shown := (details.getD []).isEmpty
  .obj [("error", .obj (if shown then base else base ++ [("details", .obj (details.getD []))]))]

/-- The event of an answered problem, with the path that is shown. -/
def problemEvent (problem : Problem) (path : String) : Event where
  severity := if 500 ≤ problem.kind.status then .error else .warning
  logger := failureLogger
  message := "app_error_handled"
  fields :=
    [("error_code", .str problem.code), ("status_code", Json.nat problem.kind.status),
     ("request_path", .str path)]

/-- The headers that the answer to a problem carries: those of a denial. -/
def problemHeaders (problem : Problem) : List (String × String) :=
  if problem.kind = .limitExceeded then problem.headers.getD [] else []

/-- The response to a problem. -/
def problemResponse (problem : Problem) (request : Option String) : Except Failure Response :=
  Response.ofJson problem.kind.status
    (errorBody problem.code problem.message request problem.details) (problemHeaders problem)

/-- The event of an unexpected failure, with the path that is shown; it names its request
itself. -/
def faultEvent (failure : Failure) (method path : String) (request : Option String) : Event where
  severity := .error
  logger := failureLogger
  message := "unhandled_exception"
  fields :=
    [("error_type", .str failure.name), ("request_path", .str path),
     ("request_method", .str method), ("request_id", Json.ofOption request)]
  trace := some failure.trace

/-- The response to an unexpected failure; it carries the identifier of the request under the
given header. -/
def faultResponse (request : Option String) (header : String) : Response :=
  let headers := match request.filter (!·.isEmpty) with
    | some id => [(header, id)]
    | none => []
  Response.ofText 500 "application/json"
    (Json.compact (errorBody "internal_server_error"
      "An unexpected error occurred. Please try again later." request none)) headers

/-- The response of the server where nothing of the service answers. -/
def bareResponse : Response :=
  ⟨500, [("content-type", "text/plain; charset=utf-8"), ("connection", "close")],
    "Internal Server Error"⟩

/-- The identifier known for a request: the one noted on it, else the one of the context. -/
def knownRequest (noted context : Option String) : Option String :=
  (noted.filter (!·.isEmpty)).or context

end Turnstile.Service
