import Turnstile.Text.Blank
import Turnstile.Text.Literal

/-!
# Failures

What can go wrong while the service works. A `Fault` is raised from outside the domain: by the
store, the clock or an interruption. A `Problem` is an error of the domain with a stable code and
the status it is answered with. Each names itself in log lines; the names are part of the output.
-/

namespace Turnstile

/-- The kinds of fault. The first three come from the counter server's client. -/
inductive FaultKind where
  | serverConnection
  | serverTimeout
  | serverResponse
  | system
  | connectionRefused
  | timeout
  | runtime
  | value
  | key
  | type
  | attribute
  | overflow
  | encoding
  | decoding
  | recursion
  | directory
  | cancelled
deriving DecidableEq, Repr, Inhabited

namespace FaultKind

/-- All kinds. -/
def all : List FaultKind :=
  [.serverConnection, .serverTimeout, .serverResponse, .system, .connectionRefused, .timeout,
   .runtime, .value, .key, .type, .attribute, .overflow, .encoding, .decoding, .recursion,
   .directory, .cancelled]

/-- The short name of a kind. -/
def name : FaultKind → String
  | .serverConnection => "ConnectionError"
  | .serverTimeout => "TimeoutError"
  | .serverResponse => "ResponseError"
  | .system => "OSError"
  | .connectionRefused => "ConnectionRefusedError"
  | .timeout => "TimeoutError"
  | .runtime => "RuntimeError"
  | .value => "ValueError"
  | .key => "KeyError"
  | .type => "TypeError"
  | .attribute => "AttributeError"
  | .overflow => "OverflowError"
  | .encoding => "UnicodeEncodeError"
  | .decoding => "UnicodeDecodeError"
  | .recursion => "RecursionError"
  | .directory => "IsADirectoryError"
  | .cancelled => "CancelledError"

/-- The name of a kind with its origin, as traces print it. -/
def originName : FaultKind → String
  | .serverConnection => "redis.exceptions.ConnectionError"
  | .serverTimeout => "redis.exceptions.TimeoutError"
  | .serverResponse => "redis.exceptions.ResponseError"
  | .cancelled => "asyncio.exceptions.CancelledError"
  | other => other.name

/-- The kinds by which a store on a server shows that it cannot be reached or used. -/
def isStoreTrouble : FaultKind → Bool
  | .serverConnection | .serverTimeout | .serverResponse => true
  | .system | .connectionRefused | .timeout => true
  | _ => false

end FaultKind

/-- A fault with its message. -/
structure Fault where
  kind : FaultKind
  message : String
deriving DecidableEq, Repr, Inhabited

/-- The text of a fault; a missing key is quoted. -/
def Fault.text (fault : Fault) : String :=
  if fault.kind = .key then Text.literal fault.message else fault.message

/-- The kinds of problem. -/
inductive ProblemKind where
  | general
  | validation
  | authentication
  | storeUnavailable
  | limitExceeded
deriving DecidableEq, Repr, Inhabited

namespace ProblemKind

/-- All kinds. -/
def all : List ProblemKind :=
  [.general, .validation, .authentication, .storeUnavailable, .limitExceeded]

/-- The status a problem is answered with. -/
def status : ProblemKind → Nat
  | .general => 400
  | .validation => 400
  | .authentication => 403
  | .storeUnavailable => 503
  | .limitExceeded => 429

/-- The name of a kind of problem. -/
def name : ProblemKind → String
  | .general => "AppError"
  | .validation => "ValidationAppError"
  | .authentication => "AuthenticationAppError"
  | .storeUnavailable => "StoreUnavailableError"
  | .limitExceeded => "RateLimitExceededAppError"

end ProblemKind

/-- An error of the domain. -/
structure Problem where
  kind : ProblemKind
  code : String
  message : String
  /-- Members shown under the details of an answer. -/
  details : Option (List (String × Json)) := none
  /-- Headers that the answer carries. -/
  headers : Option (List (String × String)) := none
  /-- The fault that the problem reports. -/
  cause : Option Fault := none
deriving Inhabited, Repr

/-- Anything that ends an activity early. -/
inductive Failure where
  | fault (raised : Fault)
  | problem (raised : Problem)
deriving Inhabited, Repr

namespace Failure

/-- The short name of a failure. -/
def name : Failure → String
  | .fault raised => raised.kind.name
  | .problem raised => raised.kind.name

/-- The text of a failure. -/
def text : Failure → String
  | .fault raised => raised.text
  | .problem raised => raised.message

/-- An interruption passes through every handler. -/
def isInterruption : Failure → Bool
  | .fault raised => raised.kind = .cancelled
  | .problem _ => false

/-- The last line of the trace of a failure. -/
def trace (failure : Failure) : String :=
  let origin := match failure with
    | .fault raised => raised.kind.originName
    | .problem raised => "tenant_ratelimit.core.errors." ++ raised.kind.name
  let whole := if failure.text.isEmpty then origin else origin ++ ": " ++ failure.text
  String.ofList ((Text.splitAt '\n' whole.toList).getLastD [])

/-- A failure raised as a fault of a kind. -/
def ofKind (kind : FaultKind) (message : String) : Failure := .fault ⟨kind, message⟩

end Failure

end Turnstile
