import Turnstile.Guard.Operation
import Turnstile.Quota

/-!
# The guard

The guard charges the scopes of an operation in order and refuses at the first that denies; the
scopes charged before keep their charge. A scope without an identifier does not apply. An admitted
caller learns the state of the last scope charged.
-/

namespace Turnstile

open Log Store

/-- What the limit header reports. -/
inductive LimitSource where
  | hits
  | capacity
deriving DecidableEq, Repr, Inhabited

/-- The name of a limit source. -/
def LimitSource.name : LimitSource → String
  | .hits => "total_hits"
  | .capacity => "max_requests"

/-- The scope, limit and verdict that describe an admitted request. -/
structure Admission where
  scope : Scope
  limit : Limit
  verdict : Verdict
deriving Repr

/-- How the guard works. -/
structure Guard where
  policy : Policy
  limitSource : LimitSource := .hits
  includeHeaders : Bool := true
  enabled : Bool := true

/-- The readings of the two clocks that a guarded request meets. -/
structure Clocks where
  /-- The instant of attempts, in milliseconds of the epoch. -/
  limiter : Int
  /-- The instant from which waiting times are told. -/
  guard : Int
deriving Repr, Inhabited

/-- Seconds to wait from an instant until the end of a window, never negative; `none` beyond
binary64. -/
def retryAfter? (resetTime now : Int) : Option Int :=
  (Time.ceilSeconds? (resetTime - now)).map (max 0)

/-- Seconds to wait from an instant until the end of a window. -/
def retryAfter (resetTime now : Int) : Except Failure Int :=
  match retryAfter? resetTime now with
  | some seconds => .ok seconds
  | none => .error Limit.beyondBinary64

/-- The headers that describe a verdict. -/
def limitHeaders (source : LimitSource) (limit : Limit) (verdict : Verdict) :
    Except Failure (List (String × String)) := do
  let shown := match source with
    | .hits => verdict.totalHits
    | .capacity => limit.capacity
  let reset ← (Time.resetText verdict.resetTime).mapError Time.TimeError.failure
  return [("X-RateLimit-Limit", toString shown),
    ("X-RateLimit-Remaining", toString verdict.remaining), ("X-RateLimit-Reset", reset)]

namespace Guard

variable {σ : Type}

/-- The part that reports the guard's work. -/
def logger : String := "tenant_ratelimit.core.rate_limit"

/-- The headers that describe an admission. -/
def headersFor (guard : Guard) (admission : Admission) : Except Failure (List (String × String)) :=
  limitHeaders guard.limitSource admission.limit admission.verdict

/-- The event of a request left unchecked for an administrator. -/
def skippedEvent (operation : Operation) : Event where
  severity := .debug
  logger := logger
  message := "rate_limit.skipped"
  fields := [("operation", .str operation.name), ("reason", .str "admin_principal")]

/-- The event of a scope that does not apply. -/
def scopeSkippedEvent (operation : Operation) (scope : Scope) : Event where
  severity := .warning
  logger := logger
  message := "rate_limit.scope_skipped"
  fields :=
    [("operation", .str operation.name), ("scope", .str scope.name),
     ("reason", .str "missing_identifier")]

/-- The event of an admitted operation. -/
def allowedEvent (operation : Operation) (admission : Admission) : Event where
  severity := .info
  logger := logger
  message := "rate_limit.allowed"
  fields :=
    [("operation", .str operation.name), ("scope", .str admission.scope.name),
     ("remaining", .int admission.verdict.remaining),
     ("total_hits", .int admission.verdict.totalHits)]

/-- The event of a denial. -/
def exceededEvent (admission : Admission) (identifier : String) (wait : Int) : Event where
  severity := .warning
  logger := logger
  message := "rate_limit.exceeded"
  fields :=
    [("scope", .str admission.scope.name),
     ("key_hash", .str (hashIdentifier (admission.limit.key identifier))),
     ("total_hits", .int admission.verdict.totalHits),
     ("limit", .int admission.limit.capacity), ("retry_after_s", .int wait)]

/-- The problem of a denial. -/
def exceeded (admission : Admission) (wait : Int) (headers : Option (List (String × String))) :
    Problem where
  kind := .limitExceeded
  code := "rate_limit_exceeded"
  message := admission.scope.denial ++ ". Try again in " ++ toString wait ++ " seconds."
  details := some
    [("scope", .str admission.scope.name), ("retry_after", .int wait),
     ("remaining", .int admission.verdict.remaining),
     ("reset_time", .int admission.verdict.resetTime),
     ("total_hits", .int admission.verdict.totalHits)]
  headers := headers

/-- Refuse a request. -/
def reject {α : Type} (guard : Guard) (admission : Admission) (identifier : String)
    (clocks : Clocks) : Action (Node σ) α := do
  let wait ← Action.ofExcept (retryAfter admission.verdict.resetTime clocks.guard)
  Action.report (exceededEvent admission identifier wait)
  let headers ←
    if guard.includeHeaders then do
      let described ← Action.ofExcept (guard.headersFor admission)
      pure (some (("Retry-After", toString wait) :: described))
    else pure none
  Action.fail (.problem (exceeded admission wait headers))

/-- Turn a verdict into an admission or a refusal. -/
def settle (guard : Guard) (scope : Scope) (identifier : String) (clocks : Clocks)
    (verdict : Verdict) : Action (Node σ) Admission := do
  let limit ← guard.policy.find scope
  let admission : Admission := ⟨scope, limit, verdict⟩
  if verdict.allowed then return admission
  else guard.reject admission identifier clocks

/-- Charge one attempt to a scope or refuse. -/
def enforce [Backend σ] (guard : Guard) (scope : Scope) (identifier : String) (clocks : Clocks) :
    Action (Node σ) Admission := do
  let verdict ← Quota.check guard.policy scope identifier clocks.limiter
  guard.settle scope identifier clocks verdict

/-- Charge one attempt to the quota of a mail address or refuse. -/
def enforceEmail [Backend σ] (guard : Guard) (address : String) (clocks : Clocks) :
    Action (Node σ) Admission := do
  let verdict ← Quota.checkEmail guard.policy address clocks.limiter
  guard.settle .invitationEmail (normalizeEmail address) clocks verdict

/-- Charge scopes in order; yields the admission of the last that applied. -/
def enforceScopes [Backend σ] (guard : Guard) (operation : Operation) (principal : Principal)
    (address : Option String) (clocks : Clocks) :
    List Scope → Option Admission → Action (Node σ) (Option Admission)
  | [], last => return last
  | scope :: rest, last => do
    match Principal.nonEmpty? (scope.identifier? principal address) with
    | none =>
      Action.report (scopeSkippedEvent operation scope)
      enforceScopes guard operation principal address clocks rest last
    | some identifier =>
      let admission ← guard.enforce scope identifier clocks
      enforceScopes guard operation principal address clocks rest (some admission)

/-- Check every scope of an operation that applies; nothing is charged to an administrator where
the operation spares administrators. -/
def evaluate [Backend σ] (guard : Guard) (operation : Operation) (principal : Principal)
    (address : Option String) (clocks : Clocks) (sparesAdmins : Bool) :
    Action (Node σ) (Option Admission) := do
  if sparesAdmins && principal.isAdmin then
    Action.report (skippedEvent operation)
    return none
  let last ← guard.enforceScopes operation principal address clocks operation.scopes none
  match last with
  | some admission => Action.report (allowedEvent operation admission)
  | none => pure ()
  return last

end Guard

end Turnstile
