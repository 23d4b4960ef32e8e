import Turnstile.Limiter.Verdict
import Turnstile.Store.Call
import Turnstile.Text.Digest

/-!
# The sliding window limiter

Every attempt leaves one entry under the key of its identifier, scored by its instant. Admission
is decided by the count of entries left in the trailing window before the attempt's own entry is
inserted; an attempt that is denied takes its entry back. When the store fails, the limiter admits
and reports. The limiter keeps no state of its own: it takes numbers for its entries and the
instant of each attempt from outside.
-/

namespace Turnstile

open Log Store

/-- A store and the number that the next random identifier takes. -/
structure Node (σ : Type) where
  store : σ
  serial : Nat := 1
deriving Repr, Inhabited

namespace Node

variable {σ : Type}

/-- Call the store. -/
def call [Backend σ] (request : Call) : Action (Node σ) Reply := fun node =>
  let step := Backend.answer request node.store
  ⟨step.outcome, step.events, { node with store := step.state }⟩

/-- Take the next number. -/
def takeSerial : Action (Node σ) Nat := fun node =>
  ⟨.ok node.serial, [], { node with serial := node.serial + 1 }⟩

end Node

namespace Limiter

variable {σ : Type}

/-- The part that reports the limiter's work. -/
def logger : String := "tenant_ratelimit.services.sliding_window"

/-- The identifier of an entry: its instant and a number in twelve hexadecimal digits. -/
def entryId (now : Int) (serial : Nat) : String :=
  toString now ++ "-" ++ String.ofList (Text.Digest.hexDigits 12 serial)

/-- The call that records an attempt. -/
def recordCall (limit : Limit) (identifier entry : String) (now seconds : Int) : Call :=
  .record (limit.key identifier) (now - limit.window) entry now seconds

/-- The event of an attempt that the store served. -/
def checkedEvent (limit : Limit) (identifier : String) (count : Int) : Event where
  severity := .debug
  logger := logger
  message := "rate_limit.checked"
  fields :=
    [("key_hash", .str (hashIdentifier (limit.key identifier))),
     ("key_prefix", .str limit.keySpace), ("count", .int count),
     ("limit", .int limit.capacity), ("allowed", .bool (Verdict.admits limit count))]

/-- The event of an activity that the store failed. -/
def storeErrorEvent (operation : String) (limit : Limit) (identifier : String)
    (failure : Failure) : Event where
  severity := .error
  logger := logger
  message := "rate_limit.store_error"
  fields :=
    [("operation", .str operation),
     ("key_hash", .str (hashIdentifier (limit.key identifier))),
     ("key_prefix", .str limit.keySpace), ("error_type", .str failure.name),
     ("error_msg", .str failure.text)]

/-- The event of a reset. -/
def resetEvent (limit : Limit) (identifier : String) : Event where
  severity := .info
  logger := logger
  message := "rate_limit.reset"
  fields :=
    [("key_hash", .str (hashIdentifier (limit.key identifier))),
     ("key_prefix", .str limit.keySpace)]

/-- Record an attempt and take it back if the window was full; yields the count before it. -/
def enter [Backend σ] (limit : Limit) (identifier entry : String) (now : Int) :
    Action (Node σ) Int := do
  let seconds ← Action.ofExcept limit.ttl
  let reply ← Node.call (recordCall limit identifier entry now seconds)
  let count ← Action.ofExcept reply.toCount
  if Verdict.admits limit count then return count
  else
    let _ ← Node.call (.remove (limit.key identifier) entry)
    return count

/-- Stand in for the value of an action that a failing store ended; an interruption passes. -/
def orElse {α : Type} (action : Action (Node σ) α) (operation : String) (limit : Limit)
    (identifier : String) (substitute : α) : Action (Node σ) α := do
  match ← action.attempt with
  | .ok value => return value
  | .error failure =>
    if failure.isInterruption then Action.fail failure
    else
      Action.report (storeErrorEvent operation limit identifier failure)
      return substitute

/-- Record an attempt and decide whether it is admitted. -/
def check [Backend σ] (limit : Limit) (identifier : String) (now : Int) :
    Action (Node σ) Verdict := do
  let serial ← Node.takeSerial
  let attempt : Action (Node σ) Verdict := do
    let count ← enter limit identifier (entryId now serial) now
    Action.report (checkedEvent limit identifier count)
    return Verdict.ofAttempt limit now count
  orElse attempt "check_and_consume" limit identifier (Verdict.ofOutage limit now 1)

/-- Look at a window without an attempt. -/
def status [Backend σ] (limit : Limit) (identifier : String) (now : Int) :
    Action (Node σ) Verdict :=
  let look : Action (Node σ) Verdict := do
    let reply ← Node.call (.inspect (limit.key identifier) (now - limit.window))
    let count ← Action.ofExcept reply.toCount
    return Verdict.ofLook limit now count
  orElse look "status" limit identifier (Verdict.ofOutage limit now 0)

/-- Forget every entry of an identifier, as far as the store lets it. -/
def reset [Backend σ] (limit : Limit) (identifier : String) : Action (Node σ) Unit :=
  let forget : Action (Node σ) Unit := do
    let _ ← Node.call (.delete (limit.key identifier))
    Action.report (resetEvent limit identifier)
  orElse forget "reset" limit identifier ()

end Limiter

end Turnstile
