import Turnstile.Failure
import Turnstile.Time.Instant

/-!
# Limits

A limit is a window length, the count of attempts admitted per window and the prefix of the keys
it counts under. The checks of its parts are kept in the type.
-/

namespace Turnstile

/-- The parameters of one sliding window. -/
structure Limit where
  /-- Window length in milliseconds. -/
  window : Int
  /-- Attempts admitted per window. -/
  capacity : Int
  /-- Namespace of the keys. -/
  keySpace : String
  window_pos : 0 < window
  capacity_pos : 1 ≤ capacity
  keySpace_ne : keySpace ≠ ""
deriving DecidableEq, Repr

/-- What is wrong with the parameters of a limit. -/
inductive LimitFault where
  | window
  | capacity
  | keySpace
deriving DecidableEq, Repr

/-- The wording of a refused parameter. -/
def LimitFault.message : LimitFault → String
  | .window => "window_ms must be > 0"
  | .capacity => "max_requests must be >= 1"
  | .keySpace => "key_prefix must be a non-empty string"

namespace Limit

/-- Check the parameters in order: window, capacity, key space. -/
def make (window capacity : Int) (keySpace : String) : Except LimitFault Limit :=
  if hw : 0 < window then
    if hc : 1 ≤ capacity then
      if hk : keySpace ≠ "" then .ok ⟨window, capacity, keySpace, hw, hc, hk⟩
      else .error .keySpace
    else .error .capacity
  else .error .window

/-- Seconds that a key outlives its last attempt: the window rounded up, and a minute more;
`none` when the window is beyond binary64. -/
def ttl? (limit : Limit) : Option Int := (Time.ceilSeconds? limit.window).map (· + 60)

/-- A whole number too great for a binary64 quotient. -/
def beyondBinary64 : Failure := .ofKind .overflow "integer division result too large for a float"

/-- Seconds that a key outlives its last attempt. -/
def ttl (limit : Limit) : Except Failure Int :=
  match limit.ttl? with
  | some seconds => .ok seconds
  | none => .error beyondBinary64

/-- The key of an identifier. -/
def key (limit : Limit) (identifier : String) : String :=
  limit.keySpace ++ ":" ++ identifier

end Limit

/-- A time error as a failure. -/
def Time.TimeError.failure : Time.TimeError → Failure
  | .outOfCalendar year => .ofKind .value ("year " ++ toString year ++ " is out of range")
  | .outOfRange => .ofKind .overflow "timestamp out of range for platform time_t"
  | .beyondBinary64 => Limit.beyondBinary64

end Turnstile
