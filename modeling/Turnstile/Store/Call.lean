import Turnstile.Action

/-!
# Store calls

A store holds, per key, entries with a score. The calls on it are values: elementary ones, and two
batches of elementary calls. A backend is anything that answers calls from a state.
-/

namespace Turnstile.Store

/-- A call on a store. -/
inductive Call where
  /-- Remove the entries scored at or below the bound; answers how many. -/
  | purge (key : String) (bound : Int)
  /-- How many entries a key holds. -/
  | count (key : String)
  /-- Insert an entry, or move it to a new score. -/
  | add (key entry : String) (score : Int)
  /-- Remove an entry. -/
  | remove (key entry : String)
  /-- Let the whole key lapse a count of seconds from now. -/
  | expire (key : String) (seconds : Int)
  /-- Remove a key. -/
  | delete (key : String)
  /-- Purge, count, add and expire; answers the count. -/
  | record (key : String) (bound : Int) (entry : String) (score : Int) (seconds : Int)
  /-- Purge and count; answers the count. -/
  | inspect (key : String) (bound : Int)
  /-- Ask whether the store answers. -/
  | ping
  /-- Release the connections. -/
  | close
deriving DecidableEq, Repr, Inhabited

namespace Call

/-- The name of a call. -/
def name : Call → String
  | .purge .. => "purge_expired"
  | .count .. => "count"
  | .add .. => "add"
  | .remove .. => "remove"
  | .expire .. => "expire"
  | .delete .. => "delete"
  | .record .. => "record_attempt"
  | .inspect .. => "purge_and_count"
  | .ping => "ping"
  | .close => "close"

/-- The elementary calls of a batch, in order, and the place of the one that answers for it. -/
def parts? : Call → Option (List Call × Nat)
  | .record key bound entry score seconds =>
    some ([.purge key bound, .count key, .add key entry score, .expire key seconds], 1)
  | .inspect key bound => some ([.purge key bound, .count key], 1)
  | _ => none

/-- The elementary calls that a call consists of. -/
def commands (call : Call) : List Call :=
  match call.parts? with
  | some (parts, _) => parts
  | none => [call]

end Call

/-- What a call answers. -/
inductive Reply where
  | nothing
  | number (value : Int)
  | flag (value : Bool)
  | series (replies : List Reply)
deriving Repr, Inhabited

namespace Reply

/-- The reply as a count; a flag counts as one or zero. -/
def toCount? : Reply → Option Int
  | .number value => some value
  | .flag value => some (if value then 1 else 0)
  | _ => none

/-- The reply as a count, or the failure of reading it as one. -/
def toCount (reply : Reply) : Except Failure Int :=
  match reply.toCount? with
  | some value => .ok value
  | none => .error (.ofKind .type "the store did not answer with a number")

/-- The reply as a flag. -/
def toFlag : Reply → Bool
  | .nothing => false
  | .number value => value != 0
  | .flag value => value
  | .series replies => !replies.isEmpty

end Reply

/-- A way of answering calls from a state. -/
class Backend (σ : Type) where
  answer : Call → Action σ Reply

/-- Carry out calls in turn and collect their replies; the first failure ends the series. -/
def runAll {σ : Type} (perform : Call → Action σ Reply) : List Call → Action σ (List Reply)
  | [] => pure []
  | call :: rest => do
    let reply ← perform call
    let replies ← runAll perform rest
    return reply :: replies

/-- Calls made to fail, or answered without being carried out; each name stands for all calls of
that name. -/
structure Interference where
  failing : List (String × Failure) := []
  answering : List (String × Reply) := []
deriving Inhabited, Repr

/-- No call is touched. -/
def Interference.none : Interference := {}

/-- What becomes of a call of that name instead of being carried out, if anything. -/
def Interference.outcome? (interference : Interference) (name : String) :
    Option (Except Failure Reply) :=
  match interference.failing.lookup name with
  | some failure => some (.error failure)
  | Option.none => (interference.answering.lookup name).map .ok

end Turnstile.Store
