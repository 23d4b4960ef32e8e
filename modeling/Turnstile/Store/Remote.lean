import Turnstile.Store.Server
import Turnstile.Text.Digest

/-!
# The store on a server

Store calls sent to the counter server. An elementary call is one command; a batch is queued and
sent in one trip, where every command runs even if an earlier one was refused. Trouble with the
server is reported as one problem that names the call and a digest of the key.
-/

namespace Turnstile.Store

open Log

/-- A request that the client has issued. -/
inductive ServerCall where
  | pipeline
  | command (sent : Command)
  | execute
  | close
deriving DecidableEq, Repr

/-- The name of a request. -/
def ServerCall.name : ServerCall → String
  | .pipeline => "pipeline"
  | .command sent => sent.name
  | .execute => "execute"
  | .close => "aclose"

/-- The server behind its client, with the requests issued so far, latest first. -/
structure Remote where
  server : Server
  interference : Interference := {}
  issued : List ServerCall := []
deriving Repr, Inhabited

namespace Remote

/-- The part that reports trouble of this store. -/
def logger : String := "tenant_ratelimit.adapters.rate_limit.redis_store"

/-- The code of the problem that reports trouble with the store. -/
def unavailableCode : String := "rate_limit_store_unavailable"

/-- Issue a request; it may be interfered with before it is carried out. -/
def issue (request : ServerCall) (carryOut : Action Remote Reply) : Action Remote Reply :=
  fun remote =>
    let noted := { remote with issued := request :: remote.issued }
    match remote.interference.outcome? request.name with
    | some outcome => ⟨outcome, [], noted⟩
    | none => carryOut noted

/-- Carry out a command on the server. -/
def onServer (command : Command) : Action Remote Reply := fun remote =>
  let (outcome, server) := remote.server.run command
  ⟨outcome, [], { remote with server }⟩

/-- Send one command. -/
def send (command : Command) : Action Remote Reply :=
  issue (.command command) (onServer command)

/-- Queue a command; one that is answered by interference is not queued. -/
def queue (command : Command) : Action Remote (List Command) := fun remote =>
  let noted := { remote with issued := .command command :: remote.issued }
  match remote.interference.outcome? command.name with
  | some (.error failure) => ⟨.error failure, [], noted⟩
  | some (.ok _) => ⟨.ok [], [], noted⟩
  | none => ⟨.ok [command], [], noted⟩

/-- Queue commands in turn. -/
def queueAll : List Command → Action Remote (List Command)
  | [] => pure []
  | command :: rest => do
    let first ← queue command
    let others ← queueAll rest
    return first ++ others

/-- Run queued commands; the first refusal is the outcome of the trip. -/
def trip (commands : List Command) : Action Remote Reply := fun remote =>
  let (replies, server) := Server.runEach commands remote.server
  ⟨(replies.mapM id).map .series, [], { remote with server }⟩

/-- Queue commands and send them in one trip. -/
def batch (commands : List Command) : Action Remote Reply := do
  let _ ← issue .pipeline (pure .nothing)
  let queued ← queueAll commands
  issue .execute (trip queued)

/-- The problem that reports trouble with the server. -/
def unavailable (call : Call) (key : String) (fault : Fault) : Problem where
  kind := .storeUnavailable
  code := unavailableCode
  message := "Rate limit store failed during " ++ call.name
  details := some
    [("backend", .str "redis"),
     ("context", .obj
       [("operation", .str call.name), ("key_hash", .str (hashIdentifier key)),
        ("error_type", .str fault.kind.name)])]
  cause := some fault

/-- Report trouble with the server as a problem; let anything else through. -/
def reporting (call : Call) (key : String) (action : Action Remote Reply) :
    Action Remote Reply := fun remote =>
  let step := action remote
  match step.outcome with
  | .error (.fault fault) =>
    if fault.kind.isStoreTrouble then
      { step with outcome := .error (.problem (unavailable call key fault)) }
    else step
  | _ => step

/-- Read a reply as a count. -/
def counted (action : Action Remote Reply) : Action Remote Reply := do
  let reply ← action
  let value ← Action.ofExcept reply.toCount
  return .number value

/-- Read the second reply of a batch as a count. -/
def secondCounted (action : Action Remote Reply) : Action Remote Reply :=
  counted do
    match ← action with
    | .series replies => return replies.getD 1 .nothing
    | _ => return .nothing

/-- Carry an action out for its effect. -/
def silently (action : Action Remote Reply) : Action Remote Reply := do
  let _ ← action
  return .nothing

/-- Ask the server for a sign of life; trouble is reported and answered with no. -/
def ping : Action Remote Reply := fun remote =>
  let step := send .ping remote
  match step.outcome with
  | .ok reply => { step with outcome := .ok (.flag reply.toFlag) }
  | .error (.fault fault) =>
    if fault.kind.isStoreTrouble then
      { step with
        outcome := .ok (.flag false)
        events := step.events ++
          [{ severity := .warning, logger, message := "rate_limit_store.ping_failed",
             fields := [("backend", .str "redis"), ("error_type", .str fault.kind.name)] }] }
    else step
  | .error _ => step

/-- Answer a call. -/
def answer (call : Call) : Action Remote Reply :=
  match call with
  | .purge key bound => counted (reporting call key (send (.removeUpTo key bound)))
  | .count key => counted (reporting call key (send (.cardinality key)))
  | .add key entry score => silently (reporting call key (send (.insert key entry score)))
  | .remove key entry => silently (reporting call key (send (.remove key entry)))
  | .expire key seconds => silently (reporting call key (send (.expire key seconds)))
  | .delete key => silently (reporting call key (send (.delete key)))
  | .record key bound entry score seconds =>
    secondCounted (reporting call key (batch
      [.removeUpTo key bound, .cardinality key, .insert key entry score, .expire key seconds]))
  | .inspect key bound =>
    secondCounted (reporting call key (batch [.removeUpTo key bound, .cardinality key]))
  | .ping => ping
  | .close => silently (issue .close (pure .nothing))

instance : Backend Remote := ⟨answer⟩

end Remote

end Turnstile.Store
