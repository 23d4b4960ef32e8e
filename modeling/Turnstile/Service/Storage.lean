import Turnstile.Action
import Turnstile.Settings.Basic
import Turnstile.Store.Any
import Turnstile.Store.Connection

/-!
# Choosing a store

A service keeps its counters on the counter server or, for one process alone, in memory. The name
of the choice counts in any letter case; a choice is reported, and an unknown name is a problem.
-/

namespace Turnstile.Service

open Log Settings Store

/-- Where the counters are kept. -/
inductive Storage where
  | inMemory
  | onServer (connection : Connection)
deriving Repr

namespace Storage

/-- What the store is called where it is reported. -/
def title : Storage → String
  | .inMemory => memoryTitle
  | .onServer _ => serverTitle

/-- The event of a chosen store. -/
def chosenEvent (severity : Severity) (kind : StoreKind) (note : Option String) : Event where
  severity := severity
  logger := "tenant_ratelimit.adapters.rate_limit.factory"
  message := "rate_limit_store.created"
  fields := ("backend", .str kind.name) ::
    (note.map fun text => ("note", Json.str text)).toList

/-- The problem of a name that no store has. -/
def unknownStore (name : String) : Problem where
  kind := .validation
  code := "rate_limit_unknown_store"
  message := "Unknown rate limit store: '" ++ name ++ "'. Supported stores: redis, memory"

/-- Choose a store by name. Counters in memory deserve a warning. -/
def choose {ν : Type} (name : String) (settings : ServerSettings) : Action ν Storage := do
  let plain := Text.lower name
  if plain = StoreKind.server.name then
    let connection ← Action.ofExcept (Connection.ofSettings settings)
    Action.report (chosenEvent .info .server none)
    return .onServer connection
  else if plain = StoreKind.memory.name then
    Action.report (chosenEvent .warning .memory (some "per-process counters"))
    return .inMemory
  else Action.fail (.problem (unknownStore plain))

/-- Choose the store that settings name. -/
def ofSettings {ν : Type} (settings : Settings) : Action ν Storage :=
  choose settings.service.store.name settings.server

end Storage

end Turnstile.Service
