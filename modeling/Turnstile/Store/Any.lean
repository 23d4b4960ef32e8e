import Turnstile.Store.Memory
import Turnstile.Store.Remote

/-!
# A store of either kind

The store that a service runs on: in memory or on a server.
-/

namespace Turnstile.Store

open Time

/-- What a store in memory is called where it is reported. -/
def memoryTitle : String := "InMemoryRateLimitStore"

/-- What a store on a server is called where it is reported. -/
def serverTitle : String := "RedisRateLimitStore"

/-- A store in memory or on a server. -/
inductive AnyStore where
  | inMemory (store : Local)
  | onServer (store : Remote)
deriving Repr, Inhabited

namespace AnyStore

/-- Run an action on a part of a state. -/
def within {ν μ α : Type} (put : ν → μ) (action : Action ν α) (part : ν) : Step μ α :=
  let step := action part
  ⟨step.outcome, step.events, put step.state⟩

/-- Answer a call with the store at hand. -/
def answer (call : Call) : Action AnyStore Reply
  | .inMemory store => within .inMemory (Local.answer call) store
  | .onServer store => within .onServer (Remote.answer call) store

instance : Backend AnyStore := ⟨answer⟩

/-- Move the clock. -/
def setClock (clock : Seconds) : AnyStore → AnyStore
  | .inMemory store => .inMemory { store with memory := store.memory.setClock clock }
  | .onServer store => .onServer { store with server := store.server.setClock clock }

/-- Choose the calls to interfere with. -/
def setInterference (interference : Interference) : AnyStore → AnyStore
  | .inMemory store => .inMemory { store with interference }
  | .onServer store => .onServer { store with interference }

/-- The calls interfered with. -/
def interference : AnyStore → Interference
  | .inMemory store => store.interference
  | .onServer store => store.interference

/-- What the store is called where it is reported. -/
def title : AnyStore → String
  | .inMemory _ => memoryTitle
  | .onServer _ => serverTitle

end AnyStore

end Turnstile.Store
