import Turnstile.Store.Call
import Turnstile.Store.Table
import Turnstile.Time.Seconds

/-!
# The store in memory

Entries with exact whole scores. A key may have a deadline; once the clock has reached it the key
is dropped, but only when a call next touches that key. A key left without entries is dropped by
the call that empties it.
-/

namespace Turnstile.Store

open Time

/-- What one key holds. -/
structure Bucket where
  scores : Table Int := {}
  deadline : Option Seconds := none
deriving Inhabited, Repr

/-- The store: its clock and what its keys hold. -/
structure Memory where
  clock : Seconds
  held : Table Bucket := {}
deriving Inhabited, Repr

namespace Memory

/-- The store without keys. -/
def empty (clock : Seconds) : Memory := { clock }

/-- The store with its clock moved. -/
def setClock (clock : Seconds) (memory : Memory) : Memory := { memory with clock }

/-- A deadline has passed. -/
def lapsed (memory : Memory) (bucket : Bucket) : Bool :=
  match bucket.deadline with
  | some deadline => deadline.le memory.clock
  | none => false

/-- Look at a key; a key past its deadline is dropped on the way. -/
def touch (key : String) (memory : Memory) : Option Bucket × Memory :=
  match memory.held.get? key with
  | none => (none, memory)
  | some bucket =>
    if memory.lapsed bucket then (none, { memory with held := memory.held.drop key })
    else (some bucket, memory)

/-- Hold a bucket under a key. -/
def hold (key : String) (bucket : Bucket) (memory : Memory) : Memory :=
  { memory with held := memory.held.put key bucket }

/-- Hold a bucket under a key, or drop the key when the bucket is empty. -/
def settle (key : String) (bucket : Bucket) (memory : Memory) : Memory :=
  if bucket.scores.isEmpty then { memory with held := memory.held.drop key }
  else memory.hold key bucket

/-- Remove the entries scored at or below the bound. -/
def purge (key : String) (bound : Int) (memory : Memory) : Int × Memory :=
  match memory.touch key with
  | (none, touched) => (0, touched)
  | (some bucket, touched) =>
    let kept := bucket.scores.keep (bound < ·)
    (bucket.scores.size - kept.size, touched.settle key { bucket with scores := kept })

/-- Count the entries of a key. -/
def count (key : String) (memory : Memory) : Int × Memory :=
  match memory.touch key with
  | (none, touched) => (0, touched)
  | (some bucket, touched) => (bucket.scores.size, touched)

/-- Insert an entry. -/
def add (key entry : String) (score : Int) (memory : Memory) : Memory :=
  let (found, touched) := memory.touch key
  let bucket := found.getD {}
  touched.hold key { bucket with scores := bucket.scores.put entry score }

/-- Remove an entry. -/
def remove (key entry : String) (memory : Memory) : Memory :=
  match memory.touch key with
  | (none, touched) => touched
  | (some bucket, touched) =>
    touched.settle key { bucket with scores := bucket.scores.drop entry }

/-- Set the deadline of a key. -/
def expire (key : String) (seconds : Int) (memory : Memory) : Memory :=
  match memory.touch key with
  | (none, touched) => touched
  | (some bucket, touched) =>
    touched.hold key { bucket with deadline := some (touched.clock.later seconds) }

/-- Remove a key, whatever its deadline. -/
def delete (key : String) (memory : Memory) : Memory :=
  { memory with held := memory.held.drop key }

/-- Seconds until a key lapses; `none` for a key that is absent or never lapses. -/
def remaining (key : String) (memory : Memory) : Option Seconds × Memory :=
  match memory.touch key with
  | (none, touched) => (none, touched)
  | (some bucket, touched) => (bucket.deadline.map (·.since touched.clock), touched)

/-- The purge, count, add and expire of one attempt. -/
def record (key : String) (bound : Int) (entry : String) (score seconds : Int)
    (memory : Memory) : Int × Memory :=
  let purged := (memory.purge key bound).2
  let (before, counted) := purged.count key
  (before, (counted.add key entry score).expire key seconds)

/-- Carry out a call. -/
def run (call : Call) (memory : Memory) : Reply × Memory :=
  match call with
  | .purge key bound =>
    let (removed, next) := memory.purge key bound
    (.number removed, next)
  | .count key =>
    let (held, next) := memory.count key
    (.number held, next)
  | .add key entry score => (.nothing, memory.add key entry score)
  | .remove key entry => (.nothing, memory.remove key entry)
  | .expire key seconds => (.nothing, memory.expire key seconds)
  | .delete key => (.nothing, memory.delete key)
  | .record key bound entry score seconds =>
    let (before, next) := memory.record key bound entry score seconds
    (.number before, next)
  | .inspect key bound =>
    let (held, next) := (memory.purge key bound).2.count key
    (.number held, next)
  | .ping => (.flag true, memory)
  | .close => (.nothing, memory)

instance : Backend Memory where
  answer call := fun memory =>
    let (reply, next) := memory.run call
    ⟨.ok reply, [], next⟩

end Memory

/-- How a store in memory carries out a batch. -/
inductive Batching where
  /-- As one step under a lock. -/
  | locked
  /-- As its elementary calls, one after the other. -/
  | separate
deriving DecidableEq, Repr, Inhabited

/-- A store in memory with a way of batching, open to interference. -/
structure Local where
  memory : Memory
  batching : Batching := .locked
  interference : Interference := {}
deriving Inhabited, Repr

namespace Local

/-- Carry out a call of the store in memory. -/
def direct (call : Call) : Action Local Reply := fun store =>
  let (reply, next) := store.memory.run call
  ⟨.ok reply, [], { store with memory := next }⟩

/-- Carry out a call unless it is interfered with. -/
def single (call : Call) : Action Local Reply := fun store =>
  match store.interference.outcome? call.name with
  | some outcome => ⟨outcome, [], store⟩
  | none => direct call store

/-- Answer a call; a batch may go out as its parts. -/
def answer (call : Call) : Action Local Reply := fun store =>
  match store.batching, call.parts?, store.interference.outcome? call.name with
  | .separate, some (parts, place), none =>
    (do
      let replies ← runAll single parts
      return replies.getD place .nothing : Action Local Reply) store
  | _, _, _ => single call store

instance : Backend Local := ⟨answer⟩

end Local

end Turnstile.Store
