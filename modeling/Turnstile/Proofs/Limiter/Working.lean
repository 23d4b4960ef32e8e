import Turnstile.Policy.Basic
import Turnstile.Proofs.Limiter.Tolerance
import Turnstile.Proofs.Store.Server

/-!
# Stores that work

A store that works answers every attempt with the count that it holds above the bound of the
attempt, takes entries back, and keeps what it holds of one key apart from calls on another. The
store in memory works when no call is touched, and so does the store on a server on which no text
stands.
-/

namespace Turnstile.Store

open Number Time

/-- Where no call is touched, none is refused. -/
theorem Interference.IsQuiet.onlyRefuses {interference : Interference}
    (quiet : interference.IsQuiet) : interference.OnlyRefuses := by
  obtain ⟨failing, answering⟩ := interference
  have calm (name : String) : failing.lookup name = Option.none ∧
      answering.lookup name = Option.none := by
    have untouched := quiet name
    unfold Interference.outcome? at untouched
    cases found : failing.lookup name with
    | some failure =>
      rw [found] at untouched
      cases untouched
    | none =>
      rw [found] at untouched
      exact ⟨rfl, Option.map_eq_none_iff.mp untouched⟩
  constructor
  · cases answering with
    | nil => rfl
    | cons entry rest =>
      have missing := (calm entry.1).2
      rw [List.lookup_cons_self] at missing
      cases missing
  · intro refusal member
    cases failing with
    | nil => cases member
    | cons entry rest =>
      have missing := (calm entry.1).1
      rw [List.lookup_cons_self] at missing
      cases missing

namespace Memory

/-- The entries found under a key depend on what is held there and on the clock. -/
theorem recent_eq_of_get? {memory next : Memory} {key : String}
    (clock : next.clock = memory.clock) (same : next.held.get? key = memory.held.get? key)
    (bound : Int) : next.recent key bound = memory.recent key bound := by
  rw [recent_eq_shown, recent_eq_shown, clock, same]

end Memory

namespace Server

/-- No key holds a text. -/
def IsTextless (server : Server) : Prop :=
  ∀ key slot, server.slots.get? key = some slot → ∃ members, slot.held = .scored members

namespace IsTextless

variable {server : Server} (textless : server.IsTextless)
include textless

/-- The members of a key are found, and are not over. -/
theorem exists_members (key : String) : ∃ members deadline,
    server.members key = .ok (members, deadline) ∧ isOver server.clock deadline = false := by
  cases found : server.slot? key with
  | none => exact ⟨{}, none, members_of_none found, rfl⟩
  | some slot =>
    obtain ⟨held, lasts⟩ := Option.filter_eq_some_iff.mp found
    obtain ⟨members, scored⟩ := textless key slot held
    obtain ⟨content, deadline⟩ := slot
    obtain rfl : content = .scored members := scored
    refine ⟨members, deadline, by rw [Server.members, found], ?_⟩
    rw [lapsed_eq] at lasts
    simpa using lasts

/-- A key that is set to members leaves no text. -/
theorem put {key : String} {slot : Slot} (scored : ∃ members, slot.held = .scored members) :
    IsTextless { server with slots := server.slots.put key slot } := by
  intro other found held
  rw [Table.get?_put] at held
  split at held
  · obtain rfl := Option.some.inj held
    exact scored
  · exact textless other found held

/-- Dropping a key leaves no text. -/
theorem drop (key : String) : IsTextless { server with slots := server.slots.drop key } := by
  intro other found held
  rw [Table.get?_drop] at held
  split at held
  · cases held
  · exact textless other found held

/-- Settling a key leaves no text. -/
theorem settle (key : String) (members : Table Binary64) (deadline : Option Seconds) :
    (server.settle key members deadline).IsTextless := by
  unfold Server.settle
  split
  · exact textless.drop key
  · exact textless.put ⟨members, rfl⟩

/-- No command puts a text. -/
theorem run (command : Command) : (server.run command).2.IsTextless := by
  cases command with
  | removeUpTo key _ | insert key _ _ | remove key _ =>
    obtain ⟨members, deadline, found, -⟩ := textless.exists_members key
    simp only [Server.run, found]
    exact textless.settle _ _ _
  | cardinality key =>
    obtain ⟨members, deadline, found, -⟩ := textless.exists_members key
    simp only [Server.run, found]
    exact textless
  | expire key seconds =>
    simp only [Server.run]
    split
    · exact textless
    · rename_i slot found
      obtain ⟨held, -⟩ := Option.filter_eq_some_iff.mp found
      exact textless.put (textless key slot held)
  | delete key => exact textless.drop key
  | ping => exact textless

end IsTextless

end Server

/-- How many entries a store in memory finds above a bound. -/
def Local.held (store : Local) (key : String) (bound : Int) : Int :=
  (store.memory.recent key bound).length

/-- How many members a server finds above a bound. -/
def Remote.held (remote : Remote) (key : String) (bound : Int) : Int :=
  match remote.server.members key with
  | .ok (members, _) => (Server.above bound members).size
  | .error _ => 0

/-- How many entries a store of either kind finds above a bound. -/
def AnyStore.held : AnyStore → String → Int → Int
  | .inMemory store => store.held
  | .onServer remote => remote.held

end Turnstile.Store

namespace Turnstile

variable {σ : Type} (held : σ → String → Int → Int) (now : Int) (store : σ)

/-- As many entries of an identifier are held in the window as the limit admits. -/
def Limit.IsFull (limit : Limit) (identifier : String) : Prop :=
  limit.capacity ≤ held store (limit.key identifier) (now - limit.window)

/-- The window of a charge is full. -/
def Policy.IsFull (policy : Policy) (charge : Scope × String) : Prop :=
  (policy.limitOf charge.1).IsFull held now store charge.2

instance (policy : Policy) (charge : Scope × String) :
    Decidable (policy.IsFull held now store charge) :=
  inferInstanceAs (Decidable (_ ≤ _))

end Turnstile

namespace Turnstile.Limiter

open Store

/-- On usable states the store counts what it holds of a key above a bound, takes entries back, and
keeps keys apart. -/
structure Works {σ : Type} [Backend σ] (usable : σ → Prop) (held : σ → String → Int → Int) :
    Prop where
  tolerable : Tolerable usable
  recorded : ∀ store, usable store → ∀ key bound entry score seconds,
    (Backend.answer (.record key bound entry score seconds) store).outcome =
      .ok (.number (held store key bound))
  removed : ∀ store, usable store → ∀ key entry,
    ∃ reply, (Backend.answer (.remove key entry) store).outcome = .ok reply
  apart : ∀ store, usable store → ∀ key other, other ≠ key → ∀ bound,
    (∀ low entry score seconds,
      held (Backend.answer (.record key low entry score seconds) store).state other bound =
        held store other bound) ∧
    ∀ entry, held (Backend.answer (.remove key entry) store).state other bound =
      held store other bound
  pings : ∀ store, usable store → ∃ reply, (Backend.answer .ping store).outcome = .ok reply

/-- The store in memory works when no call is touched. -/
theorem works_local : Works (fun store : Local => store.interference.IsQuiet) Local.held where
  tolerable :=
    { kept := by
        intro call store quiet
        have answered := store.answer_of_quiet quiet store.memory call
        rw [show Backend.answer call store = _ from answered]
        exact quiet
      mild := fun call store quiet => tolerable_local.mild call store quiet.onlyRefuses
      counts := fun key bound store quiet =>
        tolerable_local.counts key bound store quiet.onlyRefuses }
  recorded := by
    intro store quiet key bound entry score seconds
    rw [show Backend.answer _ store = _ from store.answer_of_quiet quiet store.memory _]
    exact congrArg (fun count => Except.ok (Reply.number count))
      (store.memory.record_fst key entry bound score seconds)
  removed := by
    intro store quiet key entry
    rw [show Backend.answer _ store = _ from store.answer_of_quiet quiet store.memory _]
    exact ⟨_, rfl⟩
  apart := by
    intro store quiet key other different bound
    constructor
    · intro low entry score seconds
      rw [show Backend.answer _ store = _ from store.answer_of_quiet quiet store.memory _]
      have same := store.memory.record_get? key other entry low score seconds
      rw [if_neg different] at same
      exact congrArg (fun rows => (List.length rows : Int))
        (Memory.recent_eq_of_get? (store.memory.record_clock key entry low score seconds) same
          bound)
    · intro entry
      rw [show Backend.answer _ store = _ from store.answer_of_quiet quiet store.memory _]
      have same := store.memory.remove_get? key other entry
      rw [if_neg different] at same
      exact congrArg (fun rows => (List.length rows : Int))
        (Memory.recent_eq_of_get? (store.memory.remove_clock key entry) same bound)
  pings := by
    intro store quiet
    rw [show Backend.answer _ store = _ from store.answer_of_quiet quiet store.memory _]
    exact ⟨_, rfl⟩

end Turnstile.Limiter
