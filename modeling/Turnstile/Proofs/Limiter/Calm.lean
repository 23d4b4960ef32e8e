import Turnstile.Proofs.Limiter.Ledger
import Turnstile.Proofs.Store.Local

/-!
# Visits to a store that refuses nothing

On the local store with no call touched, every visit comes to what the store in memory makes of
its calls, whether batches go out under a lock or as separate commands: the verdict on the count
of the window, and the entries that are left.
-/

namespace Turnstile.Limiter

open Store Time

/-- A call finds the local store with its clock at a reading. -/
instance : Surrounded Local Seconds where
  enter clock store := { store with memory := store.memory.setClock clock }

namespace Visit

variable (visit : Visit Seconds) {store : Local} (quiet : store.interference.IsQuiet)

/-- The store in memory at the instant of the visit. -/
abbrev before (memory : Memory) : Memory := memory.setClock visit.around

/-- The entries that the visit counts. -/
abbrev counted (memory : Memory) : List (String × Int) :=
  (visit.before memory).recent visit.key visit.bound

/-- What a visit counts is what the slot of its key shows to it. -/
theorem counted_eq_shown (memory : Memory) : visit.counted memory =
    Bucket.shown visit.around visit.bound (memory.held.get? visit.key) := rfl

/-- The store in memory with the visit recorded. -/
abbrev recorded (seconds : Int) (memory : Memory) : Memory :=
  ((visit.before memory).record visit.key visit.bound visit.entry visit.now seconds).2

include quiet

/-- The batch of a check is answered with the count of its window. -/
theorem answer_recordCall (seconds : Int) :
    Backend.answer (recordCall visit.limit visit.identifier visit.entry visit.now seconds)
        (visit.ready store) =
      ⟨.ok (.number (visit.counted store.memory).length), [],
        { store with memory := visit.recorded seconds store.memory }⟩ := by
  have answered := store.answer_of_quiet quiet (visit.before store.memory)
    (recordCall visit.limit visit.identifier visit.entry visit.now seconds)
  simp only [recordCall, Memory.run, Memory.record_fst] at answered
  exact answered

/-- A check that finds room leaves its entry. -/
theorem serve_of_room (request : visit.request = .check) {seconds : Int}
    (lifetime : visit.limit.ttl = .ok seconds)
    (room : Verdict.admits visit.limit (visit.counted store.memory).length = true) :
    visit.serve store =
      (.ok (some (Verdict.ofAttempt visit.limit visit.now (visit.counted store.memory).length)),
        { store with memory := visit.recorded seconds store.memory }) := by
  have answered := visit.answer_recordCall quiet seconds
  rw [visit.serve_check store request, attempt,
    entered_of_room lifetime (congrArg Step.outcome answered) room, answered]
  rfl

/-- A check that finds the window full takes its entry back. -/
theorem serve_of_full (request : visit.request = .check) {seconds : Int}
    (lifetime : visit.limit.ttl = .ok seconds)
    (full : Verdict.admits visit.limit (visit.counted store.memory).length = false) :
    visit.serve store =
      (.ok (some (Verdict.ofAttempt visit.limit visit.now (visit.counted store.memory).length)),
        { store with
          memory := (visit.recorded seconds store.memory).remove visit.key visit.entry }) := by
  have answered := visit.answer_recordCall quiet seconds
  have removed := store.answer_of_quiet quiet (visit.recorded seconds store.memory)
    (.remove visit.key visit.entry)
  rw [visit.serve_check store request, attempt,
    entered_of_full lifetime (congrArg Step.outcome answered) full
      ((congrArg (fun step => Backend.answer _ step.state) answered).trans removed)]
  simp only [Memory.run, Except.map, covered]

/-- A look leaves the entries that it counts. -/
theorem serve_of_status (request : visit.request = .status) :
    visit.serve store =
      (.ok (some (Verdict.ofLook visit.limit visit.now (visit.counted store.memory).length)),
        { store with
          memory := ((visit.before store.memory).purge visit.key visit.bound).2.count visit.key
            |>.2 }) := by
  have answered : Backend.answer (.inspect visit.key visit.bound) (visit.ready store) = _ :=
    store.answer_of_quiet quiet (visit.before store.memory) (.inspect visit.key visit.bound)
  rw [visit.serve_status store request]
  simp only [bound] at answered ⊢
  simp only [answered, Memory.run, Memory.inspect_fst]
  rfl

/-- A reset leaves nothing under its key. -/
theorem serve_of_reset (request : visit.request = .reset) :
    visit.serve store =
      (.ok none, { store with memory := (visit.before store.memory).delete visit.key }) := by
  have answered : Backend.answer (.delete visit.key) (visit.ready store) = _ :=
    store.answer_of_quiet quiet (visit.before store.memory) (.delete visit.key)
  rw [visit.serve_reset store request]
  simp only [answered]
  rfl

end Visit

end Turnstile.Limiter
