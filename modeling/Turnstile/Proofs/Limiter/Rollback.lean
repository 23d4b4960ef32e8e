import Turnstile.Proofs.Limiter.Permissive
import Turnstile.Proofs.Limiter.Working

/-!
# One call on any store

What a check and a look come to on a store in memory with anything in it: scores of any size, any
deadline or none, more entries than the capacity. An attempt that is denied has put its entry in,
renewed the deadline and taken the entry out again, and leaves the window as it was; no call
touches what another key holds, lapsed or not.
-/

namespace Turnstile

open Store Time

namespace Store.Bucket

/-- What a purge leaves of what is held under a key: the entries that are shown, under the deadline
that the key had. -/
theorem settled_shown (clock : Seconds) (bound : Int) (slot : Option Bucket) :
    ((slot.filter (·.isLive clock)).bind fun bucket => (bucket.above bound).settled) =
      settled ⟨⟨shown clock bound slot⟩, slot.bind (·.deadline)⟩ := by
  cases slot with
  | none => rfl
  | some bucket =>
    rw [shown_some, Option.filter_some]
    cases bucket.isLive clock <;> rfl

end Store.Bucket

namespace Limiter

/-! ## An attempt and a look as functions of the memory -/

section Calls

variable (limit : Limit) (identifier entry : String) (now : Int)

/-- The entries in the window of an identifier: those later than its start, unless the deadline of
the key has come. -/
def windowOf (memory : Memory) : List (String × Int) :=
  Bucket.shown memory.clock (now - limit.window) (memory.held.get? (limit.key identifier))

/-- The memory with an attempt recorded. -/
def recordedIn (seconds : Int) (memory : Memory) : Memory :=
  (memory.record (limit.key identifier) (now - limit.window) entry now seconds).2

/-- The memory after a look. -/
def lookedIn (memory : Memory) : Memory :=
  ((memory.purge (limit.key identifier) (now - limit.window)).2.count (limit.key identifier)).2

variable {store : Local} (quiet : store.interference.IsQuiet)
include quiet

/-- An attempt is told what its window holds; it stays recorded if there was room. -/
theorem entered_of_lifetime {seconds : Int} (lifetime : limit.ttl = .ok seconds) :
    entered limit identifier entry now store =
      (.ok (windowOf limit identifier now store.memory).length, { store with
        memory :=
          if Verdict.admits limit (windowOf limit identifier now store.memory).length then
            recordedIn limit identifier entry now seconds store.memory
          else (recordedIn limit identifier entry now seconds store.memory).remove
            (limit.key identifier) entry }) := by
  have answered := store.answer_of_quiet quiet store.memory
    (recordCall limit identifier entry now seconds)
  simp only [recordCall, Memory.run, Memory.record_fst] at answered
  have batch : Backend.answer (recordCall limit identifier entry now seconds) store =
      ⟨.ok (.number (windowOf limit identifier now store.memory).length), [],
        { store with memory := recordedIn limit identifier entry now seconds store.memory }⟩ :=
    answered
  cases room : Verdict.admits limit (windowOf limit identifier now store.memory).length with
  | true =>
    rw [entered_of_room lifetime (congrArg Step.outcome batch) room]
    exact congrArg (fun step => (Except.ok _, Step.state step)) batch
  | false =>
    have removed := store.answer_of_quiet quiet
      (recordedIn limit identifier entry now seconds store.memory)
      (.remove (limit.key identifier) entry)
    rw [entered_of_full lifetime (congrArg Step.outcome batch) room
      ((congrArg (fun step => Backend.answer _ (Step.state step)) batch).trans removed)]
    simp only [Memory.run, Except.map, Bool.false_eq_true, if_false]

/-- An attempt leaves what the other keys hold. -/
theorem entered_get?_of_ne {other : String} (different : other ≠ limit.key identifier) :
    (entered limit identifier entry now store).2.memory.held.get? other =
      store.memory.held.get? other := by
  cases lifetime : limit.ttl with
  | error failure => rw [entered_of_ttl_error lifetime]
  | ok seconds =>
    rw [entered_of_lifetime limit identifier entry now quiet lifetime]
    simp only
    split
    · rw [recordedIn, Memory.record_get?, if_neg different]
    · rw [Memory.remove_get?, if_neg different, recordedIn, Memory.record_get?, if_neg different]

/-- A look is told what its window holds. -/
theorem looked_eq : looked limit identifier now store =
    (.ok (windowOf limit identifier now store.memory).length,
      { store with memory := lookedIn limit identifier now store.memory }) := by
  have answered : Backend.answer (.inspect (limit.key identifier) (now - limit.window)) store = _ :=
    store.answer_of_quiet quiet store.memory
      (.inspect (limit.key identifier) (now - limit.window))
  simp only [Memory.run, Memory.inspect_fst] at answered
  rw [looked, answered]
  rfl

omit quiet in
/-- A look leaves what its window holds under the deadline of the key, and what the other keys
hold. -/
theorem lookedIn_get? (memory : Memory) (other : String) :
    (lookedIn limit identifier now memory).held.get? other =
      if other = limit.key identifier then
        Bucket.settled ⟨⟨windowOf limit identifier now memory⟩,
          (memory.held.get? (limit.key identifier)).bind (·.deadline)⟩
      else memory.held.get? other := by
  rw [lookedIn, Memory.inspect_get?, Memory.find?, Bucket.settled_shown]
  rfl

section Fresh

variable (fresh : ∀ row ∈ store.memory.rows (limit.key identifier), row.1 ≠ entry)
  {seconds : Int} (lifetime : limit.ttl = .ok seconds)
include fresh lifetime

/-- An attempt with a new name that finds room leaves its entry after those of its window. -/
theorem entered_get?_of_room
    (room : Verdict.admits limit (windowOf limit identifier now store.memory).length = true) :
    (entered limit identifier entry now store).2.memory.held.get? (limit.key identifier) =
      some ⟨⟨windowOf limit identifier now store.memory ++ [(entry, now)]⟩,
        some (store.memory.clock.later seconds)⟩ := by
  rw [entered_of_lifetime limit identifier entry now quiet lifetime, if_pos room]
  exact Memory.record_get?_of_fresh (now - limit.window) now seconds fresh

/-- An attempt with a new name that finds its window full leaves what was in it, unless its deadline
has come at once. -/
theorem entered_get?_of_full
    (full : Verdict.admits limit (windowOf limit identifier now store.memory).length = false) :
    (entered limit identifier entry now store).2.memory.held.get? (limit.key identifier) =
      if (store.memory.clock.later seconds).le store.memory.clock then none
      else some ⟨⟨windowOf limit identifier now store.memory⟩,
        some (store.memory.clock.later seconds)⟩ := by
  have taken := Memory.remove_record_get?_of_fresh (now - limit.window) now seconds fresh
  have filled : (windowOf limit identifier now store.memory).isEmpty = false := by
    have count := Verdict.admits_eq_false_iff.mp full
    have positive := limit.capacity_pos
    cases window : windowOf limit identifier now store.memory with
    | nil =>
      rw [window, List.length_nil] at count
      omega
    | cons row rest => rfl
  have kept : Bucket.settled ⟨⟨windowOf limit identifier now store.memory⟩,
      some (store.memory.clock.later seconds)⟩ = some _ := if_neg (Bool.eq_false_iff.mp filled)
  rw [entered_of_lifetime limit identifier entry now quiet lifetime,
    if_neg (Bool.eq_false_iff.mp full), ← kept]
  exact taken

end Fresh

end Calls

/-! ## A check and a look -/

/-- A verdict on a count of entries, to which an admitted call adds its own. -/
structure IsVerdictOn (limit : Limit) (now count own : Int) (verdict : Verdict) : Prop where
  allowed : verdict.allowed = true ↔ count < limit.capacity
  totalHits : verdict.totalHits = count + if verdict.allowed then own else 0
  remaining : verdict.remaining = max 0 (limit.capacity - verdict.totalHits)
  resetTime : verdict.resetTime = now + limit.window

/-- The verdict of an attempt is one on its count. -/
theorem isVerdictOn_ofAttempt (limit : Limit) (now count : Int) :
    IsVerdictOn limit now count 1 (.ofAttempt limit now count) where
  allowed := Verdict.admits_eq_true_iff
  totalHits := rfl
  remaining := by
    simp only [Verdict.ofAttempt]
    rw [Int.sub_sub]
  resetTime := rfl

/-- The verdict of a look is one on its count. -/
theorem isVerdictOn_ofLook (limit : Limit) (now count : Int) :
    IsVerdictOn limit now count 0 (.ofLook limit now count) where
  allowed := Verdict.admits_eq_true_iff
  totalHits := by
    rw [ite_self, add_zero]
    rfl
  remaining := rfl
  resetTime := rfl

section Steps

variable (limit : Limit) (identifier : String) (now : Int) (node : Node Local)

/-- A check that is exact: its verdict is on the window that it found; it leaves that window, with
its own entry when it is admitted, under a new deadline; and it touches no other key. -/
structure IsExactCheck (seconds : Int) (step : Step (Node Local) Verdict) : Prop where
  verdict : ∃ verdict, step.outcome = .ok verdict ∧
    IsVerdictOn limit now (windowOf limit identifier now node.store.memory).length 1 verdict
  admitted : (windowOf limit identifier now node.store.memory).length < limit.capacity →
    step.state.store.memory.held.get? (limit.key identifier) =
      some ⟨⟨windowOf limit identifier now node.store.memory ++ [(entryId now node.serial, now)]⟩,
        some (node.store.memory.clock.later seconds)⟩
  denied : limit.capacity ≤ (windowOf limit identifier now node.store.memory).length →
    step.state.store.memory.held.get? (limit.key identifier) =
      if (node.store.memory.clock.later seconds).le node.store.memory.clock then none
      else some ⟨⟨windowOf limit identifier now node.store.memory⟩,
        some (node.store.memory.clock.later seconds)⟩
  others : ∀ other, other ≠ limit.key identifier →
    step.state.store.memory.held.get? other = node.store.memory.held.get? other

/-- A look that is exact: its verdict is on the window that it found; it leaves that window under
the deadline that the key had, or no key when the window is empty; and it touches no other key. -/
structure IsExactLook (step : Step (Node Local) Verdict) : Prop where
  verdict : ∃ verdict, step.outcome = .ok verdict ∧
    IsVerdictOn limit now (windowOf limit identifier now node.store.memory).length 0 verdict
  left : step.state.store.memory.held.get? (limit.key identifier) =
    if (windowOf limit identifier now node.store.memory).isEmpty then none
    else some ⟨⟨windowOf limit identifier now node.store.memory⟩,
      (node.store.memory.held.get? (limit.key identifier)).bind (·.deadline)⟩
  others : ∀ other, other ≠ limit.key identifier →
    step.state.store.memory.held.get? other = node.store.memory.held.get? other

variable {node} (quiet : node.store.interference.IsQuiet)
include quiet

/-- A look is exact, whatever the lifetime of its key. -/
theorem status_isExact :
    IsExactLook limit identifier now node (status limit identifier now node) := by
  obtain ⟨outcome, state⟩ := tolerable_local.status limit identifier now quiet.onlyRefuses
  rw [looked_eq limit identifier now quiet] at outcome state
  refine ⟨⟨_, outcome, isVerdictOn_ofLook limit now _⟩, ?_, fun other different => ?_⟩
  · rw [state]
    exact (lookedIn_get? limit identifier now node.store.memory _).trans (if_pos rfl)
  · rw [state]
    exact (lookedIn_get? limit identifier now node.store.memory other).trans (if_neg different)

/-- With a lifetime for its key, and a name for its entry that is not in use, a check is exact. -/
theorem check_isExact
    (fresh : ∀ row ∈ node.store.memory.rows (limit.key identifier),
      row.1 ≠ entryId now node.serial) {seconds : Int} (lifetime : limit.ttl = .ok seconds) :
    IsExactCheck limit identifier now node seconds (check limit identifier now node) := by
  obtain ⟨outcome, state⟩ := tolerable_local.check limit identifier now quiet.onlyRefuses
  have told : (entered limit identifier (entryId now node.serial) now node.store).1 =
      .ok (windowOf limit identifier now node.store.memory).length := by
    rw [entered_of_lifetime limit identifier _ now quiet lifetime]
  rw [told] at outcome
  refine ⟨⟨_, outcome, isVerdictOn_ofAttempt limit now _⟩, fun room => ?_, fun full => ?_,
    fun other different => ?_⟩
  · rw [state]
    exact entered_get?_of_room limit identifier _ now quiet fresh lifetime
      (Verdict.admits_eq_true_iff.mpr room)
  · rw [state]
    exact entered_get?_of_full limit identifier _ now quiet fresh lifetime
      (Verdict.admits_eq_false_iff.mpr full)
  · rw [state]
    exact entered_get?_of_ne limit identifier _ now quiet different

/-- Without a lifetime for its key a check is admitted as in an outage, and leaves the store. -/
theorem check_of_ttl_error {failure : Failure} (failed : limit.ttl = .error failure) :
    (check limit identifier now node).outcome = .ok (.ofOutage limit now 1) ∧
      (check limit identifier now node).state.store = node.store := by
  obtain ⟨outcome, state⟩ := tolerable_local.check limit identifier now quiet.onlyRefuses
  rw [entered_of_ttl_error failed] at outcome state
  exact ⟨outcome, by rw [state]⟩

end Steps

/-- On a store in memory with anything in it, a look is exact, and so is a check whose limit has a
lifetime and whose entry has a new name; without a lifetime a check is admitted whatever the key
holds, and records nothing. A denied check loses the key only when its deadline has come at once,
which it never has on a clock of whole seconds. -/
theorem calls_exact_on_any_store (limit : Limit) (identifier : String) (now : Int)
    (node : Node Local) (quiet : node.store.interference.IsQuiet) :
    IsExactLook limit identifier now node (status limit identifier now node) ∧
      (∀ seconds, limit.ttl = .ok seconds →
        (∀ row ∈ node.store.memory.rows (limit.key identifier), row.1 ≠ entryId now node.serial) →
        IsExactCheck limit identifier now node seconds (check limit identifier now node)) ∧
      (∀ failure, limit.ttl = .error failure →
        (check limit identifier now node).outcome = .ok (.ofOutage limit now 1) ∧
          (check limit identifier now node).state.store = node.store) ∧
      ∀ (count seconds : Int), limit.ttl = .ok seconds →
        ((Seconds.whole count).later seconds).le (.whole count) = false := by
  refine ⟨status_isExact limit identifier now quiet, fun seconds lifetime fresh =>
    check_isExact limit identifier now quiet fresh lifetime, fun failure failed =>
    check_of_ttl_error limit identifier now quiet failed, fun count seconds lifetime => ?_⟩
  have positive := ttl_pos lifetime
  rw [Seconds.later_whole, Seconds.whole_le_whole]
  exact decide_eq_false (by omega)

section Overfull

/-- A key with more entries than one attempt a second admits and no deadline, and another key that
has lapsed. -/
def overfullNode : Node Local where
  store.memory.clock := .whole 10
  store.memory.held := ⟨[("k:a", ⟨⟨[("x", 900), ("y", 950), ("z", 2000)]⟩, none⟩),
    ("k:b", ⟨⟨[("x", 0)]⟩, some (.whole 5)⟩)]⟩

/-- The denied check has renewed the deadline, and changed nothing else. -/
theorem overfull_key_kept :
    (∃ verdict, (check .onePerSecond "a" 1000 overfullNode).outcome = .ok verdict ∧
      verdict.allowed = false ∧ verdict.totalHits = 3) ∧
    (check .onePerSecond "a" 1000 overfullNode).state.store.memory.held.get? "k:a" =
      some ⟨⟨[("x", 900), ("y", 950), ("z", 2000)]⟩, some (.whole 71)⟩ ∧
    (check .onePerSecond "a" 1000 overfullNode).state.store.memory.held.get? "k:b" =
      some ⟨⟨[("x", 0)]⟩, some (.whole 5)⟩ := by
  have lifetime : Limit.onePerSecond.ttl = .ok 61 :=
    (Limit.ttl_eq_ok_iff _ 61).mpr (by decide +kernel)
  obtain ⟨⟨verdict, told, on⟩, -, denied, others⟩ :=
    (calls_exact_on_any_store .onePerSecond "a" 1000 overfullNode fun _ => rfl).2.1 61 lifetime
      (by decide)
  have full : verdict.allowed = false :=
    Bool.eq_false_iff.mpr fun allowed => absurd (on.allowed.mp allowed) (by decide)
  refine ⟨⟨verdict, told, full, ?_⟩, ?_, ?_⟩
  · rw [on.totalHits, full]
    rfl
  · exact denied (by decide)
  · exact others "k:b" (by decide)

/-- A key with as many entries as a window of any length admits. -/
def fullNode : Node Local where
  store.memory.clock := .whole 0
  store.memory.held := ⟨[("k:a", ⟨⟨[("x", 0)]⟩, none⟩)]⟩

/-- In a window that is too long for a lifetime a check is admitted though the window is full, and
is not recorded. -/
theorem full_key_admits_without_lifetime :
    (windowOf endlessLimit "a" 0 fullNode.store.memory).length = endlessLimit.capacity ∧
      (check endlessLimit "a" 0 fullNode).outcome = .ok ⟨true, 0, endlessLimit.window, 1⟩ ∧
      (check endlessLimit "a" 0 fullNode).state.store.memory.held.get? "k:a" =
        some ⟨⟨[("x", 0)]⟩, none⟩ := by
  have quiet : fullNode.store.interference.IsQuiet := fun _ => rfl
  obtain ⟨outcome, state⟩ := check_of_ttl_error endlessLimit "a" 0 quiet endlessLimit_ttl
  have reset : Verdict.endOf endlessLimit 0 = endlessLimit.window := Int.zero_add _
  refine ⟨by decide +kernel, ?_, ?_⟩
  · rw [outcome, Verdict.ofOutage, reset]
    rfl
  · rw [state]
    rfl

end Overfull

end Limiter

end Turnstile
