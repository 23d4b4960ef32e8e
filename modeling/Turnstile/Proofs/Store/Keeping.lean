import Turnstile.Proofs.Store.Fate
import Turnstile.Proofs.Time.Reading

/-!
# Entries that stay

An entry is kept until a reading of the clock when its key holds it and is not past its deadline
by then. A command that comes before that reading spares the entry unless it purges at or above
its score, names it, or sets a deadline that the reading reaches. An entry that every command
spares is counted by the batches in between.
-/

namespace Turnstile.Store

open Time

/-- A deadline that a reading does not reach is not reached earlier. -/
theorem Bucket.isLive_of_le {bucket : Bucket} {earlier later : Seconds}
    (order : earlier.instant ≤ later.instant) (live : bucket.isLive later = true) :
    bucket.isLive earlier = true := by
  obtain ⟨scores, deadline⟩ := bucket
  cases deadline with
  | none => rfl
  | some deadline =>
    simp only [isLive, Bool.not_eq_true'] at live ⊢
    rw [Seconds.le_eq_false_iff] at live ⊢
    exact order.trans_lt live

namespace Memory

/-- The key holds the entry at its score, and is not past its deadline by the reading. -/
def Keeps (memory : Memory) (key entry : String) (score : Int) (reading : Seconds) : Prop :=
  ∃ bucket, memory.held.get? key = some bucket ∧ bucket.isLive reading = true ∧
    bucket.scores.get? entry = some score

/-- A command on the key at one reading of the clock does nothing to the entry until another. -/
def Spares (key entry : String) (score : Int) (clock reading : Seconds) : Call → Prop
  | .purge name bound => name = key ∧ bound < score
  | .count name => name = key
  | .add name other _ => name = key ∧ other ≠ entry
  | .remove name other => name = key ∧ other ≠ entry
  | .expire name seconds => name = key ∧ (clock.later seconds).le reading = false
  | _ => False

variable {memory : Memory} {key entry : String} {score : Int} {reading : Seconds}

/-- The clock has no part in what is kept. -/
theorem Keeps.setClock (keeps : memory.Keeps key entry score reading) (clock : Seconds) :
    (memory.setClock clock).Keeps key entry score reading := keeps

/-- A kept entry is found by a command before the reading. -/
theorem Keeps.find? (keeps : memory.Keeps key entry score reading)
    (order : memory.clock.instant ≤ reading.instant) :
    ∃ bucket, memory.find? key = some bucket ∧ bucket.isLive reading = true ∧
      bucket.scores.get? entry = some score := by
  obtain ⟨bucket, held, live, scored⟩ := keeps
  exact ⟨bucket, (memory.find?_eq_some_iff key).mpr ⟨held, Bucket.isLive_of_le order live⟩, live,
    scored⟩

/-- A bucket with an entry is not dropped for being empty. -/
theorem settled_of_get? {bucket : Bucket} (scored : bucket.scores.get? entry = some score) :
    bucket.settled = some bucket := by
  unfold Bucket.settled
  rw [if_neg]
  intro empty
  have member := Table.mem_rows_of_get? scored
  rw [List.isEmpty_iff.mp empty] at member
  cases member

/-- No call moves the clock. -/
theorem run_clock (call : Call) : (memory.run call).2.clock = memory.clock := by
  cases call with
  | purge name bound => exact memory.purge_clock name bound
  | count name => exact memory.count_clock name
  | add name other score => exact memory.add_clock name other score
  | remove name other => exact memory.remove_clock name other
  | expire name seconds => exact memory.expire_clock name seconds
  | delete name => exact memory.delete_clock name
  | record name bound other score seconds =>
    exact memory.record_clock name other bound score seconds
  | inspect name bound =>
    exact ((memory.purge name bound).2.count_clock name).trans (memory.purge_clock name bound)
  | ping => rfl
  | close => rfl

/-- A command that spares an entry keeps it. -/
theorem Keeps.command (keeps : memory.Keeps key entry score reading)
    (order : memory.clock.instant ≤ reading.instant) {call : Call}
    (spares : Spares key entry score memory.clock reading call) :
    (memory.run call).2.Keeps key entry score reading := by
  obtain ⟨bucket, found, live, scored⟩ := keeps.find? order
  cases call with
  | purge name bound =>
    obtain ⟨rfl, below⟩ := spares
    have kept : (bucket.above bound).scores.get? entry = some score :=
      Table.get?_keep scored (decide_eq_true below)
    refine ⟨bucket.above bound, ?_, live, kept⟩
    simp only [run]
    rw [purge_get?, if_pos rfl, found, Option.bind_some, settled_of_get? kept]
  | count name =>
    obtain rfl := spares
    refine ⟨bucket, ?_, live, scored⟩
    simp only [run]
    rw [count_get?, if_pos rfl, found]
  | add name other added =>
    obtain ⟨rfl, different⟩ := spares
    refine ⟨{ bucket with scores := bucket.scores.put other added }, ?_, live, ?_⟩
    · simp only [run]
      rw [add_get?, if_pos rfl, found]
      rfl
    · rw [Table.get?_put, if_neg different.symm]
      exact scored
  | remove name other =>
    obtain ⟨rfl, different⟩ := spares
    have kept : (bucket.without other).scores.get? entry = some score := by
      rw [Bucket.without, Table.get?_drop, if_neg different.symm]
      exact scored
    refine ⟨bucket.without other, ?_, live, kept⟩
    simp only [run]
    rw [remove_get?, if_pos rfl, found, Option.bind_some, settled_of_get? kept]
  | expire name seconds =>
    obtain ⟨rfl, beyond⟩ := spares
    refine ⟨{ bucket with deadline := some (memory.clock.later seconds) }, ?_, ?_, scored⟩
    · simp only [run]
      rw [expire_get?, if_pos rfl, found, Option.map_some]
    · simp only [Bucket.isLive, beyond, Bool.not_false]
  | _ => cases spares

/-- Commands in turn that spare an entry keep it. -/
theorem Keeps.after (keeps : memory.Keeps key entry score reading)
    (order : memory.clock.instant ≤ reading.instant) {calls : List Call}
    (spare : ∀ call ∈ calls, Spares key entry score memory.clock reading call) :
    (memory.after calls).Keeps key entry score reading := by
  induction calls generalizing memory with
  | nil => exact keeps
  | cons call rest ih =>
    have clock : (memory.run call).2.clock = memory.clock := run_clock call
    refine ih (keeps.command order (spare call (List.mem_cons_self ..))) (clock ▸ order) ?_
    intro other member
    rw [clock]
    exact spare other (List.mem_cons_of_mem _ member)

/-- A call whose commands spare an entry keeps it, whatever its fate. -/
theorem Keeps.meet (keeps : memory.Keeps key entry score reading)
    (order : memory.clock.instant ≤ reading.instant) (fate : Fate) {call : Call}
    (spare : ∀ command ∈ call.commands, Spares key entry score memory.clock reading command) :
    (memory.meet fate call).2.Keeps key entry score reading := by
  cases fate with
  | served =>
    rw [Memory.meet, run_eq_after]
    exact keeps.after order spare
  | cut done failure =>
    exact keeps.after order fun command member => spare command (List.mem_of_mem_take member)

/-- Distinct entries that are kept until now are among those above a bound below their scores. -/
theorem length_le_recent {names : List String} (distinct : names.Nodup) {bound : Int}
    (kept : ∀ name ∈ names, ∃ score, bound < score ∧
      memory.Keeps key name score memory.clock) :
    names.length ≤ (memory.recent key bound).length := by
  cases names with
  | nil => exact Nat.zero_le _
  | cons first rest =>
    obtain ⟨score, _, keeps⟩ := kept first (List.mem_cons_self ..)
    obtain ⟨bucket, found, _, _⟩ := keeps.find? le_rfl
    have size : (memory.recent key bound).length = (bucket.above bound).scores.size := by
      rw [recent, entries, found]
      rfl
    rw [size]
    refine Table.length_le_size distinct fun name member => ?_
    obtain ⟨score, late, keeps⟩ := kept name member
    obtain ⟨other, same, _, scored⟩ := keeps.find? le_rfl
    obtain rfl := Option.some.inj (found.symm.trans same)
    exact ⟨score, Table.get?_keep scored (decide_eq_true late)⟩

/-- An attempt keeps its own entry until a reading that its deadline is beyond. -/
theorem keeps_record {bound seconds : Int}
    (beyond : (memory.clock.later seconds).le reading = false) :
    (memory.record key bound entry score seconds).2.Keeps key entry score reading := by
  refine ⟨_, (memory.record_get? key key entry bound score seconds).trans (if_pos rfl), ?_, ?_⟩
  · simp only [Bucket.isLive, beyond, Bool.not_false]
  · exact Table.get?_put_self ⟨memory.recent key bound⟩ entry score

end Memory

end Turnstile.Store
