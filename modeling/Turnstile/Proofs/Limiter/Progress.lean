import Turnstile.Limiter.Interleaved
import Turnstile.Proofs.Store.Local

/-!
# The progress of a check

A check whose batch goes out as separate commands comes through six points: before its purge,
before its count, between its count and its insertion, before its deadline is set, before its
removal when the window was full, and at its end. On a store that refuses nothing, under a key
that is not past its deadline and holds no entry older than the window, each turn takes it to the
next point, and what it does to the entries of the key is told here.
-/

namespace Turnstile.Limiter

open Store

/-- The point that a check has come to, with the replies so far. -/
inductive Progress (limit : Limit) where
  | fresh
  | purged (purge : Reply)
  | counted (purge : Reply) (count : Int)
  | added (purge : Reply) (count : Int) (add : Reply)
  | overfull (count : Int) (full : Verdict.admits limit count = false)
  | ended (count : Int)

/-- What is a check's own among checks of one identifier under one limit. -/
structure Entrant where
  /-- The limiter's clock in milliseconds. -/
  now : Int
  /-- The number that distinguishes the entry. -/
  serial : Nat

namespace Entrant

/-- The identifier of the check's entry. -/
def entry (entrant : Entrant) : String := entryId entrant.now entrant.serial

/-- The entry that the check inserts. -/
def row (entrant : Entrant) : String × Int := (entrant.entry, entrant.now)

variable (limit : Limit) (identifier : String) (seconds : Int) (entrant : Entrant)

/-- The check as it begins. -/
def begun : Task := (Task.beginAs Call.commands limit identifier entrant.now entrant.serial).1

/-- The check before its first command. -/
def opening : Task :=
  Task.opening Call.commands limit identifier entrant.now entrant.serial seconds

/-- What is left of a check at a point. -/
def stage : Progress limit → Stage
  | .fresh =>
    .recording
      [.purge (limit.key identifier) (entrant.now - limit.window), .count (limit.key identifier),
        .add (limit.key identifier) entrant.entry entrant.now,
        .expire (limit.key identifier) seconds] []
  | .purged purge =>
    .recording
      [.count (limit.key identifier), .add (limit.key identifier) entrant.entry entrant.now,
        .expire (limit.key identifier) seconds] [purge]
  | .counted purge count =>
    .recording
      [.add (limit.key identifier) entrant.entry entrant.now,
        .expire (limit.key identifier) seconds] [purge, .number count]
  | .added purge count add =>
    .recording [.expire (limit.key identifier) seconds] [purge, .number count, add]
  | .overfull count _ => .removing count
  | .ended count => .finished (.ok (Verdict.ofAttempt limit entrant.now count))

/-- The check at a point. -/
def task (progress : Progress limit) : Task :=
  ⟨limit, identifier, entrant.entry, entrant.now, entrant.stage limit identifier seconds progress⟩

/-- A check begins so on a store that refuses nothing. -/
theorem begin_eq {interference : Interference} (quiet : interference.IsQuiet) :
    (Task.begin interference limit identifier entrant.now entrant.serial).1 =
      entrant.begun limit identifier := by
  simp only [Task.begin, quiet _, Option.isNone_none, if_true]
  rfl

/-- A check whose lifetime is computed begins before its first command. -/
theorem begun_of_ttl (lifetime : limit.ttl = .ok seconds) :
    entrant.begun limit identifier = entrant.opening limit identifier seconds := by
  simp only [begun, Task.beginAs, lifetime]
  rfl

/-- A check whose lifetime is not computed ends as it begins, and is admitted. -/
theorem begun_of_ttl_error {failure : Failure} (endless : limit.ttl = .error failure) :
    (entrant.begun limit identifier).stage =
      .finished (.ok (Verdict.ofOutage limit entrant.now 1)) := by
  simp only [begun, Task.beginAs, endless]

end Entrant

/-- A turn of a check: the point before and after it, and the entries of the key. -/
inductive Moves (limit : Limit) (entrant : Entrant) :
    Progress limit → List (String × Int) → Progress limit → List (String × Int) → Prop where
  | purge (rows purge) : Moves limit entrant .fresh rows (.purged purge) rows
  | count (rows purge) : Moves limit entrant (.purged purge) rows (.counted purge rows.length) rows
  | add (rows purge count add) : Moves limit entrant (.counted purge count) rows
      (.added purge count add) (rows.filter (·.1 != entrant.entry) ++ [entrant.row])
  | allow (rows purge count add) (room : Verdict.admits limit count = true) :
      Moves limit entrant (.added purge count add) rows (.ended count) rows
  | refuse (rows purge count add) (full : Verdict.admits limit count = false) :
      Moves limit entrant (.added purge count add) rows (.overfull count full) rows
  | remove (rows count full) : Moves limit entrant (.overfull count full) rows (.ended count)
      (rows.filter (·.1 != entrant.entry))
  | rest (rows count) : Moves limit entrant (.ended count) rows (.ended count) rows

section Turns

variable (task : Task) (store : Local) (quiet : store.interference.IsQuiet)
include quiet

/-- A command that is not the last of its batch. -/
theorem advance_of_left {call other : Call} {rest : List Call} {replies : List Reply}
    (stage : task.stage = .recording (call :: other :: rest) replies) :
    task.advance store =
      ({ task with stage := .recording (other :: rest) (replies ++ [(store.memory.run call).1]) },
        [], { store with memory := (store.memory.run call).2 }) := by
  have answered : Backend.answer call store = _ := store.answer_of_quiet quiet store.memory call
  simp only [Task.advance, stage, answered, List.isEmpty_cons, Bool.false_eq_true, if_false]

/-- The last command of a batch. -/
theorem advance_of_last {call : Call} {replies : List Reply}
    (stage : task.stage = .recording [call] replies) :
    task.advance store =
      ((task.decideOn (replies ++ [(store.memory.run call).1])).1,
        (task.decideOn (replies ++ [(store.memory.run call).1])).2,
        { store with memory := (store.memory.run call).2 }) := by
  have answered : Backend.answer call store = _ := store.answer_of_quiet quiet store.memory call
  simp only [Task.advance, stage, answered, List.isEmpty_nil, if_true]

/-- The removal of an entry that found the window full. -/
theorem advance_of_removing {count : Int} (stage : task.stage = .removing count) :
    task.advance store =
      ((task.conclude count).1, (task.conclude count).2,
        { store with
          memory := store.memory.remove (task.limit.key task.identifier) task.entry }) := by
  have answered : Backend.answer (.remove (task.limit.key task.identifier) task.entry) store = _ :=
    store.answer_of_quiet quiet store.memory _
  simp only [Task.advance, stage, answered, Memory.run]

/-- A turn takes a check to its next point. -/
theorem advance_moves (limit : Limit) (identifier : String) (seconds : Int) (entrant : Entrant)
    (live : ∀ bucket, store.memory.held.get? (limit.key identifier) = some bucket →
      bucket.isLive store.memory.clock = true)
    (late : ∀ row ∈ store.memory.rows (limit.key identifier),
      entrant.now - limit.window < row.2)
    (progress : Progress limit) : ∃ next memory,
      ((entrant.task limit identifier seconds progress).advance store).1 =
        entrant.task limit identifier seconds next ∧
      ((entrant.task limit identifier seconds progress).advance store).2.2 =
        { store with memory } ∧
      Moves limit entrant progress (store.memory.rows (limit.key identifier)) next
        (memory.rows (limit.key identifier)) := by
  have found := store.memory.entries_eq_rows (limit.key identifier) live
  cases progress with
  | fresh =>
    have recent : store.memory.recent (limit.key identifier) (entrant.now - limit.window) =
        store.memory.rows (limit.key identifier) := by
      rw [Memory.recent, found]
      exact List.filter_eq_self.mpr fun row member => decide_eq_true (late row member)
    have rows := store.memory.purge_rows (limit.key identifier) (limit.key identifier)
      (entrant.now - limit.window)
    rw [if_pos rfl, recent] at rows
    have turn := advance_of_left (entrant.task limit identifier seconds .fresh) store quiet rfl
    refine ⟨.purged _, _, congrArg Prod.fst turn, congrArg (·.2.2) turn, ?_⟩
    simp only [Memory.run, rows]
    exact .purge ..
  | purged purge =>
    have rows := store.memory.count_rows (limit.key identifier) (limit.key identifier)
    have count := store.memory.count_fst (limit.key identifier)
    rw [if_pos rfl, found] at rows
    rw [found] at count
    have turn := advance_of_left (entrant.task limit identifier seconds (.purged purge)) store
      quiet rfl
    refine ⟨.counted purge (store.memory.rows (limit.key identifier)).length, _,
      (congrArg Prod.fst turn).trans ?_, congrArg (·.2.2) turn, ?_⟩
    · simp only [Memory.run, count]
      rfl
    · simp only [Memory.run, rows]
      exact .count ..
  | counted purge count =>
    have rows := store.memory.add_rows (limit.key identifier) (limit.key identifier)
      entrant.entry entrant.now
    rw [if_pos rfl, found] at rows
    have turn := advance_of_left
      (entrant.task limit identifier seconds (.counted purge count)) store quiet rfl
    refine ⟨.added purge count _, _, congrArg Prod.fst turn, congrArg (·.2.2) turn, ?_⟩
    simp only [Memory.run, rows]
    exact .add ..
  | added purge count add =>
    have rows := store.memory.expire_rows (limit.key identifier) (limit.key identifier) seconds
    rw [if_pos rfl, found] at rows
    have turn := advance_of_last
      (entrant.task limit identifier seconds (.added purge count add)) store quiet rfl
    cases room : Verdict.admits limit count with
    | true =>
      refine ⟨.ended count, _, (congrArg Prod.fst turn).trans ?_, congrArg (·.2.2) turn, ?_⟩
      · simp [Task.decideOn, Entrant.task, Entrant.stage, Reply.toCount, Reply.toCount?, room,
          Task.conclude]
      · simp only [Memory.run, rows]
        exact .allow _ _ _ _ room
    | false =>
      refine ⟨.overfull count room, _, (congrArg Prod.fst turn).trans ?_,
        congrArg (·.2.2) turn, ?_⟩
      · simp [Task.decideOn, Entrant.task, Entrant.stage, Reply.toCount, Reply.toCount?, room]
      · simp only [Memory.run, rows]
        exact .refuse _ _ _ _ room
  | overfull count full =>
    have rows := store.memory.remove_rows (limit.key identifier) (limit.key identifier)
      entrant.entry
    rw [if_pos rfl, found] at rows
    have turn := advance_of_removing
      (entrant.task limit identifier seconds (.overfull count full)) store quiet rfl
    refine ⟨.ended count, _, congrArg Prod.fst turn, congrArg (·.2.2) turn, ?_⟩
    simp only [Entrant.task, rows]
    exact .remove ..
  | ended count => exact ⟨.ended count, store.memory, rfl, rfl, .rest ..⟩

end Turns

end Turnstile.Limiter
