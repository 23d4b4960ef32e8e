import Turnstile.Proofs.Limiter.Task
import Turnstile.Proofs.Policy.Lifetime
import Turnstile.Proofs.Store.Fate

/-!
# Traffic on one key

Checks and looks of one identifier under one limit, on a store whose batches are not interleaved.
A check sends its batch in one move; when that found the window full, the removal of its entry is
another move, which may come after any number of others or never. Each call may be carried out or
be cut off by a failure half way.
-/

namespace Turnstile.Limiter

open Store Time

/-- What is done in a move. -/
inductive Act where
  /-- A new check sends its batch. -/
  | attempt (now : Int) (serial : Nat)
  /-- A look purges and counts. -/
  | look (now : Int)
  /-- The check at the place takes its entry back, if it has yet to. -/
  | rollback (place : Nat)

/-- A move: what is done, the reading of the store's clock meanwhile, and the fate of the call. -/
structure Move where
  act : Act
  clock : Seconds
  fate : Fate

namespace Move

/-- The instant of the limiter's clock, when the move is a batch. -/
def now? (move : Move) : Option Int :=
  match move.act with
  | .attempt now _ => some now
  | .look now => some now
  | .rollback _ => none

/-- The name of the entry that the move inserts. -/
def entry? (move : Move) : Option String :=
  match move.act with
  | .attempt now serial => some (entryId now serial)
  | _ => none

/-- What is assumed of any two moves in turn: the store's clock does not go back and keeps step
between batches, the limiter's clock goes back by the skew at most, and entries have names of
their own. -/
structure Precedes (skew : Int) (first second : Move) : Prop where
  clock : first.clock.instant ≤ second.clock.instant
  near : ∀ earlier later, first.now? = some earlier → second.now? = some later →
    earlier - skew ≤ later ∧ Seconds.KeepsStep first.clock second.clock (later - earlier)
  fresh : ∀ entry, first.entry? = some entry → second.entry? ≠ some entry

end Move

/-- A check that has sent its batch. -/
structure Sent where
  task : Task
  /-- Every call that the check made so far was carried out. -/
  intact : Bool

/-- The checks that have sent their batches, and the store. -/
structure Traffic where
  sent : List Sent
  memory : Memory

namespace Sent

/-- The check was admitted, and every call that it made was carried out. -/
def counts (sent : Sent) : Bool := sent.task.isAdmitted && sent.intact

/-- A call of the check that meets a fate. -/
def turn (sent : Sent) (store : Faulty) : Sent × Faulty :=
  let (task, _, left) := sent.task.advance store
  (⟨task, sent.intact && (sent.task.isFinished || store.fate.isServed)⟩, left)

end Sent

namespace Traffic

variable (limit : Limit) (identifier : String)

/-- One more move. -/
def step (traffic : Traffic) (move : Move) : Traffic :=
  let store : Faulty := ⟨traffic.memory.setClock move.clock, move.fate⟩
  match move.act with
  | .attempt now serial =>
    let (sent, left) := Sent.turn ⟨Task.whole limit identifier now serial, true⟩ store
    ⟨traffic.sent ++ [sent], left.memory⟩
  | .look now =>
    ⟨traffic.sent, (status limit identifier now { store }).state.store.memory⟩
  | .rollback place =>
    match traffic.sent[place]? with
    | none => traffic
    | some sent =>
      let (next, left) := sent.turn store
      ⟨traffic.sent.set place next, left.memory⟩

/-- Moves in turn. -/
def run (traffic : Traffic) (moves : List Move) : Traffic :=
  moves.foldl (step limit identifier) traffic

/-- The last move of a run comes after the rest. -/
theorem run_concat (traffic : Traffic) (moves : List Move) (move : Move) :
    run limit identifier traffic (moves ++ [move]) =
      step limit identifier (run limit identifier traffic moves) move := List.foldl_append

/-- How many of the checks that count lie in the span of milliseconds that begins at the start. -/
def admittedIn (start span : Int) (traffic : Traffic) : Nat :=
  traffic.sent.countP fun sent =>
    sent.counts && decide (start ≤ sent.task.now) && decide (sent.task.now < start + span)

end Traffic

/-- A check between its moves is at its end, or has found the window full. -/
inductive Settled (limit : Limit) : Stage → Prop where
  | finished (outcome) : Settled limit (.finished outcome)
  | removing (count) (full : Verdict.admits limit count = false) : Settled limit (.removing count)

/-- The check is between its moves, and bears what it was made with. -/
def Sent.IsOf (limit : Limit) (identifier entry : String) (now : Int) (sent : Sent) : Prop :=
  ∃ stage, Settled limit stage ∧ sent.task = ⟨limit, identifier, entry, now, stage⟩

namespace Sent.IsOf

variable {limit : Limit} {identifier entry : String} {now : Int} {sent : Sent}

/-- What is sent has its own entry. -/
theorem entry_eq (isOf : sent.IsOf limit identifier entry now) : sent.task.entry = entry := by
  obtain ⟨stage, _, task⟩ := isOf
  rw [task]

/-- What is sent has its own instant. -/
theorem now_eq (isOf : sent.IsOf limit identifier entry now) : sent.task.now = now := by
  obtain ⟨stage, _, task⟩ := isOf
  rw [task]

end Sent.IsOf

section Turns

variable {limit : Limit} {identifier : String} {now seconds : Int}

/-- The batch of a check leaves what its fate makes of it; the check counts when the batch was
carried out and found room, and only then. -/
theorem turn_whole (identifier : String) (now : Int) (serial : Nat)
    (lifetime : limit.ttl = .ok seconds) (store : Faulty) :
    let came := Sent.turn ⟨Task.whole limit identifier now serial, true⟩ store
    came.2.memory = (store.memory.meet store.fate
        (recordCall limit identifier (entryId now serial) now seconds)).2 ∧
      came.1.IsOf limit identifier (entryId now serial) now ∧
      (came.1.counts = true ↔ store.fate = .served ∧ Verdict.admits limit
        (store.memory.recent (limit.key identifier) (now - limit.window)).length = true) := by
  obtain ⟨memory, fate⟩ := store
  have count := memory.record_fst (limit.key identifier) (entryId now serial)
    (now - limit.window) now seconds
  cases fate with
  | cut done failure =>
    simp only [Sent.turn, Task.whole, Task.beginAs, lifetime, Task.opening, Task.advance,
      Backend.answer, Memory.meet, Task.endWith_eq, Task.isFinished, Fate.isServed]
    refine ⟨trivial, ⟨_, .finished _, rfl⟩, ?_⟩
    simp [Sent.counts]
  | served =>
    simp only [Sent.turn, Task.whole, Task.beginAs, lifetime, Task.opening, Task.advance,
      Backend.answer, Memory.meet, List.isEmpty_nil, if_true, List.nil_append, Task.decideOn,
      recordCall, Memory.run, count, Reply.toCount, Reply.toCount?]
    cases room : Verdict.admits limit
        (memory.recent (limit.key identifier) (now - limit.window)).length with
    | true =>
      simp only [if_true, Task.conclude]
      refine ⟨trivial, ⟨_, .finished _, rfl⟩, ?_⟩
      simp [Sent.counts, Task.isAdmitted, Verdict.ofAttempt, room, Fate.isServed]
    | false =>
      simp only [Bool.false_eq_true, if_false]
      refine ⟨trivial, ⟨_, .removing _ room, rfl⟩, ?_⟩
      simp [Sent.counts, Task.isAdmitted]

/-- A check that could not compute a lifetime is admitted without a call. -/
theorem turn_whole_of_ttl_error (identifier : String) (now : Int) (serial : Nat)
    {failure : Failure} (failed : limit.ttl = .error failure)
    (store : Faulty) :
    let came := Sent.turn ⟨Task.whole limit identifier now serial, true⟩ store
    came.2 = store ∧ came.1.counts = true ∧ came.1.task.now = now := by
  simp [Sent.turn, Task.whole, Task.beginAs, failed, Task.advance, Sent.counts, Task.isAdmitted,
    Verdict.ofOutage, Task.isFinished]

/-- A later turn of a check does nothing at its end, and else makes its removal, which leaves it
uncounted. -/
theorem turn_settled {entry : String} {sent : Sent} (isOf : sent.IsOf limit identifier entry now)
    (store : Faulty) :
    let came := sent.turn store
    came.1.IsOf limit identifier entry now ∧ came.1.counts = sent.counts ∧
      (came.2.memory = store.memory ∨ sent.counts = false ∧
        came.2.memory = (store.memory.meet store.fate
          (.remove (limit.key identifier) entry)).2) := by
  obtain ⟨task, intact⟩ := sent
  obtain ⟨stage, settled, rfl⟩ := isOf
  cases settled with
  | finished outcome =>
    simp only [Sent.turn, Task.advance, Task.isFinished, Bool.true_or, Bool.and_true]
    exact ⟨⟨_, .finished _, rfl⟩, trivial, .inl trivial⟩
  | removing count full =>
    obtain ⟨memory, fate⟩ := store
    cases fate with
    | cut done failure =>
      simp only [Sent.turn, Task.advance, Backend.answer, Memory.meet, Task.endWith_eq,
        Task.isFinished, Fate.isServed]
      exact ⟨⟨_, .finished _, rfl⟩, by simp [Sent.counts, Task.isAdmitted],
        .inr ⟨rfl, trivial⟩⟩
    | served =>
      simp only [Sent.turn, Task.advance, Backend.answer, Memory.meet, Task.conclude,
        Task.isFinished, Fate.isServed]
      exact ⟨⟨_, .finished _, rfl⟩, by simp [Sent.counts, Task.isAdmitted, Verdict.ofAttempt, full],
        .inr ⟨rfl, trivial⟩⟩

end Turns

end Turnstile.Limiter
