import Turnstile.Limiter.Basic
import Turnstile.Store.Memory

/-!
# Interleaved checks

Checks whose batches go out as separate commands can overlap. A check under way is a value; one
step carries out its next command, and a schedule says whose turn it is. All checks of a race
count before any of them adds.
-/

namespace Turnstile.Limiter

open Log Store

/-- How far a check has come. -/
inductive Stage where
  /-- Commands of its batch that are left, and the replies so far. -/
  | recording (left : List Call) (replies : List Reply)
  /-- The window was full; the entry is still to be taken back. -/
  | removing (count : Int)
  /-- The verdict, or the interruption. -/
  | finished (outcome : Except Failure Verdict)
deriving Inhabited

/-- A check under way. -/
structure Task where
  limit : Limit
  identifier : String
  entry : String
  now : Int
  stage : Stage

namespace Task

/-- The check has ended. -/
def isFinished (task : Task) : Bool :=
  match task.stage with
  | .finished _ => true
  | _ => false

/-- A check that is about to send its batch as the given commands. -/
def opening (commands : Call → List Call) (limit : Limit) (identifier : String) (now : Int)
    (serial : Nat) (seconds : Int) : Task :=
  let entry := entryId now serial
  ⟨limit, identifier, entry, now,
    .recording (commands (recordCall limit identifier entry now seconds)) []⟩

/-- A check before its first command. Without a lifetime for its key it ends at once. -/
def beginAs (commands : Call → List Call) (limit : Limit) (identifier : String) (now : Int)
    (serial : Nat) : Task × List Event :=
  match limit.ttl with
  | .error failure =>
    (⟨limit, identifier, entryId now serial, now, .finished (.ok (Verdict.ofOutage limit now 1))⟩,
      [storeErrorEvent "check_and_consume" limit identifier failure])
  | .ok seconds => (opening commands limit identifier now serial seconds, [])

/-- A check before its first command. A batch that is interfered with counts as one command. -/
def begin (interference : Interference) (limit : Limit) (identifier : String) (now : Int)
    (serial : Nat) : Task × List Event :=
  beginAs (fun whole =>
    if (interference.outcome? whole.name).isNone then whole.commands else [whole])
    limit identifier now serial

/-- End a check with a failure of the store. -/
def endWith (task : Task) (failure : Failure) : Task × List Event :=
  if failure.isInterruption then ({ task with stage := .finished (.error failure) }, [])
  else
    ({ task with stage := .finished (.ok (Verdict.ofOutage task.limit task.now 1)) },
      [storeErrorEvent "check_and_consume" task.limit task.identifier failure])

/-- End a check with its verdict. -/
def conclude (task : Task) (count : Int) : Task × List Event :=
  ({ task with stage := .finished (.ok (Verdict.ofAttempt task.limit task.now count)) },
    [checkedEvent task.limit task.identifier count])

/-- What follows the last command of the batch. -/
def decideOn (task : Task) (replies : List Reply) : Task × List Event :=
  let counted := match replies with
    | [only] => only
    | several => several.getD 1 .nothing
  match counted.toCount with
  | .error failure => task.endWith failure
  | .ok count =>
    if Verdict.admits task.limit count then task.conclude count
    else ({ task with stage := .removing count }, [])

/-- Carry out the next command of a check. -/
def advance {σ : Type} [Backend σ] (task : Task) (store : σ) : Task × List Event × σ :=
  match task.stage with
  | .finished _ => (task, [], store)
  | .recording [] replies =>
    let (next, events) := task.decideOn replies
    (next, events, store)
  | .recording (call :: rest) replies =>
    let step := Backend.answer call store
    match step.outcome with
    | .error failure =>
      let (next, events) := task.endWith failure
      (next, events, step.state)
    | .ok reply =>
      let collected := replies ++ [reply]
      if rest.isEmpty then
        let (next, events) := task.decideOn collected
        (next, events, step.state)
      else ({ task with stage := .recording rest collected }, [], step.state)
  | .removing count =>
    let step := Backend.answer (.remove (task.limit.key task.identifier) task.entry) store
    match step.outcome with
    | .error failure =>
      let (next, events) := task.endWith failure
      (next, events, step.state)
    | .ok _ =>
      let (next, events) := task.conclude count
      (next, events, step.state)

end Task

/-- Checks under way on one store, and the events so far. -/
structure Race where
  tasks : List Task
  store : Local
  events : List Event := []

namespace Race

/-- Let one check carry out its next command. -/
def turn (race : Race) (place : Nat) : Race :=
  match race.tasks[place]? with
  | none => race
  | some task =>
    let (next, events, store) := task.advance race.store
    ⟨race.tasks.set place next, store, race.events ++ events⟩

/-- Let checks take turns as the schedule says. -/
def run (race : Race) (schedule : List Nat) : Race := schedule.foldl turn race

/-- Begin a count of checks on one key at one instant, with consecutive numbers. -/
def start (count : Nat) (limit : Limit) (identifier : String) (now : Int) (serial : Nat)
    (store : Local) : Race :=
  let begun := (List.range count).map fun place =>
    Task.begin store.interference limit identifier now (serial + place)
  ⟨begun.map (·.1), store, begun.flatMap (·.2)⟩

/-- The outcome of each check that has ended. -/
def outcomes (race : Race) : List (Except Failure Verdict) :=
  race.tasks.filterMap fun task =>
    match task.stage with
    | .finished outcome => some outcome
    | _ => none

/-- Let a check run until it has ended; five commands are always enough. -/
def finish (race : Race) (place : Nat) : Race := race.run (List.replicate 6 place)

/-- Run every check up to its count, then let each run to its end in turn. A check whose batch is
a single command does not stop at the count. -/
def countFirst (race : Race) : Race :=
  let places := List.range race.tasks.length
  let counted := places.foldl (fun acc place =>
    match acc.tasks[place]? with
    | some ⟨_, _, _, _, .recording [_, _, _, _] []⟩ => acc.run [place, place]
    | _ => acc.finish place) race
  places.foldl finish counted

end Race

end Turnstile.Limiter
