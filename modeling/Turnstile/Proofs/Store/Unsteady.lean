import Turnstile.Proofs.Store.Ownership

/-!
# A store that may fail at every command

The commands of a call go out one after the other. Each finds the clock wherever it then stands,
and each may end with a failure instead of being carried out, which ends the call. Nothing else is
assumed of the clock and of the failures: they are the occasions ahead of the store.
-/

namespace Turnstile.Store

open Time

/-- What a command meets. -/
structure Occasion where
  /-- The reading of the clock. -/
  clock : Seconds
  /-- The failure that the command ends with instead of being carried out. -/
  failure : Option Failure := none

namespace Occasion

/-- The command does not end by an interruption. -/
def IsOrdinary (occasion : Occasion) : Prop :=
  ∀ failure, occasion.failure = some failure → failure.isInterruption = false

/-- An occasion without a failure is ordinary. -/
theorem isOrdinary_of_clock (clock : Seconds) : IsOrdinary ⟨clock, none⟩ := fun _ same => by
  cases same

/-- An occasion whose failure is no interruption is ordinary. -/
theorem isOrdinary_of_failure (clock : Seconds) {failure : Failure}
    (mild : failure.isInterruption = false) : IsOrdinary ⟨clock, some failure⟩ := by
  intro other same
  obtain rfl := Option.some.inj same
  exact mild

end Occasion

/-- A store in memory and the occasions that its next commands meet; after the last of them the
clock stands still and nothing fails. -/
structure Unsteady where
  memory : Memory
  ahead : List Occasion := []

namespace Unsteady

/-- The store at the next occasion. -/
def here (store : Unsteady) : Memory :=
  match store.ahead with
  | [] => store.memory
  | occasion :: _ => store.memory.setClock occasion.clock

/-- The failure of the next command, if it fails. -/
def refusal? (store : Unsteady) : Option Failure := store.ahead.head?.bind (·.failure)

/-- No command ahead ends by an interruption. -/
def IsOrdinary (store : Unsteady) : Prop := ∀ occasion ∈ store.ahead, occasion.IsOrdinary

/-- Carry out a command at the next occasion, unless it fails there. -/
def command (call : Call) : Action Unsteady Reply := fun store =>
  match store.refusal? with
  | some failure => ⟨.error failure, [], ⟨store.here, store.ahead.tail⟩⟩
  | none => ⟨.ok (store.here.run call).1, [], ⟨(store.here.run call).2, store.ahead.tail⟩⟩

/-- Carry out the commands of a call in turn. -/
def answer (call : Call) : Action Unsteady Reply :=
  match call.parts? with
  | some (parts, place) => do
    let replies ← runAll command parts
    return replies.getD place .nothing
  | none => command call

instance : Backend Unsteady := ⟨answer⟩

variable {owner : String → String × Int → Prop} {store : Unsteady}

/-- A command is carried out or fails. -/
theorem command_cases (ordinary : store.IsOrdinary) (call : Call) :
    command call store =
        ⟨.ok (store.here.run call).1, [], ⟨(store.here.run call).2, store.ahead.tail⟩⟩ ∨
      ∃ failure, failure.isInterruption = false ∧
        command call store = ⟨.error failure, [], ⟨store.here, store.ahead.tail⟩⟩ := by
  unfold command
  cases refused : store.refusal? with
  | none => exact .inl rfl
  | some failure =>
    obtain ⟨occasion, next, fails⟩ := Option.bind_eq_some_iff.mp refused
    exact .inr ⟨failure, ordinary occasion (List.mem_of_head? next) failure fails, rfl⟩

/-- What is ahead after the next occasion is ordinary. -/
theorem IsOrdinary.tail (ordinary : store.IsOrdinary) (memory : Memory) :
    IsOrdinary ⟨memory, store.ahead.tail⟩ := fun occasion member =>
  ordinary occasion (List.mem_of_mem_tail member)

/-- The next occasion moves the clock only. -/
theorem here_owned (held : store.memory.Owned owner) : store.here.Owned owner := by
  unfold here
  split
  · exact held
  · exact held.setClock _

/-- What holds of a store left by a call: it stays owned, no command ahead ends by an interruption,
and neither did the call. -/
structure Survives {α : Type} (owner : String → String × Int → Prop) (step : Step Unsteady α) :
    Prop where
  owned : step.state.memory.Owned owner
  ordinary : step.state.IsOrdinary
  mild : ∀ failure, step.outcome = .error failure → failure.isInterruption = false

/-- Actions in a row survive when the first does and every next one does after it. -/
theorem Survives.bind {α β : Type} {first : Action Unsteady α} {next : α → Action Unsteady β}
    (came : Survives owner (first store))
    (goes : ∀ value, (first store).outcome = .ok value →
      Survives owner (next value (first store).state)) :
    Survives owner ((first >>= next) store) := by
  cases ended : (first store).outcome with
  | error failure =>
    rw [Action.bind_apply_error ended]
    refine ⟨came.owned, came.ordinary, fun other same => came.mild other ?_⟩
    obtain rfl := Except.error.inj same
    exact ended
  | ok value =>
    rw [Action.bind_apply_ok ended]
    have last := goes value ended
    exact ⟨last.owned, last.ordinary, last.mild⟩

/-- A value leaves what is owned. -/
theorem Survives.pure {α : Type} (held : store.memory.Owned owner) (ordinary : store.IsOrdinary)
    (value : α) : Survives owner ((Pure.pure value : Action Unsteady α) store) :=
  ⟨held, ordinary, fun _ same => by cases same⟩

/-- A command survives when what it inserts has an owner. -/
theorem command_survives (held : store.memory.Owned owner) (ordinary : store.IsOrdinary)
    {call : Call} (elementary : call.parts? = none)
    (brought : ∀ key entry score, call = .add key entry score → owner key (entry, score)) :
    Survives owner (command call store) := by
  obtain served | ⟨failure, mild, failed⟩ := command_cases ordinary call
  · rw [served]
    exact ⟨(here_owned held).command elementary brought, ordinary.tail _,
      fun _ same => by cases same⟩
  · rw [failed]
    refine ⟨here_owned held, ordinary.tail _, fun other same => ?_⟩
    obtain rfl := Except.error.inj same
    exact mild

/-- Commands in turn survive when what they insert has an owner. -/
theorem runAll_survives (calls : List Call) {store : Unsteady} (held : store.memory.Owned owner)
    (ordinary : store.IsOrdinary) (elementary : ∀ call ∈ calls, call.parts? = none)
    (brought : ∀ key entry score, .add key entry score ∈ calls → owner key (entry, score)) :
    Survives owner (runAll command calls store) := by
  induction calls generalizing store with
  | nil => exact .pure held ordinary _
  | cons call rest ih =>
    have first : Survives owner (command call store) :=
      command_survives held ordinary (elementary call (List.mem_cons_self ..))
        fun key entry score same => brought key entry score (same ▸ List.mem_cons_self ..)
    refine first.bind fun reply _ => ?_
    have others := ih first.owned first.ordinary
      (fun call member => elementary call (List.mem_cons_of_mem _ member))
      fun key entry score member => brought key entry score (List.mem_cons_of_mem _ member)
    exact others.bind fun replies _ => .pure others.owned others.ordinary _

/-- A call survives when what it inserts has an owner. -/
theorem answer_survives (held : store.memory.Owned owner) (ordinary : store.IsOrdinary)
    (call : Call) (brought : ∀ key entry score, .add key entry score ∈ call.commands →
      owner key (entry, score)) : Survives owner (answer call store) := by
  unfold answer
  cases split : call.parts? with
  | none =>
    refine command_survives held ordinary split fun key entry score same => ?_
    subst same
    exact brought key entry score (List.mem_singleton_self _)
  | some batch =>
    obtain ⟨parts, place⟩ := batch
    have commands : call.commands = parts := by
      unfold Call.commands
      rw [split]
    rw [commands] at brought
    have came : Survives owner (runAll command parts store) :=
      runAll_survives parts held ordinary
        (fun part member => Call.parts?_of_mem_commands (commands ▸ member)) brought
    exact came.bind fun replies _ => .pure came.owned came.ordinary _

/-- A command that is answered was carried out. -/
theorem command_of_ok {call : Call} {reply : Reply}
    (served : (command call store).outcome = .ok reply) :
    reply = (store.here.run call).1 ∧
      (command call store).state = ⟨(store.here.run call).2, store.ahead.tail⟩ := by
  unfold command at served ⊢
  split at served
  · cases served
  · exact ⟨(Except.ok.inj served).symm, rfl⟩

/-- The next occasion moves no row. -/
theorem here_rows (store : Unsteady) (key : String) :
    store.here.rows key = store.memory.rows key := by
  unfold here
  split <;> rfl

/-- An attempt that is answered is answered with a count of distinct owned entries above its
bound. -/
theorem record_counts (held : store.memory.Owned owner) {key entry : String}
    {bound score seconds : Int} {reply : Reply}
    (served : (answer (.record key bound entry score seconds) store).outcome = .ok reply) :
    ∃ counted : List (String × Int), reply = .number counted.length ∧
      (counted.map Prod.fst).Nodup ∧ ∀ row ∈ counted, owner key row ∧ bound < row.2 := by
  obtain ⟨replies, came, chosen⟩ := Action.bind_outcome_eq_ok.mp served
  obtain ⟨_, others, first, rest, rfl⟩ := runAll_cons_outcome_eq_ok.mp came
  obtain ⟨count, last, second, _, rfl⟩ := runAll_cons_outcome_eq_ok.mp rest
  obtain rfl : count = reply := Except.ok.inj chosen
  rw [(command_of_ok first).2] at second
  obtain ⟨rfl, _⟩ := command_of_ok second
  generalize purged : (⟨(store.here.run (.purge key bound)).2, store.ahead.tail⟩ : Unsteady) = left
  have rows : left.memory.rows key = store.here.recent key bound := by
    rw [← purged]
    exact (store.here.purge_rows key key bound).trans (if_pos rfl)
  have found : (left.here.entries key).Sublist (store.here.recent key bound) := by
    rw [← rows, ← left.here_rows]
    exact left.here.entries_sublist_rows key
  have inside := store.here.recent_sublist_rows key bound
  rw [store.here_rows] at inside
  refine ⟨left.here.entries key, ?_, ?_, ?_⟩
  · exact congrArg Reply.number (left.here.count_fst key)
  · exact (held.distinct key).sublist ((found.trans inside).map Prod.fst)
  · intro row member
    refine ⟨held.owned key row ((found.trans inside).subset member), ?_⟩
    exact of_decide_eq_true (List.mem_filter.mp (found.subset member)).2

end Unsteady

end Turnstile.Store
