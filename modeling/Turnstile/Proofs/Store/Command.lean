import Turnstile.Proofs.Store.Memory

/-!
# Calls as commands

A call consists of the elementary commands of its batch, or of itself. On the store in memory the
commands in turn leave what the call leaves, and one of their replies is the reply of the call.
-/

namespace Turnstile.Store

/-- A command of a call consists of no others. -/
theorem Call.parts?_of_mem_commands {call command : Call} (member : command ∈ call.commands) :
    command.parts? = none := by
  cases call with
  | record key bound entry score seconds =>
    simp only [commands, parts?, List.mem_cons, List.not_mem_nil, or_false] at member
    rcases member with rfl | rfl | rfl | rfl <;> rfl
  | inspect key bound =>
    simp only [commands, parts?, List.mem_cons, List.not_mem_nil, or_false] at member
    rcases member with rfl | rfl <;> rfl
  | _ =>
    obtain rfl := List.mem_singleton.mp member
    rfl

/-- A batch has a first command. -/
theorem Call.exists_cons_of_parts? {call : Call} {parts : List Call} {place : Nat}
    (split : call.parts? = some (parts, place)) : ∃ first others, parts = first :: others := by
  cases call with
  | record =>
    obtain ⟨rfl, _⟩ := Prod.mk.inj (Option.some.inj split)
    exact ⟨_, _, rfl⟩
  | inspect =>
    obtain ⟨rfl, _⟩ := Prod.mk.inj (Option.some.inj split)
    exact ⟨_, _, rfl⟩
  | _ => cases split

/-- Calls in turn are all answered exactly when the first and the others are. -/
theorem runAll_cons_outcome_eq_ok {σ : Type} {perform : Call → Action σ Reply} {call : Call}
    {rest : List Call} {store : σ} {replies : List Reply} :
    (runAll perform (call :: rest) store).outcome = .ok replies ↔
      ∃ reply others, (perform call store).outcome = .ok reply ∧
        (runAll perform rest (perform call store).state).outcome = .ok others ∧
        replies = reply :: others := by
  simp only [runAll, Action.bind_outcome_eq_ok, Action.pure_apply, Except.ok.injEq,
    exists_and_left]
  constructor
  · rintro ⟨reply, answered, others, ended, rfl⟩
    exact ⟨reply, answered, others, ended, rfl⟩
  · rintro ⟨reply, answered, others, ended, rfl⟩
    exact ⟨reply, answered, others, ended, rfl⟩

namespace Memory

/-- The store after calls in turn. -/
def after (calls : List Call) (memory : Memory) : Memory :=
  calls.foldl (fun state call => (state.run call).2) memory

/-- The replies to calls in turn. -/
def replies : List Call → Memory → List Reply
  | [], _ => []
  | call :: rest, memory => (memory.run call).1 :: replies rest (memory.run call).2

/-- A call leaves the store as its commands in turn. -/
theorem run_eq_after (call : Call) (memory : Memory) :
    (memory.run call).2 = memory.after call.commands := by
  cases call <;> rfl

/-- The parts of a batch leave the store as the batch does, and the reply at its place is the
reply of the batch. -/
theorem parts_run {call : Call} {parts : List Call} {place : Nat}
    (split : call.parts? = some (parts, place)) (memory : Memory) :
    memory.after parts = (memory.run call).2 ∧
      (memory.replies parts).getD place .nothing = (memory.run call).1 := by
  cases call with
  | record key bound entry score seconds =>
    obtain ⟨rfl, rfl⟩ := Prod.mk.inj (Option.some.inj split)
    exact ⟨rfl, rfl⟩
  | inspect key bound =>
    obtain ⟨rfl, rfl⟩ := Prod.mk.inj (Option.some.inj split)
    exact ⟨rfl, rfl⟩
  | _ => cases split

end Memory

end Turnstile.Store
