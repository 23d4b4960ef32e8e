import Turnstile.Proofs.Store.Command

/-!
# Calls that fail half way

A call on the store in memory meets a fate: it is carried out, or a failure cuts it off after some
of the commands that it consists of. The clock stands still meanwhile.
-/

namespace Turnstile.Store

/-- What becomes of a call. -/
inductive Fate where
  /-- It is carried out and answered. -/
  | served
  /-- It ends with a failure after that many of its commands. -/
  | cut (done : Nat) (failure : Failure)

namespace Fate

/-- The call is carried out and answered. -/
def isServed : Fate → Bool
  | .served => true
  | .cut .. => false

end Fate

/-- The outcome of a call that meets a fate, and the store afterwards. -/
def Memory.meet (fate : Fate) (call : Call) (memory : Memory) : Except Failure Reply × Memory :=
  match fate with
  | .served => (.ok (memory.run call).1, (memory.run call).2)
  | .cut done failure => (.error failure, memory.after (call.commands.take done))

/-- A store in memory whose calls meet one fate. -/
structure Faulty where
  memory : Memory
  fate : Fate

instance : Backend Faulty where
  answer call := fun store =>
    ⟨(store.memory.meet store.fate call).1, [],
      { store with memory := (store.memory.meet store.fate call).2 }⟩

end Turnstile.Store
