import Turnstile.Log.Event

/-!
# Actions

An action reads and changes a state, reports events and either yields a value or ends with a
failure. The state it leaves and the events it reports stand in either case, so a failure half way
undoes nothing. The laws below open sequences of actions one step at a time.
-/

namespace Turnstile

open Log

/-- What an action leaves behind. -/
structure Step (ν α : Type) where
  outcome : Except Failure α
  events : List Event
  state : ν

/-- An activity on a state. -/
def Action (ν α : Type) := ν → Step ν α

namespace Action

variable {ν α β : Type}

/-- Yield a value and leave the state. -/
def done (value : α) : Action ν α := fun state => ⟨.ok value, [], state⟩

/-- Carry on with the value of the first action, unless it failed. -/
def andThen (first : Action ν α) (next : α → Action ν β) : Action ν β := fun state =>
  let step := first state
  match step.outcome with
  | .error failure => ⟨.error failure, step.events, step.state⟩
  | .ok value =>
    let last := next value step.state
    ⟨last.outcome, step.events ++ last.events, last.state⟩

instance : Monad (Action ν) where
  pure := done
  bind := andThen

/-- End with a failure. -/
def fail (failure : Failure) : Action ν α := fun state => ⟨.error failure, [], state⟩

/-- Report an event. -/
def report (event : Event) : Action ν Unit := fun state => ⟨.ok (), [event], state⟩

/-- Yield the outcome of an action as a value. -/
def attempt (action : Action ν α) : Action ν (Except Failure α) := fun state =>
  let step := action state
  ⟨.ok step.outcome, step.events, step.state⟩

/-- Yield a value that is there or end with its failure. -/
def ofExcept : Except Failure α → Action ν α
  | .ok value => done value
  | .error failure => fail failure

/-- A value ends at once. -/
@[simp] theorem pure_apply (value : α) (state : ν) :
    (pure value : Action ν α) state = ⟨.ok value, [], state⟩ := rfl

/-- Two activities in a row: a failure of the first ends both. -/
theorem bind_apply (first : Action ν α) (next : α → Action ν β) (state : ν) :
    (first >>= next) state =
      match (first state).outcome with
      | .error failure => ⟨.error failure, (first state).events, (first state).state⟩
      | .ok value =>
        let last := next value (first state).state
        ⟨last.outcome, (first state).events ++ last.events, last.state⟩ := rfl

/-- After a value, a sequence goes on from the state left behind. -/
theorem bind_apply_ok {first : Action ν α} {next : α → Action ν β} {state : ν} {value : α}
    (h : (first state).outcome = .ok value) :
    (first >>= next) state =
      ⟨(next value (first state).state).outcome,
        (first state).events ++ (next value (first state).state).events,
        (next value (first state).state).state⟩ := by
  rw [bind_apply, h]

/-- After a failure, a sequence stops with the state left behind. -/
theorem bind_apply_error {first : Action ν α} {next : α → Action ν β} {state : ν}
    {failure : Failure} (h : (first state).outcome = .error failure) :
    (first >>= next) state = ⟨.error failure, (first state).events, (first state).state⟩ := by
  rw [bind_apply, h]

/-- A sequence yields a value exactly when its parts do in turn. -/
theorem bind_outcome_eq_ok {first : Action ν α} {next : α → Action ν β} {state : ν} {value : β} :
    ((first >>= next) state).outcome = .ok value ↔
      ∃ middle, (first state).outcome = .ok middle ∧
        (next middle (first state).state).outcome = .ok value := by
  rw [bind_apply]
  cases (first state).outcome with
  | error failure => simp
  | ok middle => simp

end Action

end Turnstile
