import Turnstile.Action

/-!
# Laws of actions

Actions form a lawful monad: events are reported in the order of the steps, however these are
grouped.
-/

namespace Turnstile.Action

variable {ν α β γ : Type}

/-- To yield the value of an activity adds nothing to it. -/
theorem bind_pure (action : Action ν α) : action >>= pure = action := by
  funext state
  rw [bind_apply]
  rcases action state with ⟨outcome, events, left⟩
  cases outcome with
  | error failure => rfl
  | ok value => simp only [pure_apply, List.append_nil]

/-- What follows a value starts with it. -/
theorem pure_bind (value : α) (next : α → Action ν β) : pure value >>= next = next value := by
  funext state
  simp only [bind_apply, pure_apply, List.nil_append]

/-- Activities in a row may be grouped either way. -/
theorem bind_assoc (action : Action ν α) (next : α → Action ν β) (last : β → Action ν γ) :
    action >>= next >>= last = action >>= fun value => next value >>= last := by
  funext state
  simp only [bind_apply]
  cases (action state).outcome with
  | error failure => rfl
  | ok value =>
    simp only
    cases (next value (action state).state).outcome with
    | error failure => rfl
    | ok middle => simp only [List.append_assoc]

instance : LawfulMonad (Action ν) := LawfulMonad.mk' _ bind_pure pure_bind bind_assoc

/-- A value that is there, or a failure, leaves the state. -/
theorem ofExcept_apply (outcome : Except Failure α) (state : ν) :
    ofExcept outcome state = ⟨outcome, [], state⟩ := by
  cases outcome <;> rfl

/-- A sequence goes on with a value that is there. -/
theorem ofExcept_ok_bind (value : α) (next : α → Action ν β) :
    (ofExcept (.ok value) >>= next) = next value := rfl

/-- A sequence ends with a failure in the place of a value. -/
theorem ofExcept_error_bind (failure : Failure) (next : α → Action ν β) :
    (ofExcept (.error failure) >>= next) = fail failure := rfl

/-- A sequence leaves the state as its first action does, if what follows leaves it alone. -/
theorem bind_state_of_still {action : Action ν α} {next : α → Action ν β}
    (still : ∀ value state, (next value state).state = state) (state : ν) :
    ((action >>= next) state).state = (action state).state := by
  rw [bind_apply]
  cases (action state).outcome with
  | error failure => rfl
  | ok value => exact still value _

/-- A report stands before what follows. -/
theorem report_bind_apply (event : Log.Event) (next : Unit → Action ν α) (state : ν) :
    (report event >>= next) state =
      ⟨(next () state).outcome, event :: (next () state).events, (next () state).state⟩ := rfl

/-- An action for each element in turn yields the value of each, when each action keeps what its
value is told under. -/
theorem mapM_spec {made : α → β} {action : α → Action ν β} {kept : ν → Prop}
    (step : ∀ element state, kept state →
      (action element state).outcome = .ok (made element) ∧ kept (action element state).state)
    (elements : List α) {state : ν} (before : kept state) :
    (elements.mapM action state).outcome = .ok (elements.map made) ∧
      kept (elements.mapM action state).state := by
  induction elements generalizing state with
  | nil => exact ⟨rfl, before⟩
  | cons element rest ih =>
    obtain ⟨first, between⟩ := step element state before
    obtain ⟨others, after⟩ := ih between
    rw [List.mapM_cons, bind_apply_ok first, bind_apply_ok others]
    exact ⟨rfl, after⟩

end Turnstile.Action
