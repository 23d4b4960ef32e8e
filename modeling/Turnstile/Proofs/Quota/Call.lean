import Turnstile.Proofs.Action
import Turnstile.Proofs.Limiter.Calm
import Turnstile.Quota

/-!
# Calls on quotas

A call on a quota is a visit to the limiter under the limit of its scope. It finds the store's
clock where it stands and takes the next number for the entry of a check.
-/

namespace Turnstile

open Limiter Store Time

/-! ## Numbers taken -/

namespace Limiter

variable {σ : Type} [Backend σ] (limit : Limit) (identifier : String) (now : Int) (node : Node σ)

/-- A check takes one number. -/
theorem check_serial : (check limit identifier now node).state.serial = node.serial + 1 := by
  have came := enter_eq limit identifier (entryId now node.serial) now
    { node with serial := node.serial + 1 }
  simp only [check, Action.bind_apply, Node.takeSerial, orElse_state]
  rw [came.1]
  cases (entered limit identifier (entryId now node.serial) now node.store).1 <;>
    exact congrArg Node.serial came.2

/-- A look takes no number. -/
theorem status_serial : (status limit identifier now node).state.serial = node.serial := by
  simp only [status, orElse_state, Action.bind_apply, Node.call]
  cases (Backend.answer (.inspect (limit.key identifier) (now - limit.window))
    node.store).outcome with
  | error failure => rfl
  | ok reply =>
    simp only
    cases reply.toCount <;> rfl

/-- A reset takes no number. -/
theorem reset_serial : (reset limit identifier node).state.serial = node.serial := by
  simp only [reset, orElse_state, Action.bind_apply, Node.call]
  cases (Backend.answer (.delete (limit.key identifier)) node.store).outcome <;> rfl

/-- A visit takes a number for its check alone. -/
theorem Visit.perform_serial {ω : Type} (visit : Visit ω) :
    (visit.perform node).state.serial =
      node.serial + if visit.request = .check then 1 else 0 := by
  unfold perform
  cases visit.request with
  | check =>
    simp only [bind_return_state]
    exact check_serial ..
  | status =>
    simp only [bind_return_state]
    exact status_serial ..
  | reset =>
    simp only
    rw [bind_return_state (reset visit.limit visit.identifier) fun _ => none]
    exact reset_serial ..

end Limiter

/-- Looking a limit up only reports. -/
theorem Policy.find_bind {ν α : Type} (policy : Policy) (scope : Scope)
    (next : Limit → Action ν α) (state : ν) :
    ((policy.find scope >>= next) state).outcome = (next (policy.limitOf scope) state).outcome ∧
      ((policy.find scope >>= next) state).state = (next (policy.limitOf scope) state).state := by
  unfold Policy.find
  cases (policy.own scope).isNone <;> exact ⟨rfl, rfl⟩

namespace Quota

section Calls

variable {σ : Type} [Backend σ]

/-- One call on a quota; a reset answers nothing. -/
def call (policy : Policy) (request : Limiter.Request) (scope : Scope) (identifier : String)
    (now : Int) : Action (Node σ) (Option Verdict) :=
  match request with
  | .check => do return some (← check policy scope identifier now)
  | .status => do return some (← status policy scope identifier now)
  | .reset => do
    reset policy scope identifier
    return none

end Calls

variable (policy : Policy) (request : Limiter.Request) (scope : Scope) (identifier : String)
  (now : Int)

/-- The visit to the limiter that a call makes. -/
def visit (node : Node Local) : Visit Seconds where
  request := request
  limit := policy.limitOf scope
  identifier := identifier
  now := now
  serial := node.serial
  around := node.store.memory.clock

/-- A call does what its visit does. -/
theorem call_eq_perform (node : Node Local) :
    (call policy request scope identifier now node).outcome =
        ((visit policy request scope identifier now node).perform node).outcome ∧
      (call policy request scope identifier now node).state =
        ((visit policy request scope identifier now node).perform node).state := by
  cases request with
  | check =>
    obtain ⟨outcome, state⟩ := policy.find_bind scope
      (fun limit => Limiter.check limit identifier now) node
    constructor
    · calc
        _ = Except.map some (check policy scope identifier now node).outcome :=
          bind_return_outcome ..
        _ = Except.map some (Limiter.check (policy.limitOf scope) identifier now node).outcome :=
          congrArg _ outcome
        _ = _ := (bind_return_outcome ..).symm
    · exact (bind_return_state ..).trans (state.trans (bind_return_state ..).symm)
  | status =>
    obtain ⟨outcome, state⟩ := policy.find_bind scope
      (fun limit => Limiter.status limit identifier now) node
    constructor
    · calc
        _ = Except.map some (status policy scope identifier now node).outcome :=
          bind_return_outcome ..
        _ = Except.map some (Limiter.status (policy.limitOf scope) identifier now node).outcome :=
          congrArg _ outcome
        _ = _ := (bind_return_outcome ..).symm
    · exact (bind_return_state ..).trans (state.trans (bind_return_state ..).symm)
  | reset =>
    obtain ⟨outcome, state⟩ := policy.find_bind scope
      (fun limit => Limiter.reset limit identifier) node
    constructor
    · calc
        _ = Except.map (fun _ => none) (reset policy scope identifier node).outcome :=
          bind_return_outcome (reset policy scope identifier) _ node
        _ = Except.map (fun _ => none)
            (Limiter.reset (policy.limitOf scope) identifier node).outcome := congrArg _ outcome
        _ = _ := (bind_return_outcome (Limiter.reset _ identifier) _ node).symm
    · exact (bind_return_state (reset policy scope identifier) _ node).trans
        (state.trans (bind_return_state (Limiter.reset _ identifier) _ node).symm)

/-- A call comes to its visit: the answer, the store left, and the number taken. -/
theorem call_eq_serve (node : Node Local) :
    (call policy request scope identifier now node).outcome =
        ((visit policy request scope identifier now node).serve node.store).1 ∧
      (call policy request scope identifier now node).state =
        ⟨((visit policy request scope identifier now node).serve node.store).2,
          node.serial + if request = .check then 1 else 0⟩ := by
  obtain ⟨outcome, state⟩ := call_eq_perform policy request scope identifier now node
  have serial := Visit.perform_serial node (visit policy request scope identifier now node)
  refine ⟨outcome, state.trans ?_⟩
  generalize ended : (visit policy request scope identifier now node).perform node = step at serial
  obtain ⟨_, _, ⟨left, number⟩⟩ := step
  obtain rfl : number = _ := serial
  have store : ((visit policy request scope identifier now node).serve node.store).2 = left :=
    congrArg (fun step => step.state.store) ended
  rw [store]
  rfl

end Quota

end Turnstile
