import Turnstile.Proofs.Guard.Trying
import Turnstile.Proofs.Quota.Call

/-!
# What the guard checks on any store

On any store, also on one that interrupts its calls, an operation checks the charges that apply in
turn, each on what the one before it left, up to the first that is denied or interrupted. The node
is left as the last of these checks leaves it, and nothing else touches it.
-/

namespace Turnstile

open Limiter Quota Store

namespace Trial

variable {σ : Type} [Backend σ] (trial : Trial σ)

/-- Its check by the limiter. -/
def checked : Step (Node σ) Verdict :=
  check trial.limit trial.identifier trial.now trial.found

/-- Its check is answered, and admits. -/
def passes : Bool := trial.checked.outcome.toOption.any (·.allowed)

/-- A check leaves the node as its attempt does, also when it is interrupted. -/
theorem checked_state : trial.checked.state = trial.left := by
  have store := check_store trial.limit trial.identifier trial.now trial.found
  have serial := check_serial trial.limit trial.identifier trial.now trial.found
  unfold checked left
  generalize check trial.limit trial.identifier trial.now trial.found = step at store serial
  obtain ⟨outcome, events, ⟨left, next⟩⟩ := step
  exact congrArg₂ Node.mk store serial

end Trial

section Checks

variable {σ : Type} [Backend σ] (policy : Policy) (now : Int)

/-- The checks of charges in turn, each on the node that the one before it left, up to the first
that does not pass. -/
def checks : List (Scope × String) → Node σ → List (Trial σ)
  | [], _ => []
  | charge :: rest, node =>
    let trial : Trial σ := ⟨charge.1, charge.2, policy.limitOf charge.1, now, node⟩
    trial :: if trial.passes then checks rest trial.left else []

variable {policy now}

/-- Only charges are checked. -/
theorem mem_of_mem_checks {charges : List (Scope × String)} {node : Node σ} {trial : Trial σ}
    (member : trial ∈ checks policy now charges node) :
    (trial.scope, trial.identifier) ∈ charges := by
  induction charges generalizing node with
  | nil => cases member
  | cons charge rest ih =>
    rcases List.mem_cons.mp member with rfl | later
    · exact List.mem_cons_self
    · split at later
      · exact List.mem_cons_of_mem _ (ih later)
      · cases later

/-- On a store that can be put up with no check is interrupted, so that the checks are the
trials. -/
theorem checks_eq_trials {usable : σ → Prop} (tolerable : Tolerable usable)
    (charges : List (Scope × String)) {node : Node σ} (fine : usable node.store) :
    checks policy now charges node = trials policy now charges node := by
  induction charges generalizing node with
  | nil => rfl
  | cons charge rest ih =>
    let trial : Trial σ := ⟨charge.1, charge.2, policy.limitOf charge.1, now, node⟩
    have told : trial.checked.outcome = .ok trial.verdict :=
      (tolerable.check trial.limit trial.identifier trial.now fine).1
    have passes : trial.passes = trial.verdict.allowed := by
      rw [Trial.passes, told]
      rfl
    have still : usable trial.left.store := (tolerable.entered _ _ _ _ fine).1
    simp only [checks, trials]
    rw [passes, ih still]

end Checks

namespace Guard

variable (guard : Guard) {σ : Type} [Backend σ] (clocks : Clocks)

/-- Enforcing a scope makes one check, and is refused unless that passes. -/
theorem enforce_checked (scope : Scope) (identifier : String) (node : Node σ) :
    let trial : Trial σ := ⟨scope, identifier, guard.policy.limitOf scope, clocks.limiter, node⟩
    (guard.enforce scope identifier clocks node).outcome.toOption.isSome = trial.passes ∧
      (guard.enforce scope identifier clocks node).state = trial.left := by
  intro trial
  obtain ⟨outcome, state⟩ := guard.policy.find_bind scope
    (fun limit => Limiter.check limit identifier clocks.limiter) node
  have told : (Quota.check guard.policy scope identifier clocks.limiter node).outcome =
      trial.checked.outcome := outcome
  have left : (Quota.check guard.policy scope identifier clocks.limiter node).state =
      trial.left := state.trans trial.checked_state
  unfold Trial.passes enforce
  cases ended : trial.checked.outcome with
  | error failure =>
    rw [Action.bind_apply_error (told.trans ended), left]
    exact ⟨rfl, rfl⟩
  | ok verdict =>
    obtain ⟨settled, kept⟩ := guard.settle_eq scope identifier clocks verdict trial.left
    rw [Action.bind_apply_ok (told.trans ended), left, settled, kept]
    refine ⟨?_, rfl⟩
    cases allowed : verdict.allowed <;> exact allowed.symm

/-- Enforcing scopes checks those that apply, in order. -/
theorem enforceScopes_state (operation : Operation) (principal : Principal)
    (address : Option String) (scopes : List Scope) (last : Option Admission) (node : Node σ) :
    (guard.enforceScopes operation principal address clocks scopes last node).state =
      leftBy node (checks guard.policy clocks.limiter (scopes.filterMap fun scope =>
        (Principal.nonEmpty? (scope.identifier? principal address)).map (scope, ·)) node) := by
  induction scopes generalizing last node with
  | nil => rfl
  | cons scope rest ih =>
    rw [List.filterMap_cons, enforceScopes]
    cases Principal.nonEmpty? (scope.identifier? principal address) with
    | none => exact ih last node
    | some identifier =>
      obtain ⟨outcome, left⟩ := guard.enforce_checked clocks scope identifier node
      simp only [Option.map_some, checks, leftBy_cons]
      cases ended : (guard.enforce scope identifier clocks node).outcome with
      | error failure =>
        rw [ended] at outcome
        rw [Action.bind_apply_error ended, left, ← outcome]
        rfl
      | ok admission =>
        rw [ended] at outcome
        rw [Action.bind_apply_ok ended, left, ← outcome]
        exact ih (some admission) _

/-- An operation that spares nobody leaves the node as the checks of its scopes do. -/
theorem evaluate_state (operation : Operation) (principal : Principal) (address : Option String)
    {sparesAdmins : Bool} (charged : (sparesAdmins && principal.isAdmin) = false)
    (node : Node σ) :
    (guard.evaluate operation principal address clocks sparesAdmins node).state =
      leftBy node (checks guard.policy clocks.limiter (operation.charges principal address)
        node) := by
  rw [evaluate, charged]
  simp only [Bool.false_eq_true, if_false]
  rw [Action.bind_state_of_still fun last found => ?_]
  · exact guard.enforceScopes_state clocks operation principal address operation.scopes none node
  · cases last <;> rfl

end Guard

end Turnstile
