import Turnstile.Proofs.Log.Fields
import Turnstile.Proofs.Service.Exchanges

/-!
# How the service conducts itself

All that the service does to its node is to call the store and to take numbers, and no event that it
reports names a request by itself. Each rule says so of a way of putting activities together; the
walk over the service then also tells what kind of value an activity yields.
-/

namespace Turnstile

open Http Log Store

/-- What calls of the store and taking numbers lead to. -/
inductive Node.Reaches {σ : Type} [Backend σ] (start : Node σ) : Node σ → Prop
  | start : Reaches start start
  | call {node : Node σ} (request : Call) (before : Reaches start node) :
    Reaches start (Node.call request node).state
  | take {node : Node σ} (before : Reaches start node) :
    Reaches start { node with serial := node.serial + 1 }

namespace Node.Reaches

variable {σ : Type} [Backend σ] {first second third : Node σ}

/-- What a node leads to leads on. -/
theorem trans (before : first.Reaches second) (after : second.Reaches third) :
    first.Reaches third := by
  induction after with
  | start => exact before
  | call request _ ih => exact ih.call request
  | take _ ih => exact ih.take

/-- Numbers are never given back. -/
theorem serial_le (reaches : first.Reaches second) : first.serial ≤ second.serial := by
  induction reaches with
  | start => exact Nat.le_refl _
  | call request _ ih => exact ih
  | take _ ih => exact Nat.le_succ_of_le ih

/-- What every call keeps of a store is kept. -/
theorem store_induction {kept : σ → Prop}
    (calls : ∀ request store, kept store → kept (Backend.answer request store).state)
    (reaches : first.Reaches second) (holds : kept first.store) : kept second.store := by
  induction reaches with
  | start => exact holds
  | call request _ ih => exact calls request _ ih
  | take _ ih => exact ih

end Node.Reaches

/-- The event is one that a call of the store reports. -/
def Log.Event.IsOfStore (σ : Type) [Backend σ] (event : Event) : Prop :=
  ∃ call, ∃ store : σ, event ∈ (Backend.answer call store).events

/-- The activity calls the store and takes numbers, reports nothing under the name of a request
that is not of the store, and yields values of a kind only. -/
structure Conducts {σ : Type} [Backend σ] {α : Type} (kind : α → Prop)
    (action : Action (Node σ) α) : Prop where
  reaches : ∀ node : Node σ, node.Reaches (action node).state
  unclaimed : ∀ node : Node σ, ∀ event ∈ (action node).events,
    event.IsUnclaimed ∨ event.IsOfStore σ
  yields : ∀ (node : Node σ) value, (action node).outcome = .ok value → kind value

/-- The activity calls the store and takes numbers, and reports nothing under the name of a request
that is not of the store. -/
abbrev IsOrderly {σ : Type} [Backend σ] {α : Type} (action : Action (Node σ) α) : Prop :=
  Conducts (fun _ => True) action

namespace Conducts

variable {σ : Type} [Backend σ] {α β : Type} {kind : α → Prop} {other : β → Prop}
  {action : Action (Node σ) α} {next : α → Action (Node σ) β}

/-- A step that leaves the node and reports nothing. -/
theorem of_still {outcome : Except Failure α} (still : ∀ node, action node = ⟨outcome, [], node⟩)
    (yields : ∀ value, outcome = .ok value → kind value) : Conducts kind action where
  reaches node := by
    rw [still]
    exact .start
  unclaimed node event member := by
    rw [still] at member
    cases member
  yields node value told := by
    rw [still] at told
    exact yields value told

/-- A value conducts, if it is of the kind. -/
theorem pure {value : α} (fine : kind value) :
    Conducts kind (Pure.pure value : Action (Node σ) α) :=
  of_still (fun _ => rfl) fun _ same => Except.ok.inj same ▸ fine

/-- A failure conducts. -/
theorem fail (failure : Failure) : Conducts kind (Action.fail failure : Action (Node σ) α) :=
  of_still (fun _ => rfl) fun _ same => nomatch same

/-- An outcome conducts, if its value is of the kind. -/
theorem ofExcept {outcome : Except Failure α} (fine : ∀ value, outcome = .ok value → kind value) :
    Conducts kind (Action.ofExcept outcome : Action (Node σ) α) :=
  of_still (Action.ofExcept_apply outcome) fine

/-- Reporting an event that names no request is orderly. -/
theorem report {event : Event} (unclaimed : event.IsUnclaimed) :
    IsOrderly (Action.report event : Action (Node σ) Unit) where
  reaches _ := .start
  unclaimed _ _ member := .inl (List.mem_singleton.mp member ▸ unclaimed)
  yields _ _ _ := trivial

/-- A call of the store is orderly. -/
theorem call (request : Call) : IsOrderly (Node.call request : Action (Node σ) Reply) where
  reaches _ := .call request .start
  unclaimed node _ member := .inr ⟨request, node.store, member⟩
  yields _ _ _ := trivial

/-- Taking a number is orderly. -/
theorem takeSerial : IsOrderly (Node.takeSerial : Action (Node σ) Nat) where
  reaches _ := .take .start
  unclaimed _ _ member := nomatch member
  yields _ _ _ := trivial

/-- One activity after another. -/
theorem bind (first : Conducts kind action)
    (others : ∀ value, kind value → Conducts other (next value)) :
    Conducts other (action >>= next) where
  reaches node := by
    cases outcome : (action node).outcome with
    | error failure =>
      rw [Action.bind_apply_error outcome]
      exact first.reaches node
    | ok value =>
      rw [Action.bind_apply_ok outcome]
      have later := others value (first.yields node value outcome)
      exact (first.reaches node).trans (later.reaches _)
  unclaimed node event member := by
    cases outcome : (action node).outcome with
    | error failure =>
      rw [Action.bind_apply_error outcome] at member
      exact first.unclaimed node event member
    | ok value =>
      rw [Action.bind_apply_ok outcome] at member
      have later := others value (first.yields node value outcome)
      rcases List.mem_append.mp member with before | after
      · exact first.unclaimed node event before
      · exact later.unclaimed _ event after
  yields node value told := by
    obtain ⟨middle, outcome, told⟩ := Action.bind_outcome_eq_ok.mp told
    exact (others middle (first.yields node middle outcome)).yields _ value told

/-- An event that names no request may be reported before what conducts. -/
theorem report_bind {event : Event} {next : Unit → Action (Node σ) β}
    (unclaimed : event.IsUnclaimed) (others : Conducts other (next ())) :
    Conducts other (Action.report event >>= next) :=
  (report unclaimed).bind fun _ _ => others

/-- What follows a failure conducts. -/
theorem fail_bind (failure : Failure) : Conducts other (Action.fail failure >>= next) :=
  @bind σ _ α β (fun _ => False) other _ _ (fail failure) fun _ none => none.elim

/-- An activity whose failure is looked at. -/
theorem attempt (conducts : Conducts kind action) :
    Conducts (fun outcome => ∀ value, outcome = .ok value → kind value) action.attempt where
  reaches := conducts.reaches
  unclaimed := conducts.unclaimed
  yields node _ told value same :=
    conducts.yields node value ((Except.ok.inj told).trans same)

/-- Orderly steps over a list are orderly. -/
theorem mapM {γ : Type} {step : γ → Action (Node σ) α} (orderly : ∀ item, IsOrderly (step item))
    (items : List γ) : IsOrderly (items.mapM step) := by
  induction items with
  | nil => exact .pure trivial
  | cons item rest ih =>
    rw [List.mapM_cons]
    apply (orderly item).bind
    intro _ _
    apply ih.bind
    intro _ _
    exact .pure trivial

end Conducts

section Walking

variable {σ : Type} [Backend σ]

/-! ## The limiter -/

/-- Finding a limit is orderly. -/
theorem Policy.find_conducts (policy : Policy) (scope : Scope) :
    IsOrderly (policy.find scope : Action (Node σ) Limit) := by
  unfold Policy.find
  split
  · refine .report_bind rfl ?_
    exact .pure trivial
  · exact .pure trivial

/-- Listing the limits is orderly. -/
theorem Policy.listing_conducts (policy : Policy) :
    IsOrderly (policy.listing : Action (Node σ) (List (Scope × Limit))) := by
  apply Conducts.mapM
  intro scope
  apply (policy.find_conducts scope).bind
  intro _ _
  exact .pure trivial

namespace Limiter

variable (limit : Limit) (identifier : String) (now : Int)

/-- Standing in for an orderly activity is orderly. -/
theorem orElse_conducts {α : Type} {action : Action (Node σ) α} (orderly : IsOrderly action)
    (operation : String) (substitute : α) :
    IsOrderly (orElse action operation limit identifier substitute) := by
  apply orderly.attempt.bind
  intro outcome _
  cases outcome with
  | ok value => exact .pure trivial
  | error failure =>
    simp only
    split
    · exact .fail failure
    · refine .report_bind rfl ?_
      exact .pure trivial

/-- Entering an attempt is orderly. -/
theorem enter_conducts (entry : String) :
    IsOrderly (enter limit identifier entry now : Action (Node σ) Int) := by
  apply (Conducts.ofExcept fun _ _ => trivial).bind
  intro seconds _
  apply (Conducts.call _).bind
  intro reply _
  apply (Conducts.ofExcept fun _ _ => trivial).bind
  intro count _
  split
  · exact .pure trivial
  · apply (Conducts.call _).bind
    intro _ _
    exact .pure trivial

/-- A check is orderly. -/
theorem check_conducts : IsOrderly (check limit identifier now : Action (Node σ) Verdict) := by
  apply Conducts.takeSerial.bind
  intro serial _
  apply orElse_conducts
  apply (enter_conducts limit identifier now _).bind
  intro count _
  refine .report_bind rfl ?_
  exact .pure trivial

/-- A look is orderly. -/
theorem status_conducts : IsOrderly (status limit identifier now : Action (Node σ) Verdict) := by
  apply orElse_conducts
  apply (Conducts.call _).bind
  intro reply _
  apply (Conducts.ofExcept fun _ _ => trivial).bind
  intro count _
  exact .pure trivial

/-- A reset is orderly. -/
theorem reset_conducts : IsOrderly (reset limit identifier : Action (Node σ) Unit) := by
  apply orElse_conducts
  apply (Conducts.call _).bind
  intro _ _
  exact .report rfl

end Limiter

namespace Quota

variable (policy : Policy) (scope : Scope) (identifier : String) (now : Int)

/-- A check of a quota is orderly. -/
theorem check_conducts :
    IsOrderly (check policy scope identifier now : Action (Node σ) Verdict) := by
  apply (policy.find_conducts scope).bind
  intro limit _
  exact Limiter.check_conducts limit identifier now

/-- A look at a quota is orderly. -/
theorem status_conducts :
    IsOrderly (status policy scope identifier now : Action (Node σ) Verdict) := by
  apply (policy.find_conducts scope).bind
  intro limit _
  exact Limiter.status_conducts limit identifier now

/-- A reset of a quota is orderly. -/
theorem reset_conducts : IsOrderly (reset policy scope identifier : Action (Node σ) Unit) := by
  apply (policy.find_conducts scope).bind
  intro limit _
  exact Limiter.reset_conducts limit identifier

/-- Looks at several quotas are orderly. -/
theorem statuses_conducts (scopes : List (String × Scope)) :
    IsOrderly (statuses policy scopes identifier now :
      Action (Node σ) (List (String × Verdict))) := by
  apply Conducts.mapM
  intro entry
  apply (status_conducts policy entry.2 identifier now).bind
  intro _ _
  exact .pure trivial

end Quota

/-! ## The guard -/

namespace Guard

variable (guard : Guard) (identifier : String) (clocks : Clocks)

/-- Rejecting is orderly. -/
theorem reject_conducts (admission : Admission) :
    IsOrderly (guard.reject admission identifier clocks : Action (Node σ) Admission) := by
  apply (Conducts.ofExcept fun _ _ => trivial).bind
  intro wait _
  refine .report_bind rfl ?_
  simp only
  split
  · apply (Conducts.ofExcept fun _ _ => trivial).bind
    intro described _
    exact .fail _
  · exact .fail _

/-- Settling a verdict is orderly. -/
theorem settle_conducts (scope : Scope) (verdict : Verdict) :
    IsOrderly (guard.settle scope identifier clocks verdict : Action (Node σ) Admission) := by
  apply (guard.policy.find_conducts scope).bind
  intro limit _
  simp only
  split
  · exact .pure trivial
  · exact guard.reject_conducts identifier clocks _

/-- Enforcing a quota is orderly. -/
theorem enforce_conducts (scope : Scope) :
    IsOrderly (guard.enforce scope identifier clocks : Action (Node σ) Admission) := by
  apply (Quota.check_conducts guard.policy scope identifier clocks.limiter).bind
  intro verdict _
  exact guard.settle_conducts identifier clocks scope verdict

/-- Enforcing the quota of an address is orderly. -/
theorem enforceEmail_conducts (address : String) :
    IsOrderly (guard.enforceEmail address clocks : Action (Node σ) Admission) :=
  guard.enforce_conducts (normalizeEmail address) clocks .invitationEmail

/-- Enforcing the quotas of scopes is orderly. -/
theorem enforceScopes_conducts (operation : Operation) (principal : Principal)
    (address : Option String) (scopes : List Scope) (last : Option Admission) :
    IsOrderly (guard.enforceScopes operation principal address clocks scopes last :
      Action (Node σ) (Option Admission)) := by
  induction scopes generalizing last with
  | nil => exact .pure trivial
  | cons scope rest ih =>
    unfold enforceScopes
    split
    · refine .report_bind rfl ?_
      exact ih last
    · apply (guard.enforce_conducts _ clocks scope).bind
      intro admission _
      exact ih (some admission)

/-- Evaluating an operation is orderly. -/
theorem evaluate_conducts (operation : Operation) (principal : Principal)
    (address : Option String) (sparesAdmins : Bool) :
    IsOrderly (guard.evaluate operation principal address clocks sparesAdmins :
      Action (Node σ) (Option Admission)) := by
  rw [evaluate]
  cases sparesAdmins && principal.isAdmin with
  | true =>
    refine .report_bind rfl ?_
    exact .pure trivial
  | false =>
    apply (guard.enforceScopes_conducts clocks operation principal address _ none).bind
    intro last _
    cases last with
    | none => exact .pure trivial
    | some admission =>
      refine .report_bind rfl ?_
      exact .pure trivial

end Guard

end Walking

end Turnstile
