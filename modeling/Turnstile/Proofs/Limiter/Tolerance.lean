import Turnstile.Proofs.Quota.Call
import Turnstile.Proofs.Store.Mildness

/-!
# Calls on a store that may fail

On a store whose calls may fail at any time, in any way but by an interruption, every call of the
limiter ends with an answer: that of its count when the store told one, else that of an outage. An
attempt is denied only when its batch counted as many as the capacity and its entry was taken back.
-/

namespace Turnstile.Limiter

open Store

/-- States in which a store can be put up with, whichever of its calls fail: no failure is an
interruption, and a look that is told a count is told none below zero. -/
structure Tolerable {σ : Type} [Backend σ] (usable : σ → Prop) : Prop where
  kept : ∀ call store, usable store → usable (Backend.answer call store).state
  mild : ∀ call store, usable store → ∀ failure,
    (Backend.answer call store).outcome = .error failure → failure.isInterruption = false
  counts : ∀ key bound store, usable store → ∀ count,
    (Backend.answer (.inspect key bound) store).outcome.bind Reply.toCount = .ok count → 0 ≤ count

/-- A failure is not made by making another value. -/
theorem eq_error_of_map {α β : Type} {outcome : Except Failure α} {made : α → β}
    {failure : Failure} (failed : outcome.map made = .error failure) :
    outcome = .error failure := by
  cases outcome with
  | ok value => cases failed
  | error other => exact congrArg _ (Except.error.inj failed)

/-- An outcome without an interruption is covered by the substitute or is itself. -/
theorem covered_map {α β : Type} {outcome : Except Failure α} {made : α → β} {substitute : β}
    {settled : Except Failure α → β}
    (mild : ∀ failure, outcome = .error failure → failure.isInterruption = false)
    (told : ∀ value, settled (.ok value) = made value)
    (failed : ∀ failure, settled (.error failure) = substitute) :
    covered substitute (outcome.map made) = .ok (settled outcome) := by
  cases outcome with
  | ok value => exact congrArg Except.ok (told value).symm
  | error failure =>
    rw [Except.map, covered, mild failure rfl, failed]
    rfl

/-- The verdict on an attempt: that on its count, or that of an outage. -/
def attemptVerdict (limit : Limit) (now : Int) : Except Failure Int → Verdict
  | .ok count => .ofAttempt limit now count
  | .error _ => .ofOutage limit now 1

/-- The verdict on a look: that on its count, or that of an outage. -/
def lookVerdict (limit : Limit) (now : Int) : Except Failure Int → Verdict
  | .ok count => .ofLook limit now count
  | .error _ => .ofOutage limit now 0

/-- What a look is told about a window. -/
def looked {σ : Type} [Backend σ] (limit : Limit) (identifier : String) (now : Int) (store : σ) :
    Except Failure Int × σ :=
  let found := Backend.answer (.inspect (limit.key identifier) (now - limit.window)) store
  (found.outcome.bind Reply.toCount, found.state)

section Calls

variable {σ : Type} [Backend σ] {usable : σ → Prop} (tolerable : Tolerable usable)
  (limit : Limit) (identifier : String) (now : Int)
include tolerable

/-- A call that is read as a count fails by no interruption. -/
theorem Tolerable.mild_count (call : Call) {store : σ} (fine : usable store) {failure : Failure}
    (failed : (Backend.answer call store).outcome.bind Reply.toCount = .error failure) :
    failure.isInterruption = false := by
  cases outcome : (Backend.answer call store).outcome with
  | error first =>
    rw [outcome] at failed
    obtain rfl := Except.error.inj failed
    exact tolerable.mild call store fine _ outcome
  | ok reply =>
    rw [outcome] at failed
    exact isInterruption_of_toCount failed

/-- An attempt leaves such a store, and fails by no interruption. -/
theorem Tolerable.entered (entry : String) {store : σ} (fine : usable store) :
    usable (entered limit identifier entry now store).2 ∧ ∀ failure,
      (Limiter.entered limit identifier entry now store).1 = .error failure →
        failure.isInterruption = false := by
  unfold Limiter.entered
  cases lifetime : limit.ttl with
  | error failure =>
    refine ⟨fine, fun other same => ?_⟩
    obtain rfl := Except.error.inj same
    exact isInterruption_of_ttl lifetime
  | ok seconds =>
    have batched := tolerable.kept (recordCall limit identifier entry now seconds) store fine
    simp only
    cases counted : (Backend.answer (recordCall limit identifier entry now seconds)
        store).outcome.bind Reply.toCount with
    | error failure =>
      refine ⟨batched, fun other same => ?_⟩
      obtain rfl := Except.error.inj same
      exact tolerable.mild_count _ fine counted
    | ok count =>
      simp only
      split
      · exact ⟨batched, fun _ same => nomatch same⟩
      · refine ⟨tolerable.kept _ _ batched, fun failure same => ?_⟩
        exact tolerable.mild _ _ batched failure (eq_error_of_map same)

variable {node : Node σ} (fine : usable node.store)
include fine

/-- A check ends with the verdict on its attempt. -/
theorem Tolerable.check :
    let ended := Limiter.entered limit identifier (entryId now node.serial) now node.store
    (check limit identifier now node).outcome = .ok (attemptVerdict limit now ended.1) ∧
      (Limiter.check limit identifier now node).state = ⟨ended.2, node.serial + 1⟩ := by
  intro ended
  have mild := (tolerable.entered limit identifier now (entryId now node.serial) fine).2
  have store := check_store limit identifier now node
  have serial := check_serial limit identifier now node
  refine ⟨?_, ?_⟩
  · rw [check_outcome]
    exact covered_map mild (fun _ => rfl) fun _ => rfl
  · rw [← store, ← serial]

/-- A look ends with the verdict on what it is told. -/
theorem Tolerable.status :
    let ended := looked limit identifier now node.store
    (status limit identifier now node).outcome = .ok (lookVerdict limit now ended.1) ∧
      (Limiter.status limit identifier now node).state = ⟨ended.2, node.serial⟩ := by
  intro ended
  have mild (failure : Failure) (failed : ended.1 = .error failure) :=
    tolerable.mild_count (.inspect (limit.key identifier) (now - limit.window)) fine failed
  have store := status_store limit identifier now node
  have serial := status_serial limit identifier now node
  refine ⟨?_, ?_⟩
  · rw [status_outcome]
    exact covered_map mild (fun _ => rfl) fun _ => rfl
  · rw [show ended.2 = _ from store.symm, ← serial]

/-- A reset ends well. -/
theorem Tolerable.reset :
    (reset limit identifier node).outcome = .ok () ∧
      (Limiter.reset limit identifier node).state =
        ⟨(Backend.answer (.delete (limit.key identifier)) node.store).state, node.serial⟩ := by
  refine ⟨?_, ?_⟩
  · rw [reset_outcome]
    exact @covered_map _ _ _ _ _ (fun _ => ())
      (tolerable.mild (.delete (limit.key identifier)) _ fine) (fun _ => rfl) fun _ => rfl
  · rw [← reset_store limit identifier node, ← reset_serial limit identifier node]

end Calls

/-! ## Stores that can be put up with -/

/-- A store in memory whose commands fail at any occasions, but by no interruption. -/
theorem tolerable_unsteady : Tolerable Unsteady.IsOrdinary where
  kept call store ordinary := (Unsteady.answer_isMild call store ordinary).1
  mild call store ordinary := (Unsteady.answer_isMild call store ordinary).2
  counts _ _ _ _ _ := Unsteady.nonneg_of_inspect

/-- A store in memory whose calls are refused by ordinary failures at most. -/
theorem tolerable_local : Tolerable fun store : Local => store.interference.OnlyRefuses where
  kept call store refuses := (Local.answer_isMild call store refuses).1
  mild call store refuses := (Local.answer_isMild call store refuses).2
  counts _ _ _ refuses _ := Local.nonneg_of_inspect refuses

/-- A server behind a client whose requests are refused by ordinary failures at most. -/
theorem tolerable_remote : Tolerable Remote.OnlyRefused where
  kept call store refuses := (Remote.answer_isMild Remote.isStable_onlyRefused call store refuses).1
  mild call store refuses := (Remote.answer_isMild Remote.isStable_onlyRefused call store refuses).2
  counts _ _ _ refuses _ := Remote.nonneg_of_inspect refuses

/-- The store of a service, of either kind. -/
theorem tolerable_anyStore :
    Tolerable fun store : AnyStore => store.interference.OnlyRefuses where
  kept call store refuses := by
    cases store with
    | inMemory store => exact tolerable_local.kept call store refuses
    | onServer store => exact tolerable_remote.kept call store refuses
  mild call store refuses := by
    cases store with
    | inMemory store => exact tolerable_local.mild call store refuses
    | onServer store => exact tolerable_remote.mild call store refuses
  counts key bound store refuses := by
    cases store with
    | inMemory store => exact tolerable_local.counts key bound store refuses
    | onServer store => exact tolerable_remote.counts key bound store refuses

end Turnstile.Limiter
