import Turnstile.Proofs.Limiter.Calm
import Turnstile.Proofs.Limiter.Denial
import Turnstile.Proofs.Limiter.Tolerance

/-!
# The local store as a steady one

Two stores of which one answers every call as the other does serve every visit alike. The local
store with no call touched answers as an unsteady one that meets one reading of the clock throughout
a visit, so what holds of runs on any unsteady store holds of runs on the local store.
-/

namespace Turnstile.Limiter

open Store Time

/-! ## Stores that answer alike -/

/-- A relation between the states of two stores that answer every call alike. -/
def Mimics {σ τ : Type} [Backend σ] [Backend τ] (rel : σ → τ → Prop) : Prop :=
  ∀ call store other, rel store other →
    (Backend.answer call other).outcome = (Backend.answer call store).outcome ∧
      rel (Backend.answer call store).state (Backend.answer call other).state

namespace Mimics

variable {σ τ ω χ : Type} [Backend σ] [Backend τ] {rel : σ → τ → Prop} (mimics : Mimics rel)
  {store : σ} {other : τ}
include mimics

/-- An attempt comes to the same on both stores. -/
theorem entered (same : rel store other) (limit : Limit) (identifier entry : String) (now : Int) :
    (entered limit identifier entry now other).1 =
        (Limiter.entered limit identifier entry now store).1 ∧
      rel (Limiter.entered limit identifier entry now store).2
        (Limiter.entered limit identifier entry now other).2 := by
  unfold Limiter.entered
  cases limit.ttl with
  | error failure => exact ⟨rfl, same⟩
  | ok seconds =>
    obtain ⟨counted, recorded⟩ :=
      mimics (recordCall limit identifier entry now seconds) store other same
    simp only [counted]
    cases (Backend.answer (recordCall limit identifier entry now seconds) store).outcome.bind
        Reply.toCount with
    | error failure => exact ⟨rfl, recorded⟩
    | ok count =>
      simp only
      split
      · exact ⟨rfl, recorded⟩
      · obtain ⟨answered, removed⟩ :=
          mimics (.remove (limit.key identifier) entry) _ _ recorded
        exact ⟨congrArg (Except.map fun _ => count) answered, removed⟩

/-- A look comes to the same on both stores. -/
theorem looked (same : rel store other) (limit : Limit) (identifier : String) (now : Int) :
    (looked limit identifier now other).1 = (Limiter.looked limit identifier now store).1 ∧
      rel (Limiter.looked limit identifier now store).2
        (Limiter.looked limit identifier now other).2 := by
  obtain ⟨counted, left⟩ :=
    mimics (.inspect (limit.key identifier) (now - limit.window)) store other same
  exact ⟨congrArg (Except.bind · Reply.toCount) counted, left⟩

end Mimics

/-! ## Visits that are served alike -/

namespace Visit

variable {σ τ ω χ : Type}

/-- The same visit in other surroundings. -/
def moved (around : χ) (visit : Visit ω) : Visit χ :=
  ⟨visit.request, visit.limit, visit.identifier, visit.now, visit.serial, around⟩

variable [Backend σ] [Backend τ] [Surrounded σ ω] [Surrounded τ χ]

/-- The count that a check or a look sees, or the failure of its store. -/
def seen (visit : Visit ω) (store : σ) : Except Failure Int :=
  if visit.request = .check then (visit.attempt store).1
  else (looked visit.limit visit.identifier visit.now (visit.ready store)).1

variable {rel : σ → τ → Prop} (mimics : Mimics rel) (visit : Visit ω) {around : χ} {store : σ}
  {other : τ} (same : rel (visit.ready store) ((visit.moved around).ready other))
include mimics same

/-- What another key shows is not moved. -/
theorem seen_moved : (visit.moved around).seen other = visit.seen store := by
  have request : (visit.moved around).request = visit.request := rfl
  unfold seen
  rw [request]
  by_cases check : visit.request = .check
  · rw [if_pos check, if_pos check]
    exact (mimics.entered same visit.limit visit.identifier visit.entry visit.now).1
  · rw [if_neg check, if_neg check]
    exact (mimics.looked same visit.limit visit.identifier visit.now).1

/-- A visit that finds two stores alike is told the same, and leaves them alike. -/
theorem serve_moved : ((visit.moved around).serve other).1 = (visit.serve store).1 ∧
    rel (visit.serve store).2 ((visit.moved around).serve other).2 := by
  cases request : visit.request with
  | check =>
    have moved : (visit.moved around).request = .check := request
    obtain ⟨told, left⟩ :=
      mimics.entered same visit.limit visit.identifier visit.entry visit.now
    let answer (came : Except Failure Int) := (covered (Verdict.ofOutage visit.limit visit.now 1)
      (came.map (Verdict.ofAttempt visit.limit visit.now))).map some
    rw [visit.serve_check store request, (visit.moved around).serve_check other moved]
    exact ⟨congrArg answer told, left⟩
  | status =>
    have moved : (visit.moved around).request = .status := request
    obtain ⟨told, left⟩ := mimics.looked same visit.limit visit.identifier visit.now
    let answer (came : Except Failure Int) := (covered (Verdict.ofOutage visit.limit visit.now 0)
      (came.map (Verdict.ofLook visit.limit visit.now))).map some
    rw [visit.serve_status store request, (visit.moved around).serve_status other moved]
    exact ⟨congrArg answer told, left⟩
  | reset =>
    have moved : (visit.moved around).request = .reset := request
    obtain ⟨told, left⟩ := mimics (.delete visit.key) _ _ same
    let answer (came : Except Failure Reply) : Except Failure (Option Verdict) :=
      (covered () (came.map fun _ => ())).map fun _ => none
    rw [visit.serve_reset store request, (visit.moved around).serve_reset other moved]
    exact ⟨congrArg answer told, left⟩

end Visit

/-! ## The local store among the unsteady ones -/

/-- An unsteady store that stands where the local store does: the readings ahead end with the next
command, which does not fail. -/
structure IsSteady (store : Local) (unsteady : Unsteady) : Prop where
  quiet : store.interference.IsQuiet
  here : unsteady.here = store.memory
  served : unsteady.refusal? = none
  last : unsteady.ahead.tail = []

namespace IsSteady

variable {store : Local} {unsteady : Unsteady}

/-- Both hold the same. -/
theorem held (steady : IsSteady store unsteady) :
    unsteady.memory.held = store.memory.held := by
  rw [← steady.here]
  unfold Unsteady.here
  split <;> rfl

/-- After a call nothing is ahead. -/
theorem after (quiet : store.interference.IsQuiet) (memory : Memory) :
    IsSteady { store with memory } ⟨memory, []⟩ := ⟨quiet, rfl, rfl, rfl⟩

/-- A visit that meets one reading throughout finds both stores alike. -/
theorem enter (steady : IsSteady store unsteady) (clock : Seconds) :
    IsSteady (Surrounded.enter clock store : Local)
      (Surrounded.enter [(⟨clock, none⟩ : Occasion)] unsteady : Unsteady) where
  quiet := steady.quiet
  here := by
    show unsteady.memory.setClock clock = store.memory.setClock clock
    unfold Memory.setClock
    rw [steady.held]
  served := rfl
  last := rfl

/-- On a steady store a call is answered from the memory. -/
theorem command (steady : IsSteady store unsteady) (call : Call) :
    Unsteady.command call unsteady =
      ⟨.ok (store.memory.run call).1, [], ⟨(store.memory.run call).2, []⟩⟩ := by
  unfold Unsteady.command
  rw [steady.served]
  simp only [steady.here, steady.last]

/-- On a steady store calls in a row are answered from the memory. -/
theorem runAll (steady : IsSteady store unsteady) (first : Call) (others : List Call) :
    runAll Unsteady.command (first :: others) unsteady =
      ⟨.ok (store.memory.replies (first :: others)), [],
        ⟨store.memory.after (first :: others), []⟩⟩ := by
  induction others generalizing store unsteady first with
  | nil =>
    simp only [Store.runAll, Action.bind_apply, steady.command, Action.pure_apply]
    rfl
  | cons second rest ih =>
    have next := after steady.quiet (store.memory.run first).2
    have tail := ih next second
    rw [Store.runAll]
    simp only [Action.bind_apply, steady.command, tail]
    rfl

/-- The local store and the unsteady one answer alike. -/
theorem mimics : Mimics IsSteady := by
  intro call store unsteady steady
  have answered : Backend.answer call store = _ :=
    store.answer_of_quiet steady.quiet store.memory call
  have unsteadily : Backend.answer call unsteady =
      ⟨.ok (store.memory.run call).1, [], ⟨(store.memory.run call).2, []⟩⟩ := by
    show Unsteady.answer call unsteady = _
    unfold Unsteady.answer
    cases split : call.parts? with
    | none => exact steady.command call
    | some batch =>
      obtain ⟨parts, place⟩ := batch
      obtain ⟨first, others, rfl⟩ := Call.exists_cons_of_parts? split
      obtain ⟨state, reply⟩ := Memory.parts_run split store.memory
      simp only [Action.bind_apply, steady.runAll, Action.pure_apply, state, reply]
      rfl
  rw [answered, unsteadily]
  exact ⟨rfl, after steady.quiet _⟩

end IsSteady

/-! ## Runs -/

/-- A visit that meets one reading of the clock throughout. -/
def Visit.steady (visit : Visit Seconds) : Visit (List Occasion) :=
  visit.moved [⟨visit.around, none⟩]

/-- Visits in turn to the local store are told as on an unsteady store, and leave the same. -/
theorem Course.run_steady (visits : List (Visit Seconds)) {course : Course Local Seconds}
    {unsteady : Course Unsteady (List Occasion)} (steady : IsSteady course.store unsteady.store)
    (same : unsteady.past = course.past.map fun visited => ⟨visited.visit.steady, visited.told⟩) :
    IsSteady (course.run visits).store (unsteady.run (visits.map Visit.steady)).store ∧
      (unsteady.run (visits.map Visit.steady)).past =
        (course.run visits).past.map fun visited => ⟨visited.visit.steady, visited.told⟩ := by
  induction visits generalizing course unsteady with
  | nil => exact ⟨steady, same⟩
  | cons visit rest ih =>
    obtain ⟨told, left⟩ := visit.serve_moved IsSteady.mimics (steady.enter visit.around)
    refine @ih (course.attend visit) (unsteady.attend visit.steady) left ?_
    simp only [attend, List.map_append, same, List.map_cons, List.map_nil]
    rw [show (visit.steady.serve unsteady.store).1 = _ from told]

end Turnstile.Limiter
