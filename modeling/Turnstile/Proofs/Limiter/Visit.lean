import Turnstile.Proofs.Limiter.Outcome

/-!
# Runs of calls in turn

A visit is one call of the limiter together with what the world decides about it: the reading of
the limiter's clock, the number that an entry takes, and the surroundings in which the call finds
the store. A course is what came of the visits so far: what each caller was told, and the store
they left.
-/

namespace Turnstile.Limiter

open Store

/-- What is asked of the limiter. -/
inductive Request where
  | check
  | status
  | reset
deriving DecidableEq, Repr

/-- A store that a call finds in surroundings of its own. -/
class Surrounded (σ : Type) (ω : outParam Type) where
  /-- The store as the surroundings have it. -/
  enter : ω → σ → σ

/-- One call of the limiter. -/
structure Visit (ω : Type) where
  request : Request
  limit : Limit
  identifier : String
  /-- The limiter's clock in milliseconds. -/
  now : Int
  /-- The number that distinguishes the entry of a check. -/
  serial : Nat
  around : ω

namespace Visit

variable {σ ω : Type}

/-- The key that the call is about. -/
def key (visit : Visit ω) : String := visit.limit.key visit.identifier

/-- The identifier of the entry of a check. -/
def entry (visit : Visit ω) : String := entryId visit.now visit.serial

variable [Backend σ]

/-- Make the call; a reset answers nothing. -/
def perform (visit : Visit ω) : Action (Node σ) (Option Verdict) :=
  match visit.request with
  | .check => do return some (← check visit.limit visit.identifier visit.now)
  | .status => do return some (← status visit.limit visit.identifier visit.now)
  | .reset => do
    reset visit.limit visit.identifier
    return none

variable [Surrounded σ ω] (visit : Visit ω) (store : σ)

/-- The store as the call finds it. -/
def ready : σ := Surrounded.enter visit.around store

/-- What the caller is told, and the store afterwards. -/
def serve : Except Failure (Option Verdict) × σ :=
  let step := visit.perform ⟨visit.ready store, visit.serial⟩
  (step.outcome, step.state.store)

/-- The attempt of a check, as a function of the store. -/
abbrev attempt : Except Failure Int × σ :=
  entered visit.limit visit.identifier visit.entry visit.now (visit.ready store)

/-- A check is served with the verdict on its count, or with a stand-in. -/
theorem serve_check (request : visit.request = .check) :
    visit.serve store =
      ((covered (Verdict.ofOutage visit.limit visit.now 1)
        ((visit.attempt store).1.map (Verdict.ofAttempt visit.limit visit.now))).map some,
        (visit.attempt store).2) := by
  simp only [serve, perform, request]
  rw [bind_return_outcome, bind_return_state, check_outcome, check_store]
  rfl

/-- A look is served with the verdict on its count, or with a stand-in. -/
theorem serve_status (request : visit.request = .status) :
    visit.serve store =
      let looked := Backend.answer (.inspect visit.key (visit.now - visit.limit.window))
        (visit.ready store)
      ((covered (Verdict.ofOutage visit.limit visit.now 0)
        ((looked.outcome.bind Reply.toCount).map
          (Verdict.ofLook visit.limit visit.now))).map some, looked.state) := by
  simp only [serve, perform, request]
  rw [bind_return_outcome, bind_return_state, status_outcome, status_store]
  rfl

/-- A reset is served without a verdict. -/
theorem serve_reset (request : visit.request = .reset) :
    visit.serve store =
      let forgotten := Backend.answer (.delete visit.key) (visit.ready store)
      ((covered () (forgotten.outcome.map fun _ => ())).map fun _ => none,
        forgotten.state) := by
  simp only [serve, perform, request]
  rw [bind_return_outcome (reset visit.limit visit.identifier) fun _ => none,
    bind_return_state (reset visit.limit visit.identifier) fun _ => none, reset_outcome,
    reset_store]
  rfl

end Visit

/-- A visit and what its caller was told. -/
structure Visited (ω : Type) where
  visit : Visit ω
  told : Except Failure (Option Verdict)

/-- The visits so far, and the store that they left. -/
structure Course (σ ω : Type) where
  past : List (Visited ω)
  store : σ

namespace Course

variable {σ ω : Type} [Backend σ] [Surrounded σ ω]

/-- Before the first visit. -/
def start (store : σ) : Course σ ω := ⟨[], store⟩

/-- One more visit. -/
def attend (course : Course σ ω) (visit : Visit ω) : Course σ ω :=
  ⟨course.past ++ [⟨visit, (visit.serve course.store).1⟩], (visit.serve course.store).2⟩

/-- Visits in turn. -/
def run (course : Course σ ω) (visits : List (Visit ω)) : Course σ ω := visits.foldl attend course

/-- A property of courses that every visit keeps holds after a run of such visits. -/
theorem run_induction {motive : Course σ ω → Prop} {course : Course σ ω}
    (visits : List (Visit ω)) (before : motive course)
    (step : ∀ course visit, visit ∈ visits → motive course → motive (course.attend visit)) :
    motive (course.run visits) := by
  induction visits generalizing course with
  | nil => exact before
  | cons visit rest ih =>
    apply ih (step course visit (List.mem_cons_self ..) before)
    intro course other member
    exact step course other (List.mem_cons_of_mem _ member)

end Course

end Turnstile.Limiter
