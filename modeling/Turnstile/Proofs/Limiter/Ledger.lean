import Turnstile.Proofs.Limiter.Visit

/-!
# The ledger

The reference for the limiter: for each key the instants of the checks admitted since its last
reset, and nothing else. A check is admitted while fewer of them than the capacity lie in its
window. No lifetime, no purge and no removal occurs in it.
-/

namespace Turnstile.Limiter

namespace Visit

variable {ω : Type}

/-- The latest instant that the visit does not count any more. -/
def bound (visit : Visit ω) : Int := visit.now - visit.limit.window

end Visit

/-- The instants of the admitted checks of each key since its last reset. -/
abbrev Ledger := String → List Int

namespace Ledger

variable {ω : Type}

/-- The ledger without an admitted check. -/
def empty : Ledger := fun _ => []

variable (ledger : Ledger) (visit : Visit ω)

/-- The instants in the window of the visit. -/
def window : List Int := (ledger visit.key).filter (visit.bound < ·)

/-- A check in place of the visit is admitted. -/
def admits : Bool := ((ledger.window visit).length : Int) < visit.limit.capacity

/-- What the caller is told. -/
def answer : Option Verdict :=
  let hits : Int := (ledger.window visit).length
  match visit.request with
  | .check =>
    let total := if ledger.admits visit then hits + 1 else hits
    some ⟨ledger.admits visit, visit.limit.capacity - total, visit.now + visit.limit.window, total⟩
  | .status =>
    some ⟨ledger.admits visit, visit.limit.capacity - hits, visit.now + visit.limit.window, hits⟩
  | .reset => none

/-- The ledger after the visit. -/
def next : Ledger := fun key =>
  if key = visit.key then
    match visit.request with
    | .check => if ledger.admits visit then ledger key ++ [visit.now] else ledger key
    | .status => ledger key
    | .reset => []
  else ledger key

/-- An instant of the ledger after a visit was there before, or is that of the visit. -/
theorem of_mem_next {ledger : Ledger} {visit : Visit ω} {key : String} {instant : Int}
    (member : instant ∈ ledger.next visit key) : instant ∈ ledger key ∨ instant = visit.now := by
  unfold next at member
  split at member
  · cases request : visit.request with
    | status =>
      simp only [request] at member
      exact .inl member
    | reset =>
      simp only [request] at member
      cases member
    | check =>
      simp only [request] at member
      split at member
      · exact (List.mem_append.mp member).imp_right List.mem_singleton.mp
      · exact .inl member
  · exact .inl member

/-- What the callers of visits in turn are told. -/
def answers : Ledger → List (Visit ω) → List (Option Verdict)
  | _, [] => []
  | ledger, visit :: rest => ledger.answer visit :: answers (ledger.next visit) rest

end Ledger

end Turnstile.Limiter
