import Turnstile.Policy.Limit

/-!
# Verdicts

The answer to one attempt or one look at a window. The three ways a verdict arises are functions:
from a count after an attempt, from a count without one, and from a store that did not answer.
-/

namespace Turnstile

/-- The state of a window as told to a caller. -/
structure Verdict where
  allowed : Bool
  /-- Attempts left in the window, never negative. -/
  remaining : Int
  /-- The instant, in milliseconds of the epoch, at which the window ends. -/
  resetTime : Int
  /-- Attempts counted in the window, this one included when it is admitted. -/
  totalHits : Int
deriving DecidableEq, Repr, Inhabited

namespace Verdict

/-- The end of a window that starts now. -/
def endOf (limit : Limit) (now : Int) : Int := now + limit.window

/-- An attempt is admitted while the count before it is below the capacity. -/
def admits (limit : Limit) (count : Int) : Bool := count < limit.capacity

/-- A count is admitted when it is below the capacity. -/
theorem admits_eq_true_iff {limit : Limit} {count : Int} :
    admits limit count = true ↔ count < limit.capacity := decide_eq_true_iff

/-- A count is not admitted when the capacity is reached. -/
theorem admits_eq_false_iff {limit : Limit} {count : Int} :
    admits limit count = false ↔ limit.capacity ≤ count := by
  rw [admits, decide_eq_false_iff_not, Int.not_lt]

/-- The verdict on an attempt that found a count before it. -/
def ofAttempt (limit : Limit) (now count : Int) : Verdict :=
  let consumed : Int := if admits limit count then 1 else 0
  ⟨admits limit count, max 0 (limit.capacity - count - consumed), endOf limit now,
    count + consumed⟩

/-- The verdict on a look that found a count. -/
def ofLook (limit : Limit) (now count : Int) : Verdict :=
  ⟨admits limit count, max 0 (limit.capacity - count), endOf limit now, count⟩

/-- The verdict when the store failed: admitted, as if the window held the given hits. -/
def ofOutage (limit : Limit) (now hits : Int) : Verdict :=
  ⟨true, limit.capacity - 1, endOf limit now, hits⟩

end Verdict

end Turnstile
