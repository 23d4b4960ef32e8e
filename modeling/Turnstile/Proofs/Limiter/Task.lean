import Turnstile.Limiter.Interleaved
import Turnstile.Proofs.Limiter.Outcome

/-!
# Checks under way

What can be read off a check under way, and that a check whose batch is one call, run alone to
its end, comes to the verdict and the store of a check made at once.
-/

namespace Turnstile.Limiter

open Store

namespace Task

/-- The check has ended with an admission. -/
def isAdmitted (task : Task) : Bool :=
  match task.stage with
  | .finished (.ok verdict) => verdict.allowed
  | _ => false

/-- The check is past its count and before its insertion. -/
def isBetween (task : Task) : Bool :=
  match task.stage with
  | .recording (.add _ _ _ :: _) _ => true
  | _ => false

/-- The entry that the check inserts. -/
def row (task : Task) : String × Int := (task.entry, task.now)

/-- A check before its batch, which goes out as one call. -/
abbrev whole (limit : Limit) (identifier : String) (now : Int) (serial : Nat) : Task :=
  (beginAs (fun call => [call]) limit identifier now serial).1

variable {σ : Type} [Backend σ]

/-- The check and the store after some turns in a row. -/
def alone (task : Task) (store : σ) : Nat → Task × σ
  | 0 => (task, store)
  | turns + 1 =>
    let (next, _, left) := task.advance store
    next.alone left turns

/-- A failure ends a check as it ends one made at once. -/
theorem endWith_eq (task : Task) (failure : Failure) : (task.endWith failure).1 =
    { task with
      stage := .finished (covered (Verdict.ofOutage task.limit task.now 1) (.error failure)) } := by
  unfold endWith
  cases interrupted : failure.isInterruption <;> simp [covered, interrupted]

/-- Two turns, for the batch and the removal, end a check run alone as a check made at once. -/
theorem alone_whole (limit : Limit) (identifier : String) (now : Int) (node : Node σ) :
    ((whole limit identifier now node.serial).alone node.store 2).1.stage =
        .finished (check limit identifier now node).outcome ∧
      ((whole limit identifier now node.serial).alone node.store 2).2 =
        (check limit identifier now node).state.store := by
  rw [check_outcome, check_store]
  simp only [whole, beginAs, entered]
  cases lifetime : limit.ttl with
  | error failure =>
    have mild := isInterruption_of_ttl lifetime
    simp [alone, advance, Except.map, covered, mild]
  | ok seconds =>
    simp only [alone, advance, opening]
    cases answered : (Backend.answer
      (recordCall limit identifier (entryId now node.serial) now seconds) node.store).outcome with
    | error failure => simp [endWith_eq, Except.bind, Except.map]
    | ok reply =>
      simp only [List.isEmpty_nil, if_true, List.nil_append, decideOn, Except.bind]
      cases reply.toCount with
      | error failure => simp [endWith_eq, Except.map]
      | ok count =>
        cases room : Verdict.admits limit count with
        | true => simp [conclude, Except.map, covered, room]
        | false =>
          simp only [room, Bool.false_eq_true, if_false]
          cases removed : (Backend.answer (.remove (limit.key identifier) (entryId now node.serial))
            (Backend.answer (recordCall limit identifier (entryId now node.serial) now seconds)
              node.store).state).outcome with
          | error failure => simp [endWith_eq, Except.map]
          | ok reply => simp [conclude, Except.map, covered]

end Task

end Turnstile.Limiter
