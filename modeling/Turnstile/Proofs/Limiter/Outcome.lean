import Turnstile.Limiter.Basic

/-!
# What the limiter's calls come to

Each call of the limiter, read as a function of the store: the outcome it ends with and the state
it leaves, over any backend. Events are left aside. An attempt makes one batch and, when the
window was full, one removal; any failure but an interruption is covered by a substitute.
-/

namespace Turnstile.Limiter

open Store

variable {σ α : Type}

/-- An outcome with its failure covered by a substitute; an interruption stays. -/
def covered (substitute : α) : Except Failure α → Except Failure α
  | .ok value => .ok value
  | .error failure => if failure.isInterruption then .error failure else .ok substitute

/-- A lifetime fails only by an ordinary failure. -/
theorem isInterruption_of_ttl {limit : Limit} {failure : Failure}
    (failed : limit.ttl = .error failure) : failure.isInterruption = false := by
  unfold Limit.ttl at failed
  split at failed
  · cases failed
  · obtain rfl := Except.error.inj failed
    rfl

/-- A value made from that of an action has the outcome of the action. -/
theorem bind_return_outcome {β : Type} (action : Action (Node σ) α) (made : α → β)
    (node : Node σ) :
    ((do return made (← action) : Action (Node σ) β) node).outcome =
      (action node).outcome.map made := by
  simp only [Action.bind_apply]
  cases (action node).outcome <;> rfl

/-- Making something of a value leaves the same state. -/
theorem bind_return_state {β : Type} (action : Action (Node σ) α) (made : α → β)
    (node : Node σ) :
    ((do return made (← action) : Action (Node σ) β) node).state = (action node).state := by
  simp only [Action.bind_apply]
  cases (action node).outcome <;> rfl

/-- Standing in covers a failure that is no interruption. -/
theorem orElse_outcome (action : Action (Node σ) α) (operation : String) (limit : Limit)
    (identifier : String) (substitute : α) (node : Node σ) :
    (orElse action operation limit identifier substitute node).outcome =
      covered substitute (action node).outcome := by
  simp only [orElse, Action.bind_apply, Action.attempt]
  cases (action node).outcome with
  | ok value => rfl
  | error failure =>
    simp only [covered]
    split <;> rfl

/-- Standing in leaves what the activity leaves. -/
theorem orElse_state (action : Action (Node σ) α) (operation : String) (limit : Limit)
    (identifier : String) (substitute : α) (node : Node σ) :
    (orElse action operation limit identifier substitute node).state = (action node).state := by
  simp only [orElse, Action.bind_apply, Action.attempt]
  cases (action node).outcome with
  | ok value => rfl
  | error failure =>
    simp only
    split <;> rfl

variable [Backend σ]

/-- The attempt as a function of the store: the count that its batch answered, and the store
afterwards. -/
def entered (limit : Limit) (identifier entry : String) (now : Int) (store : σ) :
    Except Failure Int × σ :=
  match limit.ttl with
  | .error failure => (.error failure, store)
  | .ok seconds =>
    let batch := Backend.answer (recordCall limit identifier entry now seconds) store
    match batch.outcome.bind Reply.toCount with
    | .error failure => (.error failure, batch.state)
    | .ok count =>
      if Verdict.admits limit count then (.ok count, batch.state)
      else
        let removal := Backend.answer (.remove (limit.key identifier) entry) batch.state
        (removal.outcome.map fun _ => count, removal.state)

section Endings

variable {limit : Limit} {identifier entry : String} {now seconds count : Int} {store : σ}
  {failure : Failure}

/-- Without a lifetime for its key an attempt calls nothing. -/
theorem entered_of_ttl_error (failed : limit.ttl = .error failure) :
    entered limit identifier entry now store = (.error failure, store) := by
  rw [entered, failed]

/-- An attempt whose batch fails ends there. -/
theorem entered_of_error (lifetime : limit.ttl = .ok seconds)
    (failed : (Backend.answer (recordCall limit identifier entry now seconds) store).outcome =
      .error failure) :
    entered limit identifier entry now store =
      (.error failure,
        (Backend.answer (recordCall limit identifier entry now seconds) store).state) := by
  rw [entered, lifetime]
  simp only [failed, Except.bind]

/-- An attempt that finds room ends with its batch. -/
theorem entered_of_room (lifetime : limit.ttl = .ok seconds)
    (counted : (Backend.answer (recordCall limit identifier entry now seconds) store).outcome =
      .ok (.number count))
    (room : Verdict.admits limit count = true) :
    entered limit identifier entry now store =
      (.ok count,
        (Backend.answer (recordCall limit identifier entry now seconds) store).state) := by
  rw [entered, lifetime]
  simp only [counted, Except.bind, Reply.toCount, Reply.toCount?, room, if_true]

/-- An attempt that finds the window full ends with the removal of its entry. -/
theorem entered_of_full {removal : Except Failure Reply} {events : List Log.Event} {left : σ}
    (lifetime : limit.ttl = .ok seconds)
    (counted : (Backend.answer (recordCall limit identifier entry now seconds) store).outcome =
      .ok (.number count))
    (full : Verdict.admits limit count = false)
    (removed : Backend.answer (.remove (limit.key identifier) entry)
      (Backend.answer (recordCall limit identifier entry now seconds) store).state =
        ⟨removal, events, left⟩) :
    entered limit identifier entry now store = (removal.map fun _ => count, left) := by
  rw [entered, lifetime]
  simp only [counted, Except.bind, Reply.toCount, Reply.toCount?, full, Bool.false_eq_true,
    if_false, removed]

end Endings

/-- The attempt's action comes to the function of the store, and takes no number. -/
theorem enter_eq (limit : Limit) (identifier entry : String) (now : Int) (node : Node σ) :
    (enter limit identifier entry now node).outcome =
        (entered limit identifier entry now node.store).1 ∧
      (enter limit identifier entry now node).state =
        { node with store := (entered limit identifier entry now node.store).2 } := by
  simp only [enter, entered, Action.bind_apply]
  cases limit.ttl with
  | error failure => exact ⟨rfl, rfl⟩
  | ok seconds =>
    simp only [Action.ofExcept, Action.done, Node.call]
    cases (Backend.answer (recordCall limit identifier entry now seconds) node.store).outcome with
    | error failure => exact ⟨rfl, rfl⟩
    | ok reply =>
      simp only [Except.bind]
      cases reply.toCount with
      | error failure => exact ⟨rfl, rfl⟩
      | ok count =>
        simp only [Action.done]
        by_cases room : Verdict.admits limit count = true
        · simp only [if_pos room]
          exact ⟨rfl, rfl⟩
        · simp only [if_neg room, Action.bind_apply, Node.call]
          cases (Backend.answer (.remove (limit.key identifier) entry)
            (Backend.answer (recordCall limit identifier entry now seconds)
              node.store).state).outcome <;> exact ⟨rfl, rfl⟩

/-- A check answers with the verdict on its count, or as for an outage. -/
theorem check_outcome (limit : Limit) (identifier : String) (now : Int) (node : Node σ) :
    (check limit identifier now node).outcome =
      covered (Verdict.ofOutage limit now 1)
        ((entered limit identifier (entryId now node.serial) now node.store).1.map
          (Verdict.ofAttempt limit now)) := by
  have came := (enter_eq limit identifier (entryId now node.serial) now
    { node with serial := node.serial + 1 }).1
  simp only at came
  simp only [check, Action.bind_apply, Node.takeSerial, orElse_outcome]
  rw [came]
  cases (entered limit identifier (entryId now node.serial) now node.store).1 <;> rfl

/-- A check leaves the store as its attempt does. -/
theorem check_store (limit : Limit) (identifier : String) (now : Int) (node : Node σ) :
    (check limit identifier now node).state.store =
      (entered limit identifier (entryId now node.serial) now node.store).2 := by
  have came := enter_eq limit identifier (entryId now node.serial) now
    { node with serial := node.serial + 1 }
  simp only at came
  simp only [check, Action.bind_apply, Node.takeSerial, orElse_state]
  rw [came.1]
  cases (entered limit identifier (entryId now node.serial) now node.store).1 <;>
    exact congrArg Node.store came.2

/-- A look answers with the verdict on the count it is told, or as for an outage. -/
theorem status_outcome (limit : Limit) (identifier : String) (now : Int) (node : Node σ) :
    (status limit identifier now node).outcome =
      covered (Verdict.ofOutage limit now 0)
        (((Backend.answer (.inspect (limit.key identifier) (now - limit.window))
          node.store).outcome.bind Reply.toCount).map (Verdict.ofLook limit now)) := by
  simp only [status, orElse_outcome, Action.bind_apply, Node.call]
  cases (Backend.answer (.inspect (limit.key identifier) (now - limit.window))
    node.store).outcome with
  | error failure => rfl
  | ok reply =>
    simp only [Except.bind]
    cases reply.toCount <;> rfl

/-- A look leaves the store as its call does. -/
theorem status_store (limit : Limit) (identifier : String) (now : Int) (node : Node σ) :
    (status limit identifier now node).state.store =
      (Backend.answer (.inspect (limit.key identifier) (now - limit.window))
        node.store).state := by
  simp only [status, orElse_state, Action.bind_apply, Node.call]
  cases (Backend.answer (.inspect (limit.key identifier) (now - limit.window))
    node.store).outcome with
  | error failure => rfl
  | ok reply =>
    simp only
    cases reply.toCount <;> rfl

/-- A reset has the outcome of its call, covered. -/
theorem reset_outcome (limit : Limit) (identifier : String) (node : Node σ) :
    (reset limit identifier node).outcome =
      covered () ((Backend.answer (.delete (limit.key identifier)) node.store).outcome.map
        fun _ => ()) := by
  simp only [reset, orElse_outcome, Action.bind_apply, Node.call]
  cases (Backend.answer (.delete (limit.key identifier)) node.store).outcome <;> rfl

/-- A reset leaves the store as its call does. -/
theorem reset_store (limit : Limit) (identifier : String) (node : Node σ) :
    (reset limit identifier node).state.store =
      (Backend.answer (.delete (limit.key identifier)) node.store).state := by
  simp only [reset, orElse_state, Action.bind_apply, Node.call]
  cases (Backend.answer (.delete (limit.key identifier)) node.store).outcome <;> rfl

end Turnstile.Limiter
