import Turnstile.Proofs.Log.Fields
import Turnstile.Store.Any

/-!
# What stores report

A store in memory reports nothing. A store on a server reports that a sign of life is missing, and
names no request in it.
-/

namespace Turnstile.Store

open Log

/-- The activity reports no event that names a request. -/
def IsReticent {σ α : Type} (action : Action σ α) : Prop :=
  ∀ state, ∀ event ∈ (action state).events, event.IsUnclaimed

namespace IsReticent

variable {σ α β : Type} {action : Action σ α} {next : α → Action σ β}

/-- A step that reports nothing. -/
theorem of_silent (silent : ∀ state, (action state).events = []) : IsReticent action := by
  intro state event member
  rw [silent] at member
  cases member

/-- A value reports nothing. -/
theorem pure (value : α) : IsReticent (Pure.pure value : Action σ α) := of_silent fun _ => rfl

/-- An outcome reports nothing. -/
theorem ofExcept (outcome : Except Failure α) :
    IsReticent (Action.ofExcept outcome : Action σ α) := by
  cases outcome <;> exact of_silent fun _ => rfl

/-- Reticent activities in a row are reticent. -/
theorem bind (first : IsReticent action) (others : ∀ value, IsReticent (next value)) :
    IsReticent (action >>= next) := by
  intro state event member
  rw [Action.bind_apply] at member
  split at member
  · exact first state event member
  · rcases List.mem_append.mp member with before | after
    · exact first state event before
    · exact others _ _ event after

/-- Calls in a row are reticent if each is. -/
theorem runAll {perform : Call → Action σ Reply} (reticent : ∀ call, IsReticent (perform call))
    (calls : List Call) : IsReticent (runAll perform calls) := by
  induction calls with
  | nil => exact .pure _
  | cons call rest ih =>
    apply (reticent call).bind
    intro _
    apply ih.bind
    intro _
    exact .pure _

end IsReticent

/-- A store in memory names no request. -/
theorem Local.answer_isReticent (call : Call) : IsReticent (Local.answer call) := by
  have single (call : Call) : IsReticent (Local.single call) := by
    apply IsReticent.of_silent
    intro store
    unfold Local.single
    split <;> rfl
  intro store
  unfold Local.answer
  split
  · apply (IsReticent.runAll single _).bind
    intro _
    exact .pure _
  · exact single call store

namespace Remote

/-- A request to the server is reticent if carrying it out is. -/
theorem issue_isReticent (request : ServerCall) {carryOut : Action Remote Reply}
    (reticent : IsReticent carryOut) : IsReticent (issue request carryOut) := by
  intro remote event member
  unfold issue at member
  simp only at member
  split at member
  · cases member
  · exact reticent _ event member

/-- Sending a command is reticent. -/
theorem send_isReticent (command : Command) : IsReticent (send command) :=
  issue_isReticent _ (.of_silent fun _ => rfl)

/-- A batch of commands is reticent. -/
theorem batch_isReticent (commands : List Command) : IsReticent (batch commands) := by
  have queue (command : Command) : IsReticent (queue command) := by
    apply IsReticent.of_silent
    intro remote
    unfold Remote.queue
    simp only
    split <;> rfl
  have queueAll : IsReticent (queueAll commands) := by
    induction commands with
    | nil => exact .pure _
    | cons command rest ih =>
      apply (queue command).bind
      intro _
      apply ih.bind
      intro _
      exact .pure _
  apply (issue_isReticent _ (.pure _)).bind
  intro _
  apply queueAll.bind
  intro queued
  exact issue_isReticent _ (.of_silent fun _ => rfl)

/-- Reporting a failure under the key of its call is reticent. -/
theorem reporting_isReticent (call : Call) (key : String) {action : Action Remote Reply}
    (reticent : IsReticent action) : IsReticent (reporting call key action) := by
  intro remote event member
  unfold reporting at member
  simp only at member
  split at member
  · split at member <;> exact reticent remote event member
  · exact reticent remote event member

/-- Reading the count of a reticent activity is reticent. -/
theorem counted_isReticent {action : Action Remote Reply} (reticent : IsReticent action) :
    IsReticent (counted action) := by
  apply reticent.bind
  intro _
  apply (IsReticent.ofExcept _).bind
  intro _
  exact .pure _

/-- Reading the second count of a reticent activity is reticent. -/
theorem secondCounted_isReticent {action : Action Remote Reply} (reticent : IsReticent action) :
    IsReticent (secondCounted action) := by
  apply counted_isReticent
  apply reticent.bind
  intro reply
  cases reply <;> exact .pure _

/-- Dropping the reply of a reticent activity is reticent. -/
theorem silently_isReticent {action : Action Remote Reply} (reticent : IsReticent action) :
    IsReticent (silently action) :=
  reticent.bind fun _ => .pure _

/-- A ping is reticent. -/
theorem ping_isReticent : IsReticent ping := by
  intro remote event member
  have sent := send_isReticent .ping remote
  unfold ping at member
  simp only at member
  split at member
  · exact sent event member
  · split at member
    · rcases List.mem_append.mp member with before | last
      · exact sent event before
      · obtain rfl := List.mem_singleton.mp last
        rfl
    · exact sent event member
  · exact sent event member

/-- A store on a server names no request. -/
theorem answer_isReticent (call : Call) : IsReticent (answer call) := by
  have sent (command : Command) (key : String) : IsReticent (reporting call key (send command)) :=
    reporting_isReticent call key (send_isReticent command)
  have batched (commands : List Command) (key : String) :
      IsReticent (reporting call key (batch commands)) :=
    reporting_isReticent call key (batch_isReticent commands)
  cases call with
  | purge | count => exact counted_isReticent (sent _ _)
  | add | remove | expire | delete => exact silently_isReticent (sent _ _)
  | record | inspect => exact secondCounted_isReticent (batched _ _)
  | ping => exact ping_isReticent
  | close => exact silently_isReticent (issue_isReticent _ (.pure _))

end Remote

/-- A store of either kind names no request. -/
theorem AnyStore.answer_isReticent (call : Call) : IsReticent (AnyStore.answer call) := by
  intro store
  cases store with
  | inMemory store => exact Local.answer_isReticent call store
  | onServer store => exact Remote.answer_isReticent call store

end Turnstile.Store
