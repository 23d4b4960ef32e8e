import Turnstile.Proofs.Action
import Turnstile.Proofs.Store.Local
import Turnstile.Store.Any

/-!
# Failures that are no interruptions

Where single commands are refused by ordinary failures at most, a whole call of the store ends with
an ordinary failure at most and leaves the store where that is still so, whichever of its commands
fail. A look that is answered is answered with no count below zero.
-/

namespace Turnstile.Store

/-- From every state of that kind the action leaves one of that kind, and ends by no
interruption. -/
def IsMild {σ α : Type} (usable : σ → Prop) (action : Action σ α) : Prop :=
  ∀ state, usable state → usable (action state).state ∧ ∀ failure,
    (action state).outcome = .error failure → failure.isInterruption = false

/-- Reading a count fails by no interruption. -/
theorem isInterruption_of_toCount {reply : Reply} {failure : Failure}
    (failed : reply.toCount = .error failure) : failure.isInterruption = false := by
  unfold Reply.toCount at failed
  split at failed
  · cases failed
  · obtain rfl := Except.error.inj failed
    rfl

namespace IsMild

variable {σ α β : Type} {usable : σ → Prop} {action : Action σ α} {next : α → Action σ β}

/-- An activity that always yields a value is mild. -/
theorem of_ok (left : ∀ state, usable state → usable (action state).state)
    (told : ∀ state, usable state → ∃ value, (action state).outcome = .ok value) :
    IsMild usable action := by
  intro state fine
  refine ⟨left state fine, fun failure failed => ?_⟩
  obtain ⟨value, told⟩ := told state fine
  rw [told] at failed
  cases failed

/-- A value is mild. -/
theorem pure (value : α) : IsMild usable (Pure.pure value) :=
  of_ok (fun _ fine => fine) fun _ _ => ⟨value, rfl⟩

/-- A sequence of mild parts is mild. -/
theorem bind (first : IsMild usable action) (others : ∀ value, IsMild usable (next value)) :
    IsMild usable (action >>= next) := by
  intro state fine
  obtain ⟨still, mild⟩ := first state fine
  cases ended : (action state).outcome with
  | error failure =>
    rw [Action.bind_apply_error ended]
    refine ⟨still, fun other same => ?_⟩
    obtain rfl := Except.error.inj same
    exact mild failure ended
  | ok value =>
    rw [Action.bind_apply_ok ended]
    exact others value _ still

/-- An outcome is mild if its failure is no interruption. -/
theorem ofExcept {outcome : Except Failure α}
    (mild : ∀ failure, outcome = .error failure → failure.isInterruption = false) :
    IsMild usable (Action.ofExcept outcome) := by
  intro state fine
  rw [Action.ofExcept_apply]
  exact ⟨fine, mild⟩

/-- Mild calls in turn are mild. -/
theorem runAll {perform : Call → Action σ Reply} (mild : ∀ call, IsMild usable (perform call))
    (calls : List Call) : IsMild usable (runAll perform calls) := by
  induction calls with
  | nil => exact .pure _
  | cons call rest ih => exact (mild call).bind fun _ => ih.bind fun _ => .pure _

end IsMild

/-! ## Stores in memory -/

/-- On a store that fails by no interruption, no call does. -/
theorem Unsteady.answer_isMild (call : Call) : IsMild IsOrdinary (answer call) := by
  have command (call : Call) : IsMild IsOrdinary (command call) := by
    intro store ordinary
    obtain served | ⟨failure, mild, failed⟩ := command_cases ordinary call
    · rw [served]
      exact ⟨ordinary.tail _, fun _ same => nomatch same⟩
    · rw [failed]
      refine ⟨ordinary.tail _, fun other same => ?_⟩
      obtain rfl := Except.error.inj same
      exact mild
  unfold answer
  split
  · exact (IsMild.runAll command _).bind fun _ => .pure _
  · exact command call

/-- A look that is answered is answered with no count below zero. -/
theorem Unsteady.nonneg_of_inspect {key : String} {bound count : Int} {store : Unsteady}
    (told : (answer (.inspect key bound) store).outcome.bind Reply.toCount = .ok count) :
    0 ≤ count := by
  cases outcome : (answer (.inspect key bound) store).outcome with
  | error failure =>
    rw [outcome] at told
    cases told
  | ok reply =>
    rw [outcome] at told
    obtain ⟨replies, came, chosen⟩ := Action.bind_outcome_eq_ok.mp outcome
    obtain ⟨_, others, _, rest, rfl⟩ := runAll_cons_outcome_eq_ok.mp came
    obtain ⟨last, _, counted, _, rfl⟩ := runAll_cons_outcome_eq_ok.mp rest
    obtain rfl : last = reply := Except.ok.inj chosen
    obtain ⟨rfl, _⟩ := command_of_ok counted
    generalize (command (.purge key bound) store).state.here = found at told
    obtain rfl : (found.count key).1 = count := Except.ok.inj told
    unfold Memory.count
    split
    · exact Int.le_refl 0
    · exact Int.natCast_nonneg _

namespace Local

/-- On a store whose calls are refused by ordinary failures at most, so is every call. -/
theorem answer_isMild (call : Call) :
    IsMild (fun store => store.interference.OnlyRefuses) (answer call) := by
  have single (call : Call) : IsMild (fun store => store.interference.OnlyRefuses)
      (single call) := by
    intro store refuses
    obtain quiet | ⟨failure, mild, failed⟩ := refuses.outcome?_cases call.name
    · rw [single_of_none store quiet]
      exact ⟨refuses, fun _ same => nomatch same⟩
    · unfold Local.single
      rw [failed]
      refine ⟨refuses, fun other same => ?_⟩
      obtain rfl := Except.error.inj same
      exact mild
  intro store refuses
  unfold answer
  split
  · exact ((IsMild.runAll single _).bind fun _ => .pure _) store refuses
  · exact single call store refuses

/-- A look that is answered is answered with no count below zero. -/
theorem nonneg_of_inspect {key : String} {bound count : Int} {store : Local}
    (refuses : store.interference.OnlyRefuses)
    (told : (answer (.inspect key bound) store).outcome.bind Reply.toCount = .ok count) :
    0 ≤ count := by
  obtain ⟨ahead, -, came⟩ := answer_isUnsteady refuses (.inspect key bound)
  have same := congrArg Step.outcome (came [])
  rw [← same] at told
  exact Unsteady.nonneg_of_inspect told

end Local

/-! ## The store on a server -/

namespace Remote

/-- Some requests may be refused by ordinary failures. -/
abbrev OnlyRefused (remote : Remote) : Prop := remote.interference.OnlyRefuses

/-- A command that the server refuses is refused by an ordinary failure. -/
theorem isInterruption_of_run {command : Command} {server : Server} {failure : Failure}
    (failed : (server.run command).1 = .error failure) : failure.isInterruption = false := by
  have members {key : String} {failure : Failure} (failed : server.members key = .error failure) :
      failure.isInterruption = false := by
    unfold Server.members at failed
    split at failed
    · cases failed
    · cases failed
    · obtain rfl := Except.error.inj failed
      rfl
  cases command with
  | removeUpTo | cardinality | insert | remove =>
    simp only [Server.run] at failed
    split at failed
    · exact Except.error.inj failed ▸ members ‹_›
    · cases failed
  | expire =>
    simp only [Server.run] at failed
    split at failed <;> cases failed
  | delete | ping => cases failed

/-- A kind of states in which requests may be refused by ordinary failures at most, and which notes
of requests and commands of the server stay in. -/
structure IsStable (usable : Remote → Prop) : Prop where
  refused : ∀ remote, usable remote → remote.OnlyRefused
  noted : ∀ remote request, usable remote →
    usable { remote with issued := request :: remote.issued }
  ran : ∀ remote command, usable remote →
    usable { remote with server := (remote.server.run command).2 }

/-- Stores that only refuse calls stay such stores. -/
theorem isStable_onlyRefused : IsStable OnlyRefused :=
  ⟨fun _ refuses => refuses, fun _ _ refuses => refuses, fun _ _ refuses => refuses⟩

section Stable

variable {usable : Remote → Prop} (stable : IsStable usable)
include stable

/-- A request to the server is mild if carrying it out is. -/
theorem issue_isMild (request : ServerCall) {carryOut : Action Remote Reply}
    (mild : IsMild usable carryOut) : IsMild usable (issue request carryOut) := by
  intro remote fine
  have noted := stable.noted remote request fine
  unfold issue
  obtain quiet | ⟨failure, ordinary, failed⟩ :=
    (stable.refused remote fine).outcome?_cases request.name
  · rw [quiet]
    exact mild { remote with issued := request :: remote.issued } noted
  · rw [failed]
    refine ⟨noted, fun other same => ?_⟩
    obtain rfl := Except.error.inj same
    exact ordinary

/-- A command on the server is mild. -/
theorem onServer_isMild (command : Command) : IsMild usable (onServer command) :=
  fun remote fine =>
    ⟨stable.ran remote command fine, fun _ failed => isInterruption_of_run failed⟩

/-- Commands are queued, all of them, or one of them is refused. -/
theorem queueAll_isMild (commands : List Command) : IsMild usable (queueAll commands) := by
  have queue (command : Command) : IsMild usable (queue command) := by
    intro remote fine
    have noted := stable.noted remote (.command command) fine
    unfold Remote.queue
    obtain quiet | ⟨failure, ordinary, failed⟩ :=
      (stable.refused remote fine).outcome?_cases command.name
    · rw [quiet]
      exact ⟨noted, fun _ same => nomatch same⟩
    · rw [failed]
      refine ⟨noted, fun other same => ?_⟩
      obtain rfl := Except.error.inj same
      exact ordinary
  induction commands with
  | nil => exact .pure _
  | cons command rest ih => exact (queue command).bind fun _ => ih.bind fun _ => .pure _

/-- A trip stays in the states that its commands stay in. -/
theorem usable_runEach (commands : List Command) {remote : Remote} (fine : usable remote) :
    usable { remote with server := (Server.runEach commands remote.server).2 } := by
  induction commands generalizing remote with
  | nil => exact fine
  | cons command rest ih => exact ih (stable.ran remote command fine)

omit stable in
/-- The first refusal of a trip is one of its commands'. -/
theorem isInterruption_of_runEach {commands : List Command} {server : Server} {failure : Failure}
    (failed : (Server.runEach commands server).1.mapM id = .error failure) :
    failure.isInterruption = false := by
  induction commands generalizing server with
  | nil => cases failed
  | cons command rest ih =>
    simp only [Server.runEach, List.mapM_cons, id_eq] at failed
    cases first : (server.run command).1 with
    | error refusal =>
      rw [first] at failed
      obtain rfl := Except.error.inj failed
      exact isInterruption_of_run first
    | ok reply =>
      rw [first] at failed
      cases others : (Server.runEach rest (server.run command).2).1.mapM id with
      | error refusal =>
        rw [others] at failed
        obtain rfl := Except.error.inj failed
        exact ih others
      | ok replies =>
        rw [others] at failed
        cases failed

/-- A trip with commands is mild. -/
theorem trip_isMild (commands : List Command) : IsMild usable (trip commands) := by
  intro remote fine
  refine ⟨usable_runEach stable commands fine, fun failure failed => ?_⟩
  simp only [trip] at failed
  cases replies : (Server.runEach commands remote.server).1.mapM id with
  | error refusal =>
    rw [replies] at failed
    obtain rfl := Except.error.inj failed
    exact isInterruption_of_runEach replies
  | ok all =>
    rw [replies] at failed
    cases failed

/-- A batch of commands is mild. -/
theorem batch_isMild (commands : List Command) : IsMild usable (batch commands) :=
  (issue_isMild stable _ (.pure _)).bind fun _ =>
    (queueAll_isMild stable commands).bind fun queued =>
      issue_isMild stable _ (trip_isMild stable queued)

omit stable in
/-- Trouble that is reported is an ordinary failure. -/
theorem reporting_isMild (call : Call) (key : String) {action : Action Remote Reply}
    (mild : IsMild usable action) : IsMild usable (reporting call key action) := by
  intro remote refuses
  obtain ⟨still, ordinary⟩ := mild remote refuses
  unfold reporting
  simp only
  split
  · split
    · exact ⟨still, fun _ same => Except.error.inj same ▸ rfl⟩
    · exact ⟨still, ordinary⟩
  · exact ⟨still, ordinary⟩

omit stable in
/-- Reading the count of a mild activity is mild. -/
theorem counted_isMild {action : Action Remote Reply} (mild : IsMild usable action) :
    IsMild usable (counted action) :=
  mild.bind fun _ => (IsMild.ofExcept fun _ => isInterruption_of_toCount).bind fun _ => .pure _

omit stable in
/-- Reading the second count of a mild activity is mild. -/
theorem secondCounted_isMild {action : Action Remote Reply} (mild : IsMild usable action) :
    IsMild usable (secondCounted action) := by
  refine counted_isMild (mild.bind fun reply => ?_)
  cases reply <;> exact .pure _

omit stable in
/-- Dropping the reply of a mild activity is mild. -/
theorem silently_isMild {action : Action Remote Reply} (mild : IsMild usable action) :
    IsMild usable (silently action) :=
  mild.bind fun _ => .pure _

/-- A ping is mild. -/
theorem ping_isMild : IsMild usable ping := by
  intro remote refuses
  obtain ⟨still, ordinary⟩ :=
    issue_isMild stable (.command .ping) (onServer_isMild stable .ping) remote refuses
  unfold ping send
  simp only
  split
  · exact ⟨still, fun _ same => nomatch same⟩
  · split
    · exact ⟨still, fun _ same => nomatch same⟩
    · exact ⟨still, ordinary⟩
  · exact ⟨still, ordinary⟩

/-- Behind a client whose requests are refused by ordinary failures at most, so is every call. -/
theorem answer_isMild (call : Call) : IsMild usable (answer call) := by
  have sent (command : Command) (key : String) :
      IsMild usable (reporting call key (send command)) :=
    reporting_isMild call key (issue_isMild stable _ (onServer_isMild stable command))
  have batched (commands : List Command) (key : String) :
      IsMild usable (reporting call key (batch commands)) :=
    reporting_isMild call key (batch_isMild stable commands)
  cases call with
  | purge | count => exact counted_isMild (sent _ _)
  | add | remove | expire | delete => exact silently_isMild (sent _ _)
  | record | inspect => exact secondCounted_isMild (batched _ _)
  | ping => exact ping_isMild stable
  | close => exact silently_isMild (issue_isMild stable _ (.pure _))

end Stable

/-- A request that is answered was carried out. -/
theorem issue_of_ok {remote : Remote} (refuses : remote.OnlyRefused) {request : ServerCall}
    {carryOut : Action Remote Reply} {reply : Reply}
    (told : (issue request carryOut remote).outcome = .ok reply) :
    issue request carryOut remote =
      carryOut { remote with issued := request :: remote.issued } := by
  unfold issue at told ⊢
  obtain quiet | ⟨failure, -, failed⟩ := refuses.outcome?_cases request.name
  · rw [quiet]
  · rw [failed] at told
    cases told

/-- Commands that are queued are queued as they are. -/
theorem eq_of_queueAll {commands queued : List Command} {remote : Remote}
    (refuses : remote.OnlyRefused) (told : (queueAll commands remote).outcome = .ok queued) :
    queued = commands := by
  induction commands generalizing remote queued with
  | nil => exact (Except.ok.inj told).symm
  | cons command rest ih =>
    obtain ⟨first, one, told⟩ := Action.bind_outcome_eq_ok.mp told
    obtain ⟨others, all, told⟩ := Action.bind_outcome_eq_ok.mp told
    have left : (queue command remote).state.OnlyRefused ∧ first = [command] := by
      unfold queue at one ⊢
      obtain quiet | ⟨failure, -, failed⟩ := refuses.outcome?_cases command.name
      · rw [quiet] at one ⊢
        exact ⟨refuses, (Except.ok.inj one).symm⟩
      · rw [failed] at one
        cases one
    rw [← Except.ok.inj told, left.2, ih left.1 all]
    rfl

/-- A batch that is answered is answered with the replies of a trip. -/
theorem exists_trip_of_batch {commands : List Command} {remote : Remote}
    (refuses : remote.OnlyRefused) {reply : Reply}
    (told : (batch commands remote).outcome = .ok reply) :
    ∃ found, (trip commands found).outcome = .ok reply := by
  obtain ⟨_, -, told⟩ := Action.bind_outcome_eq_ok.mp told
  obtain ⟨queued, all, told⟩ := Action.bind_outcome_eq_ok.mp told
  have opened := (issue_isMild isStable_onlyRefused .pipeline (.pure .nothing) remote refuses).1
  obtain rfl := eq_of_queueAll opened all
  rw [issue_of_ok (queueAll_isMild isStable_onlyRefused queued _ opened).1 told] at told
  exact ⟨_, told⟩

/-- Reports leave what is answered. -/
theorem reporting_of_ok {call : Call} {key : String} {action : Action Remote Reply}
    {remote : Remote} {reply : Reply}
    (told : (reporting call key action remote).outcome = .ok reply) :
    (action remote).outcome = .ok reply := by
  unfold reporting at told
  simp only at told
  split at told
  · rename_i fault failed
    split at told
    · cases told
    · exact told
  · exact told

/-- A trip of two commands that is answered is answered with the reply to each. -/
theorem eq_series_of_trip {one two : Command} {remote : Remote} {reply : Reply}
    (told : (trip [one, two] remote).outcome = .ok reply) : ∃ first second,
      (remote.server.run one).1 = .ok first ∧
        ((remote.server.run one).2.run two).1 = .ok second ∧ reply = .series [first, second] := by
  simp only [trip, Server.runEach, List.mapM_cons, List.mapM_nil, id_eq] at told
  cases first : (remote.server.run one).1 with
  | error failure =>
    rw [first] at told
    cases told
  | ok reply =>
    cases second : ((remote.server.run one).2.run two).1 with
    | error failure =>
      rw [first, second] at told
      cases told
    | ok other =>
      rw [first, second] at told
      exact ⟨reply, other, rfl, rfl, (Except.ok.inj told).symm⟩

/-- A look that is answered is answered with no count below zero. -/
theorem nonneg_of_inspect {key : String} {bound count : Int} {remote : Remote}
    (refuses : remote.OnlyRefused)
    (told : (answer (.inspect key bound) remote).outcome.bind Reply.toCount = .ok count) :
    0 ≤ count := by
  cases outcome : (answer (.inspect key bound) remote).outcome with
  | error failure =>
    rw [outcome] at told
    cases told
  | ok reply =>
    rw [outcome] at told
    obtain ⟨last, chosen, rest⟩ := Action.bind_outcome_eq_ok.mp outcome
    obtain ⟨series, batched, picked⟩ := Action.bind_outcome_eq_ok.mp chosen
    obtain ⟨found, answered⟩ := exists_trip_of_batch refuses (reporting_of_ok batched)
    obtain ⟨first, second, -, counted, rfl⟩ := eq_series_of_trip answered
    obtain rfl : second = last := Except.ok.inj picked
    simp only [Server.run] at counted
    split at counted
    · cases counted
    · obtain rfl := Except.ok.inj counted
      obtain rfl := Except.ok.inj (Except.ok.inj rest ▸ told)
      exact Int.natCast_nonneg _

end Remote

end Turnstile.Store
