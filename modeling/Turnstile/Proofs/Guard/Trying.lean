import Turnstile.Proofs.Guard.Charging
import Turnstile.Proofs.Limiter.Tolerance

/-!
# What the guard tries on a store that may fail

A guarded activity makes trials in turn, up to the first that is denied. A trial whose check meets
a failure is admitted like any other, and the next one finds the store as the failure left it. The
activity ends with a denial exactly when a trial is denied, and is told the verdict of the last one.
-/

namespace Turnstile

open Limiter Quota Store Time

/-- One check of a scope, made on a node. -/
structure Trial (σ : Type) where
  scope : Scope
  identifier : String
  limit : Limit
  now : Int
  found : Node σ

namespace Trial

variable {σ : Type} [Backend σ] (trial : Trial σ)

/-- The name of its entry. -/
def entry : String := entryId trial.now trial.found.serial

/-- The count that its attempt ends with, and the store that it leaves. -/
def ended : Except Failure Int × σ :=
  entered trial.limit trial.identifier trial.entry trial.now trial.found.store

/-- The verdict that it ends with. -/
def verdict : Verdict := attemptVerdict trial.limit trial.now trial.ended.1

/-- The node that it leaves. -/
def left : Node σ := ⟨trial.ended.2, trial.found.serial + 1⟩

/-- What describes it to its caller. -/
def admission : Admission := ⟨trial.scope, trial.limit, trial.verdict⟩

/-- The batch of its attempt. -/
def batch (seconds : Int) : Step σ Reply :=
  Backend.answer (recordCall trial.limit trial.identifier trial.entry trial.now seconds)
    trial.found.store

/-- The removal of its entry. -/
def removal (seconds : Int) : Step σ Reply :=
  Backend.answer (.remove (trial.limit.key trial.identifier) trial.entry)
    (trial.batch seconds).state

/-- Its batch counted as many as the capacity, and its entry was taken back. -/
def IsTakenBack : Prop :=
  ∃ seconds count reply, trial.limit.ttl = .ok seconds ∧
    (trial.batch seconds).outcome.bind Reply.toCount = .ok count ∧ trial.limit.capacity ≤ count ∧
    (trial.removal seconds).outcome = .ok reply

/-- A trial ends as its batch and its removal do. -/
theorem ended_fst {seconds : Int} (lifetime : trial.limit.ttl = .ok seconds) :
    trial.ended.1 = (trial.batch seconds).outcome.bind Reply.toCount >>= fun count =>
      if Verdict.admits trial.limit count then .ok count
      else (trial.removal seconds).outcome.map fun _ => count := by
  unfold ended entered batch removal
  rw [lifetime]
  simp only
  cases (Backend.answer (recordCall trial.limit trial.identifier trial.entry trial.now seconds)
      trial.found.store).outcome.bind Reply.toCount with
  | error failure => rfl
  | ok count =>
    simp only [bind, Except.bind]
    split <;> rfl

/-- A trial ends with a count as great as the capacity exactly when its entry is taken back. -/
theorem isTakenBack_iff :
    trial.IsTakenBack ↔ ∃ count, trial.ended.1 = .ok count ∧ trial.limit.capacity ≤ count := by
  cases lifetime : trial.limit.ttl with
  | error failure =>
    have outcome : trial.ended.1 = .error failure :=
      congrArg Prod.fst (entered_of_ttl_error lifetime)
    simp [IsTakenBack, lifetime, outcome]
  | ok seconds =>
    rw [trial.ended_fst lifetime]
    simp only [IsTakenBack, lifetime, Except.ok.injEq, exists_and_left, exists_eq_left']
    cases (trial.batch seconds).outcome.bind Reply.toCount with
    | error failure => simp [bind, Except.bind]
    | ok count =>
      cases room : Verdict.admits trial.limit count with
      | true =>
        have below := Verdict.admits_eq_true_iff.mp room
        simp [bind, Except.bind, room, not_le.mpr below]
      | false =>
        have full := Verdict.admits_eq_false_iff.mp room
        cases (trial.removal seconds).outcome <;> simp [bind, Except.bind, room, full, Except.map]

/-- A trial is denied exactly when its entry is taken back. -/
theorem allowed_eq_false_iff : trial.verdict.allowed = false ↔ trial.IsTakenBack := by
  rw [isTakenBack_iff, verdict]
  cases trial.ended.1 with
  | error failure => simp [attemptVerdict, Verdict.ofOutage]
  | ok count => simp [attemptVerdict, Verdict.ofAttempt, Verdict.admits_eq_false_iff]

/-- The verdict ends with the window of its limit. -/
theorem resetTime_eq : trial.verdict.resetTime = trial.now + trial.limit.window := by
  unfold verdict
  cases trial.ended.1 <;> rfl

end Trial

/-! ## Trials in turn -/

section Trials

variable {σ : Type} [Backend σ]

/-- The trials of charges in turn, each on the node that the one before it left, up to the first
that is denied. -/
def trials (policy : Policy) (now : Int) : List (Scope × String) → Node σ → List (Trial σ)
  | [], _ => []
  | (scope, identifier) :: rest, node =>
    let trial : Trial σ := ⟨scope, identifier, policy.limitOf scope, now, node⟩
    trial :: if trial.verdict.allowed then trials policy now rest trial.left else []

/-- The node that trials in turn leave. -/
def leftBy (node : Node σ) (made : List (Trial σ)) : Node σ :=
  (made.getLast?.map Trial.left).getD node

/-- No trial is denied. -/
def AllAllowed (made : List (Trial σ)) : Prop := ∀ trial ∈ made, trial.verdict.allowed = true

variable {policy : Policy} {now : Int} {first second : List (Scope × String)} {node : Node σ}

/-- What the first trial leaves is left to the rest. -/
theorem leftBy_cons (trial : Trial σ) (made : List (Trial σ)) :
    leftBy node (trial :: made) = leftBy trial.left made := by
  cases made with
  | nil => rfl
  | cons other rest =>
    rw [leftBy, leftBy, List.getLast?_cons_cons]
    cases found : (other :: rest).getLast? with
    | none => simp at found
    | some last => rfl

/-- What no trial of the charges breaks is so on the node that they leave. -/
theorem leftBy_induction {kept : Node σ → Prop} {charges : List (Scope × String)}
    (holds : kept node) (step : ∀ charge ∈ charges, ∀ found, kept found →
      kept (Trial.left ⟨charge.1, charge.2, policy.limitOf charge.1, now, found⟩)) :
    kept (leftBy node (trials policy now charges node)) := by
  induction charges generalizing node with
  | nil => exact holds
  | cons charge rest ih =>
    obtain ⟨own, others⟩ := List.forall_mem_cons.mp step
    have after := own node holds
    simp only [trials, leftBy_cons]
    split
    · exact ih after others
    · exact after

/-- One charge makes one trial. -/
theorem trials_singleton (charge : Scope × String) : trials policy now [charge] node =
    [⟨charge.1, charge.2, policy.limitOf charge.1, now, node⟩] := by
  simp only [trials, ite_self]

/-- Each trial is made on the node that those before it left. -/
theorem found_eq_leftBy {before after : List (Trial σ)} {trial : Trial σ}
    (made : trials policy now first node = before ++ trial :: after) :
    trial.found = leftBy node before := by
  induction first generalizing node before with
  | nil => exact absurd made.symm (by simp [trials])
  | cons charge rest ih =>
    cases before with
    | nil =>
      obtain rfl := (List.cons.inj made).1
      rfl
    | cons earlier others =>
      obtain ⟨rfl, later⟩ := List.cons.inj made
      rw [leftBy_cons]
      split at later
      · exact ih later
      · exact absurd later.symm (by simp)

/-- After trials that are all admitted the rest is tried. -/
theorem trials_append (allowed : AllAllowed (trials policy now first node)) :
    trials policy now (first ++ second) node =
      trials policy now first node ++
        trials policy now second (leftBy node (trials policy now first node)) := by
  induction first generalizing node with
  | nil => rfl
  | cons charge rest ih =>
    obtain ⟨own, others⟩ := List.forall_mem_cons.mp allowed
    rw [if_pos own] at others
    simp only [List.cons_append, trials, own, if_true, leftBy_cons]
    rw [ih others]

/-- After a denial nothing more is tried. -/
theorem trials_append_of_denied (denied : ¬AllAllowed (trials policy now first node)) :
    trials policy now (first ++ second) node = trials policy now first node := by
  induction first generalizing node with
  | nil => exact absurd (fun _ none => nomatch none) denied
  | cons charge rest ih =>
    simp only [List.cons_append, trials]
    split
    · rename_i own
      rw [ih fun others => denied (List.forall_mem_cons.mpr ⟨own, by rwa [if_pos own]⟩)]
    · rfl

/-- Where all are allowed, every charge is tried. -/
theorem map_trials_of_allowed (allowed : AllAllowed (trials policy now first node)) :
    (trials policy now first node).map (fun trial => (trial.scope, trial.identifier)) = first := by
  induction first generalizing node with
  | nil => rfl
  | cons charge rest ih =>
    obtain ⟨own, others⟩ := List.forall_mem_cons.mp allowed
    rw [if_pos own] at others
    simp only [trials, own, if_true, List.map_cons, ih others]

/-- The trials of an instant are made under the limits of the policy. -/
theorem of_mem_trials {trial : Trial σ} (member : trial ∈ trials policy now first node) :
    trial.limit = policy.limitOf trial.scope ∧ trial.now = now := by
  induction first generalizing node with
  | nil => cases member
  | cons charge rest ih =>
    rw [trials] at member
    rcases List.mem_cons.mp member with rfl | later
    · exact ⟨rfl, rfl⟩
    · split at later
      · exact ih later
      · cases later

/-- What the first trials leave is left to the later ones. -/
theorem leftBy_append (made later : List (Trial σ)) :
    leftBy node (made ++ later) = leftBy (leftBy node made) later := by
  induction made generalizing node with
  | nil => rfl
  | cons trial rest ih => rw [List.cons_append, leftBy_cons, leftBy_cons, ih]

end Trials

/-! ## Activities that try charges -/

section Trying

variable {σ α β : Type} [Backend σ]

/-- The activity makes the trials of the charges on every node that can be put up with: it leaves
what the last of them leaves, ends as told when all are admitted, and with a denial otherwise. -/
def Tries (usable : σ → Prop) (policy : Policy) (now : Int) (charges : List (Scope × String))
    (kind : List (Trial σ) → α → Prop) (action : Action (Node σ) α) : Prop :=
  ∀ node : Node σ, usable node.store →
    let made := trials policy now charges node
    usable (leftBy node made).store ∧ (action node).state = leftBy node made ∧
      (AllAllowed made → Yields (kind made) (action node).outcome) ∧
      (¬AllAllowed made → Denies (action node).outcome)

namespace Tries

variable {usable : σ → Prop} {policy : Policy} {now : Int}
  {first second : List (Scope × String)} {kind : List (Trial σ) → α → Prop}
  {more : List (Trial σ) → β → Prop} {action : Action (Node σ) α} {next : α → Action (Node σ) β}

/-- What leaves the node alone tries nothing. -/
theorem of_state_eq (left : ∀ node, (action node).state = node)
    (ended : ∀ node, Yields (kind []) (action node).outcome) :
    Tries usable policy now [] kind action := fun node fine =>
  ⟨fine, left node, fun _ => ended node, fun denied => absurd (fun _ none => nomatch none) denied⟩

/-- A value tries nothing. -/
theorem pure {value : α} (fits : kind [] value) :
    Tries usable policy now [] kind (Pure.pure value) :=
  of_state_eq (fun _ => rfl) fun _ => ⟨value, rfl, fits⟩

/-- An outcome tries nothing. -/
theorem ofExcept {outcome : Except Failure α} (ended : Yields (kind []) outcome) :
    Tries usable policy now [] kind (Action.ofExcept outcome) := by
  cases outcome <;> exact of_state_eq (fun _ => rfl) fun _ => ended

/-- Trials of a sequence are those of its parts in turn. -/
theorem bind (trying : Tries usable policy now first kind action)
    (others : ∀ made value, kind made value →
      Tries usable policy now second (fun later => more (made ++ later)) (next value)) :
    Tries usable policy now (first ++ second) more (action >>= next) := by
  intro node fine
  obtain ⟨still, left, ended, denied⟩ := trying node fine
  by_cases allowed : AllAllowed (trials policy now first node)
  · obtain ⟨value, outcome, fits⟩ := ended allowed
    obtain ⟨last, after, finished, refused⟩ := others _ value fits _ still
    have joined (later : List (Trial σ)) : AllAllowed (trials policy now first node ++ later) ↔
        AllAllowed later :=
      List.forall_mem_append.trans ⟨And.right, fun rest => ⟨allowed, rest⟩⟩
    rw [Action.bind_apply_ok outcome, left]
    simp only [trials_append allowed, leftBy_append, joined]
    exact ⟨last, after, finished, refused⟩
  · obtain ⟨failure, outcome, denial⟩ := denied allowed
    rw [Action.bind_apply_error outcome]
    simp only [trials_append_of_denied allowed]
    exact ⟨still, left, fun all => absurd all allowed, fun _ => ⟨failure, rfl, denial⟩⟩

/-- Before a rest without trials, those of the first part are made. -/
theorem bind_of_nil (trying : Tries usable policy now first kind action)
    (others : ∀ made value, kind made value →
      Tries usable policy now [] (fun _ => more made) (next value)) :
    Tries usable policy now first more (action >>= next) := by
  have untried (made : List (Trial σ)) (value : α) (fits : kind made value) :
      Tries usable policy now [] (fun later => more (made ++ later)) (next value) := by
    intro node fine
    have alone := others made value fits node fine
    simp only [trials, List.append_nil] at alone ⊢
    exact alone
  have joined := trying.bind untried
  rwa [List.append_nil] at joined

end Tries

end Trying

/-! ## The guard -/

/-- What describes the last of some trials to its caller. -/
def lastAdmission {σ : Type} [Backend σ] (made : List (Trial σ)) : Option Admission :=
  made.getLast?.map Trial.admission

/-- The last admission is that of the later trials, if they make one. -/
theorem lastAdmission_append {σ : Type} [Backend σ] (made later : List (Trial σ)) :
    lastAdmission (made ++ later) = (lastAdmission later).or (lastAdmission made) := by
  rw [lastAdmission, List.getLast?_append, Option.map_or, lastAdmission, lastAdmission]

namespace Guard

variable (guard : Guard) {σ : Type} [Backend σ] {usable : σ → Prop}

/-- How trials in turn end for the guard: with what describes the last of them, or of those before
it, unless one is denied. -/
def told (clocks : Clocks) (made : List (Trial σ)) (last : Option Admission) :
    Except Failure (Option Admission) :=
  match made.find? (!·.verdict.allowed) with
  | some denied => .error (guard.refusal clocks denied.admission)
  | none => .ok ((lastAdmission made).or last)

section Told

variable {guard} {clocks : Clocks} {made : List (Trial σ)}

/-- Where all are allowed, the last admission is told. -/
theorem told_of_allAllowed (allowed : AllAllowed made) (last : Option Admission) :
    guard.told clocks made last = .ok ((lastAdmission made).or last) := by
  have none : made.find? (!·.verdict.allowed) = .none :=
    List.find?_eq_none.mpr fun trial member => by rw [allowed trial member]; decide
  rw [told, none]

/-- Where not all are allowed, one that is denied is told. -/
theorem exists_told_of_denied (denied : ¬AllAllowed made) (last : Option Admission) :
    ∃ trial ∈ made, trial.verdict.allowed = false ∧
      guard.told clocks made last = .error (guard.refusal clocks trial.admission) := by
  cases found : made.find? (!·.verdict.allowed) with
  | none =>
    refine absurd (fun trial member => ?_) denied
    have own := List.find?_eq_none.mp found trial member
    simpa using own
  | some trial =>
    have own := List.find?_some found
    exact ⟨trial, List.mem_of_find?_eq_some found, by simpa using own, by rw [told, found]⟩

/-- An admitted trial describes itself to those after it. -/
theorem told_cons_of_allowed {trial : Trial σ} (allowed : trial.verdict.allowed = true)
    (last : Option Admission) : guard.told clocks (trial :: made) last =
      guard.told clocks made (some trial.admission) := by
  have first : lastAdmission [trial] = some trial.admission := rfl
  rw [told, told, List.find?_cons_of_neg (by simp [allowed]), ← List.singleton_append,
    lastAdmission_append, first, Option.or_assoc]
  rfl

/-- A trial that is denied is told, whatever follows. -/
theorem told_cons_of_denied {trial : Trial σ} (denied : trial.verdict.allowed = false)
    (last : Option Admission) : guard.told clocks (trial :: made) last =
      .error (guard.refusal clocks trial.admission) := by
  rw [told, List.find?_cons_of_pos (by simp [denied])]

/-- After trials that are all admitted a denied one is told. -/
theorem told_concat_of_denied {trial : Trial σ} (allowed : AllAllowed made)
    (denied : trial.verdict.allowed = false) (last : Option Admission) :
    guard.told clocks (made ++ [trial]) last = .error (guard.refusal clocks trial.admission) := by
  induction made generalizing last with
  | nil => exact told_cons_of_denied denied last
  | cons first rest ih =>
    obtain ⟨own, others⟩ := List.forall_mem_cons.mp allowed
    rw [List.cons_append, told_cons_of_allowed own]
    exact ih others _

end Told

variable (tolerable : Tolerable usable) (clocks : Clocks)
include tolerable

/-- Enforcing a scope tries one charge. -/
theorem enforce_eq (scope : Scope) (identifier : String) {node : Node σ}
    (fine : usable node.store) :
    let trial : Trial σ := ⟨scope, identifier, guard.policy.limitOf scope, clocks.limiter, node⟩
    (guard.enforce scope identifier clocks node).outcome =
        (if trial.verdict.allowed then .ok trial.admission
          else .error (guard.refusal clocks trial.admission)) ∧
      (guard.enforce scope identifier clocks node).state = trial.left := by
  intro trial
  obtain ⟨outcome, state⟩ := guard.policy.find_bind scope
    (fun limit => Limiter.check limit identifier clocks.limiter) node
  obtain ⟨told, left⟩ := tolerable.check (guard.policy.limitOf scope) identifier clocks.limiter fine
  have checked : (Quota.check guard.policy scope identifier clocks.limiter node).outcome =
      .ok trial.verdict := outcome.trans told
  have after : (Quota.check guard.policy scope identifier clocks.limiter node).state =
      trial.left := state.trans left
  obtain ⟨settled, kept⟩ := guard.settle_eq scope identifier clocks trial.verdict trial.left
  rw [enforce, Action.bind_apply_ok checked, after]
  exact ⟨settled, kept⟩

/-- Enforcing scopes tries those that apply, in order. -/
theorem enforceScopes_eq (operation : Operation) (principal : Principal)
    (address : Option String) (scopes : List Scope) (last : Option Admission) {node : Node σ}
    (fine : usable node.store) :
    let made := trials guard.policy clocks.limiter (scopes.filterMap fun scope =>
      (Principal.nonEmpty? (scope.identifier? principal address)).map (scope, ·)) node
    let step := guard.enforceScopes operation principal address clocks scopes last node
    step.outcome = guard.told clocks made last ∧ step.state = leftBy node made := by
  induction scopes generalizing last node with
  | nil => exact ⟨rfl, rfl⟩
  | cons scope rest ih =>
    rw [List.filterMap_cons, enforceScopes]
    cases Principal.nonEmpty? (scope.identifier? principal address) with
    | none => exact ih last fine
    | some identifier =>
      let trial : Trial σ :=
        ⟨scope, identifier, guard.policy.limitOf scope, clocks.limiter, node⟩
      obtain ⟨outcome, left⟩ := guard.enforce_eq tolerable clocks scope identifier fine
      have still : usable trial.left.store := (tolerable.entered _ _ _ _ fine).1
      simp only [Option.map_some, trials]
      cases allowed : trial.verdict.allowed with
      | true =>
        rw [if_pos allowed] at outcome
        rw [Action.bind_apply_ok outcome, left, if_pos rfl, leftBy_cons,
          told_cons_of_allowed allowed]
        exact ih (some trial.admission) still
      | false =>
        rw [if_neg (Bool.eq_false_iff.mp allowed)] at outcome
        rw [Action.bind_apply_error outcome, if_neg Bool.false_ne_true,
          told_cons_of_denied allowed]
        exact ⟨rfl, left⟩

/-- An operation that spares nobody is evaluated by trying its scopes. -/
theorem evaluate_eq (operation : Operation) (principal : Principal) (address : Option String)
    {sparesAdmins : Bool} (charged : (sparesAdmins && principal.isAdmin) = false) {node : Node σ}
    (fine : usable node.store) :
    let made := trials guard.policy clocks.limiter (operation.charges principal address) node
    let step := guard.evaluate operation principal address clocks sparesAdmins node
    step.outcome = guard.told clocks made none ∧ step.state = leftBy node made := by
  intro made step
  let enforced := guard.enforceScopes operation principal address clocks operation.scopes none node
  obtain ⟨outcome, left⟩ : enforced.outcome = guard.told clocks made none ∧
      enforced.state = leftBy node made :=
    guard.enforceScopes_eq tolerable clocks operation principal address operation.scopes none fine
  show (guard.evaluate operation principal address clocks sparesAdmins node).outcome = _ ∧
    (guard.evaluate operation principal address clocks sparesAdmins node).state = _
  rw [evaluate, charged]
  simp only [Bool.false_eq_true, if_false]
  cases told : guard.told clocks made none with
  | error failure =>
    rw [told] at outcome
    rw [Action.bind_apply_error outcome]
    exact ⟨rfl, left⟩
  | ok last =>
    rw [told] at outcome
    rw [Action.bind_apply_ok outcome, left]
    cases last <;> exact ⟨rfl, rfl⟩

omit tolerable in
/-- Nothing is charged to an administrator who is spared. -/
theorem evaluate_of_spared (operation : Operation) {principal : Principal}
    (address : Option String) {sparesAdmins : Bool}
    (spared : (sparesAdmins && principal.isAdmin) = true) (node : Node σ) :
    let step := guard.evaluate operation principal address clocks sparesAdmins node
    step.outcome = .ok none ∧ step.state = node := by
  rw [evaluate, spared]
  exact ⟨rfl, rfl⟩

omit clocks

variable {now : Int} (ends : guard.policy.EndsInCalendar now)

include ends

end Guard

end Turnstile
