import Turnstile.Proofs.Guard.Composition
import Turnstile.Proofs.Quota.Isolation

/-!
# What is asked of the guard, the quotas and the limiter

Whatever is asked, the store in memory is left with nothing under its keys that the checks in turn
did not leave, and a problem is the refusal of a check that was denied. A denied check adds nothing.
-/

namespace Turnstile

open Limiter Quota Store Time

/-! ## What a trial adds -/

namespace Trial

variable (trial : Trial Local) (quiet : trial.found.store.interference.IsQuiet)
include quiet

/-- A trial is a check of the limiter. -/
theorem check_eq :
    (check trial.limit trial.identifier trial.now trial.found).outcome = .ok trial.verdict ∧
      (check trial.limit trial.identifier trial.now trial.found).state = trial.left :=
  tolerable_local.check trial.limit trial.identifier trial.now quiet.onlyRefuses

/-- With a lifetime for its key, a trial leaves its entry if it is admitted. -/
theorem left_memory {seconds : Int} (lifetime : trial.limit.ttl = .ok seconds) :
    trial.left.store.memory =
      if trial.verdict.allowed then trial.recorded seconds
      else (trial.recorded seconds).remove trial.key trial.entry := by
  rw [trial.verdict_of_lifetime quiet lifetime, left, trial.ended_of_lifetime quiet lifetime]
  rfl

/-- A trial adds its own entry at most. -/
theorem rows_left_subset (key : String) : trial.left.store.memory.rows key ⊆
    trial.found.store.memory.rows key ++ [(trial.entry, trial.now)] := by
  cases lifetime : trial.limit.ttl with
  | error failure =>
    rw [left, ended, entered_of_ttl_error lifetime]
    exact List.subset_append_left _ _
  | ok seconds =>
    have recorded : (trial.recorded seconds).rows key ⊆ _ := Memory.record_rows_subset ..
    rw [trial.left_memory quiet lifetime]
    split
    · exact recorded
    · exact List.Subset.trans (Memory.remove_rows_subset ..) recorded

/-- A trial adds nothing under other keys, nor under its own when it is denied. -/
theorem rows_left_subset_of_denied {key : String}
    (denied : trial.key = key → trial.verdict.allowed = false) :
    trial.left.store.memory.rows key ⊆ trial.found.store.memory.rows key := by
  by_cases own : trial.key = key
  · obtain ⟨seconds, -, -, lifetime, -⟩ := trial.allowed_eq_false_iff.mp (denied own)
    rw [trial.left_memory quiet lifetime, denied own, if_neg Bool.false_ne_true]
    exact Memory.remove_record_rows_subset ..
  · have held := trial.left_get? quiet fun same => absurd same own
    rw [Memory.rows, held]
    exact List.Subset.refl _

/-- With a lifetime for its key, a trial that finds only entries of a window ago or earlier is
admitted to an empty window. -/
theorem verdict_of_rows_le {seconds : Int} (lifetime : trial.limit.ttl = .ok seconds)
    (old : ∀ row ∈ trial.found.store.memory.rows trial.key,
      row.2 + trial.limit.window ≤ trial.now) :
    trial.verdict =
      ⟨true, trial.limit.capacity - 1, trial.now + trial.limit.window, 1⟩ := by
  have empty : trial.counted = [] := by
    refine List.filter_eq_nil_iff.mpr fun row member => ?_
    have past := old row ((Memory.entries_sublist_rows ..).subset member)
    simp only [decide_eq_true_eq, not_lt]
    omega
  have positive := trial.limit.capacity_pos
  have room : Verdict.admits trial.limit 0 = true := Verdict.admits_eq_true_iff.mpr (by omega)
  rw [trial.verdict_of_lifetime quiet lifetime, empty]
  simp only [Verdict.ofAttempt, List.length_nil, Nat.cast_zero, room, if_true, Verdict.endOf,
    Verdict.mk.injEq, true_and]
  omega

end Trial

section Trials

variable {policy : Policy} {now : Int} {charges : List (Scope × String)} {node : Node Local}
  (quiet : node.store.interference.IsQuiet)
include quiet

/-- Trials add entries of their instant at most. -/
theorem rows_leftBy_le {bound : Int} (before : now ≤ bound)
    (old : ∀ key, ∀ row ∈ node.store.memory.rows key, row.2 ≤ bound) :
    ∀ key, ∀ row ∈ (leftBy node (trials policy now charges node)).store.memory.rows key,
      row.2 ≤ bound := by
  let kept (found : Node Local) : Prop := found.store.interference.IsQuiet ∧
    ∀ key, ∀ row ∈ found.store.memory.rows key, row.2 ≤ bound
  have holds : kept node := ⟨quiet, old⟩
  have left : kept (leftBy node (trials policy now charges node)) := by
    apply leftBy_induction holds
    intro charge _ found same
    obtain ⟨still, older⟩ := same
    let trial : Trial Local := ⟨charge.1, charge.2, policy.limitOf charge.1, now, found⟩
    refine ⟨trial.left_isQuiet still, fun key row member => ?_⟩
    rcases List.mem_append.mp (trial.rows_left_subset still key member) with earlier | own
    · exact older key row earlier
    · rw [List.mem_singleton.mp own]
      exact before
  exact left.2

/-- The first of some trials add nothing under a key if each of them under it is denied. -/
theorem rows_leftBy_subset {made : List (Trial Local)} {key : String}
    (start : made <+: trials policy now charges node)
    (denied : ∀ trial ∈ made, trial.key = key → trial.verdict.allowed = false) :
    (leftBy node made).store.interference.IsQuiet ∧
      (leftBy node made).store.memory.rows key ⊆ node.store.memory.rows key := by
  induction charges generalizing node made with
  | nil =>
    obtain rfl := List.prefix_nil.mp start
    exact ⟨quiet, List.Subset.refl _⟩
  | cons charge rest ih =>
    cases made with
    | nil => exact ⟨quiet, List.Subset.refl _⟩
    | cons trial others =>
      obtain ⟨own, after⟩ := List.forall_mem_cons.mp denied
      obtain ⟨same, following⟩ := List.cons_prefix_cons.mp start
      have still : trial.found.store.interference.IsQuiet := same ▸ quiet
      have kept := trial.rows_left_subset_of_denied still own
      have found : trial.found = node := same ▸ rfl
      rw [leftBy_cons]
      rw [← same] at following
      split at following
      · obtain ⟨last, adds⟩ := ih (trial.left_isQuiet still) following after
        exact ⟨last, List.Subset.trans adds (found ▸ kept)⟩
      · obtain rfl := List.prefix_nil.mp following
        exact ⟨trial.left_isQuiet still, found ▸ kept⟩

end Trials

namespace Guard

/-! ## Deeds -/

/-- What may be asked of the guard, of the quotas under its policy, and of the limiter. An operation
whose scopes meet different readings of the clock does what its enforcements do in turn. -/
inductive Deed where
  | evaluate (operation : Operation) (principal : Principal) (address : Option String)
    (sparesAdmins : Bool)
  | enforce (scope : Scope) (identifier : String)
  | enforceEmail (address : String)
  | quota (errand : Errand)
  | limiter (part : Part)

/-- The quotas that calls charge, in order. -/
def charged (parts : List Part) : List (Scope × String) :=
  (parts.filter (·.request = .check)).map fun part => (part.scope, part.identifier)

namespace Deed

/-- The quotas that a deed tries to charge, in order. -/
def charges : Deed → List (Scope × String)
  | .evaluate operation principal address sparesAdmins =>
    if sparesAdmins && principal.isAdmin then [] else operation.charges principal address
  | .enforce scope identifier => [(scope, identifier)]
  | .enforceEmail address => [(.invitationEmail, normalizeEmail address)]
  | .quota errand => charged errand.parts
  | .limiter part => charged [part]

/-- Do a deed; what it is told when it does not fail is left out. -/
def perform (guard : Guard) (clocks : Clocks) : Deed → Action (Node Local) Unit
  | .evaluate operation principal address sparesAdmins => do
    let _ ← guard.evaluate operation principal address clocks sparesAdmins
    return ()
  | .enforce scope identifier => do
    let _ ← guard.enforce scope identifier clocks
    return ()
  | .enforceEmail address => do
    let _ ← guard.enforceEmail address clocks
    return ()
  | .quota errand => do
    let _ ← errand.perform guard.policy clocks.limiter
    return ()
  | .limiter part => fun node =>
    (do
      let _ ← (visit guard.policy part.request part.scope part.identifier clocks.limiter
        node).perform
      return ()) node

end Deed

/-- What is left after an activity that makes the checks of some charges on a node. Nothing is held
that they did not leave, and a problem with which it ends is the refusal of one that was denied. -/
structure Makes (guard : Guard) (clocks : Clocks) (charges : List (Scope × String))
    (node : Node Local) {α : Type} (outcome : Except Failure α) (left : Node Local) : Prop where
  quiet : left.store.interference.IsQuiet
  rows : ∀ key, left.store.memory.rows key ⊆
    (leftBy node (trials guard.policy clocks.limiter charges node)).store.memory.rows key
  denied : ∀ problem, outcome = .error (.problem problem) →
    ∃ denied ∈ trials guard.policy clocks.limiter charges node,
      denied.verdict.allowed = false ∧
        guard.refusal clocks denied.admission = .problem problem

namespace Makes

variable {guard : Guard} {clocks : Clocks} {charges : List (Scope × String)}
  {node left : Node Local} {α : Type} {outcome : Except Failure α}

/-- What an activity is told may be left out. -/
theorem forget {β : Type} {made : α → β} {action : Action (Node Local) α}
    (makes : Makes guard clocks charges node (action node).outcome (action node).state) :
    Makes guard clocks charges node
      ((do return made (← action) : Action (Node Local) β) node).outcome
      ((do return made (← action) : Action (Node Local) β) node).state := by
  rw [bind_return_outcome, bind_return_state]
  exact ⟨makes.quiet, makes.rows, fun problem raised =>
    makes.denied problem (eq_error_of_map raised)⟩

end Makes

section Makes

variable (guard : Guard) (clocks : Clocks) {node : Node Local}
  (quiet : node.store.interference.IsQuiet)
include quiet

/-- An activity that leaves what its checks leave makes them. -/
theorem makes_of_leftBy {α : Type} {charges : List (Scope × String)} {step : Step (Node Local) α}
    (left : step.state = leftBy node (trials guard.policy clocks.limiter charges node))
    (denied : ∀ problem, step.outcome = .error (.problem problem) →
      ∃ denied ∈ trials guard.policy clocks.limiter charges node,
        denied.verdict.allowed = false ∧
          guard.refusal clocks denied.admission = .problem problem) :
    Makes guard clocks charges node step.outcome step.state := by
  refine ⟨?_, fun key => ?_, denied⟩
  · rw [left, leftBy_store guard.policy clocks.limiter charges quiet]
    exact quiet
  · rw [left]
    exact List.Subset.refl _

/-- Evaluating an operation makes the checks of its deed. -/
theorem makes_evaluate (operation : Operation) (principal : Principal) (address : Option String)
    (sparesAdmins : Bool) :
    let deed : Deed := .evaluate operation principal address sparesAdmins
    let step := guard.evaluate operation principal address clocks sparesAdmins node
    Makes guard clocks deed.charges node step.outcome step.state := by
  intro deed step
  cases spared : sparesAdmins && principal.isAdmin with
  | true =>
    obtain ⟨outcome, left⟩ := guard.evaluate_of_spared clocks operation address spared node
    have none : deed.charges = [] := if_pos spared
    rw [none]
    refine makes_of_leftBy guard clocks quiet left fun problem raised => ?_
    rw [outcome] at raised
    cases raised
  | false =>
    obtain ⟨outcome, left⟩ := guard.evaluate_eq tolerable_local clocks operation principal address
      spared quiet.onlyRefuses
    have all : deed.charges = operation.charges principal address :=
      if_neg (Bool.eq_false_iff.mp spared)
    rw [all]
    refine makes_of_leftBy guard clocks quiet left fun problem raised => ?_
    by_cases allowed :
        AllAllowed (trials guard.policy clocks.limiter (operation.charges principal address) node)
    · rw [outcome, told_of_allAllowed allowed] at raised
      cases raised
    · obtain ⟨denied, member, refused, told⟩ :=
        @exists_told_of_denied guard _ _ clocks _ allowed none
      rw [outcome, told] at raised
      exact ⟨denied, member, refused, Except.error.inj raised⟩

/-- Enforcing a quota makes the check of its deed. -/
theorem makes_enforce (scope : Scope) (identifier : String) :
    let step := guard.enforce scope identifier clocks node
    Makes guard clocks [(scope, identifier)] node step.outcome step.state := by
  intro step
  let trial : Trial Local :=
    ⟨scope, identifier, guard.policy.limitOf scope, clocks.limiter, node⟩
  obtain ⟨outcome, left⟩ : step.outcome = (if trial.verdict.allowed then .ok trial.admission
      else .error (guard.refusal clocks trial.admission)) ∧ step.state = trial.left :=
    guard.enforce_eq tolerable_local clocks scope identifier quiet.onlyRefuses
  have alone : trials guard.policy clocks.limiter [(scope, identifier)] node = [trial] :=
    trials_singleton _
  refine makes_of_leftBy guard clocks quiet ?_ fun problem raised => ?_
  · rw [alone]
    exact left
  · rw [alone]
    refine ⟨trial, List.mem_singleton_self _, ?_⟩
    rw [outcome] at raised
    split at raised
    · cases raised
    · rename_i refused
      exact ⟨Bool.eq_false_iff.mpr refused, Except.error.inj raised⟩

/-- Calls without a check make none. -/
theorem makes_of_tells {α : Type} {parts : List Part}
    (unchecked : ∀ part ∈ parts, part.request ≠ .check) {values : List (Option Verdict)}
    {step : Step (Node Local) α} (outcome : ∃ value, step.outcome = .ok value)
    (tells : Tells guard.policy clocks.limiter parts node values step.state.store) :
    Makes guard clocks (charged parts) node step.outcome step.state := by
  have none : charged parts = [] := by
    rw [charged, List.filter_eq_nil_iff.mpr, List.map_nil]
    intro part member
    rw [decide_eq_true_iff]
    exact unchecked part member
  obtain ⟨value, told⟩ := outcome
  rw [none]
  refine ⟨tells.calm ▸ quiet, fun key row member => ?_, fun problem raised => ?_⟩
  · rcases tells.names key row member with before | ⟨⟨part, listed, checked⟩, -⟩
    · exact before
    · exact absurd checked (unchecked part listed)
  · rw [told] at raised
    cases raised

/-- A call on a quota makes a check of it, or adds nothing. -/
theorem makes_call (apart : guard.policy.KeepsApart) (part : Part) :
    let step := call guard.policy part.request part.scope part.identifier clocks.limiter node
    Makes guard clocks (charged [part]) node step.outcome step.state := by
  intro step
  by_cases checking : part.request = .check
  · obtain ⟨request, scope, identifier⟩ := part
    obtain rfl : request = .check := checking
    let trial : Trial Local :=
      ⟨scope, identifier, guard.policy.limitOf scope, clocks.limiter, node⟩
    obtain ⟨outcome, left⟩ := trial.check_eq quiet
    obtain ⟨told, after⟩ := guard.policy.find_bind scope
      (fun limit => check limit identifier clocks.limiter) node
    have alone : trials guard.policy clocks.limiter [(scope, identifier)] node = [trial] :=
      trials_singleton _
    have checked : Makes guard clocks [(scope, identifier)] node
        (Quota.check guard.policy scope identifier clocks.limiter node).outcome
        (Quota.check guard.policy scope identifier clocks.limiter node).state := by
      refine makes_of_leftBy guard clocks quiet ?_ fun problem raised => ?_
      · rw [alone]
        exact after.trans left
      · rw [show (Quota.check guard.policy scope identifier clocks.limiter node).outcome = _ from
          told.trans outcome] at raised
        cases raised
    exact Makes.forget checked
  · obtain ⟨value, store, outcome, state, tells⟩ := tells_call apart part quiet
      fun checked => absurd checked checking
    have unchecked : ∀ other ∈ [part], other.request ≠ .check :=
      List.forall_mem_singleton.mpr checking
    have left : Tells guard.policy clocks.limiter [part] node [value] step.state.store := by
      rw [show step.state = _ from state]
      exact tells
    exact makes_of_tells guard clocks quiet unchecked ⟨value, outcome⟩ left

/-- An errand makes the check that it is, or adds nothing. -/
theorem makes_errand (apart : guard.policy.KeepsApart) (errand : Errand) :
    let step := errand.perform guard.policy clocks.limiter node
    Makes guard clocks (charged errand.parts) node step.outcome step.state := by
  rw [perform_eq]
  by_cases checked : ∃ part ∈ errand.parts, part.request = .check
  · obtain ⟨part, listed, checking⟩ := checked
    rw [errand.eq_singleton_of_check part listed checking]
    have lone : (callAll guard.policy clocks.limiter [part] : Action (Node Local) _) = do
        return [← call guard.policy part.request part.scope part.identifier clocks.limiter] := by
      simp [callAll]
    rw [lone]
    exact Makes.forget (makes_call guard clocks quiet apart part)
  · have unchecked (part : Part) (listed : part ∈ errand.parts) : part.request ≠ .check :=
      fun checking => checked ⟨part, listed, checking⟩
    obtain ⟨values, outcome, tells⟩ := tells_callAll apart errand.parts
      (fun part listed checking => absurd checking (unchecked part listed)) quiet
      (fun part listed checking => absurd checking (unchecked part listed))
    exact makes_of_tells guard clocks quiet unchecked ⟨values, outcome⟩ tells

/-- A deed makes the checks of its charges. -/
theorem Deed.makes (apart : guard.policy.KeepsApart) (deed : Deed) :
    let step := deed.perform guard clocks node
    Makes guard clocks deed.charges node step.outcome step.state := by
  cases deed with
  | evaluate operation principal address sparesAdmins =>
    exact Makes.forget (makes_evaluate guard clocks quiet operation principal address sparesAdmins)
  | enforce scope identifier =>
    exact Makes.forget (makes_enforce guard clocks quiet scope identifier)
  | enforceEmail address =>
    exact Makes.forget (makes_enforce guard clocks quiet .invitationEmail (normalizeEmail address))
  | quota errand => exact Makes.forget (makes_errand guard clocks quiet apart errand)
  | limiter part =>
    obtain ⟨outcome, state⟩ := call_eq_perform guard.policy part.request part.scope
      part.identifier clocks.limiter node
    have makes := makes_call guard clocks quiet apart part
    simp only [outcome, state] at makes
    exact Makes.forget makes

end Makes

end Guard

end Turnstile
