import Turnstile.Proofs.Guard.Deeds

/-!
# Waiting out a denial

A caller that is denied is told how long to wait. Attempts that are denied, looks and resets add
nothing to what a key held at the denial, and by the end of the wait all of that has left the
window. So the first attempt after the wait finds an empty window, unless one was admitted before.
-/

namespace Turnstile

open Limiter Quota Store Time

/-! ## Refusals -/

/-- The wait reaches the end of the window, up to the longest span. -/
theorem le_of_retryAfter {resetTime now wait : Int} (waits : retryAfter resetTime now = .ok wait) :
    0 ≤ wait ∧ ((resetTime - now).natAbs ≤ longestSpan → resetTime ≤ now + 1000 * wait) := by
  obtain ⟨seconds, counted, rfl⟩ : ∃ seconds, ceilSeconds? (resetTime - now) = some seconds ∧
      max 0 seconds = wait := by
    unfold retryAfter retryAfter? at waits
    cases counted : ceilSeconds? (resetTime - now) with
    | none =>
      rw [counted] at waits
      cases waits
    | some seconds =>
      rw [counted] at waits
      exact ⟨seconds, rfl, Except.ok.inj waits⟩
  refine ⟨le_max_left .., fun small => ?_⟩
  rw [ceilSeconds?_eq_ceilDiv small] at counted
  obtain rfl := Option.some.inj counted
  have covered := (ceilDiv_thousand_bounds (resetTime - now)).2
  omega

namespace Guard

/-- A refusal that ends with a problem tells what was exceeded, the wait, and the wait again in a
header if headers are wanted. -/
theorem of_refusal_eq_problem {guard : Guard} {clocks : Clocks} {admission : Admission}
    {problem : Problem} (raised : guard.refusal clocks admission = .problem problem) :
    ∃ wait shown, retryAfter admission.verdict.resetTime clocks.guard = .ok wait ∧
      problem = exceeded admission wait shown ∧
      (guard.includeHeaders = true →
        ∃ others, shown = some (("Retry-After", toString wait) :: others)) := by
  unfold refusal at raised
  cases waits : retryAfter admission.verdict.resetTime clocks.guard with
  | error failure =>
    rw [waits] at raised
    unfold retryAfter at waits
    split at waits
    · cases waits
    · obtain rfl := Except.error.inj waits
      cases raised
  | ok wait =>
    rw [waits] at raised
    simp only at raised
    cases shown : guard.includeHeaders with
    | false =>
      rw [shown] at raised
      exact ⟨wait, none, rfl, (Failure.problem.inj raised).symm, fun wanted => nomatch wanted⟩
    | true =>
      rw [shown, if_pos rfl] at raised
      cases described : guard.headersFor admission with
      | error failure =>
        rw [described] at raised
        unfold headersFor limitHeaders at described
        cases text : resetText admission.verdict.resetTime with
        | ok text =>
          rw [text] at described
          cases described
        | error error =>
          rw [text] at described
          obtain rfl := Except.error.inj described
          cases error <;> cases raised
      | ok headers =>
        rw [described] at raised
        exact ⟨wait, _, rfl, (Failure.problem.inj raised).symm, fun _ => ⟨headers, rfl⟩⟩

/-! ## Turns -/

/-- A deed and what the world decides about it: the readings of the clocks, that of the store among
them, and the number that its first entry takes. -/
structure Turn where
  deed : Deed
  clocks : Clocks
  around : Seconds
  serial : Nat

namespace Turn

variable (guard : Guard) (turn : Turn) (store : Local)

/-- What the deed finds. -/
def ready : Node Local := ⟨Surrounded.enter turn.around store, turn.serial⟩

/-- The deed is done. -/
def step : Step (Node Local) Unit := turn.deed.perform guard turn.clocks (turn.ready store)

/-- The checks that the deed makes. -/
def checks : List (Trial Local) :=
  trials guard.policy turn.clocks.limiter turn.deed.charges (turn.ready store)

/-- The store afterwards. -/
def leaves : Local := (turn.step guard store).state.store

end Turn

/-- A turn finds a store that refuses nothing. -/
theorem Turn.ready_isQuiet (turn : Turn) {store : Local} (quiet : store.interference.IsQuiet) :
    (turn.ready store).store.interference.IsQuiet := quiet

/-- The store after turns. -/
def after (guard : Guard) (store : Local) (turns : List Turn) : Local :=
  turns.foldl (fun found turn => turn.leaves guard found) store

/-- The checks that turns make, in order. -/
def checksOf (guard : Guard) : Local → List Turn → List (Trial Local)
  | _, [] => []
  | store, turn :: rest => turn.checks guard store ++ checksOf guard (turn.leaves guard store) rest

/-- No entry is scored later than the instant. -/
def IsPast (instant : Int) (store : Local) : Prop :=
  ∀ key, ∀ row ∈ store.memory.rows key, row.2 ≤ instant

/-- Among the checks after a denial, the first under the key from the instant on: those between that
are under the key come before the instant, and are denied. -/
structure IsFirstFrom (key : String) (instant : Int) (between : List (Trial Local))
    (first : Trial Local) : Prop where
  own : first.key = key
  late : instant ≤ first.now
  early : ∀ trial ∈ between, trial.key = key →
    trial.now < instant ∧ trial.verdict.allowed = false

section Runs

variable (guard : Guard) (apart : guard.policy.KeepsApart) {store : Local}
  (quiet : store.interference.IsQuiet)
include apart quiet

/-- A turn makes the checks of its charges. -/
theorem Turn.makes (turn : Turn) :
    Makes guard turn.clocks turn.deed.charges (turn.ready store)
      (turn.step guard store).outcome (turn.step guard store).state :=
  Deed.makes guard turn.clocks quiet apart turn.deed

/-- A turn before an instant leaves the store before it. -/
theorem Turn.leaves_isPast {instant : Int} (past : IsPast instant store) (turn : Turn)
    (before : turn.clocks.limiter ≤ instant) : IsPast instant (turn.leaves guard store) :=
  fun key row member =>
    rows_leftBy_le (turn.ready_isQuiet quiet) before past key row
      ((turn.makes guard apart quiet).rows key member)

/-- Turns up to an instant leave no entry that is scored later. -/
theorem after_isPast {instant : Int} (past : IsPast instant store) {turns : List Turn}
    (before : ∀ turn ∈ turns, turn.clocks.limiter ≤ instant) :
    (after guard store turns).interference.IsQuiet ∧
      IsPast instant (after guard store turns) := by
  induction turns generalizing store with
  | nil => exact ⟨quiet, past⟩
  | cons turn rest ih =>
    obtain ⟨own, others⟩ := List.forall_mem_cons.mp before
    exact ih (turn.makes guard apart quiet).quiet (turn.leaves_isPast guard apart quiet past own)
      others

/-- A check finds nothing under its key that was not held before the turns, if those under the key
that were made since are denied. -/
theorem rows_found_subset {turns : List Turn} {between rest : List (Trial Local)}
    {first : Trial Local} (made : checksOf guard store turns = between ++ first :: rest)
    {key : String} (denied : ∀ trial ∈ between, trial.key = key → trial.verdict.allowed = false) :
    first.limit = guard.policy.limitOf first.scope ∧ first.found.store.interference.IsQuiet ∧
      first.found.store.memory.rows key ⊆ store.memory.rows key := by
  induction turns generalizing store between with
  | nil => exact absurd made.symm (by simp [checksOf])
  | cons turn others ih =>
    have makes := turn.makes guard apart quiet
    have ready := turn.ready_isQuiet quiet
    have across (later : List (Trial Local)) (split : between = turn.checks guard store ++ later)
        (following : checksOf guard (turn.leaves guard store) others = later ++ first :: rest) :
        first.limit = guard.policy.limitOf first.scope ∧
          first.found.store.interference.IsQuiet ∧
          first.found.store.memory.rows key ⊆ store.memory.rows key := by
      have all : ∀ trial ∈ turn.checks guard store,
          trial.key = key → trial.verdict.allowed = false :=
        fun trial member => denied trial (split ▸ List.mem_append_left _ member)
      obtain ⟨limit, still, kept⟩ := ih makes.quiet following fun trial member =>
        denied trial (split ▸ List.mem_append_right _ member)
      have adds := (rows_leftBy_subset ready List.prefix_rfl all).2
      exact ⟨limit, still, List.Subset.trans kept (List.Subset.trans (makes.rows key) adds)⟩
    rcases List.append_eq_append_iff.mp made with ⟨later, split, following⟩ | ⟨here, split, joined⟩
    · exact across later split following
    · rcases List.cons_eq_append_iff.mp joined with ⟨none, following⟩ | ⟨own, same, -⟩
      · rw [none, List.append_nil] at split
        exact across [] (by rw [split, List.append_nil]) following
      · rw [same] at split
        have found := found_eq_leftBy split
        have start : between <+: turn.checks guard store := ⟨_, split.symm⟩
        obtain ⟨still, adds⟩ := rows_leftBy_subset ready start denied
        have member : first ∈ turn.checks guard store := by
          rw [split]
          exact List.mem_append_right _ List.mem_cons_self
        rw [found]
        exact ⟨(of_mem_trials member).1, still, adds⟩

end Runs

/-- Every problem that a turn ends with is the denial of one of its checks, and tells a wait that
reaches the end of the window, when the guard's clock is within the longest span of it. In a run of
any deeds under the settings, over a store that was empty, the limiter's clock having shown nothing
later before: unless a check of the denied quota is admitted before the end of the wait, the first
check from then on is admitted as the only one in its window. -/
theorem wait_suffices (settings : Settings.LimitSettings) (guard : Guard)
    (configured : guard.policy = settings.policy) (batching : Batching) (start : Seconds)
    (earlier : List Turn) (turn : Turn) (later : List Turn)
    (ordered : ∀ other ∈ earlier, other.clocks.limiter ≤ turn.clocks.limiter)
    (problem : Problem) :
    let store := after guard (vacantStore batching start) earlier
    (turn.step guard store).outcome = .error (.problem problem) →
      ∃ denied ∈ turn.checks guard store, ∃ wait shown, denied.verdict.allowed = false ∧
        retryAfter denied.verdict.resetTime turn.clocks.guard = .ok wait ∧
        problem = exceeded denied.admission wait shown ∧
        (guard.includeHeaders = true →
          ∃ others, shown = some (("Retry-After", toString wait) :: others)) ∧
        0 ≤ wait ∧
        ((denied.verdict.resetTime - turn.clocks.guard).natAbs ≤ longestSpan →
          denied.verdict.resetTime ≤ turn.clocks.guard + 1000 * wait ∧
          ∀ between first rest,
            checksOf guard (turn.leaves guard store) later = between ++ first :: rest →
            IsFirstFrom denied.key (turn.clocks.guard + 1000 * wait) between first →
            first.verdict =
              ⟨true, denied.limit.capacity - 1, first.now + denied.limit.window, 1⟩) := by
  intro store raised
  have apart : guard.policy.KeepsApart := configured ▸ settings.keepsApart
  have empty : IsPast turn.clocks.limiter (vacantStore batching start) :=
    fun _ _ member => nomatch member
  obtain ⟨quiet, past⟩ := after_isPast guard apart (fun _ => rfl) empty ordered
  have makes := turn.makes guard apart quiet
  obtain ⟨denied, member, refused, refusal⟩ := makes.denied problem raised
  obtain ⟨wait, shown, waits, told, headed⟩ := of_refusal_eq_problem refusal
  obtain ⟨positive, reaches⟩ := le_of_retryAfter waits
  refine ⟨denied, member, wait, shown, refused, waits, told, headed, positive, fun small => ?_⟩
  have covered : denied.verdict.resetTime ≤ turn.clocks.guard + 1000 * wait := reaches small
  refine ⟨covered, fun between first rest made isFirst => ?_⟩
  obtain ⟨limit, instant⟩ := of_mem_trials member
  obtain ⟨limitToo, still, kept⟩ := rows_found_subset guard apart makes.quiet made
    fun trial listed own => (isFirst.early trial listed own).2
  have same : first.limit = denied.limit := by
    have keys := isFirst.own
    rw [Trial.key, Trial.key, limit, limitToo] at keys
    rw [limit, limitToo, (apart _ _ _ _ keys).1]
  obtain ⟨seconds, -, -, lifetime, -⟩ := denied.allowed_eq_false_iff.mp refused
  have left := turn.leaves_isPast guard apart quiet past le_rfl
  rw [← same]
  refine first.verdict_of_rows_le still (same ▸ lifetime) fun row listed => ?_
  rw [isFirst.own] at listed
  -- What was held at the denial was scored by then, and a window later the wait has ended.
  have scored : row.2 ≤ turn.clocks.limiter := left _ row (kept listed)
  have ends : denied.verdict.resetTime = turn.clocks.limiter + denied.limit.window :=
    instant ▸ denied.resetTime_eq
  have late := isFirst.late
  rw [same]
  omega

/-- An invitation of the inviter at readings of the limiter's and the guard's clock. -/
def invitation (limiter guard : Int) (serial : Nat) : Turn :=
  ⟨.evaluate .invitationCreation inviter none false, ⟨limiter, guard⟩, .whole 0, serial⟩

/-- A look at the inviter's quota, an attempt within the wait, and one at its end. -/
def retries : List Turn :=
  [⟨.quota (.status .invitationAdmin "u"), ⟨900, 900⟩, .whole 0, 5⟩,
    ⟨.enforce .invitationAdmin "u", ⟨950, 950⟩, .whole 0, 5⟩,
    ⟨.limiter ⟨.check, .invitationAdmin, "u"⟩, ⟨1700, 0⟩, .whole 0, 6⟩]

/-- The second invitation within a second is denied until 1500. By a guard's clock that is ahead it
is told to wait for one second from 700, and the attempt at 1700 is admitted. -/
theorem retry_after_wait_admitted :
    let store := after oneInvitation (vacantStore .locked (.whole 0)) [invitation 0 0 1]
    let second := invitation 500 700 3
    (∃ denied ∈ second.checks oneInvitation store, denied.verdict = ⟨false, 0, 1500, 1⟩ ∧
      ∃ shown, (second.step oneInvitation store).outcome =
        .error (.problem (exceeded denied.admission 1 shown))) ∧
      ∃ tried last, checksOf oneInvitation (second.leaves oneInvitation store) retries =
        [tried, last] ∧ tried.verdict.allowed = false ∧ last.verdict = ⟨true, 0, 2700, 1⟩ := by
  intro store second
  let key : String := oneInvitation.policy.keyOf (.invitationAdmin, "u")
  obtain ⟨problem, raised⟩ : ∃ problem,
      (second.step oneInvitation store).outcome = .error (.problem problem) := by
    have named : (second.step oneInvitation store).outcome.mapError Failure.name =
        .error ProblemKind.limitExceeded.name := by decide +kernel
    cases ended : (second.step oneInvitation store).outcome with
    | ok told =>
      rw [ended] at named
      cases named
    | error failure =>
      rw [ended] at named
      cases failure with
      | problem problem => exact ⟨problem, rfl⟩
      | fault raised =>
        have other : ∀ kind : FaultKind, kind.name ≠ ProblemKind.limitExceeded.name := by
          intro kind
          cases kind <;> decide
        exact absurd (Except.error.inj named) (other raised.kind)
  obtain ⟨denied, member, wait, shown, refused, waits, told, -, -, reaches⟩ :=
    wait_suffices _ oneInvitation rfl .locked (.whole 0) [invitation 0 0 1] second retries
      (by decide) problem raised
  have own : ∀ trial ∈ second.checks oneInvitation store, trial.verdict.allowed = false →
      trial.verdict = ⟨false, 0, 1500, 1⟩ ∧ trial.key = key ∧ trial.limit.capacity = 1 ∧
        trial.limit.window = 1000 := by decide +kernel
  obtain ⟨verdict, name, capacity, window⟩ := own denied member refused
  obtain rfl : wait = 1 := by
    have one : retryAfter 1500 700 = .ok 1 := rfl
    rw [verdict] at waits
    exact Except.ok.inj (waits.symm.trans one)
  have retried : (checksOf oneInvitation (second.leaves oneInvitation store) retries).map
      (fun trial => (trial.key, trial.now, trial.verdict.allowed)) =
        [(key, 950, false), (key, 1700, true)] := by decide +kernel
  obtain ⟨tried, others, made, early, rest⟩ := List.map_eq_cons_iff.mp retried
  obtain ⟨last, none, rfl, late, nothing⟩ := List.map_eq_cons_iff.mp rest
  obtain rfl := List.map_eq_nil_iff.mp nothing
  simp only [Prod.mk.injEq] at early late
  obtain ⟨-, soon, again⟩ := early
  obtain ⟨same, ended, -⟩ := late
  have isFirst : IsFirstFrom denied.key 1700 [tried] last := by
    refine ⟨same.trans name.symm, ended.ge, List.forall_mem_singleton.mpr fun _ => ⟨?_, again⟩⟩
    rw [soon]
    decide
  refine ⟨⟨denied, member, verdict, shown, told ▸ raised⟩, tried, last, made, again, ?_⟩
  obtain ⟨-, admitted⟩ := reaches (by rw [verdict]; decide)
  rw [admitted [tried] last [] made isFirst, capacity, window, ended]
  rfl

end Guard

end Turnstile
