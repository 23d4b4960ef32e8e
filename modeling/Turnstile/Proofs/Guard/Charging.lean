import Turnstile.Guard.Basic
import Turnstile.Proofs.Quota.Standing

/-!
# What the guard charges

A guarded activity makes charges in turn, up to the first that the book denies. It ends with a
denial exactly then, and the store keeps the book of what was charged. The rules below put such
activities together; the guard is an instance of them.
-/

namespace Turnstile

open Limiter Number Quota Store Time

/-- The failure is that of a denied charge. -/
def Failure.IsDenial (failure : Failure) : Prop :=
  ∃ admission wait headers, failure = .problem (Guard.exceeded admission wait headers)

/-- The outcome is a value of a kind. -/
def Yields {α : Type} (kind : α → Prop) (outcome : Except Failure α) : Prop :=
  ∃ value, outcome = .ok value ∧ kind value

/-- The outcome is a denial. -/
def Denies {α : Type} (outcome : Except Failure α) : Prop :=
  ∃ failure, outcome = .error failure ∧ failure.IsDenial

/-- The activity makes the charges in turn while a request is handled: with all of them admitted it
ends as told, with one denied it ends with a denial, and the store keeps the book of them. -/
def Charges {α : Type} (policy : Policy) (done : List Instant) (here : Instant)
    (charges : List (Scope × String)) (ends : Except Failure α → Prop)
    (action : Action (Node Local) α) : Prop :=
  ∀ (spare : Nat) (book : Book) (node : Node Local),
    Stands policy done here (spare + charges.length) book node →
      (book.admitsAll policy here.now charges = true → ends (action node).outcome) ∧
      (book.admitsAll policy here.now charges = false → Denies (action node).outcome) ∧
      Stands policy done here spare (book.chargedAll policy here.now charges) (action node).state

namespace Charges

variable {policy : Policy} {done : List Instant} {here : Instant} {α β : Type}
  {kind : α → Prop} {ends : Except Failure β → Prop}
  {first second : List (Scope × String)} {action : Action (Node Local) α}
  {next : α → Action (Node Local) β}

/-- What leaves the node alone charges nothing. -/
theorem of_state_eq {ends : Except Failure α → Prop} (left : ∀ node, (action node).state = node)
    (ended : ∀ node, ends (action node).outcome) : Charges policy done here [] ends action := by
  intro spare book node stands
  rw [left]
  exact ⟨fun _ => ended node, fun denied => (nomatch denied), stands⟩

/-- A value charges nothing. -/
theorem pure {value : α} (fits : kind value) :
    Charges policy done here [] (Yields kind) (Pure.pure value) :=
  of_state_eq (fun _ => rfl) fun _ => ⟨value, rfl, fits⟩

/-- An event charges nothing. -/
theorem report (event : Log.Event) :
    Charges policy done here [] (Yields fun _ => True) (Action.report event) :=
  of_state_eq (fun _ => rfl) fun _ => ⟨(), rfl, trivial⟩

/-- An outcome charges nothing. -/
theorem ofExcept {outcome : Except Failure α} {ends : Except Failure α → Prop}
    (ended : ends outcome) : Charges policy done here [] ends (Action.ofExcept outcome) := by
  cases outcome <;> exact of_state_eq (fun _ => rfl) fun _ => ended

/-- What is known of the value may be forgotten. -/
theorem mono {charges : List (Scope × String)} {some more : Except Failure α → Prop}
    (charging : Charges policy done here charges some action)
    (weaker : ∀ outcome, some outcome → more outcome) :
    Charges policy done here charges more action := by
  intro spare book node stands
  obtain ⟨ended, denied, left⟩ := charging spare book node stands
  exact ⟨fun admitted => weaker _ (ended admitted), denied, left⟩

/-- Charges of a sequence are those of its parts in turn. -/
theorem bind (charging : Charges policy done here first (Yields kind) action)
    (others : ∀ value, kind value → Charges policy done here second ends (next value)) :
    Charges policy done here (first ++ second) ends (action >>= next) := by
  intro spare book node stands
  rw [List.length_append, Nat.add_comm first.length, ← Nat.add_assoc] at stands
  obtain ⟨ended, denied, left⟩ := charging _ book node stands
  cases admitted : book.admitsAll policy here.now first with
  | false =>
    obtain ⟨failure, outcome, denial⟩ := denied admitted
    rw [Action.bind_apply_error outcome, Book.admitsAll_append, admitted, Bool.false_and,
      Book.chargedAll_append_of_denied admitted]
    exact ⟨fun none => (nomatch none), fun _ => ⟨failure, rfl, denial⟩,
      left.weaken (Nat.le_add_right ..)⟩
  | true =>
    obtain ⟨value, outcome, fits⟩ := ended admitted
    rw [Action.bind_apply_ok outcome, Book.admitsAll_append, admitted, Bool.true_and,
      Book.chargedAll_append admitted]
    exact others value fits spare _ _ left

/-- After a sequence without charges, those of the rest are made. -/
theorem bind_nil (charging : Charges policy done here [] (Yields kind) action)
    (others : ∀ value, kind value → Charges policy done here second ends (next value)) :
    Charges policy done here second ends (action >>= next) := charging.bind others

/-- Before a rest without charges, those of the first part are made. -/
theorem bind_of_nil (charging : Charges policy done here first (Yields kind) action)
    (others : ∀ value, kind value → Charges policy done here [] ends (next value)) :
    Charges policy done here first ends (action >>= next) := by
  have joined := charging.bind others
  rwa [List.append_nil] at joined

end Charges

/-! ## The guard -/

/-- The quotas that an operation charges for a caller, in order. -/
def Operation.charges (operation : Operation) (principal : Principal) (address : Option String) :
    List (Scope × String) :=
  operation.scopes.filterMap fun scope =>
    (Principal.nonEmpty? (scope.identifier? principal address)).map (scope, ·)

/-- The ends of all windows that start at the instant lie in the years 1 to 9999. -/
def Policy.EndsInCalendar (policy : Policy) (now : Int) : Prop :=
  ∀ scope, earliest ≤ now + (policy.limitOf scope).window ∧
    now + (policy.limitOf scope).window ≤ latest

/-- Windows of a timely instant end in the calendar. -/
theorem Quota.Instant.IsTimely.endsInCalendar {policy : Policy} {here : Instant}
    (timely : here.IsTimely policy) : policy.EndsInCalendar here.now := fun scope =>
  ⟨timely.earliest_le scope, timely.before scope⟩

/-- Up to the longest span the wait is the least count of seconds that covers it, if any do. -/
theorem retryAfter_of_natAbs_le {resetTime now : Int}
    (small : (resetTime - now).natAbs ≤ longestSpan) :
    retryAfter resetTime now = .ok (max 0 (ceilDiv (resetTime - now) 1000)) := by
  rw [retryAfter, retryAfter?, ceilSeconds?_eq_ceilDiv small]
  rfl

namespace Guard

/-- The admission is one of the instant. -/
def IsMadeAt (guard : Guard) (now : Int) (admission : Admission) : Prop :=
  admission.verdict.resetTime = now + (guard.policy.limitOf admission.scope).window

variable (guard : Guard) {done : List Instant} {here : Instant}

/-- The wait for the end of a window of binary64 seconds is told. -/
theorem retryAfter_of_window_le {limit : Limit} (small : limit.window ≤ twoTo 53) (now : Int) :
    ∃ wait, retryAfter (now + limit.window) now = .ok wait := by
  have positive := limit.window_pos
  have span : (twoTo 53 : Int) ≤ longestSpan := by decide
  exact ⟨_, retryAfter_of_natAbs_le (by omega)⟩

/-- The headers of an admission are told if the end of its window is. -/
theorem headersFor_of_told {admission : Admission} {text : String}
    (told : resetText admission.verdict.resetTime = .ok text) :
    ∃ headers, guard.headersFor admission = .ok headers := by
  unfold headersFor limitHeaders
  rw [told]
  exact ⟨_, rfl⟩

/-- The headers of an admission at the instant are told. -/
theorem headersFor_of_isMadeAt {now : Int} (ends : guard.policy.EndsInCalendar now)
    {admission : Admission} (made : guard.IsMadeAt now admission) :
    ∃ headers, guard.headersFor admission = .ok headers := by
  obtain ⟨text, told⟩ := resetText_of_calendar (ends admission.scope).1 (ends admission.scope).2
  exact guard.headersFor_of_told (made ▸ told)

/-- The failure that a refusal ends with. -/
def refusal (clocks : Clocks) (admission : Admission) : Failure :=
  match retryAfter admission.verdict.resetTime clocks.guard with
  | .error failure => failure
  | .ok wait =>
    if guard.includeHeaders then
      match guard.headersFor admission with
      | .error failure => failure
      | .ok described =>
        .problem (exceeded admission wait (some (("Retry-After", toString wait) :: described)))
    else .problem (exceeded admission wait none)

/-- A refusal fails and leaves the node alone. -/
theorem reject_eq {σ α : Type} (admission : Admission) (identifier : String) (clocks : Clocks)
    (node : Node σ) :
    (@reject σ α guard admission identifier clocks node).outcome =
        .error (guard.refusal clocks admission) ∧
      (@reject σ α guard admission identifier clocks node).state = node := by
  unfold reject refusal
  cases retryAfter admission.verdict.resetTime clocks.guard with
  | error failure => exact ⟨rfl, rfl⟩
  | ok wait =>
    cases guard.includeHeaders with
    | false => exact ⟨rfl, rfl⟩
    | true => cases guard.headersFor admission <;> exact ⟨rfl, rfl⟩

/-- A refusal whose wait and headers are told tells what was exceeded. -/
theorem refusal_of_told {clocks : Clocks} {admission : Admission} {wait : Int}
    (waits : retryAfter admission.verdict.resetTime clocks.guard = .ok wait)
    (described : guard.includeHeaders = true →
      ∃ headers, guard.headersFor admission = .ok headers) :
    ∃ shown, guard.refusal clocks admission = .problem (exceeded admission wait shown) := by
  unfold refusal
  rw [waits]
  simp only
  cases shown : guard.includeHeaders with
  | false => exact ⟨none, rfl⟩
  | true =>
    obtain ⟨headers, told⟩ := described shown
    rw [told]
    exact ⟨_, rfl⟩

/-- A verdict is settled as an admission or by a refusal, and the node is left alone. -/
theorem settle_eq {σ : Type} (scope : Scope) (identifier : String) (clocks : Clocks)
    (verdict : Verdict) (node : Node σ) :
    let admission : Admission := ⟨scope, guard.policy.limitOf scope, verdict⟩
    (guard.settle scope identifier clocks verdict node).outcome =
        (if verdict.allowed then .ok admission else .error (guard.refusal clocks admission)) ∧
      (guard.settle scope identifier clocks verdict node).state = node := by
  simp only [settle]
  rw [(guard.policy.find_bind scope _ node).1, (guard.policy.find_bind scope _ node).2]
  cases verdict.allowed with
  | true => exact ⟨rfl, rfl⟩
  | false => exact guard.reject_eq _ _ _ _

section Timely

variable (timely : here.IsTimely guard.policy)
include timely

section Enforcing

variable (apart : guard.policy.KeepsApart) (inTurn : ∀ earlier ∈ done, earlier.Precedes here)

/-- A verdict is settled as an admission or a denial, and the node is left alone. -/
theorem settle_spec (scope : Scope) (identifier : String) {verdict : Verdict}
    (ends : verdict.resetTime = here.now + (guard.policy.limitOf scope).window)
    (node : Node Local) :
    let step := guard.settle scope identifier ⟨here.now, here.now⟩ verdict node
    (verdict.allowed = true → Yields (guard.IsMadeAt here.now) step.outcome) ∧
      (verdict.allowed = false → Denies step.outcome) ∧ step.state = node := by
  obtain ⟨outcome, left⟩ := guard.settle_eq scope identifier ⟨here.now, here.now⟩ verdict node
  refine ⟨fun allowed => ?_, fun denied => ?_, left⟩
  · rw [if_pos allowed] at outcome
    exact ⟨_, outcome, ends⟩
  · rw [if_neg (Bool.eq_false_iff.mp denied)] at outcome
    obtain ⟨wait, waits⟩ := retryAfter_of_window_le (timely.window_le scope) here.now
    rw [← ends] at waits
    obtain ⟨shown, told⟩ := @guard.refusal_of_told ⟨here.now, here.now⟩
      ⟨scope, guard.policy.limitOf scope, verdict⟩ wait waits
      fun _ => guard.headersFor_of_isMadeAt timely.endsInCalendar ends
    exact ⟨_, outcome, _, _, _, told⟩

include apart inTurn

/-- Enforcing a scope charges one quota. -/
theorem enforce_charges (scope : Scope) (identifier : String) :
    Charges guard.policy done here [(scope, identifier)] (Yields (guard.IsMadeAt here.now))
      (guard.enforce scope identifier ⟨here.now, here.now⟩) := by
  intro spare book node stands
  obtain ⟨told, left⟩ := stands.check apart inTurn timely scope identifier
  have ends : (book.verdict guard.policy here.now scope identifier).resetTime =
      here.now + (guard.policy.limitOf scope).window := rfl
  obtain ⟨admitted, denied, kept⟩ := guard.settle_spec timely scope identifier ends
    (Quota.check guard.policy scope identifier here.now node).state
  have single : book.chargedAll guard.policy here.now [(scope, identifier)] =
      book.charged guard.policy here.now scope identifier := by
    rw [Book.chargedAll, Book.chargedAll, Book.charged]
    split <;> rfl
  rw [enforce, Action.bind_apply_ok told, single, Book.admitsAll, Book.admitsAll, Bool.and_true]
  exact ⟨admitted, denied, by rw [kept]; exact left⟩

/-- Enforcing the quota of a mail address charges it in its normal form. -/
theorem enforceEmail_charges (address : String) :
    Charges guard.policy done here [(.invitationEmail, normalizeEmail address)]
      (Yields (guard.IsMadeAt here.now)) (guard.enforceEmail address ⟨here.now, here.now⟩) :=
  guard.enforce_charges timely apart inTurn .invitationEmail (normalizeEmail address)

/-- Enforcing scopes charges those that apply, in order. -/
theorem enforceScopes_charges (operation : Operation) (principal : Principal)
    (address : Option String) (scopes : List Scope) {last : Option Admission}
    (made : ∀ admission ∈ last, guard.IsMadeAt here.now admission) :
    Charges guard.policy done here
      (scopes.filterMap fun scope =>
        (Principal.nonEmpty? (scope.identifier? principal address)).map (scope, ·))
      (Yields fun last => ∀ admission ∈ last, guard.IsMadeAt here.now admission)
      (guard.enforceScopes operation principal address ⟨here.now, here.now⟩ scopes last) := by
  induction scopes generalizing last with
  | nil => exact .pure made
  | cons scope rest ih =>
    rw [List.filterMap_cons, enforceScopes]
    cases Principal.nonEmpty? (scope.identifier? principal address) with
    | none => exact (Charges.report _).bind_nil fun _ _ => ih made
    | some identifier =>
      refine (guard.enforce_charges timely apart inTurn scope identifier).bind
        fun admission fits => ih fun other same => ?_
      obtain rfl := Option.mem_some.mp same
      exact fits

/-- An operation is evaluated by charging its scopes, unless it spares its caller. -/
theorem evaluate_charges (operation : Operation) (principal : Principal)
    (address : Option String) (sparesAdmins : Bool) :
    Charges guard.policy done here
      (if sparesAdmins && principal.isAdmin then [] else operation.charges principal address)
      (Yields fun last => ∀ admission ∈ last, guard.IsMadeAt here.now admission)
      (guard.evaluate operation principal address ⟨here.now, here.now⟩ sparesAdmins) := by
  rw [evaluate]
  cases sparesAdmins && principal.isAdmin with
  | true => exact (Charges.report _).bind_nil fun _ _ => .pure fun _ none => nomatch none
  | false =>
    refine (guard.enforceScopes_charges timely apart inTurn operation principal address
      operation.scopes fun other listed => absurd listed (Option.not_mem_none other)).bind_of_nil
      fun last made => ?_
    cases last with
    | none => exact .pure made
    | some admission => exact (Charges.report _).bind_nil fun _ _ => .pure made

end Enforcing

end Timely

end Guard

end Turnstile
