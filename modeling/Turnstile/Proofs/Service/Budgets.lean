import Turnstile.Proofs.Http.Route
import Turnstile.Proofs.Limiter.Backends
import Turnstile.Proofs.Service.Exchanges

/-!
# Budgets of the service

Whatever requests come in, over whatever routes, no interval as long as the window of a scope sees
more of them succeed for one address, tenant, user or client than the scope admits, as long as no
budget is emptied: every success is a charge in the book.
-/

namespace Turnstile.Service

open Http Quota Store Time

/-! ## What a request stands for -/

/-- The endpoint that takes a request. -/
def endpoint? (request : Request) : Option Endpoint :=
  match dispatch request.method request.path with
  | .taken endpoint _ => some endpoint
  | _ => none

/-- The normal form of the address that a request invites. -/
def invitedAddress? (request : Request) : Option String :=
  match request.payload with
  | .ok payload =>
    match readOrder InvitationOrder.read payload with
    | .ok order => some (normalizeEmail order.email)
    | .error _ => none
  | .error _ => none

/-- One of the endpoints took the request and answered it with the status. -/
def Served.isAccepted (served : Served) (endpoints : List Endpoint) (status : Nat) : Bool :=
  served.response.status == status && (endpoint? served.request).any endpoints.contains

/-- The count of the requests with a property that were handled in an interval of time. -/
def Session.countIn (session : Session) (since span : Int) (property : Served → Bool) : Int :=
  (session.past.filter fun served =>
    property served && (since ≤ served.now && served.now < since + span)).length

/-- No interval as long as its window sees more successes than a scope admits. -/
structure Session.IsWithinBudgets (service : Service) (session : Session) : Prop where
  /-- Invitations of one address. -/
  invited : ∀ since address,
    session.countIn since (service.policy.limitOf .invitationEmail).window (fun served =>
        served.isAccepted [.createInvitation] 202 &&
          invitedAddress? served.request == some address) ≤
      (service.policy.limitOf .invitationEmail).capacity
  /-- Invitations for one tenant. -/
  tenant : ∀ since tenant, tenant ≠ "" →
    session.countIn since (service.policy.limitOf .invitationTenant).window (fun served =>
        served.isAccepted [.createInvitation] 202 &&
          served.request.principal.tenantId == some tenant) ≤
      (service.policy.limitOf .invitationTenant).capacity
  /-- Invitations by one user. -/
  inviter : ∀ since user, user ≠ "" →
    session.countIn since (service.policy.limitOf .invitationAdmin).window (fun served =>
        served.isAccepted [.createInvitation] 202 &&
          served.request.principal.userId == some user) ≤
      (service.policy.limitOf .invitationAdmin).capacity
  /-- Visits to invitation links and acceptances from one address of a client. -/
  client : ∀ since address, address ≠ "" →
    session.countIn since (service.policy.limitOf .invitationIp).window (fun served =>
        served.isAccepted [.openInvitation, .acceptInvitation] 200 &&
          served.request.address == address) ≤
      (service.policy.limitOf .invitationIp).capacity
  /-- Visits to invitation links and acceptances by one user. -/
  visitor : ∀ since user, user ≠ "" →
    session.countIn since (service.policy.limitOf .invitationAcceptance).window (fun served =>
        served.isAccepted [.openInvitation, .acceptInvitation] 200 &&
          served.request.principal.userId == some user) ≤
      (service.policy.limitOf .invitationAcceptance).capacity
  /-- Tenants of one user who is no administrator. -/
  founder : ∀ since user, user ≠ "" →
    session.countIn since (service.policy.limitOf .tenantCreation).window (fun served =>
        served.isAccepted [.createTenant] 202 && (!served.request.principal.isAdmin &&
          served.request.principal.userId == some user)) ≤
      (service.policy.limitOf .tenantCreation).capacity
  /-- Wishes of one user to join a tenant. -/
  member : ∀ since user, user ≠ "" →
    session.countIn since (service.policy.limitOf .tenantJoining).window (fun served =>
        served.isAccepted [.joinTenant] 202 &&
          served.request.principal.userId == some user) ≤
      (service.policy.limitOf .tenantJoining).capacity

/-! ## Successes are charges -/

/-- Without the method for it no quota is emptied. -/
theorem clears?_of_method {service : Service} {request : Request}
    (other : request.method ≠ "DELETE") : service.clears? request = none := by
  cases found : dispatch request.method request.path with
  | taken endpoint arguments =>
    refine clears?_eq_none found fun same => other ?_
    rw [← method_of_dispatch found, same]
    rfl
  | _ => simp only [clears?, found]

section Charged

variable {service : Service} (enabled : service.guard.enabled = true) {request : Request}
include enabled

/-- A scope of an operation charges the caller under its identifier, where there is one. -/
theorem mem_callerCharges {operation : Operation} {sparesAdmins : Bool} {scope : Scope}
    {identifier : String} (spared : (sparesAdmins && request.principal.isAdmin) = false)
    (listed : scope ∈ operation.scopes)
    (found : scope.identifier? request.principal (some request.address) = some identifier)
    (filled : identifier ≠ "") :
    (scope, identifier) ∈ service.callerCharges request operation sparesAdmins := by
  unfold callerCharges
  rw [enabled, spared, Bool.not_false, Bool.true_and, if_pos rfl]
  refine List.mem_filterMap.mpr ⟨scope, listed, ?_⟩
  have present : Principal.nonEmpty? (some identifier) = some identifier := by
    have full : identifier.isEmpty = false :=
      Bool.eq_false_iff.mpr (mt String.isEmpty_iff.mp filled)
    rw [Principal.nonEmpty?, Option.filter_some, full]
    rfl
  rw [found, present]
  rfl

end Charged

/-- The charge of a quota belongs to a request that was not denied it. -/
def Served.hasPaid (service : Service) (served : Served) (quota : Scope × String) : Bool :=
  (service.charges served.request).contains quota && (served.response.status != 429 &&
    served.response.status != 500)

/-- What a session without emptied budgets keeps of the book: the store keeps it, no interval as
long as a window holds more than its scope admits, and every charge that was paid is in it. -/
structure Session.Recorded (service : Service) (session : Session) (book : Book) : Prop where
  keeps : Keeps service.policy session.done book session.store
  bounded : ∀ scope identifier start,
    ((Book.between start (service.policy.limitOf scope).window (book scope identifier)).length :
      Int) ≤ (service.policy.limitOf scope).capacity
  made : ∀ scope identifier, ∀ instant ∈ book scope identifier,
    ∃ earlier ∈ session.done, instant ≤ earlier.now
  paid : ∀ scope identifier,
    ((session.past.filter fun served => served.hasPaid service (scope, identifier)).map
      fun served => served.now).Sublist (book scope identifier)
  answered : ∀ served ∈ session.past, ∃ node : Node Local, served.response =
    (service.exchange served.now served.request node).1.response

namespace Session.Recorded

variable {service : Service} {session : Session} {book : Book}

/-- A session begins with the empty book. -/
theorem start (service : Service) (batching : Batching) (clock : Seconds) :
    Recorded service (Session.start (Limiter.vacantStore batching clock)) Book.empty where
  keeps := Keeps.empty service.policy batching clock
  bounded := (Book.IsBounded.empty service.policy 0).bounded
  made _ _ _ listed := nomatch listed
  paid _ _ := List.Sublist.refl _
  answered _ listed := nomatch listed

/-- A request that empties no budget takes nothing out of the book, and a charge that was paid is
noted in it. -/
theorem sublist_bookAfterExchange (recorded : Recorded service session book)
    (apart : service.policy.KeepsApart) {arrival : Arrival}
    (before : ∀ earlier ∈ session.done, earlier.Precedes arrival.toInstant)
    (timely : arrival.toInstant.IsTimely service.policy)
    (other : arrival.request.method ≠ "DELETE") (scope : Scope) (identifier : String) :
    let after := service.bookAfterExchange arrival.request arrival.now book scope identifier
    (book scope identifier).Sublist after ∧
      (Served.hasPaid service ⟨arrival, (session.exchanged service arrival).1.response⟩
        (scope, identifier) = true → (book scope identifier ++ [arrival.now]).Sublist after) := by
  have kept := @clears?_of_method service arrival.request other
  simp only [bookAfterExchange, bookAfter, kept]
  cases named : service.isNamed with
  | false =>
    have failed := (@exchange_of_not_isNamed service arrival.request Local _ named arrival.now
      (arrival.toInstant.node session.store)).1
    refine ⟨List.Sublist.refl _, fun paid => ?_⟩
    simp only [Served.hasPaid, Session.exchanged, failed] at paid
    simp at paid
  | true =>
    simp only [if_true]
    refine ⟨Book.sublist_chargedAll _ book scope identifier, fun paid => ?_⟩
    simp only [Served.hasPaid, Bool.and_eq_true, List.contains_iff_mem, bne_iff_ne] at paid
    obtain ⟨listed, limited, served⟩ := paid
    refine Book.append_sublist_chargedAll ?_ listed
    refine Bool.eq_true_of_not_eq_false fun denied => limited ?_
    have addressed : arrival.request.isAddressed = true := by
      by_contra unaddressed
      exact served (exchange_status_of_unaddressed (Bool.eq_false_iff.mpr unaddressed) _ _)
    exact (exchanged_status apart before timely recorded.keeps named).mpr ⟨addressed, denied⟩

/-- A request that empties no budget keeps the record. -/
theorem attend (recorded : Recorded service session book) (apart : service.policy.KeepsApart)
    {arrival : Arrival} (before : ∀ earlier ∈ session.done, earlier.Precedes arrival.toInstant)
    (timely : arrival.toInstant.IsTimely service.policy)
    (other : arrival.request.method ≠ "DELETE") :
    Recorded service (session.attend service arrival)
      (service.bookAfterExchange arrival.request arrival.now book) := by
  have within : Book.IsBounded service.policy arrival.now book := by
    refine ⟨fun scope identifier instant member => ?_, recorded.bounded⟩
    obtain ⟨earlier, listed, order⟩ := recorded.made scope identifier instant member
    exact order.trans (before earlier listed).order
  have after : Book.IsBounded service.policy arrival.now
      (service.bookAfterExchange arrival.request arrival.now book) := by
    unfold bookAfterExchange bookAfter
    rw [clears?_of_method other]
    split
    · exact within.chargedAll _
    · exact within
  refine ⟨attend_keeps apart before timely recorded.keeps, after.bounded,
    fun scope identifier instant member => ?_, fun scope identifier => ?_,
    fun served listed => ?_⟩
  · refine ⟨arrival.toInstant, ?_, after.past scope identifier instant member⟩
    rw [done_attend]
    exact List.mem_append_right _ (List.mem_singleton_self _)
  · obtain ⟨kept, noted⟩ := recorded.sublist_bookAfterExchange apart before timely other scope
      identifier
    rw [Session.attend, List.filter_append, List.map_append, List.filter_singleton]
    cases paid : Served.hasPaid service
        ⟨arrival, (session.exchanged service arrival).1.response⟩ (scope, identifier) with
    | true =>
      exact ((recorded.paid scope identifier).append (List.Sublist.refl [arrival.now])).trans
        (noted paid)
    | false =>
      rw [cond_false, List.map_nil, List.append_nil]
      exact (recorded.paid scope identifier).trans kept
  · rcases List.mem_append.mp listed with old | own
    · exact recorded.answered served old
    · obtain rfl := List.mem_singleton.mp own
      exact ⟨_, rfl⟩

/-- The requests that paid for a quota are no more than its scope admits. -/
theorem countIn_le (recorded : Recorded service session book) (scope : Scope)
    (identifier : String) (since : Int) {property : Served → Bool}
    (pays : ∀ served ∈ session.past, property served = true →
      served.hasPaid service (scope, identifier) = true) :
    session.countIn since (service.policy.limitOf scope).window property ≤
      (service.policy.limitOf scope).capacity := by
  have bounded := recorded.bounded scope identifier since
  have fewer : session.countIn since (service.policy.limitOf scope).window property ≤
      ((Book.between since (service.policy.limitOf scope).window
        (book scope identifier)).length : Int) := by
    have paid := ((recorded.paid scope identifier).filter fun instant =>
      since ≤ instant ∧ instant < since + (service.policy.limitOf scope).window).length_le
    rw [List.filter_map, List.length_map, List.filter_filter] at paid
    refine Int.ofNat_le.mpr (le_trans ?_ paid)
    rw [← List.countP_eq_length_filter, ← List.countP_eq_length_filter]
    refine List.countP_mono_left fun served listed counted => ?_
    simp only [Bool.and_eq_true, decide_eq_true_eq] at counted
    simp only [Function.comp_apply, Bool.and_eq_true, decide_eq_true_eq]
    exact ⟨counted.2, pays served listed counted.1⟩
  exact fewer.trans bounded

end Session.Recorded

/-- An endpoint that takes an order does not accept a body that is not JSON. -/
theorem route_avoids_of_unreadable {service : Service} {request : Request} {endpoint : Endpoint}
    {arguments : List String}
    (taken : dispatch request.method request.path = .taken endpoint arguments)
    (orders : endpoint = .createInvitation ∨ endpoint = .createTenant) {error : Json.ReadError}
    (unreadable : request.payload = .error error) (now : Int) (node : Node Local) :
    Avoids 202 (service.route now request node).outcome := by
  have refused := (@refuseBody_spec request node error 202 (by decide) (by decide)).1
  unfold route
  rw [taken]
  rcases orders with rfl | rfl
  · show Avoids 202 (service.createInvitation now request node).outcome
    unfold createInvitation withOrder
    rw [unreadable]
    exact refused
  · show Avoids 202 (service.createTenant now request node).outcome
    unfold createTenant withOrder
    rw [unreadable]
    exact refused

namespace Session.Recorded

variable {service : Service} {session : Session} {book : Book}

/-- The body of an order that was accepted is readable. -/
theorem readable (recorded : Recorded service session book) {served : Served}
    (listed : served ∈ session.past) {endpoint : Endpoint} {arguments : List String}
    (taken : dispatch served.request.method served.request.path = .taken endpoint arguments)
    (orders : endpoint = .createInvitation ∨ endpoint = .createTenant)
    (accepted : served.response.status = 202) :
    ∃ payload, served.request.payload = .ok payload := by
  cases read : served.request.payload with
  | ok payload => exact ⟨payload, rfl⟩
  | error error =>
    obtain ⟨node, made⟩ := recorded.answered served listed
    rw [made] at accepted
    exact absurd accepted (exchange_status_ne (by decide)
      (route_avoids_of_unreadable taken orders read served.now) node)

end Session.Recorded

/-- An accepted request was taken by one of the endpoints. -/
theorem Served.isAccepted_iff {served : Served} {endpoints : List Endpoint} {status : Nat} :
    served.isAccepted endpoints status = true ↔ served.response.status = status ∧
      ∃ endpoint ∈ endpoints, ∃ arguments,
        dispatch served.request.method served.request.path = .taken endpoint arguments := by
  unfold isAccepted endpoint?
  rw [Bool.and_eq_true, beq_iff_eq]
  refine and_congr_right fun _ => ?_
  cases dispatch served.request.method served.request.path with
  | taken endpoint arguments => simp
  | _ => simp

/-- A request that succeeded has paid for each quota among its charges. -/
theorem Served.hasPaid_of_mem {service : Service} {served : Served} {quota : Scope × String}
    (listed : quota ∈ service.charges served.request) {status : Nat}
    (succeeded : served.response.status = status) (limited : status ≠ 429)
    (failed : status ≠ 500) : served.hasPaid service quota = true := by
  simp only [hasPaid, Bool.and_eq_true, List.contains_iff_mem, bne_iff_ne, succeeded]
  exact ⟨listed, limited, failed⟩

section Paying

variable {service : Service} (enabled : service.guard.enabled = true) {session : Session}
  {book : Book} (recorded : session.Recorded service book)
include enabled recorded

/-- An accepted invitation has paid for the quotas of its caller and of the invited address. -/
theorem invitation_pays {served : Served} (listed : served ∈ session.past)
    (accepted : served.isAccepted [.createInvitation] 202 = true) {quota : Scope × String}
    (charged : quota ∈ service.callerCharges served.request .invitationCreation false ∨
      ∃ address, invitedAddress? served.request = some address ∧
        quota = (.invitationEmail, address)) :
    served.hasPaid service quota = true := by
  obtain ⟨status, _, own, arguments, taken⟩ := Served.isAccepted_iff.mp accepted
  obtain rfl := List.mem_singleton.mp own
  obtain ⟨payload, readable⟩ := recorded.readable listed taken (.inl rfl) status
  refine Served.hasPaid_of_mem ?_ status (by decide) (by decide)
  simp only [charges, taken, readable]
  rcases charged with caller | ⟨address, invited, rfl⟩
  · exact List.mem_append_left _ caller
  · refine List.mem_append_right _ ?_
    simp only [invitedAddress?, readable] at invited
    unfold emailCharges
    cases ordered : readOrder InvitationOrder.read payload with
    | error refusals =>
      rw [ordered] at invited
      cases invited
    | ok order =>
      rw [ordered] at invited
      obtain rfl := Option.some.inj invited
      simp only [enabled, if_true]
      exact List.mem_singleton_self _

omit enabled recorded in
/-- An accepted visit to an invitation has paid for the quotas of its caller. -/
theorem visit_pays {served : Served}
    (accepted : served.isAccepted [.openInvitation, .acceptInvitation] 200 = true)
    {quota : Scope × String}
    (charged : quota ∈ service.callerCharges served.request .invitationAcceptance false) :
    served.hasPaid service quota = true := by
  obtain ⟨status, _, own, arguments, taken⟩ := Served.isAccepted_iff.mp accepted
  refine Served.hasPaid_of_mem ?_ status (by decide) (by decide)
  rcases List.mem_cons.mp own with rfl | own
  · simp only [charges, taken]
    exact charged
  · obtain rfl := List.mem_singleton.mp own
    simp only [charges, taken]
    exact charged

omit enabled in
/-- An accepted tenant has been paid for by its founder. -/
theorem creation_pays {served : Served} (listed : served ∈ session.past)
    (accepted : served.isAccepted [.createTenant] 202 = true) {quota : Scope × String}
    (charged : quota ∈ service.callerCharges served.request .tenantCreation true) :
    served.hasPaid service quota = true := by
  obtain ⟨status, _, own, arguments, taken⟩ := Served.isAccepted_iff.mp accepted
  obtain rfl := List.mem_singleton.mp own
  obtain ⟨payload, readable⟩ := recorded.readable listed taken (.inr rfl) status
  refine Served.hasPaid_of_mem ?_ status (by decide) (by decide)
  simp only [charges, taken, readable]
  exact charged

omit enabled recorded in
/-- An accepted wish to join a tenant has been paid for by its user. -/
theorem joining_pays {served : Served} (accepted : served.isAccepted [.joinTenant] 202 = true)
    {quota : Scope × String}
    (charged : quota ∈ service.callerCharges served.request .tenantJoining false) :
    served.hasPaid service quota = true := by
  obtain ⟨status, _, own, arguments, taken⟩ := Served.isAccepted_iff.mp accepted
  obtain rfl := List.mem_singleton.mp own
  refine Served.hasPaid_of_mem ?_ status (by decide) (by decide)
  simp only [charges, taken]
  exact charged

/-- A recorded session is within the budgets. -/
theorem Session.Recorded.isWithinBudgets : session.IsWithinBudgets service where
  invited since address := by
    refine recorded.countIn_le .invitationEmail address since fun served listed counted => ?_
    obtain ⟨accepted, named⟩ := Bool.and_eq_true_iff.mp counted
    exact invitation_pays enabled recorded listed accepted
      (.inr ⟨address, eq_of_beq named, rfl⟩)
  tenant since tenant filled := by
    refine recorded.countIn_le .invitationTenant tenant since fun served listed counted => ?_
    obtain ⟨accepted, named⟩ := Bool.and_eq_true_iff.mp counted
    exact invitation_pays enabled recorded listed accepted
      (.inl (mem_callerCharges enabled rfl (by decide) (eq_of_beq named) filled))
  inviter since user filled := by
    refine recorded.countIn_le .invitationAdmin user since fun served listed counted => ?_
    obtain ⟨accepted, named⟩ := Bool.and_eq_true_iff.mp counted
    exact invitation_pays enabled recorded listed accepted
      (.inl (mem_callerCharges enabled rfl (by decide) (eq_of_beq named) filled))
  client since address filled := by
    refine recorded.countIn_le .invitationIp address since fun served listed counted => ?_
    obtain ⟨accepted, named⟩ := Bool.and_eq_true_iff.mp counted
    exact visit_pays accepted (mem_callerCharges enabled rfl (by decide)
      (congrArg some (eq_of_beq named)) filled)
  visitor since user filled := by
    refine recorded.countIn_le .invitationAcceptance user since fun served listed counted => ?_
    obtain ⟨accepted, named⟩ := Bool.and_eq_true_iff.mp counted
    exact visit_pays accepted (mem_callerCharges enabled rfl (by decide) (eq_of_beq named) filled)
  founder since user filled := by
    refine recorded.countIn_le .tenantCreation user since fun served listed counted => ?_
    obtain ⟨accepted, others⟩ := Bool.and_eq_true_iff.mp counted
    obtain ⟨plain, named⟩ := Bool.and_eq_true_iff.mp others
    exact creation_pays recorded listed accepted (mem_callerCharges enabled
      ((Bool.not_eq_true' _).mp plain) (by decide) (eq_of_beq named) filled)
  member since user filled := by
    refine recorded.countIn_le .tenantJoining user since fun served listed counted => ?_
    obtain ⟨accepted, named⟩ := Bool.and_eq_true_iff.mp counted
    exact joining_pays accepted (mem_callerCharges enabled rfl (by decide) (eq_of_beq named) filled)

end Paying

/-- A service with limits in force keeps within its budgets over any requests in turn that empty
none, on a store that was empty: as long as the store's clock keeps step and lets keys outlast
their windows, instants lie in the calendar, and entries have names of their own. -/
theorem budgets_kept (service : Service) (enabled : service.guard.enabled = true)
    (batching : Batching) (clock : Seconds) (arrivals : List Arrival)
    (steady : IsSteady service arrivals)
    (others : ∀ arrival ∈ arrivals, arrival.request.method ≠ "DELETE") :
    ((Session.start (Limiter.vacantStore batching clock)).run service arrivals).IsWithinBudgets
      service := by
  have apart : service.policy.KeepsApart := service.settings.limits.keepsApart
  refine Session.Recorded.isWithinBudgets enabled (Session.run_induction
    (motive := fun session book => session.Recorded service book) arrivals
    (fun session book arrival member before recorded => ?_) (fun _ listed => nomatch listed)
    steady.inTurn (Session.Recorded.start service batching clock))
  exact recorded.attend apart before (steady.timely arrival member) (others arrival member)

section Visits

/-- A service that admits a user to one visit of an invitation in just over an hour. -/
def strict : Service where
  settings := {
    service := { keys := some "key" }
    limits := { budget := fun scope =>
      if scope = .invitationAcceptance then
        ⟨⟨Limiter.hourly.window, Limiter.hourly.window_pos⟩,
          ⟨Limiter.hourly.capacity, Limiter.hourly.capacity_pos⟩⟩
      else Settings.Budget.default scope } }

/-- The first instant of a window of the service. -/
def windowStart (clock : Seconds) : Instant := ⟨0, clock, 1⟩

/-- The last instant of that window. -/
def windowEnd (clock : Seconds) : Instant := ⟨3601999, clock, 5⟩

/-- The one precedes the other, as long as the clock keeps step. -/
theorem windowStart_precedes {first second : Seconds}
    (step : Seconds.KeepsStep first second 3601999) :
    (windowStart first).Precedes (windowEnd second) := by
  have fresh : ∀ i < numbers, ∀ j < numbers,
      Limiter.entryId 0 (1 + i) ≠ Limiter.entryId 3601999 (5 + j) := by decide +kernel
  exact ⟨show (0 : Int) ≤ 3601999 by decide, step, fresh⟩

/-- The instant and the ends of all windows of the service that start there are in the calendar. -/
def IsInCalendar (here : Instant) : Prop :=
  earliest ≤ here.now ∧ ∀ scope, here.now + (strict.policy.limitOf scope).window ≤ latest

/-- The first hour of the epoch lies within the calendar of the windows. -/
theorem isInCalendar {here : Instant} (after : 0 ≤ here.now) (before : here.now ≤ 3601999) :
    IsInCalendar here := by
  have start : earliest ≤ 0 := by decide
  have room : 3601999 + day ≤ latest := by decide
  refine ⟨start.trans after, fun scope => ?_⟩
  have window : (strict.policy.limitOf scope).window ≤ day := by cases scope <;> decide
  omega

/-- The start of a window lies within the calendar. -/
theorem isInCalendar_windowStart (clock : Seconds) : IsInCalendar (windowStart clock) :=
  isInCalendar (Int.le_refl 0) (show (0 : Int) ≤ 3601999 by decide)

/-- The end of a window lies within the calendar. -/
theorem isInCalendar_windowEnd (clock : Seconds) : IsInCalendar (windowEnd clock) :=
  isInCalendar (show (0 : Int) ≤ 3601999 by decide) (Int.le_refl 3601999)

/-- A clock of whole seconds keeps step. -/
theorem keepsStep_whole : Seconds.KeepsStep (.whole 0) (.whole 3601) 3601999 := by
  rw [Seconds.KeepsStep, Seconds.instant_whole, Seconds.instant_whole]
  norm_num

/-- A clock at the end of what binary64 can tell keeps step too. -/
theorem keepsStep_rounded :
    Seconds.KeepsStep Limiter.lastOddSecond Limiter.roundedSecond 3601999 := by
  rw [Seconds.KeepsStep, Limiter.instant_lastOddSecond, Limiter.instant_roundedSecond]
  norm_num

/-- What comes in at the first and at the last instant of a window. -/
def inWindow (first second : Seconds) (opening closing : Request) : List Arrival :=
  [⟨windowStart first, opening⟩, ⟨windowEnd second, closing⟩]

variable {first second : Seconds} {opening closing : Request}

/-- The two requests of a window are in turn if the clock keeps step. -/
theorem inWindow_inTurn (step : Seconds.KeepsStep first second 3601999) :
    (inWindow first second opening closing).Pairwise fun first second =>
      first.toInstant.Precedes second.toInstant :=
  List.pairwise_pair.mpr (windowStart_precedes step)

/-- What holds of the two requests of a window holds of both. -/
theorem forall_mem_inWindow {property : Arrival → Prop} :
    (∀ arrival ∈ inWindow first second opening closing, property arrival) ↔
      property ⟨windowStart first, opening⟩ ∧ property ⟨windowEnd second, closing⟩ := by
  rw [inWindow, List.forall_mem_cons, List.forall_mem_singleton]

/-- The two requests of a window lie within the calendar. -/
theorem inWindow_isInCalendar :
    ∀ arrival ∈ inWindow first second opening closing, IsInCalendar arrival.toInstant :=
  forall_mem_inWindow.mpr ⟨isInCalendar_windowStart first, isInCalendar_windowEnd second⟩

/-- On a clock of whole seconds both requests can be followed. -/
theorem inWindow_isSteady :
    IsSteady strict (inWindow (.whole 0) (.whole 3601) opening closing) := by
  have fine : ∀ arrival ∈ inWindow (.whole 0) (.whole 3601) opening closing,
      arrival.clock.TellsMilliseconds := forall_mem_inWindow.mpr ⟨trivial, trivial⟩
  refine ⟨inWindow_inTurn keepsStep_whole, fun arrival member => ?_⟩
  obtain ⟨after, before⟩ := inWindow_isInCalendar arrival member
  exact .of_tellsMilliseconds (fine arrival member) after before

/-- A user's visit to an invitation link. -/
def visit : Request where
  path := "/v1/invitation-acceptance/t"
  headers := [("x-user-id", "u")]

/-- Two visits empty no budget. -/
theorem visits_empty_nothing :
    ∀ arrival ∈ inWindow first second visit visit, arrival.request.method ≠ "DELETE" := by
  have kept : visit.method ≠ "DELETE" := by decide
  exact forall_mem_inWindow.mpr ⟨kept, kept⟩

/-- On a clock of whole seconds the second visit is denied. -/
theorem second_visit_denied :
    let session := (Session.start (Limiter.vacantStore .separate (.whole 0))).run strict
      (inWindow (.whole 0) (.whole 3601) visit visit)
    session.IsWithinBudgets strict ∧
      session.past.map (fun served => served.response.status) = [200, 429] :=
  ⟨budgets_kept strict rfl .separate (.whole 0) _ inWindow_isSteady visits_empty_nothing,
    by decide +kernel⟩

/-- Where the clock's own arithmetic rounds the deadline of the first visit down to the reading of
the second, both are accepted within one window. -/
theorem budget_exceeded_at_rounded_deadline :
    let arrivals := inWindow Limiter.lastOddSecond Limiter.roundedSecond visit visit
    (arrivals.Pairwise fun first second => first.toInstant.Precedes second.toInstant) ∧
      (∀ arrival ∈ arrivals, IsInCalendar arrival.toInstant) ∧
      (∀ arrival ∈ arrivals, arrival.request.method ≠ "DELETE") ∧
      strict.guard.enabled = true ∧
      ¬((Session.start (Limiter.vacantStore .locked Limiter.lastOddSecond)).run strict
        arrivals).IsWithinBudgets strict := by
  refine ⟨inWindow_inTurn keepsStep_rounded, inWindow_isInCalendar, visits_empty_nothing, rfl,
    fun within => ?_⟩
  have counted := within.visitor 0 "u" (by decide)
  exact absurd counted (by decide +kernel)

end Visits

end Turnstile.Service
