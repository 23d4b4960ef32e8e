import Turnstile.Proofs.Access
import Turnstile.Proofs.Guard.Charging
import Turnstile.Proofs.Http.Refusal
import Turnstile.Proofs.Service.Windows

/-!
# What endpoints charge

Each endpoint makes the charges of its request in turn, empties the quota that its request names,
or leaves the quotas alone. It answers that a limit is exceeded exactly when the book denies one
of the charges.
-/

namespace Turnstile.Service

open Http Quota Store Time

/-! ## Outcomes -/

/-- The outcome is not answered with the status. -/
def Avoids (status : Nat) (outcome : Except Failure Response) : Prop :=
  (∀ response, outcome = .ok response → response.status ≠ status) ∧
    ∀ problem, outcome = .error (.problem problem) → problem.kind.status ≠ status

/-- A response of another status avoids a status. -/
theorem Avoids.of_ok {status : Nat} {response : Response} (other : response.status ≠ status) :
    Avoids status (.ok response) :=
  ⟨fun _ same => Except.ok.inj same ▸ other, fun _ same => nomatch same⟩

/-- A fault avoids a status. -/
theorem Avoids.of_fault {status : Nat} (fault : Fault) :
    Avoids status (.error (.fault fault)) :=
  ⟨fun _ same => (nomatch same), fun _ same => nomatch same⟩

/-- A response made of JSON has its status, or is not made. -/
theorem avoids_ofJson {status other : Nat} (different : other ≠ status) (value : Json)
    (headers : List (String × String)) : Avoids status (Response.ofJson other value headers) := by
  unfold Response.ofJson
  split
  · exact .of_ok different
  · exact .of_fault _

/-- The response to refused inputs has status 422, or is not made. -/
theorem avoids_ofRefusals {status : Nat} (different : 422 ≠ status) (room : Nat)
    (refusals : List Refusal) : Avoids status (Response.ofRefusals room refusals) := by
  cases made : Response.ofRefusals room refusals with
  | ok response =>
    obtain ⟨details, told⟩ := Response.exists_ofJson_of_ofRefusals made
    exact told ▸ avoids_ofJson different _ _
  | error failure =>
    obtain ⟨fault, rfl⟩ := Response.exists_fault_of_ofRefusals made
    exact .of_fault fault

/-- A response made of JSON leaves the node. -/
theorem respond_avoids {σ : Type} {status other : Nat} (different : other ≠ status) (value : Json)
    (headers : List (String × String)) (node : Node σ) :
    Avoids status (respond other value headers node).outcome ∧
      (respond other value headers node).state = node := by
  have avoids := avoids_ofJson different value headers
  unfold respond
  revert avoids
  cases Response.ofJson other value headers <;> exact fun avoids => ⟨avoids, rfl⟩

/-- Refusing inputs leaves the node. -/
theorem refuse_avoids {σ : Type} {status : Nat} (different : 422 ≠ status) (request : Request)
    (refusals : List Refusal) (node : Node σ) :
    Avoids status (refuse request refusals node).outcome ∧
      (refuse request refusals node).state = node := by
  have avoids := avoids_ofRefusals different request.shownRoom refusals
  unfold refuse
  revert avoids
  cases Response.ofRefusals request.shownRoom refusals <;> exact fun avoids => ⟨avoids, rfl⟩

/-- A redirection leaves the node. -/
theorem redirect_avoids {σ : Type} {status : Nat} (different : 307 ≠ status) (request : Request)
    (path : String) (node : Node σ) :
    Avoids status (redirect request path node).outcome ∧
      (redirect request path node).state = node := by
  unfold redirect Request.addressOf
  split
  · exact ⟨.of_ok different, rfl⟩
  · split
    · exact ⟨.of_ok different, rfl⟩
    · exact ⟨.of_fault _, rfl⟩

/-- A response of one status has no other. -/
theorem avoids_of_yields {status other : Nat} (different : other ≠ status)
    {outcome : Except Failure Response}
    (yields : Yields (fun response => response.status = other) outcome) :
    Avoids status outcome := by
  obtain ⟨response, rfl, same⟩ := yields
  exact .of_ok (same ▸ different)

/-- An acceptance is always told. -/
theorem accept_charges {policy : Policy} {done : List Instant} {here : Instant} (status : Nat)
    (operation : Operation) (tenant : Option String) (headers : List (String × String)) :
    Charges policy done here [] (Yields fun response => response.status = status)
      (accept status operation tenant headers) := by
  have told : Yields (fun response => response.status = status)
      (Response.ofJson status
        (Acceptance.toJson { operation := operation.name, tenant }) []) := by
    cases tenant <;> exact ⟨_, rfl, rfl⟩
  exact (Charges.ofExcept told).bind_nil fun _ same => .pure same

section Charging

variable (service : Service) (request : Request)

/-- The quotas of the caller that an operation charges. -/
def callerCharges (operation : Operation) (sparesAdmins : Bool) : List (Scope × String) :=
  if service.guard.enabled && !(sparesAdmins && request.principal.isAdmin) then
    operation.charges request.principal (some request.address)
  else []

/-- The quota of the invited address. -/
def emailCharges (order : Except (List Refusal) InvitationOrder) : List (Scope × String) :=
  match order with
  | .ok order =>
    if service.guard.enabled then [(.invitationEmail, normalizeEmail order.email)] else []
  | .error _ => []

/-- The quotas that a request charges, in order. -/
def charges : List (Scope × String) :=
  match dispatch request.method request.path with
  | .taken .createInvitation _ =>
    match request.payload with
    | .ok payload => service.callerCharges request .invitationCreation false ++
        service.emailCharges (readOrder InvitationOrder.read payload)
    | .error _ => []
  | .taken .openInvitation _ => service.callerCharges request .invitationAcceptance false
  | .taken .acceptInvitation _ => service.callerCharges request .invitationAcceptance false
  | .taken .createTenant _ =>
    match request.payload with
    | .ok _ => service.callerCharges request .tenantCreation true
    | .error _ => []
  | .taken .joinTenant _ => service.callerCharges request .tenantJoining false
  | _ => []

variable {service request} {done : List Instant} {here : Instant}
  (apart : service.policy.KeepsApart) (inTurn : ∀ earlier ∈ done, earlier.Precedes here)
  (timely : here.IsTimely service.policy)
include timely

/-- The headers of an admission at the instant are told, if they are wanted. -/
theorem admissionHeaders_yields {admission : Admission}
    (made : service.guard.IsMadeAt here.now admission) :
    Yields (fun _ => True) (service.admissionHeaders admission) := by
  unfold admissionHeaders
  split
  · obtain ⟨headers, told⟩ := service.guard.headersFor_of_isMadeAt timely.endsInCalendar made
    exact ⟨headers, told, trivial⟩
  · exact ⟨[], rfl, trivial⟩

include apart inTurn

/-- Charging for an operation charges the quotas of the caller. -/
theorem charge_charges (operation : Operation) (sparesAdmins : Bool) :
    Charges service.policy done here (service.callerCharges request operation sparesAdmins)
      (Yields fun _ => True) (service.charge operation sparesAdmins here.now request) := by
  unfold charge callerCharges
  cases service.guard.enabled with
  | false => exact .pure trivial
  | true =>
    have evaluated := service.guard.evaluate_charges timely apart inTurn operation
      request.principal (some request.address) sparesAdmins
    have same : (if true && !(sparesAdmins && request.principal.isAdmin) then
        operation.charges request.principal (some request.address) else []) =
        if sparesAdmins && request.principal.isAdmin then [] else
          operation.charges request.principal (some request.address) := by
      cases sparesAdmins && request.principal.isAdmin <;> rfl
    rw [same]
    refine evaluated.bind_of_nil fun last made => ?_
    cases last with
    | none => exact .pure trivial
    | some admission => exact .ofExcept (admissionHeaders_yields timely (made admission rfl))

/-- Charging for an address charges its quota. -/
theorem chargeEmail_charges (order : InvitationOrder) :
    Charges service.policy done here (service.emailCharges (.ok order)) (Yields fun _ => True)
      (service.chargeEmail order.email here.now) := by
  unfold chargeEmail emailCharges
  cases service.guard.enabled with
  | false => exact .pure trivial
  | true =>
    exact (service.guard.enforceEmail_charges timely apart inTurn order.email).bind_of_nil
      fun admission made => .ofExcept (admissionHeaders_yields timely made)

/-- Taking the order of an invitation charges the caller, and the address of a good order. -/
theorem createInvitation_charges {payload : Payload} (readable : request.payload = .ok payload) :
    Charges service.policy done here
      (service.callerCharges request .invitationCreation false ++
        service.emailCharges (readOrder InvitationOrder.read payload)) (Avoids 429)
      (service.createInvitation here.now request) := by
  unfold createInvitation withOrder
  rw [readable]
  refine (charge_charges apart inTurn timely .invitationCreation false).bind fun headers _ => ?_
  cases readOrder InvitationOrder.read payload with
  | error refusals => exact .ofExcept (avoids_ofRefusals (by decide) _ refusals)
  | ok order =>
    refine (chargeEmail_charges apart inTurn timely order).bind_of_nil fun own _ => ?_
    exact (accept_charges _ _ _ _).mono fun _ => avoids_of_yields (by decide)

/-- A visit to an invitation charges the address of the client and the user. -/
theorem visitInvitation_charges :
    Charges service.policy done here
      (service.callerCharges request .invitationAcceptance false) (Avoids 429)
      (service.visitInvitation here.now request) :=
  (charge_charges apart inTurn timely .invitationAcceptance false).bind_of_nil fun _ _ =>
    (accept_charges _ _ _ _).mono fun _ => avoids_of_yields (by decide)

/-- Taking the order of a tenant charges the user, unless an administrator. -/
theorem createTenant_charges {payload : Payload} (readable : request.payload = .ok payload) :
    Charges service.policy done here (service.callerCharges request .tenantCreation true)
      (Avoids 429) (service.createTenant here.now request) := by
  unfold createTenant withOrder
  rw [readable]
  refine (charge_charges apart inTurn timely .tenantCreation true).bind_of_nil fun headers _ => ?_
  cases readOrder TenantOrder.read payload with
  | error refusals => exact .ofExcept (avoids_ofRefusals (by decide) _ refusals)
  | ok order => exact (accept_charges _ _ _ _).mono fun _ => avoids_of_yields (by decide)

/-- A wish to join a tenant charges the user. -/
theorem joinTenant_charges (tenant : String) :
    Charges service.policy done here (service.callerCharges request .tenantJoining false)
      (Avoids 429) (service.joinTenant tenant here.now request) :=
  (charge_charges apart inTurn timely .tenantJoining false).bind_of_nil fun _ _ =>
    (accept_charges _ _ _ _).mono fun _ => avoids_of_yields (by decide)

end Charging

/-! ## Routes -/

section Routing

variable (service : Service) (request : Request)

/-- The operator who sends a request is granted access. -/
def admitsOperator : Bool :=
  Access.grants service.settings.service.keyRequired service.settings.service.keys
    (request.headers.first? "x-api-key")

/-- The quota that a request empties. -/
def clears? : Option (Scope × String) :=
  match dispatch request.method request.path with
  | .taken .scopeReset arguments =>
    if service.admitsOperator request then
      (Scope.ofName? (arguments.headD "")).map fun scope =>
        (scope, quotaIdentifier scope ((arguments.drop 1).headD ""))
    else none
  | _ => none

/-- The book after a request at an instant. -/
def bookAfter (now : Int) (book : Book) : Book :=
  match service.clears? request with
  | some quota => book.cleared quota.1 quota.2
  | none => book.chargedAll service.policy now (service.charges request)

/-- How an endpoint leaves a request: it ends with a denial exactly when the book denies one of the
charges, and the store keeps the book after the request. -/
structure Answered (done : List Instant) (here : Instant) (spare : Nat) (book : Book)
    (step : Step (Node Local) Response) : Prop where
  admitted : book.admitsAll service.policy here.now (service.charges request) = true →
    Avoids 429 step.outcome
  denied : book.admitsAll service.policy here.now (service.charges request) = false →
    Denies step.outcome
  stands : Stands service.policy done here spare (service.bookAfter request here.now book)
    step.state

/-- An operation is checked against two scopes at most. -/
theorem length_callerCharges_le (operation : Operation) (sparesAdmins : Bool) :
    (service.callerCharges request operation sparesAdmins).length ≤ 2 := by
  unfold callerCharges
  split
  · refine (List.length_filterMap_le ..).trans ?_
    cases operation <;> decide
  · exact Nat.zero_le _

/-- A request makes three charges at most. -/
theorem length_charges_le : (service.charges request).length ≤ 3 := by
  have caller := service.length_callerCharges_le request
  have email (order : Except (List Refusal) InvitationOrder) :
      (service.emailCharges order).length ≤ 1 := by
    unfold emailCharges
    cases order with
    | error refusals => exact Nat.zero_le _
    | ok order =>
      simp only
      split
      · exact Nat.le_refl _
      · exact Nat.zero_le _
  unfold charges
  split
  · split
    · rename_i payload _
      rw [List.length_append]
      have first := caller .invitationCreation false
      have second := email (readOrder InvitationOrder.read payload)
      omega
    · exact Nat.zero_le _
  · exact (caller _ _).trans (by decide)
  · exact (caller _ _).trans (by decide)
  · split
    · exact (caller _ _).trans (by decide)
    · exact Nat.zero_le _
  · exact (caller _ _).trans (by decide)
  · exact Nat.zero_le _

variable {service request} {done : List Instant} {here : Instant} {spare : Nat} {book : Book}
  {node : Node Local}

/-- An activity that makes the charges of the request answers it. -/
theorem Answered.of_charges {action : Action (Node Local) Response}
    (kept : service.clears? request = none)
    (charging : Charges service.policy done here (service.charges request) (Avoids 429) action)
    (stands : Stands service.policy done here (spare + 3) book node) :
    service.Answered request done here spare book (action node) := by
  have room := service.length_charges_le request
  obtain ⟨admitted, denied, left⟩ := charging spare book node (stands.weaken (by omega))
  refine ⟨admitted, denied, ?_⟩
  rw [bookAfter, kept]
  exact left

/-- An activity that leaves the quotas alone answers a request without charges. -/
theorem Answered.of_kept {step : Step (Node Local) Response}
    (kept : service.clears? request = none) (free : service.charges request = [])
    (ended : Avoids 429 step.outcome)
    (stands : Stands service.policy done here spare book step.state) :
    service.Answered request done here spare book step := by
  refine ⟨fun _ => ended, fun denied => ?_, ?_⟩
  · rw [free] at denied
    cases denied
  · rw [bookAfter, kept, free]
    exact stands

variable (apart : service.policy.KeepsApart) (inTurn : ∀ earlier ∈ done, earlier.Precedes here)
  (timely : here.IsTimely service.policy)

/-- The policy is listed without touching the node. -/
theorem showPolicy_spec : Avoids 429 (service.showPolicy node).outcome ∧
    (service.showPolicy node).state = node := by
  have found (scope : Scope) (state : Node Local) (same : state = node) :
      let step := (do return (scope, ← service.policy.find scope) :
        Action (Node Local) (Scope × Limit)) state
      step.outcome = .ok (scope, service.policy.limitOf scope) ∧ step.state = node := by
    obtain ⟨outcome, left⟩ := service.policy.find_bind scope
      (fun limit => (pure (scope, limit) : Action (Node Local) (Scope × Limit))) state
    exact ⟨outcome, left.trans same⟩
  obtain ⟨listed, left⟩ := Action.mapM_spec found Scope.all rfl
  unfold showPolicy Policy.listing
  rw [Action.bind_apply_ok listed]
  obtain ⟨avoids, kept⟩ := respond_avoids (show 200 ≠ 429 by decide) (PolicyView.ofTable
    (Scope.all.map fun scope => (scope, service.policy.limitOf scope))).toJson [] _
  exact ⟨avoids, kept.trans left⟩

/-- The store is asked whether it answers, and left as it is. -/
theorem readiness_spec (quiet : node.store.interference.IsQuiet) :
    Avoids 429 (readiness node).outcome ∧ (readiness node).state = node := by
  have answered : Backend.answer .ping node.store = ⟨.ok (.flag true), [], node.store⟩ :=
    node.store.answer_of_quiet quiet node.store.memory .ping
  have called : Node.call .ping node = ⟨.ok (.flag true), [], node⟩ := by
    unfold Node.call
    rw [answered]
  have reply : (Node.call .ping node).outcome = .ok (.flag true) := congrArg Step.outcome called
  unfold readiness
  rw [Action.bind_apply_ok reply, called]
  exact respond_avoids (by decide) _ _ node

/-- A body that is not read is refused. -/
theorem refuseBody_spec (error : Json.ReadError) {status : Nat} (first : 400 ≠ status)
    (second : 422 ≠ status) :
    Avoids status (refuseBody request error node).outcome ∧
      (refuseBody request error node).state = node := by
  unfold refuseBody detail
  split
  · exact refuse_avoids second request _ node
  · exact respond_avoids first _ _ node

/-- Only the endpoint for it empties quotas. -/
theorem clears?_eq_none {endpoint : Endpoint} {arguments : List String}
    (taken : dispatch request.method request.path = .taken endpoint arguments)
    (other : endpoint ≠ .scopeReset) : service.clears? request = none := by
  unfold clears?
  rw [taken]
  cases endpoint <;> first | rfl | exact absurd rfl other

include apart inTurn timely

/-- An endpoint that is open to its caller answers the request. -/
theorem perform_answered {endpoint : Endpoint} {arguments : List String}
    (taken : dispatch request.method request.path = .taken endpoint arguments)
    (admitted : endpoint.isOperator = true → service.admitsOperator request = true)
    (stands : Stands service.policy done here (spare + 3) book node) :
    service.Answered request done here spare book
      (service.perform endpoint arguments here.now request node) := by
  have fewer := stands.weaken (Nat.le_add_right spare 3)
  have kept := @clears?_eq_none service request endpoint arguments taken
  have untouched {step : Step (Node Local) Response} (free : service.charges request = [])
      (other : endpoint ≠ .scopeReset) (spec : Avoids 429 step.outcome ∧ step.state = node) :
      service.Answered request done here spare book step :=
    .of_kept (kept other) free spec.1 (spec.2 ▸ fewer)
  have shows {step : Step (Node Local) Response} {value : Json}
      (free : service.charges request = []) (other : endpoint ≠ .scopeReset)
      (spec : step.outcome = .ok (shown value) ∧
        Stands service.policy done here spare book step.state) :
      service.Answered request done here spare book step :=
    .of_kept (kept other) free (spec.1 ▸ .of_ok (show 200 ≠ 429 by decide)) spec.2
  cases endpoint with
  | createInvitation =>
    cases readable : request.payload with
    | error error =>
      simp only [perform, createInvitation, withOrder, readable]
      exact untouched (by simp only [charges, taken, readable]) (by decide)
        (refuseBody_spec error (by decide) (by decide))
    | ok payload =>
      refine .of_charges (kept (by decide)) ?_ stands
      simp only [charges, taken, readable]
      exact createInvitation_charges apart inTurn timely readable
  | openInvitation =>
    refine .of_charges (kept (by decide)) ?_ stands
    simp only [charges, taken]
    exact visitInvitation_charges apart inTurn timely
  | acceptInvitation =>
    refine .of_charges (kept (by decide)) ?_ stands
    simp only [charges, taken]
    exact visitInvitation_charges apart inTurn timely
  | createTenant =>
    cases readable : request.payload with
    | error error =>
      simp only [perform, createTenant, withOrder, readable]
      exact untouched (by simp only [charges, taken, readable]) (by decide)
        (refuseBody_spec error (by decide) (by decide))
    | ok payload =>
      refine .of_charges (kept (by decide)) ?_ stands
      simp only [charges, taken, readable]
      exact createTenant_charges apart inTurn timely readable
  | joinTenant =>
    refine .of_charges (kept (by decide)) ?_ stands
    simp only [charges, taken]
    exact joinTenant_charges apart inTurn timely _
  | showPolicy => exact untouched (by simp only [charges, taken]) (by decide) showPolicy_spec
  | tenantStatus =>
    exact shows (by simp only [charges, taken]) (by decide)
      (service.showWindows_spec apart inTurn timely fewer (by decide) _)
  | userStatus =>
    exact shows (by simp only [charges, taken]) (by decide)
      (service.showWindows_spec apart inTurn timely fewer (by decide) _)
  | adminStatus =>
    exact shows (by simp only [charges, taken]) (by decide)
      (service.showWindows_spec apart inTurn timely fewer (by decide) _)
  | scopeStatus =>
    simp only [perform, withScope]
    cases Scope.ofName? (arguments.headD "") with
    | none =>
      exact untouched (by simp only [charges, taken]) (by decide)
        (refuse_avoids (by decide) request _ node)
    | some scope =>
      exact shows (by simp only [charges, taken]) (by decide)
        (service.showWindow_spec apart inTurn timely fewer scope _)
  | scopeReset =>
    have free : service.charges request = [] := by simp only [charges, taken]
    have clears : service.clears? request = (Scope.ofName? (arguments.headD "")).map fun scope =>
        (scope, quotaIdentifier scope ((arguments.drop 1).headD "")) := by
      simp only [clears?, taken, admitted rfl, if_true]
    simp only [perform, withScope]
    cases named : Scope.ofName? (arguments.headD "") with
    | none =>
      rw [named] at clears
      obtain ⟨avoids, left⟩ := refuse_avoids (show 422 ≠ 429 by decide) request _ node
      exact .of_kept clears free avoids (left.symm ▸ fewer)
    | some scope =>
      rw [named] at clears
      obtain ⟨told, left⟩ := service.resetWindow_spec apart inTurn timely fewer scope
        ((arguments.drop 1).headD "")
      refine ⟨fun _ => told ▸ .of_ok (show 204 ≠ 429 by decide), fun denied => ?_, ?_⟩
      · rw [free] at denied
        cases denied
      · rw [bookAfter, clears]
        exact left
  | health =>
    exact untouched (by simp only [charges, taken]) (by decide)
      (respond_avoids (by decide) _ _ node)
  | readiness =>
    exact untouched (by simp only [charges, taken]) (by decide) (readiness_spec stands.quiet)

omit apart inTurn timely in
/-- An endpoint that is open to its caller does its work. -/
theorem handle_of_admitted {σ : Type} [Backend σ] {endpoint : Endpoint} (arguments : List String)
    (admitted : endpoint.isOperator = true → service.admitsOperator request = true) (now : Int)
    (node : Node σ) :
    service.handle endpoint arguments now request node =
      service.perform endpoint arguments now request node := by
  unfold handle
  cases operator : endpoint.isOperator with
  | false => rfl
  | true =>
    have verified : service.verifyOperator request node = ⟨.ok (), [], node⟩ :=
      Access.verify_of_grants _ _ _ node (admitted operator)
    have granted : (service.verifyOperator request node).outcome = .ok () :=
      congrArg Step.outcome verified
    simp only [if_true]
    rw [Action.bind_apply_ok granted, verified]
    rfl

omit apart inTurn timely in
/-- An endpoint that is open to its caller decides the route. -/
theorem route_of_taken {σ : Type} [Backend σ] {endpoint : Endpoint} {arguments : List String}
    (taken : dispatch request.method request.path = .taken endpoint arguments)
    (admitted : endpoint.isOperator = true → service.admitsOperator request = true) (now : Int)
    (node : Node σ) : service.route now request node =
      service.perform endpoint arguments now request node := by
  unfold route
  rw [taken]
  exact handle_of_admitted arguments admitted now node

/-- An endpoint answers the request that it takes; operators are checked first. -/
theorem handle_answered {endpoint : Endpoint} {arguments : List String}
    (taken : dispatch request.method request.path = .taken endpoint arguments)
    (stands : Stands service.policy done here (spare + 3) book node) :
    service.Answered request done here spare book
      (service.handle endpoint arguments here.now request node) := by
  by_cases admitted : endpoint.isOperator = true → service.admitsOperator request = true
  · rw [handle_of_admitted arguments admitted]
    exact perform_answered apart inTurn timely taken admitted stands
  · obtain ⟨operator, refused⟩ := Classical.not_imp.mp admitted
    obtain ⟨left, problem, refusal, kind⟩ := Access.verify_of_not_grants _ _ _ node
      (Bool.eq_false_iff.mpr refused)
    have outcome : (service.verifyOperator request node).outcome = .error (.problem problem) :=
      refusal
    unfold handle
    simp only [operator, if_true]
    rw [Action.bind_apply_error outcome]
    have free : service.charges request = [] := by
      unfold charges
      rw [taken]
      cases endpoint <;> first | rfl | cases operator
    have kept : service.clears? request = none := by
      unfold clears?
      rw [taken]
      cases endpoint <;> first | rfl | exact if_neg refused
    refine .of_kept kept free ⟨fun _ same => (nomatch same), fun found same => ?_⟩ ?_
    · obtain rfl : problem = found := by
        injection same with same
        injection same
      rw [kind]
      decide
    · exact (left ▸ stands).weaken (Nat.le_add_right spare 3)

/-- Every request is answered by what becomes of its path. -/
theorem route_answered (stands : Stands service.policy done here (spare + 3) book node) :
    service.Answered request done here spare book (service.route here.now request node) := by
  have fewer := stands.weaken (Nat.le_add_right spare 3)
  unfold route
  cases found : dispatch request.method request.path with
  | taken endpoint arguments => exact handle_answered apart inTurn timely found stands
  | wrongMethod allowed =>
    obtain ⟨avoids, left⟩ := respond_avoids (show 405 ≠ 429 by decide)
      (.obj [("detail", .str "Method Not Allowed")]) [("Allow", allowed)] node
    exact .of_kept (by simp only [clears?, found]) (by simp only [charges, found]) avoids
      (left ▸ fewer)
  | unknown =>
    obtain ⟨avoids, left⟩ := respond_avoids (show 404 ≠ 429 by decide)
      (.obj [("detail", .str "Not Found")]) [] node
    exact .of_kept (by simp only [clears?, found]) (by simp only [charges, found]) avoids
      (left ▸ fewer)
  | moved path =>
    obtain ⟨avoids, left⟩ := redirect_avoids (show 307 ≠ 429 by decide) request path node
    exact .of_kept (by simp only [clears?, found]) (by simp only [charges, found]) avoids
      (left.symm ▸ fewer)

end Routing

end Turnstile.Service
