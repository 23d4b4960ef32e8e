import Turnstile.Proofs.Caller
import Turnstile.Proofs.Guard.Checks
import Turnstile.Proofs.Service.Identifiers
import Turnstile.Proofs.Service.Tokens

/-!
# Checks of the address of a visitor

Every visit to an invitation checks the address of its client first, and once. Where the real
address header hides the address behind blanks there is nothing to count the visit under, and the
check is left out.
-/

namespace Turnstile.Service

open Http Store

variable (service : Service) (now : Int) (request : Request) {σ : Type} [Backend σ]

/-- The checks that a visit makes on the node that it finds once it is identified. -/
def visitChecks (found : Node σ) : List (Trial σ) :=
  checks service.policy now (service.callerCharges request .invitationAcceptance false) found

/-- The check of the address of a request. -/
def addressCheck (found : Node σ) : Trial σ :=
  ⟨.invitationIp, request.address, service.policy.limitOf .invitationIp, now, found⟩

variable {service now request}

/-- A visit charges the scopes of its operation, whoever the caller is. -/
theorem callerCharges_of_enabled (enabled : service.guard.enabled = true) :
    service.callerCharges request .invitationAcceptance false =
      Operation.invitationAcceptance.charges request.principal (some request.address) := by
  rw [callerCharges, enabled]
  rfl

/-- A visit charges the address, if it has one, and then the user. -/
theorem callerCharges_visit (enabled : service.guard.enabled = true) :
    service.callerCharges request .invitationAcceptance false =
      ((Principal.nonEmpty? (some request.address)).map (Scope.invitationIp, ·)).toList ++
        ((Principal.nonEmpty? request.principal.userId).map
          (Scope.invitationAcceptance, ·)).toList := by
  rw [callerCharges_of_enabled enabled, Operation.charges, Operation.scopes,
    List.filterMap_cons, List.filterMap_cons]
  simp only [Scope.identifier?]
  cases Principal.nonEmpty? (some request.address) <;>
    cases Principal.nonEmpty? request.principal.userId <;> rfl

/-- The user of a visit is not charged by address. -/
theorem scope_ne_of_mem_user {charge : Scope × String}
    (member : charge ∈ ((Principal.nonEmpty? request.principal.userId).map
      (Scope.invitationAcceptance, ·)).toList) : charge.1 ≠ .invitationIp := by
  obtain ⟨user, -, rfl⟩ := Option.map_eq_some_iff.mp (Option.mem_toList.mp member)
  show Scope.invitationAcceptance ≠ .invitationIp
  decide

section Checking

variable (enabled : service.guard.enabled = true) (found : Node σ)
include enabled

/-- A visit with an address checks it first, and no other. -/
theorem visitChecks_of_address (filled : request.address ≠ "") :
    ∃ later, visitChecks service now request found = addressCheck service now request found :: later
      ∧ ∀ trial ∈ later, trial.scope ≠ .invitationIp := by
  have kept : Principal.nonEmpty? (some request.address) = some request.address :=
    nonEmpty?_eq_some_iff.mpr ⟨rfl, filled⟩
  rw [visitChecks, callerCharges_visit enabled, kept]
  refine ⟨_, rfl, fun trial member => ?_⟩
  split at member
  · exact scope_ne_of_mem_user (mem_of_mem_checks member)
  · cases member

/-- A visit without an address checks none. -/
theorem visitChecks_of_no_address (empty : request.address = "") :
    ∀ trial ∈ visitChecks service now request found, trial.scope ≠ .invitationIp := by
  have dropped : Principal.nonEmpty? (some request.address) = none :=
    nonEmpty?_eq_none_iff.mpr fun text same => (Option.some.inj same).symm.trans empty
  rw [visitChecks, callerCharges_visit enabled, dropped]
  exact fun trial member => scope_ne_of_mem_user (mem_of_mem_checks member)

/-- A visit leaves the node as its checks do. -/
theorem visitInvitation_state : (service.visitInvitation now request found).state =
    leftBy found (visitChecks service now request found) := by
  have charged : (service.charge .invitationAcceptance false now request found).state =
      leftBy found (visitChecks service now request found) := by
    rw [charge, enabled, if_pos rfl, Action.bind_state_of_still fun last node => ?_]
    · rw [visitChecks, callerCharges_of_enabled enabled]
      exact service.guard.evaluate_state (clocksAt now) .invitationAcceptance request.principal
        (some request.address) rfl found
    · cases last with
      | none => rfl
      | some admission => exact congrArg Step.state (Action.ofExcept_apply _ _)
  rw [visitInvitation, Action.bind_state_of_still fun headers node => ?_]
  · exact charged
  · rw [accept, Action.bind_state_of_still fun _ _ => rfl]
    exact congrArg Step.state (Action.ofExcept_apply _ _)

end Checking

/-- An exchange of a visit leaves the node as the checks of the visit do, once it is identified. -/
theorem exchange_visitOf_state (named : service.isNamed = true)
    (enabled : service.guard.enabled = true)
    (method : request.method = "GET" ∨ request.method = "POST") {token : String}
    (filled : token ≠ "") (simple : '/' ∉ token.toList) (node : Node σ) :
    let found := { node with
      serial := serialAfter service.requestHeader request node.serial }
    (service.exchange now (visitOf request token) node).2 =
      leftBy found (visitChecks service now request found) := by
  intro found
  rw [exchange_eq_exchangeAs _ named, service.exchangeAs_state,
    service.route_visitOf request now _ method filled simple]
  exact visitInvitation_state enabled found

/-- The address of a client is the one that its headers and its peer tell, and not empty, unless the
real address header hides it behind blanks. Every visit to an invitation, whatever the store does,
checks the address first and just once, and does nothing to the node but its checks; where the
address is hidden, it is not checked. -/
theorem visits_check_address_once (service : Service) (named : service.isNamed = true)
    (enabled : service.guard.enabled = true) (now : Int) (request : Request)
    (method : request.method = "GET" ∨ request.method = "POST") {token : String}
    (filled : token ≠ "") (simple : '/' ∉ token.toList) {σ : Type} [Backend σ] (node : Node σ) :
    (∀ headers peer, toldAddress headers peer ≠ "" ∧
      (¬HasBlankAddress headers → clientAddress headers peer = toldAddress headers peer) ∧
      (clientAddress headers peer = "" ↔ HasBlankAddress headers)) ∧
    let found := { node with serial := serialAfter service.requestHeader request node.serial }
    let made := visitChecks service now request found
    (service.exchange now (visitOf request token) node).2 = leftBy found made ∧
      (¬HasBlankAddress request.headers → ∃ later,
        made = addressCheck service now request found :: later ∧
          ∀ trial ∈ later, trial.scope ≠ .invitationIp) ∧
      (HasBlankAddress request.headers → ∀ trial ∈ made, trial.scope ≠ .invitationIp) := by
  have address (headers : Headers) (peer : Option String) :
      clientAddress headers peer = "" ↔ HasBlankAddress headers := by
    refine ⟨fun empty => ?_, clientAddress_of_hasBlankAddress⟩
    by_contra shown
    rw [clientAddress_of_not_hasBlankAddress shown] at empty
    exact toldAddress_ne_empty empty
  refine ⟨fun headers peer => ⟨toldAddress_ne_empty, clientAddress_of_not_hasBlankAddress,
    address headers peer⟩, exchange_visitOf_state named enabled method filled simple node, ?_, ?_⟩
  · exact fun shown => visitChecks_of_address enabled _ (mt (address _ _).mp shown)
  · exact fun blank => visitChecks_of_no_address enabled _ ((address _ _).mpr blank)

/-- A visit behind proxies that forward no first hop and name no address. -/
def proxiedVisit : Request where
  path := acceptancePath "t"
  headers := [("x-forwarded-for", " , 198.51.100.7"), ("x-real-ip", ""), ("x-user-id", "u")]
  peer := some "203.0.113.9"

/-- The visit is counted under the address of the peer, once a number is taken for its
identifier. -/
theorem proxied_visit_checked :
    toldAddress proxiedVisit.headers proxiedVisit.peer = "203.0.113.9" ∧
      ¬HasBlankAddress proxiedVisit.headers ∧
      ∃ later,
        (strict.exchange 0 (visitOf proxiedVisit "t") freshNode).2 =
          leftBy { freshNode with serial := 2 }
            (addressCheck strict 0 proxiedVisit { freshNode with serial := 2 } :: later) ∧
        (addressCheck strict 0 proxiedVisit freshNode).identifier = "203.0.113.9" ∧
        ∀ trial ∈ later, trial.scope ≠ .invitationIp := by
  have named : strict.isNamed = true := by decide +kernel
  have taken : serialAfter strict.requestHeader proxiedVisit freshNode.serial = 2 := by
    decide +kernel
  have known := visits_check_address_once strict named rfl 0 proxiedVisit (.inl rfl)
    (show "t" ≠ "" by decide) (by decide) freshNode
  simp only [taken] at known
  obtain ⟨address, left, checked, -⟩ := known
  have own : clientAddress proxiedVisit.headers proxiedVisit.peer = "203.0.113.9" := by
    decide +kernel
  obtain ⟨-, told, empty⟩ := address proxiedVisit.headers proxiedVisit.peer
  have shown : ¬HasBlankAddress proxiedVisit.headers := by
    rw [← empty, own]
    decide
  obtain ⟨later, made, others⟩ := checked shown
  exact ⟨(told shown).symm.trans own, shown, later, made ▸ left, own, others⟩

/-- A visit whose real address header holds one no-break space. -/
def hiddenVisit : Request where
  path := acceptancePath "t"
  headers := [("x-real-ip", "\u00a0")]
  peer := some "203.0.113.9"

/-- The visit is accepted without any check, though its peer is known. -/
theorem hidden_visit_unchecked :
    clientAddress hiddenVisit.headers hiddenVisit.peer = "" ∧
      toldAddress hiddenVisit.headers hiddenVisit.peer = "203.0.113.9" ∧
      strict.guard.enabled = true ∧
      (strict.exchange 0 (visitOf hiddenVisit "t") freshNode).1.response.status = 200 ∧
      (visitChecks strict 0 hiddenVisit freshNode).length = 0 ∧
      (strict.exchange 0 (visitOf hiddenVisit "t") freshNode).1.events.map
          (fun noted => noted.event.message) =
        ["rate_limit.scope_skipped", "rate_limit.scope_skipped", "http.request_completed"] := by
  decide +kernel

end Turnstile.Service
