import Turnstile.Proofs.Service.Budgets

/-!
# The gate of the operators

A service that asks operators for keys lets a request pass exactly when the key that it sends is
configured. A request that does not pass is answered with status 403 if its address can be split, by
a response and events that depend on the request alone: neither the arguments in its path nor the
store have a part in them, and the store is not called. Where its address cannot be split, the
server answers it by itself, and what is told of the store holds as well.
-/

namespace Turnstile.Service

open Http Store

/-- A request reaches an endpoint: the service can tell identifiers, and the endpoint takes it. -/
structure Reaches (service : Service) (request : Request) (endpoint : Endpoint)
    (arguments : List String) : Prop where
  named : service.isNamed = true
  taken : dispatch request.method request.path = .taken endpoint arguments

/-! ## Watching a store -/

/-- A store together with the calls made on it so far. -/
structure Watched (σ : Type) where
  store : σ
  calls : List Call

instance {σ : Type} [Backend σ] : Backend (Watched σ) where
  answer call watched :=
    let step := Backend.answer call watched.store
    ⟨step.outcome, step.events, ⟨step.state, watched.calls ++ [call]⟩⟩

/-! ## Passing -/

section Passing

variable {service : Service} {request : Request}

/-- An operator's request passes when access is granted. -/
theorem verifyOperator_ok_iff {σ : Type} (node : Node σ) :
    (service.verifyOperator request node).outcome = .ok () ↔
      service.admitsOperator request = true := by
  constructor
  · intro passed
    by_contra refused
    obtain ⟨_, problem, outcome, _⟩ := Access.verify_of_not_grants _ _ _ node
      (Bool.eq_false_iff.mpr refused)
    rw [verifyOperator, outcome] at passed
    cases passed
  · intro granted
    rw [verifyOperator, Access.verify_of_grants _ _ _ node granted]

/-- Where keys are asked for, access is granted to what trimming leaves of a configured segment. -/
theorem admitsOperator_iff (required : service.settings.service.keyRequired = true) :
    service.admitsOperator request = true ↔
      ∃ key segment, request.headers.first? "x-api-key" = some key ∧ key ≠ "" ∧
        Access.IsSegment service.settings.service.keys segment ∧ key = Text.strip segment := by
  rw [admitsOperator, required, Access.grants_iff]
  constructor
  · rintro ⟨key, given, listed⟩
    obtain ⟨filled, segment, found, same⟩ := Access.mem_keys_iff.mp listed
    exact ⟨key, segment, given, filled, Access.mem_segments_iff.mp found, same.symm⟩
  · rintro ⟨key, segment, given, filled, found, same⟩
    exact ⟨key, given, Access.mem_keys_iff.mpr
      ⟨filled, segment, Access.mem_segments_iff.mpr found, same.symm⟩⟩

/-- Keys that are stated in another way let the same requests pass, and refuse others alike. -/
theorem verifyOperator_of_restates {twin : Service}
    (same : twin.settings.service.keyRequired = service.settings.service.keyRequired)
    (restates : Relation.EqvGen Access.Restates
      (Access.segments service.settings.service.keys)
      (Access.segments twin.settings.service.keys)) {σ : Type} :
    (twin.verifyOperator request : Action (Node σ) Unit) = service.verifyOperator request := by
  have alike (key : String) : key ∈ Access.keys twin.settings.service.keys ↔
      key ∈ Access.keys service.settings.service.keys := by
    rw [Access.mem_keys_iff, Access.mem_keys_iff, Access.configures_iff_of_restates restates]
  rw [verifyOperator, same]
  exact Access.verify_congr _ _ _ alike

/-- A key with a comma, or with a blank at an end, does not pass. -/
theorem not_admitsOperator_of_unlikely (required : service.settings.service.keyRequired = true)
    {key : String} (given : request.headers.first? "x-api-key" = some key)
    (unlikely : ',' ∈ key.toList ∨
      (∃ c, key.toList.head? = some c ∧ Text.isBlank c = true) ∨
      ∃ c, key.toList.getLast? = some c ∧ Text.isBlank c = true) :
    service.admitsOperator request = false := by
  refine Bool.eq_false_iff.mpr fun granted => ?_
  rw [admitsOperator, required, Access.grants_iff] at granted
  obtain ⟨other, sent, listed⟩ := granted
  obtain rfl := Option.some.inj (given.symm.trans sent)
  obtain ⟨whole, start, ending⟩ := Access.plain_of_mem_keys listed
  rcases unlikely with comma | ⟨c, first, blank⟩ | ⟨c, last, blank⟩
  · exact whole comma
  · rw [start c first] at blank
    cases blank
  · rw [ending c last] at blank
    cases blank

end Passing

/-! ## Being refused -/

section Refused

variable {service : Service} {request : Request}

/-- The body of an error can be written as JSON when its details can. -/
theorem isFinite_errorBody (code message : String) (id : Option String)
    {details : Option (List (String × Json))}
    (finite : (Json.obj (details.getD [])).isFinite = true) :
    (errorBody code message id details).isFinite = true := by
  unfold errorBody
  cases id <;> cases (details.getD []).isEmpty <;>
    simp [Json.isFinite, Json.membersFinite, Json.memberFinite, Json.ofOption] at finite ⊢ <;>
    exact finite

variable (refused : service.admitsOperator request = false) (now : Int)
include refused

/-- An operator's request that does not pass ends with one event and one problem, whichever
endpoint it reaches, with whichever arguments, on whichever store. -/
theorem exists_handle_of_refused :
    ∃ event problem, problem.kind = .authentication ∧
      (Json.obj (problem.details.getD [])).isFinite = true ∧
      ∀ (endpoint : Endpoint) (arguments : List String), endpoint.isOperator = true →
        ∀ {σ : Type} [Backend σ] (node : Node σ),
          service.handle endpoint arguments now request node =
            ⟨.error (.problem problem), [event], node⟩ := by
  obtain ⟨event, problem, kind, finite, ends⟩ := Access.exists_refusal _ _ _ refused
  refine ⟨event, problem, kind, finite, fun endpoint arguments operator σ _ node => ?_⟩
  have verified : service.verifyOperator request node =
      ⟨.error (.problem problem), [event], node⟩ := ends node
  have stopped : (service.verifyOperator request node).outcome = .error (.problem problem) :=
    congrArg Step.outcome verified
  unfold handle
  simp only [operator, if_true]
  rw [Action.bind_apply_error stopped, verified]

/-- An operator's request that does not pass is answered with status 403 if its path is told, else
by the server; the whole exchange depends on the number at hand alone, and the store is left as it
is. -/
theorem exists_exchange_of_refused {endpoint : Endpoint} {arguments : List String}
    (reaches : service.Reaches request endpoint arguments) (operator : endpoint.isOperator = true)
    (serial : Nat) :
    ∃ exchange : Exchange, (request.isAddressed = true → exchange.response.status = 403) ∧
      (request.isAddressed = false → exchange.response = bareResponse) ∧
      ∀ {σ : Type} [Backend σ] (store : σ), service.exchange now request ⟨store, serial⟩ =
        (exchange, ⟨store, serialAfter service.requestHeader request serial⟩) := by
  obtain ⟨event, problem, kind, finite, ends⟩ := exists_handle_of_refused refused now
  let id := identifier service.requestHeader request serial
  have routed {σ : Type} [Backend σ] (node : Node σ) :
      service.route now request node = ⟨.error (.problem problem), [event], node⟩ := by
    unfold route
    rw [reaches.taken]
    exact ends endpoint arguments operator node
  cases shown : request.shownPath with
  | error untold =>
    have unaddressed : request.isAddressed = false :=
      Request.isAddressed_eq_false_iff.mpr ⟨untold, shown⟩
    refine ⟨⟨bareResponse, some untold, notedFor id [event]⟩, fun addressed => ?_, fun _ => rfl,
      fun {σ} _ store => ?_⟩
    · rw [unaddressed] at addressed
      cases addressed
    · rw [exchange_eq_exchangeAs _ reaches.named,
        service.exchangeAs_of_untold request now id _ shown, routed]
  | ok path =>
    have addressed : request.isAddressed = true := Request.isAddressed_iff.mpr ⟨path, shown⟩
    have status : problem.kind.status = 403 := by
      rw [kind]
      rfl
    let response := Response.ofText 403 "application/json"
      (Json.compact (errorBody problem.code problem.message (some id) problem.details))
      (problemHeaders problem)
    have told : problemResponse problem (some id) = .ok response := by
      rw [problemResponse, Response.ofJson, status, if_pos (isFinite_errorBody _ _ _ finite)]
    refine ⟨service.concluded request id path response [event, problemEvent problem path],
      fun _ => rfl, fun unaddressed => ?_, fun {σ} _ store => ?_⟩
    · rw [addressed] at unaddressed
      cases unaddressed
    · rw [exchange_eq_exchangeAs _ reaches.named]
      refine service.exchangeAs_of_answer request now id _ shown ?_
      rw [service.answer_of_problem request now id _ shown (congrArg Step.outcome (routed _)), told,
        routed]
      rfl

end Refused

/-- Where keys are asked for, an operator's request passes exactly when the key it sends is what
trimming leaves of a configured segment; restating the segments changes neither the decision nor
its reasons, and a key with a comma or with a blank at an end does not pass. A request that passes
is left to its endpoint. One that does not is answered with status 403, whatever the arguments of
its path, provided that its address can be split: else the server answers it by itself. Either way
the store is not called and left as it is, and the whole exchange, with its response and its events,
is the same on any other store. -/
theorem gate_admits_configured_keys (service : Service)
    (required : service.settings.service.keyRequired = true) {request : Request}
    {endpoint : Endpoint} {arguments : List String}
    (reaches : service.Reaches request endpoint arguments) (operator : endpoint.isOperator = true)
    (now : Int) :
    (∀ {σ : Type} (node : Node σ), (service.verifyOperator request node).outcome = .ok () ↔
        ∃ key segment, request.headers.first? "x-api-key" = some key ∧ key ≠ "" ∧
          Access.IsSegment service.settings.service.keys segment ∧ key = Text.strip segment) ∧
      (∀ twin : Service, twin.settings.service.keyRequired = true →
        Relation.EqvGen Access.Restates (Access.segments service.settings.service.keys)
          (Access.segments twin.settings.service.keys) →
        ∀ {σ : Type} (node : Node σ),
          twin.verifyOperator request node = service.verifyOperator request node) ∧
      (∀ key, request.headers.first? "x-api-key" = some key →
        (',' ∈ key.toList ∨ (∃ c, key.toList.head? = some c ∧ Text.isBlank c = true) ∨
          ∃ c, key.toList.getLast? = some c ∧ Text.isBlank c = true) →
        ∀ {σ : Type} (node : Node σ), (service.verifyOperator request node).outcome ≠ .ok ()) ∧
      ∀ {σ : Type} [Backend σ] (store : σ) (serial : Nat),
        let node : Node σ := ⟨store, serial⟩
        let exchanged := service.exchange now request node
        ((service.verifyOperator request node).outcome = .ok () →
          service.handle endpoint arguments now request node =
            service.perform endpoint arguments now request node) ∧
        ((service.verifyOperator request node).outcome ≠ .ok () →
          (request.isAddressed = true → exchanged.1.response.status = 403) ∧
          (request.isAddressed = false → exchanged.1.response = bareResponse) ∧
          exchanged.2.store = store ∧
          (∀ calls, (service.exchange now request
            ⟨(⟨store, calls⟩ : Watched σ), serial⟩).2.store.calls = calls) ∧
          (∀ (other : Endpoint) (inputs : List String), other.isOperator = true →
            service.handle other inputs now request node =
              service.handle endpoint arguments now request node) ∧
          ∀ {τ : Type} [Backend τ] (other : τ),
            (service.exchange now request ⟨other, serial⟩).1 = exchanged.1) := by
  refine ⟨fun node => ?_, fun twin alsoRequired restates σ node => ?_,
    fun key given unlikely σ node => ?_,
    fun {σ} _ store serial => ⟨fun passed => ?_, fun refused => ?_⟩⟩
  · rw [verifyOperator_ok_iff, admitsOperator_iff required]
  · rw [verifyOperator_of_restates (alsoRequired.trans required.symm) restates]
  · rw [ne_eq, verifyOperator_ok_iff, Bool.not_eq_true]
    exact not_admitsOperator_of_unlikely required given unlikely
  · exact handle_of_admitted arguments (fun _ => (verifyOperator_ok_iff _).mp passed) now _
  · rw [ne_eq, verifyOperator_ok_iff, Bool.not_eq_true] at refused
    obtain ⟨exchange, status, bare, same⟩ :=
      exists_exchange_of_refused refused now reaches operator serial
    obtain ⟨event, problem, _, _, ends⟩ := exists_handle_of_refused refused now
    refine ⟨?_, ?_, ?_, fun calls => ?_, fun other inputs also => ?_, fun other => ?_⟩
    · rw [same]
      exact status
    · rw [same]
      exact bare
    · rw [same]
    · rw [same]
    · rw [ends other inputs also, ends endpoint arguments operator]
    · rw [same, same]

/-- A request for a quota of no scope, with a key that is configured but for a blank. -/
def meddling : Request where
  path := operatorPath "nothing" "u"
  headers := [("x-api-key", "key ")]

/-- The service with its key stated in another way. -/
def restated : Service :=
  ⟨{ strict.settings with service := { keys := some ", key ,key" } }⟩

/-- The other statement of the key restates it. -/
theorem restates_restated : Relation.EqvGen Access.Restates
    (Access.segments strict.settings.service.keys)
    (Access.segments restated.settings.service.keys) := by
  have space : Access.IsBlank " " := List.all_eq_true.mp (by decide)
  have empty : Access.IsBlank "" := List.all_eq_true.mp (by decide)
  have twice : Access.Restates ["key"] ["key", "key"] := .duplicated (List.mem_singleton_self _)
  have padded : Access.Restates ["key", "key"] [" key ", "key"] :=
    @Access.Restates.padded " " " " space space "key" ["key"]
  have blanked : Access.Restates [" key ", "key"] ["", " key ", "key"] := .blanked empty _
  exact .trans _ _ _ (.rel _ _ twice) (.trans _ _ _ (.rel _ _ padded) (.rel _ _ blanked))

/-- The request is refused before its scope is looked up, on a store in memory and on a server
alike, and by the service with its key stated in another way as well. -/
theorem meddling_refused :
    let answered := strict.exchange 0 meddling ⟨Limiter.vacantStore .locked (.whole 0), 1⟩
    answered.1.response.status = 403 ∧
      (∀ remote : Remote, (strict.exchange 0 meddling ⟨remote, 1⟩).1 = answered.1) ∧
      restated.verifyOperator meddling answered.2 = strict.verifyOperator meddling answered.2 := by
  have reaches : strict.Reaches meddling .scopeStatus ["nothing", "u"] :=
    ⟨by decide +kernel, by decide +kernel⟩
  obtain ⟨_, twins, unlikely, exchanges⟩ := gate_admits_configured_keys strict rfl reaches rfl 0
  obtain ⟨_, refusal⟩ := exchanges (Limiter.vacantStore .locked (.whole 0)) 1
  obtain ⟨status, _, _, _, _, same⟩ := refusal
    (unlikely "key " rfl (.inr (.inr ⟨' ', by decide, by decide⟩)) _)
  exact ⟨status (by decide +kernel), fun remote => same remote,
    twins restated rfl restates_restated _⟩

end Turnstile.Service
