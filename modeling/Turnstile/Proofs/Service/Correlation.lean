import Turnstile.Proofs.Service.Budgets
import Turnstile.Proofs.Service.Envelopes
import Turnstile.Proofs.Store.Reports

/-!
# Requests and their identifiers

The identifier of a request travels in two ways: it is marked on the request, and bound in the
context that records are written in. Both are set when the request is identified; the context is
cleared when the request ends, also by a failure, and the failure is then answered by the mark. A
service that keeps book of both exchanges as the service does, and over any run of requests the
identifier of each is what its response, its error body and all its records tell. A request whose
address cannot be split is answered by the server, which tells no identifier.
-/

namespace Turnstile.Service

open Http Log Store

/-! ## What one exchange tells -/

/-- The headers hold the name with that value, and with no other. -/
def ShowsOnly (headers : Headers) (name value : String) : Prop :=
  headers.first? name = some value ∧ ∀ entry ∈ headers, entry.1 = name → entry.2 = value

/-- A header that is set is the only one of its name. -/
theorem showsOnly_set (headers : Headers) (name value : String) :
    ShowsOnly (headers.set name value) name value := by
  induction headers with
  | nil =>
    refine ⟨List.lookup_cons_self, fun entry member _ => ?_⟩
    rw [List.mem_singleton.mp member]
  | cons entry rest ih =>
    unfold Headers.set
    split
    · refine ⟨List.lookup_cons_self, fun other member named => ?_⟩
      rcases List.mem_cons.mp member with rfl | later
      · rfl
      · have kept := (List.mem_filter.mp later).2
        exact absurd named (bne_iff_ne.mp kept)
    · rename_i different
      obtain ⟨found, only⟩ := ih
      have apart : (name == entry.1) = false := by
        rw [Bool.eq_false_iff]
        exact fun same => different (beq_iff_eq.mpr (beq_iff_eq.mp same).symm)
      refine ⟨?_, fun other member named => ?_⟩
      · unfold Headers.first? at found ⊢
        rw [List.lookup_cons, apart]
        exact found
      · rcases List.mem_cons.mp member with rfl | later
        · exact absurd (beq_iff_eq.mpr named) different
        · exact only other later named

/-- A header that is set if it is absent leaves what is shown. -/
theorem ShowsOnly.setIfAbsent {headers : Headers} {name value : String}
    (shows : ShowsOnly headers name value) (other content : String) :
    ShowsOnly (headers.setIfAbsent other content) name value := by
  obtain ⟨found, only⟩ := shows
  unfold Headers.setIfAbsent
  split
  · exact ⟨found, only⟩
  · rename_i absent
    have different : other ≠ name := by
      intro same
      obtain ⟨before, after, split, -⟩ := List.lookup_eq_some_iff.mp found
      exact absent (List.any_eq_true.mpr ⟨(name, value), by simp [split], by simp [same]⟩)
    refine ⟨?_, fun entry member named => ?_⟩
    · unfold Headers.first? at found ⊢
      rw [List.lookup_append, found, Option.some_or]
    · rcases List.mem_append.mp member with old | new
      · exact only entry old named
      · obtain rfl := List.mem_singleton.mp new
        exact absurd named different

/-- The body of a response tells the identifier, if it is an error body. -/
def TellsIn (id : String) (response : Response) : Prop :=
  IsPlain response ∨ ∃ code message details,
    response.body = Json.compact (errorBody code message (some id) details)

namespace TellsIn

variable {id : String} {response : Response} (tells : TellsIn id response)
include tells

/-- An error body tells no other identifier. -/
theorem request_eq {code message : String} {request : Option String}
    {details : Option (List (String × Json))}
    (error : response.body = Json.compact (errorBody code message request details)) :
    request = some id := by
  rcases tells with plain | ⟨code', message', details', body⟩
  · exact absurd error (plain.body.ne code message request details)
  · exact request_eq_of_compact_eq (error.symm.trans body)

/-- A failure has an error body. -/
theorem exists_error (failed : response.status ∉ plainStatuses) : ∃ code message details,
    response.body = Json.compact (errorBody code message (some id) details) := by
  rcases tells with plain | error
  · exact absurd plain.status failed
  · exact error

end TellsIn

/-- The records of an event at an instant tell the identifier. -/
structure Names (now : Int) (id : String) (noted : Noted) : Prop where
  attached : ((Record.ofEvent now noted.event).attachRequest noted.request).fields.lookup
    requestField = some (.str id)
  written : ∀ members, (Record.ofEvent now noted.event).handled noted.request = .ok members →
    members.lookup requestField = some (.str id)

/-- One identifier stands for a request in all that an exchange tells of it. -/
structure Correlates (service : Service) (now : Int) (request : Request) (id : String)
    (exchange : Exchange) : Prop where
  /-- The header for identifiers shows it, if the address of the request can be split. -/
  header : request.isAddressed = true →
    ShowsOnly exchange.response.headers (Text.lower service.requestHeader) id
  /-- Every error body tells it. -/
  bodies : ∀ code message request details,
    exchange.response.body = Json.compact (errorBody code message request details) →
      request = some id
  /-- A failure is answered with an error body, if the address can be split. -/
  failures : request.isAddressed = true → exchange.response.status ∉ plainStatuses →
    ∃ code message details,
      exchange.response.body = Json.compact (errorBody code message (some id) details)
  /-- Every record tells it. -/
  records : ∀ noted ∈ exchange.events, Names now id noted
  /-- The end of the request is among the records, if the address can be split. -/
  ending : request.isAddressed = true → ∃ noted ∈ exchange.events, noted.event.message =
    if exchange.raised.isSome then "unhandled_exception" else "http.request_completed"
  /-- Where the address cannot be split, the server answers. -/
  bare : request.isAddressed = false → exchange.response = bareResponse

section Exchanging

variable {id : String} (given : id ≠ "") {now : Int}
include given

/-- An event that names no request tells the one at hand. -/
theorem names_of_unclaimed {event : Event} (unclaimed : event.IsUnclaimed) :
    Names now id ⟨some id, event⟩ := by
  have carries : Carries ((Record.ofEvent now event).attachRequest (some id)).fields requestField
      (.str id) := @Record.carries_attachRequest_self (Record.ofEvent now event) unclaimed id
  exact ⟨carries.lookup_eq, fun members made =>
    (Record.carries_handled_request given carries made).lookup_eq⟩

/-- The event of a failure tells the request that it names, whatever is bound. -/
theorem names_of_fault (failure : Failure) (method path : String) (bound : Option String) :
    Names now id ⟨bound, faultEvent failure method path (some id)⟩ := by
  have distinct : ["error_type", "request_path", "request_method", "request_id"].Nodup := by
    decide
  have own : Carries (faultEvent failure method path (some id)).fields requestField (.str id) :=
    Carries.of_lookup distinct rfl
  have carries : Carries ((Record.ofEvent now
      (faultEvent failure method path (some id))).attachRequest bound).fields requestField
      (.str id) := Record.carries_attachRequest_own own
  exact ⟨carries.lookup_eq, fun members made =>
    (Record.carries_handled_request given carries made).lookup_eq⟩

/-- The response to a failure that nothing answered shows the identifier. -/
theorem faultResponse_tells (header : String) :
    ShowsOnly (faultResponse (some id) header).headers (Text.lower header) id ∧
      TellsIn id (faultResponse (some id) header) := by
  have kept : Option.filter (fun id : String => !id.isEmpty) (some id) = some id :=
    Option.filter_some_pos (by simp [given])
  have alone : ShowsOnly (Headers.small [(header, id)]) (Text.lower header) id :=
    showsOnly_set [] _ _
  unfold faultResponse
  rw [kept]
  exact ⟨(alone.setIfAbsent _ _).setIfAbsent _ _, .inr ⟨_, _, none, rfl⟩⟩

end Exchanging

section Answering

variable (service : Service) (now : Int) (id : String) (request : Request) {σ : Type} [Backend σ]

/-- An answer reports nothing under the name of a request that is not of the store, and tells the
identifier in its body if that is an error body. -/
theorem answer_conducts :
    Conducts (TellsIn id) (service.answer now id request : Action (Node σ) Response) := by
  apply (service.route_conducts now request).attempt.bind
  intro outcome plain
  cases outcome with
  | ok response => exact .pure (.inl (plain response rfl))
  | error failure =>
    cases failure with
    | fault raised => exact .fail _
    | problem found =>
      refine (Conducts.ofExcept fun _ _ => trivial).bind fun path _ => ?_
      refine .report_bind rfl (.ofExcept fun response told => ?_)
      unfold problemResponse Response.ofJson at told
      split at told
      · obtain rfl := Except.ok.inj told
        exact .inr ⟨_, _, _, rfl⟩
      · cases told

variable {service now id request} (given : id ≠ "")
  (reticent : ∀ call, IsReticent (Backend.answer call : Action σ Reply))
include given reticent

/-- What is reported while a request is at hand tells its identifier. -/
theorem names_of_conducts {α : Type} {kind : α → Prop} {action : Action (Node σ) α}
    (conducts : Conducts kind action) (node : Node σ) :
    ∀ noted ∈ notedFor id (action node).events, Names now id noted := by
  intro noted member
  obtain ⟨event, reported, rfl⟩ := List.mem_map.mp member
  apply names_of_unclaimed given
  rcases conducts.unclaimed node event reported with unclaimed | ⟨call, store, ofStore⟩
  · exact unclaimed
  · exact reticent call store event ofStore

/-- Where the path is told, all that an exchange under an identifier tells of its request is the
identifier. -/
theorem exchangeAs_correlates_of_told {path : String} (shown : request.shownPath = .ok path)
    (node : Node σ) :
    Correlates service now request id (service.exchangeAs now id request node).1 := by
  have conducts := @answer_conducts service now id request σ _
  have heard := @names_of_conducts now id σ _ given reticent _ _ _ conducts node
  have addressed : request.isAddressed = true := Request.isAddressed_iff.mpr ⟨path, shown⟩
  generalize step : service.answer now id request node = answered at heard
  obtain ⟨outcome, events, left⟩ := answered
  cases outcome with
  | ok response =>
    have tells : TellsIn id response := conducts.yields node response (congrArg Step.outcome step)
    rw [service.exchangeAs_of_answer request now id node shown step]
    constructor
    case header => exact fun _ => (showsOnly_set _ _ _).setIfAbsent _ _
    case bodies => exact fun _ _ _ _ error => tells.request_eq error
    case failures => exact fun _ => tells.exists_error
    case records =>
      intro noted member
      rcases List.mem_append.mp member with before | last
      · exact heard noted before
      · obtain rfl := List.mem_singleton.mp last
        exact names_of_unclaimed given rfl
    case ending => exact fun _ => ⟨_, List.mem_append_right _ (List.mem_singleton_self _), rfl⟩
    case bare => exact fun unaddressed => nomatch addressed.symm.trans unaddressed
  | error failure =>
    obtain ⟨header, tells⟩ := faultResponse_tells given service.requestHeader
    rw [service.exchangeAs_of_failure request now id node step,
      service.failed_of_told request shown]
    constructor
    case header => exact fun _ => header
    case bodies => exact fun _ _ _ _ error => tells.request_eq error
    case failures => exact fun _ => tells.exists_error
    case records =>
      intro noted member
      rcases List.mem_append.mp member with before | last
      · exact heard noted before
      · obtain rfl := List.mem_singleton.mp last
        exact names_of_fault given _ _ _ _
    case ending => exact fun _ => ⟨_, List.mem_append_right _ (List.mem_singleton_self _), rfl⟩
    case bare => exact fun unaddressed => nomatch addressed.symm.trans unaddressed

/-- All that an exchange under an identifier tells of its request is the identifier. -/
theorem exchangeAs_correlates (node : Node σ) :
    Correlates service now request id (service.exchangeAs now id request node).1 := by
  cases shown : request.shownPath with
  | ok path => exact exchangeAs_correlates_of_told given reticent shown node
  | error untold =>
    have unaddressed : request.isAddressed = false :=
      Request.isAddressed_eq_false_iff.mpr ⟨untold, shown⟩
    have conducts := @route_conducts service now request σ _
    rw [service.exchangeAs_of_untold request now id node shown]
    constructor
    case header => exact fun addressed => nomatch addressed.symm.trans unaddressed
    case bodies => exact fun _ _ _ _ error => absurd error (bareResponse_body_ne _ _ _ _)
    case failures => exact fun addressed => nomatch addressed.symm.trans unaddressed
    case records => exact names_of_conducts given reticent conducts node
    case ending => exact fun addressed => nomatch addressed.symm.trans unaddressed
    case bare => exact fun _ => rfl

end Answering

/-! ## The context -/

/-- An identifier, given or generated, is not empty. -/
theorem identifier_ne_empty (header : String) (request : Request) (serial : Nat) :
    identifier header request serial ≠ "" := by
  unfold identifier
  split
  · rename_i keeps
    intro empty
    rw [keepsOwn, empty] at keeps
    exact absurd keeps (by decide)
  · intro empty
    have marks := congrArg (fun text => '-' ∈ text.toList) empty
    simp [RequestId.generate] at marks

/-- A node, and the identifier that is bound in the context of its records. -/
structure Scene (σ : Type) where
  node : Node σ
  bound : Option String := none

namespace Scene

variable {σ : Type}

/-- Events as they are noted in the context. -/
def note (scene : Scene σ) (events : List Event) : List Noted :=
  events.map fun event => ⟨scene.bound, event⟩

/-- The answer to a failure that nothing answered, under the identifier that is marked on the
request or else bound; the server answers where the path cannot be told. -/
def answerFor (scene : Scene σ) (service : Service) (request : Request) (marked : Option String)
    (failure : Failure) (before : List Noted) : Exchange × Scene σ :=
  let known := knownRequest marked scene.bound
  match request.shownPath with
  | .ok path =>
    (⟨faultResponse known service.requestHeader, some failure,
      before ++ scene.note [faultEvent failure request.method path known]⟩, scene)
  | .error untold => (⟨bareResponse, some untold, before⟩, scene)

/-- Handle a request that is marked with its identifier, in a context that it is bound in until the
end, however the request ends. -/
def enter [Backend σ] (scene : Scene σ) (service : Service) (now : Int) (id : String)
    (request : Request) : Exchange × Scene σ :=
  let inside : Scene σ := { scene with bound := some id }
  let known := (knownRequest (some id) inside.bound).getD ""
  let step := service.answer now known request inside.node
  let left : Scene σ := ⟨step.state, none⟩
  match step.outcome with
  | .ok response =>
    match request.shownPath with
    | .ok path =>
      (⟨signed service.requestHeader id request response, none,
        inside.note (step.events ++ [completedEvent request path response])⟩, left)
    | .error untold =>
      left.answerFor service request (some id) untold (inside.note step.events)
  | .error failure =>
    left.answerFor service request (some id) (passedOn failure) (inside.note step.events)

/-- Handle a request. -/
def attend [Backend σ] (scene : Scene σ) (service : Service) (now : Int) (request : Request) :
    Exchange × Scene σ :=
  match narrowFault? (Text.lower service.requestHeader) with
  | some failure => scene.answerFor service request none failure []
  | none =>
    let found := identify service.requestHeader request scene.node
    let identified : Scene σ := { scene with node := found.state }
    match found.outcome with
    | .ok id => identified.enter service now id request
    | .error failure => identified.answerFor service request none failure []

/-- The mark on a request is what it is known by. -/
theorem knownRequest_of_marked {id : String} (given : id ≠ "") (bound : Option String) :
    knownRequest (some id) bound = some id := by
  have kept : Option.filter (fun id : String => !id.isEmpty) (some id) = some id :=
    Option.filter_some_pos (by simp [given])
  rw [knownRequest, kept]
  rfl

/-- A failure of a marked request is answered as the service answers it. -/
theorem answerFor_of_marked (node : Node σ) (service : Service) {id : String} (given : id ≠ "")
    (request : Request) (failure : Failure) (before : List Noted) :
    answerFor ⟨node, none⟩ service request (some id) failure before =
      (service.failed request (some id) failure before, ⟨node, none⟩) := by
  unfold answerFor failed
  rw [knownRequest_of_marked given]
  cases request.shownPath <;> rfl

/-- An identified request is handled as the service handles it, and then nothing is bound. -/
theorem enter_eq [Backend σ] (scene : Scene σ) (service : Service) (now : Int) {id : String}
    (given : id ≠ "") (request : Request) :
    scene.enter service now id request =
      ((service.exchangeAs now id request scene.node).1,
        ⟨(service.exchangeAs now id request scene.node).2, none⟩) := by
  unfold enter exchangeAs
  simp only [knownRequest_of_marked given, Option.getD_some, answerFor_of_marked _ _ given]
  cases (service.answer now id request scene.node).outcome with
  | ok response =>
    cases request.shownPath with
    | ok path => simp only [note, List.map_append, List.map_cons, List.map_nil]
    | error untold => rfl
  | error failure => rfl

/-- Where nothing is bound, a request is handled as the service handles it, and nothing is bound
afterwards. -/
theorem attend_eq [Backend σ] {scene : Scene σ} (idle : scene.bound = none) (service : Service)
    (now : Int) (request : Request) :
    scene.attend service now request =
      ((service.exchange now request scene.node).1,
        ⟨(service.exchange now request scene.node).2, none⟩) := by
  obtain ⟨node, bound⟩ := scene
  obtain rfl : bound = none := idle
  unfold attend exchange
  simp only [requestHeader, identify_apply]
  cases narrowFault? (Text.lower service.settings.log.requestHeader) with
  | some failure =>
    unfold answerFor failed
    cases request.shownPath <;> rfl
  | none =>
    exact enter_eq _ service now (identifier_ne_empty _ request node.serial) request

end Scene

/-! ## Runs -/

/-- A request of a run, and what becomes of the store before it. -/
structure Turn (σ : Type) where
  now : Int
  request : Request
  meanwhile : σ → σ

/-- A request that was handled: the scene that it found, what it led to and the scene that it
left. -/
structure Handled (σ : Type) where
  turn : Turn σ
  found : Scene σ
  exchange : Exchange
  left : Scene σ

namespace Handled

variable {σ : Type} (service : Service) (handled : Handled σ)

/-- The number at hand when the request arrived. -/
def serial : Nat := handled.found.node.serial

/-- The identifier of the request. -/
def id : String := identifier service.requestHeader handled.turn.request handled.serial

/-- The identifier of the request is a generated one. -/
def IsGenerated : Prop := keepsOwn service.requestHeader handled.turn.request = false

end Handled

namespace Scene

variable {σ : Type} [Backend σ] (service : Service)

/-- The scene that the next request of a run finds. -/
def awaiting (scene : Scene σ) (turn : Turn σ) : Scene σ :=
  { scene with node := { scene.node with store := turn.meanwhile scene.node.store } }

/-- Handle the next request of a run. -/
def handle (scene : Scene σ) (turn : Turn σ) : Handled σ :=
  let ended := (scene.awaiting turn).attend service turn.now turn.request
  ⟨turn, scene.awaiting turn, ended.1, ended.2⟩

/-- Handle the requests of a run in turn. -/
def run (scene : Scene σ) : List (Turn σ) → List (Handled σ)
  | [] => []
  | turn :: rest =>
    let handled := scene.handle service turn
    handled :: run handled.left rest

/-- A request finds nothing bound and is handled as the service handles it. -/
structure IsHandled (handled : Handled σ) : Prop where
  exchanged : handled.exchange =
    (service.exchange handled.turn.now handled.turn.request handled.found.node).1
  idle : handled.found.bound = none
  cleared : handled.left.bound = none
  left : handled.left.node =
    (service.exchange handled.turn.now handled.turn.request handled.found.node).2

variable {service} {scene : Scene σ}

/-- One more request of a run finds nothing bound. -/
theorem handle_isHandled (idle : scene.bound = none) (turn : Turn σ) :
    IsHandled service (scene.handle service turn) := by
  have waiting : (scene.awaiting turn).bound = none := idle
  have ended := attend_eq waiting service turn.now turn.request
  unfold handle
  rw [ended]
  constructor
  case exchanged => rfl
  case idle => exact idle
  case cleared => rfl
  case left => rfl

/-- A request leaves a node that calls and numbers lead to, once it is identified. -/
theorem IsHandled.reaches {handled : Handled σ} (fine : IsHandled service handled)
    (named : service.isNamed = true) :
    Node.Reaches { handled.found.node with
      serial := serialAfter service.requestHeader handled.turn.request handled.serial }
      handled.left.node := by
  have conducts := @route_conducts service handled.turn.now handled.turn.request σ _
  rw [fine.left, exchange_eq_exchangeAs _ named, service.exchangeAs_state]
  exact conducts.reaches { handled.found.node with
    serial := serialAfter service.requestHeader handled.turn.request handled.serial }

/-- Every request of a run is handled, in turn, by the number that it finds. -/
theorem run_spec (named : service.isNamed = true) (turns : List (Turn σ))
    (idle : scene.bound = none) :
    (∀ handled ∈ scene.run service turns,
      IsHandled service handled ∧ scene.node.serial ≤ handled.serial) ∧
    (scene.run service turns).Pairwise fun first second : Handled σ =>
      serialAfter service.requestHeader first.turn.request first.serial ≤ second.serial := by
  induction turns generalizing scene with
  | nil => exact ⟨fun _ member => absurd member List.not_mem_nil, .nil⟩
  | cons turn rest ih =>
    have fine : IsHandled service (scene.handle service turn) := handle_isHandled idle turn
    obtain ⟨others, inTurn⟩ := ih fine.cleared
    have taken := (fine.reaches named).serial_le
    have after : (scene.handle service turn).serial ≤
        serialAfter service.requestHeader turn.request (scene.handle service turn).serial := by
      unfold serialAfter
      split
      · exact Nat.le_refl _
      · exact Nat.le_succ _
    refine ⟨fun handled member => ?_, List.pairwise_cons.mpr ⟨fun later member => ?_, inTurn⟩⟩
    · rcases List.mem_cons.mp member with rfl | later
      · exact ⟨fine, Nat.le_refl _⟩
      · obtain ⟨handledToo, order⟩ := others handled later
        exact ⟨handledToo, (after.trans taken).trans order⟩
    · exact taken.trans (others later member).2

/-- What calls and the time between requests keep of the store is so whenever a request arrives. -/
theorem run_induction (named : service.isNamed = true) {kept : σ → Prop}
    (calls : ∀ call store, kept store → kept (Backend.answer call store).state)
    {turns : List (Turn σ)} (idle : scene.bound = none) (holds : kept scene.node.store)
    (meanwhile : ∀ turn ∈ turns, ∀ store, kept store → kept (turn.meanwhile store)) :
    ∀ handled ∈ scene.run service turns,
      handled.turn ∈ turns ∧ IsHandled service handled ∧ kept handled.found.node.store := by
  induction turns generalizing scene with
  | nil => exact fun _ member => absurd member List.not_mem_nil
  | cons turn rest ih =>
    have fine : IsHandled service (scene.handle service turn) := handle_isHandled idle turn
    obtain ⟨own, others⟩ := List.forall_mem_cons.mp meanwhile
    have found : kept (scene.handle service turn).found.node.store := own _ holds
    have left := (fine.reaches named).store_induction calls found
    intro handled member
    rcases List.mem_cons.mp member with rfl | later
    · exact ⟨List.mem_cons_self, fine, found⟩
    · obtain ⟨listed, rest⟩ := ih fine.cleared left others handled later
      exact ⟨List.mem_cons_of_mem _ listed, rest⟩

end Scene

/-- Over every run of requests, one identifier stands for each: the header of its response, every
error body and every record tell it, also those of the failure that ends it. Only a request whose
address cannot be split is answered by the server without an identifier. Before and after each
request nothing is bound, so that a record of that time tells no request. Generated identifiers
differ, as long as the numbers that they are made of lead to different ones. -/
theorem requests_correlated (service : Service) (named : service.isNamed = true) {σ : Type}
    [Backend σ] (reticent : ∀ call, IsReticent (Backend.answer call : Action σ Reply))
    (node : Node σ) (turns : List (Turn σ)) :
    let run := Scene.run service ⟨node, none⟩ turns
    (∀ handled ∈ run,
      handled.exchange =
        (service.exchange handled.turn.now handled.turn.request handled.found.node).1 ∧
      Correlates service handled.turn.now handled.turn.request (handled.id service)
        handled.exchange ∧
      ∀ scene ∈ [handled.found, handled.left], scene.bound = none ∧
        ∀ event : Event, event.IsUnclaimed → ∀ now,
          ((Record.ofEvent now event).attachRequest scene.bound).fields.lookup requestField =
            some .null) ∧
    (Set.InjOn RequestId.generate {serial | ∃ handled ∈ run, handled.serial = serial} →
      run.Pairwise fun first second => first.IsGenerated service → second.IsGenerated service →
        first.id service ≠ second.id service) := by
  intro run
  obtain ⟨fine, inTurn⟩ := @Scene.run_spec σ _ service ⟨node, none⟩ named turns rfl
  refine ⟨fun handled member => ?_, fun distinct => ?_⟩
  · obtain ⟨handledSo, -⟩ := fine handled member
    refine ⟨handledSo.exchanged, ?_, ?_⟩
    · rw [handledSo.exchanged, exchange_eq_exchangeAs _ named]
      exact exchangeAs_correlates (identifier_ne_empty _ _ _) reticent _
    · intro scene either
      have idle : scene.bound = none := by
        rcases List.mem_pair.mp either with rfl | rfl
        · exact handledSo.idle
        · exact handledSo.cleared
      refine ⟨idle, fun event unclaimed now => ?_⟩
      have unnamed : (Record.ofEvent now event).fields.lookup requestField = none := unclaimed
      rw [idle]
      unfold Record.attachRequest
      rw [unnamed]
      exact (Carries.setMember_self _ _ _).lookup_eq
  · refine inTurn.imp_of_mem fun {first second} firstMember secondMember order => ?_
    intro firstMade secondMade same
    unfold Handled.id identifier at same
    rw [show keepsOwn service.requestHeader first.turn.request = false from firstMade,
      show keepsOwn service.requestHeader second.turn.request = false from secondMade] at same
    have numbers : first.serial = second.serial :=
      distinct ⟨first, firstMember, rfl⟩ ⟨second, secondMember, rfl⟩ same
    unfold serialAfter at order
    rw [show keepsOwn service.requestHeader first.turn.request = false from firstMade] at order
    simp only [Bool.false_eq_true, if_false] at order
    omega

/-- Numbers of twelve hexadecimal digits lead to different identifiers. -/
theorem generate_inj {first second : Nat} (room : first < 16 ^ 12) (other : second < 16 ^ 12)
    (same : RequestId.generate first = RequestId.generate second) : first = second := by
  have lists := congrArg String.toList same
  simp only [RequestId.generate, String.toList_append, String.toList_ofList,
    List.append_cancel_right_eq] at lists
  obtain ⟨front, low⟩ := List.append_inj lists (by simp)
  obtain ⟨high, -⟩ := List.append_inj front (by simp)
  apply Text.Digest.hexDigits_inj room other
  rw [← List.take_append_drop 8 (Text.Digest.hexDigits 12 first), high, low,
    List.take_append_drop]

/-- Three requests: a visit, a second one that brings its own identifier, and a question whether a
store answers that breaks down. -/
def threeTurns : List (Turn AnyStore) :=
  [⟨0, visit, fun store => store⟩,
   ⟨0, { visit with headers := ("x-request-id", "abc") :: visit.headers }, fun store => store⟩,
   ⟨0, { path := "/health/ready" },
    fun store => store.setInterference { failing := [("ping", .ofKind .runtime "")] }⟩]

/-- The run of three requests: they are accepted, limited and answered with a server error. -/
def threeHandled : List (Handled AnyStore) :=
  Scene.run strict ⟨⟨.inMemory (Limiter.vacantStore .locked (.whole 0)), 1⟩, none⟩ threeTurns

/-- The statuses of the three requests, and that each is told its identifier. -/
theorem three_requests_correlated :
    threeHandled.map (fun handled => handled.exchange.response.status) = [200, 429, 500] ∧
      (∀ handled ∈ threeHandled, handled.turn.request.isAddressed = true ∧
        Correlates strict handled.turn.now handled.turn.request (handled.id strict)
          handled.exchange) ∧
      threeHandled.Pairwise fun first second => first.IsGenerated strict →
        second.IsGenerated strict → first.id strict ≠ second.id strict := by
  have named : strict.isNamed = true := by decide +kernel
  obtain ⟨each, distinct⟩ := requests_correlated strict named AnyStore.answer_isReticent
    ⟨.inMemory (Limiter.vacantStore .locked (.whole 0)), 1⟩ threeTurns
  have small : ∀ serial ∈ threeHandled.map Handled.serial, serial < 16 ^ 12 := by decide +kernel
  have addressed : ∀ request ∈ threeHandled.map fun handled => handled.turn.request,
      request.isAddressed = true := by decide +kernel
  refine ⟨by decide +kernel, fun handled member =>
    ⟨addressed _ (List.mem_map_of_mem member), (each handled member).2.1⟩, distinct ?_⟩
  rintro first ⟨one, oneMember, rfl⟩ second ⟨two, twoMember, rfl⟩ same
  exact generate_inj (small _ (List.mem_map_of_mem oneMember))
    (small _ (List.mem_map_of_mem twoMember)) same

end Turnstile.Service
