import Turnstile.Proofs.Http.Route
import Turnstile.Proofs.Log.Fields
import Turnstile.Proofs.Service.Budgets

/-!
# What the log tells of a token

A visit to an invitation is handled without a look at its token. The events that end the exchange
tell the path of its address, though, and scrubbing leaves that as it is. So two visits are alike in
all but these fields, and their records are the same exactly when the address shows the same part
of both tokens or none of either, or when no record that tells the path is heard.
-/

namespace Turnstile.Service

open Http Log Store

/-! ## Shown tokens -/

/-- What stands before the token in the path of a visit. -/
def tokenPlace : String := "/v1/invitation-acceptance/"

/-- What stands before the token is a place in an address. -/
theorem isPlace_tokenPlace : Net.IsPlace tokenPlace.toList where
  slash := by decide
  unmarked c member := by
    have plain : (tokenPlace.toList.all fun c =>
        decide (c ≠ ':') && decide (0x20 < c.toNat) && Net.isPathChar c) = true := by decide
    have own := List.all_eq_true.mp plain c member
    simpa [and_assoc] using own

/-- The request for the invitation of a token. -/
def visitOf (request : Request) (token : String) : Request :=
  { request with path := acceptancePath token }

/-- Over all tokens, the path of a visit is never told, always the same, or shows the token. -/
theorem shownPath_visitOf_cases (request : Request) :
    (∃ failure, ∀ token, (visitOf request token).shownPath = .error failure) ∨
      (∃ path, ∀ token, (visitOf request token).shownPath = .ok path) ∨
      request.ShowsAfter tokenPlace :=
  request.shownPath_cases isPlace_tokenPlace

/-! ## Events that tell a path -/

/-- The names of fields that tell a path. -/
def pathNames : List String := ["path", "request_path"]

/-- An event less the fields that tell a path. -/
def withoutPath (noted : Noted) : Noted :=
  { noted with event := { noted.event with
      fields := noted.event.fields.filter fun field => !pathNames.contains field.1 } }

/-- Two events that tell their paths in a field of one name, and are alike otherwise. -/
structure TellPaths (first second : String) (one two : Noted) : Prop where
  alike : withoutPath one = withoutPath two
  same : first = second → one = two
  told : ∃ name ∈ pathNames, Carries one.event.fields name (.str first) ∧
    Carries two.event.fields name (.str second)

/-- Scrubbing and layout leave the fields that tell a path. -/
theorem isPlainName_of_mem_pathNames {name : String} (listed : name ∈ pathNames) :
    IsPlainName ScrubRules.defaults name := by
  have plain : ∀ name ∈ pathNames, isVisible name = true ∧
      ScrubRules.defaults.isSensitive name = false ∧ ScrubRules.defaults.isHashed name = false ∧
      scrubbedMark ≠ name ∧ requestField ≠ name ∧ "exc_info" ≠ name := by decide +kernel
  obtain ⟨visible, notSecret, legible, unmarked, unbound, untraced⟩ := plain name listed
  exact ⟨⟨visible, notSecret, legible, unmarked⟩, unbound, untraced⟩

section Events

variable (first second : String) (id : Option String)

/-- The ends of two requests tell their paths, if their methods and times are the same. -/
theorem tellPaths_completed (request : Request) (one two : String) (response : Response) :
    TellPaths first second ⟨id, completedEvent { request with path := one } first response⟩
      ⟨id, completedEvent { request with path := two } second response⟩ where
  alike := rfl
  same path := by
    rw [path]
    rfl
  told := ⟨"path", List.mem_cons_self .., by simp [Carries, completedEvent],
    by simp [Carries, completedEvent]⟩

/-- The answers to a problem tell their paths. -/
theorem tellPaths_problem (problem : Problem) :
    TellPaths first second ⟨id, problemEvent problem first⟩ ⟨id, problemEvent problem second⟩ where
  alike := rfl
  same path := by rw [path]
  told := ⟨"request_path", by decide, by simp [Carries, problemEvent],
    by simp [Carries, problemEvent]⟩

/-- The reports of a failure tell their paths. -/
theorem tellPaths_fault (failure : Failure) (method : String) (known : Option String) :
    TellPaths first second ⟨id, faultEvent failure method first known⟩
      ⟨id, faultEvent failure method second known⟩ where
  alike := rfl
  same path := by rw [path]
  told := ⟨"request_path", by decide, by simp [Carries, faultEvent],
    by simp [Carries, faultEvent]⟩

end Events

/-! ## Records as they are written -/

/-- The records of events at an instant, as the handler writes those that it hears. -/
def written (level : String) (now : Int) (events : List Noted) :
    List (Except Failure (List (String × Json))) :=
  (recordsOf level now events).map fun entry => entry.2.handled entry.1

/-- An event is heard at a level. -/
def IsHeard (level : String) (noted : Noted) : Prop :=
  (thresholdOf level).rank ≤ noted.event.severity.rank

section Written

variable {level : String} {now : Int} {noted : Noted} {rest : List Noted}

/-- The records of two runs of events are those of the first and then those of the second. -/
theorem written_append (level : String) (now : Int) (earlier later : List Noted) :
    written level now (earlier ++ later) =
      written level now earlier ++ written level now later := by
  simp only [written, recordsOf, List.filter_append, List.map_append]

/-- An event that is heard has the first record. -/
theorem written_cons_of_heard (heard : IsHeard level noted) :
    written level now (noted :: rest) =
      (Record.ofEvent now noted.event).handled noted.request :: written level now rest := by
  have kept : decide ((thresholdOf level).rank ≤ noted.event.severity.rank) = true :=
    decide_eq_true heard
  rw [written, recordsOf, List.filter_cons, if_pos kept]
  rfl

/-- An event that is not heard has no record. -/
theorem written_cons_of_not_heard (unheard : ¬IsHeard level noted) :
    written level now (noted :: rest) = written level now rest := by
  have dropped : ¬decide ((thresholdOf level).rank ≤ noted.event.severity.rank) = true :=
    mt of_decide_eq_true unheard
  rw [written, recordsOf, List.filter_cons, if_neg dropped]
  rfl

end Written

section Telling

variable {level : String} {now : Int} {first second : String} {ones twos : List Noted}

/-- Events alike in all but their paths are heard alike. -/
theorem TellPaths.isHeard_iff {one two : Noted} (tell : TellPaths first second one two) :
    IsHeard level one ↔ IsHeard level two := by
  have same : one.event.severity = two.event.severity :=
    congrArg (fun noted => noted.event.severity) tell.alike
  rw [IsHeard, IsHeard, same]

/-- Where one event is heard and its time has a text, the records tell the paths apart. -/
theorem paths_eq_of_written_eq (tell : List.Forall₂ (TellPaths first second) ones twos)
    {time : String} (timely : Time.logText now = .ok time)
    (heard : ∃ noted ∈ ones, IsHeard level noted)
    (same : written level now ones = written level now twos) : first = second := by
  induction tell with
  | nil =>
    obtain ⟨_, none, _⟩ := heard
    cases none
  | @cons one two ones twos tells _ ih =>
    by_cases own : IsHeard level one
    · rw [written_cons_of_heard own, written_cons_of_heard (tells.isHeard_iff.mp own)] at same
      obtain ⟨name, listed, firstCarried, secondCarried⟩ := tells.told
      have plain := isPlainName_of_mem_pathNames listed
      obtain ⟨members, made⟩ : ∃ members,
          (Record.ofEvent now one.event).handled one.request = .ok members :=
        Record.exists_handled_of_ok timely
      have also : (Record.ofEvent now two.event).handled two.request = .ok members :=
        (List.cons.inj same).1 ▸ made
      have one' : members.lookup name = some (.str first) :=
        (Record.carries_handled plain firstCarried made).lookup_eq
      have two' : members.lookup name = some (.str second) :=
        (Record.carries_handled plain secondCarried also).lookup_eq
      exact Json.str.inj (Option.some.inj (one'.symm.trans two'))
    · rw [written_cons_of_not_heard own,
        written_cons_of_not_heard (mt tells.isHeard_iff.mpr own)] at same
      obtain ⟨noted, member, loud⟩ := heard
      refine ih ⟨noted, (List.mem_cons.mp member).resolve_left fun same => ?_, loud⟩ same
      exact own (same ▸ loud)

/-- Events that are not heard are not written. -/
theorem written_eq_of_not_heard (tell : List.Forall₂ (TellPaths first second) ones twos)
    (unheard : ∀ noted ∈ ones, ¬IsHeard level noted) :
    written level now ones = written level now twos := by
  induction tell with
  | nil => rfl
  | cons tells _ ih =>
    obtain ⟨own, others⟩ := List.forall_mem_cons.mp unheard
    rw [written_cons_of_not_heard own, written_cons_of_not_heard (mt tells.isHeard_iff.mpr own),
      ih others]

/-- At a time without a text, all that is heard fails alike. -/
theorem written_eq_of_untimely (tell : List.Forall₂ (TellPaths first second) ones twos)
    {error : Time.TimeError} (untold : Time.logText now = .error error) :
    written level now ones = written level now twos := by
  have fails (noted : Noted) :
      (Record.ofEvent now noted.event).handled noted.request = .error error.failure :=
    Record.handled_of_error untold
  induction tell with
  | nil => rfl
  | @cons one two _ _ tells _ ih =>
    by_cases own : IsHeard level one
    · rw [written_cons_of_heard own, written_cons_of_heard (tells.isHeard_iff.mp own), fails one,
        fails two, ih]
    · rw [written_cons_of_not_heard own,
        written_cons_of_not_heard (mt tells.isHeard_iff.mpr own), ih]

end Telling

/-! ## Visits -/

/-- The severity under which the end of an exchange is reported, at the loudest. -/
def endingSeverity (exchange : Exchange) : Severity :=
  if exchange.raised.isSome || decide (500 ≤ exchange.response.status) then .error
  else if 400 ≤ exchange.response.status then .warning
  else .info

/-- Two exchanges are alike: same responses and failures, and the same events up to some that end
them and tell the path, the loudest of which has the severity of the ending. -/
structure AlikeButPaths (first second : String) (one two : Exchange) : Prop where
  response : one.response = two.response
  raised : one.raised = two.raised
  events : ∃ common ones twos, one.events = common ++ ones ∧ two.events = common ++ twos ∧
    List.Forall₂ (TellPaths first second) ones twos ∧
    ∀ least : Int, (∃ noted ∈ ones, least ≤ noted.event.severity.rank) ↔
      least ≤ (endingSeverity one).rank

section Visits

variable {σ : Type} [Backend σ] (service : Service) (request : Request) (now : Int) (id : String)
  (node : Node σ) {one two first second : String}

/-- A request with a response tells its path when it is completed, after what was told before. -/
theorem concluded_alike (one two : String) (response : Response) (common : List Event)
    {ones twos : List Event}
    (tell : List.Forall₂ (TellPaths first second) (notedFor id ones) (notedFor id twos))
    (loudest : ∀ least : Int, ((∃ event ∈ ones, least ≤ event.severity.rank) ∨
        least ≤ Severity.info.rank) ↔
      least ≤ (endingSeverity (service.concluded request id first response common)).rank) :
    AlikeButPaths first second
      (service.concluded { request with path := one } id first response (common ++ ones))
      (service.concluded { request with path := two } id second response (common ++ twos)) where
  response := rfl
  raised := rfl
  events := by
    have regrouped (path shown : String) (others : List Event) :
        (service.concluded { request with path } id shown response (common ++ others)).events =
          notedFor id common ++ (notedFor id others ++
            [⟨some id, completedEvent { request with path } shown response⟩]) := by
      rw [concluded, notedFor, List.map_append, List.append_assoc]
      rfl
    refine ⟨_, _, _, regrouped one first ones, regrouped two second twos,
      List.rel_append tell (.cons (tellPaths_completed _ _ _ request one two response) .nil),
      fun least => Iff.trans ?_ (loudest least)⟩
    simp only [notedFor, List.mem_append, List.mem_map, List.mem_singleton, or_and_right,
      exists_or, exists_eq_left, exists_exists_and_eq_and]
    exact Iff.rfl

/-- A response made of JSON has its status. -/
theorem status_of_ofJson {status : Nat} {value : Json} {headers : List (String × String)}
    {response : Response} (made : Response.ofJson status value headers = .ok response) :
    response.status = status := by
  unfold Response.ofJson at made
  split at made
  · exact Except.ok.inj made ▸ rfl
  · cases made

/-- An answered problem is reported as severely as its exchange ends, at least as a warning. -/
theorem severity_problemEvent {problem : Problem} {response : Response}
    (told : problemResponse problem (some id) = .ok response) (path : String)
    (events : List Noted) :
    (problemEvent problem path).severity = endingSeverity ⟨response, none, events⟩ ∧
      Severity.info.rank ≤ (problemEvent problem path).severity.rank := by
  have status : response.status = problem.kind.status := status_of_ofJson told
  show (if 500 ≤ problem.kind.status then Severity.error else .warning) =
      (if false || decide (500 ≤ response.status) then Severity.error
        else if 400 ≤ response.status then .warning else .info) ∧
    Severity.info.rank ≤ (if 500 ≤ problem.kind.status then Severity.error else .warning).rank
  rw [status]
  cases problem.kind <;> decide

section Told

variable (toldOne : { request with path := one }.shownPath = .ok first)
  (toldTwo : { request with path := two }.shownPath = .ok second)
include toldOne toldTwo

/-- A request that was not answered tells its path in one event, after those before it. -/
theorem failed_alike (known : Option String) (failure : Failure) (common : List Noted)
    {ones twos : List Noted} (tell : List.Forall₂ (TellPaths first second) ones twos)
    (quieter : ∀ noted ∈ ones, noted.event.severity.rank ≤ Severity.error.rank) :
    AlikeButPaths first second
      (service.failed { request with path := one } known failure (common ++ ones))
      (service.failed { request with path := two } known failure (common ++ twos)) := by
  rw [service.failed_of_told _ toldOne, service.failed_of_told _ toldTwo]
  refine ⟨rfl, rfl, common, _, _, List.append_assoc .., List.append_assoc ..,
    List.rel_append tell (.cons (tellPaths_fault _ _ none failure request.method known) .nil),
    fun least => ⟨?_, fun low => ?_⟩⟩
  · rintro ⟨noted, member, low⟩
    rcases List.mem_append.mp member with before | own
    · exact low.trans (quieter noted before)
    · obtain rfl := List.mem_singleton.mp own
      exact low
  · exact ⟨_, List.mem_append_right _ (List.mem_singleton_self _), low⟩

/-- Where the route ends in a fault, the requests are not answered, and end alike. -/
theorem exchangeAs_alike_of_fault {fault : Fault} {events : List Event} {left : Node σ}
    (routedOne : service.route now { request with path := one } node =
      ⟨.error (.fault fault), events, left⟩)
    (routedTwo : service.route now { request with path := two } node =
      ⟨.error (.fault fault), events, left⟩) :
    AlikeButPaths first second
        (service.exchangeAs now id { request with path := one } node).1
        (service.exchangeAs now id { request with path := two } node).1 ∧
      (service.exchangeAs now id { request with path := one } node).2 =
        (service.exchangeAs now id { request with path := two } node).2 := by
  have fails (path : String) (routed : service.route now { request with path } node =
      ⟨.error (.fault fault), events, left⟩) :
      service.exchangeAs now id { request with path } node =
        (service.failed { request with path } (some id) (passedOn (.fault fault))
          (notedFor id events), left) := by
    refine service.exchangeAs_of_failure _ now id node ?_
    rw [answer_of_not_problem _ _ _ _ _ (by simp [routed]), routed]
  rw [fails _ routedOne, fails _ routedTwo]
  refine ⟨?_, rfl⟩
  have none : List.Forall₂ (TellPaths first second) [] [] := .nil
  have alike := service.failed_alike request toldOne toldTwo (some id)
    (passedOn (.fault fault)) (notedFor id events) none (fun _ member => nomatch member)
  rwa [List.append_nil] at alike

/-- Where the route ends in a problem, it is reported, and answered unless its details cannot be
written. -/
theorem exchangeAs_alike_of_problem {problem : Problem} {events : List Event} {left : Node σ}
    (routedOne : service.route now { request with path := one } node =
      ⟨.error (.problem problem), events, left⟩)
    (routedTwo : service.route now { request with path := two } node =
      ⟨.error (.problem problem), events, left⟩) :
    AlikeButPaths first second
        (service.exchangeAs now id { request with path := one } node).1
        (service.exchangeAs now id { request with path := two } node).1 ∧
      (service.exchangeAs now id { request with path := one } node).2 =
        (service.exchangeAs now id { request with path := two } node).2 := by
  have reported : List.Forall₂ (TellPaths first second)
      (notedFor id [problemEvent problem first]) (notedFor id [problemEvent problem second]) :=
    .cons (tellPaths_problem first second (some id) problem) .nil
  have answers (path shown : String) (told : { request with path }.shownPath = .ok shown)
      (routed : service.route now { request with path } node =
        ⟨.error (.problem problem), events, left⟩) :
      service.answer now id { request with path } node =
        ⟨problemResponse problem (some id), events ++ [problemEvent problem shown], left⟩ := by
    rw [answer_of_problem _ _ _ _ _ told (congrArg Step.outcome routed), routed]
  cases written : problemResponse problem (some id) with
  | error failure =>
    rw [written] at answers
    rw [service.exchangeAs_of_failure _ now id node (answers _ _ toldOne routedOne),
      service.exchangeAs_of_failure _ now id node (answers _ _ toldTwo routedTwo)]
    refine ⟨?_, rfl⟩
    rw [notedFor, notedFor, List.map_append, List.map_append]
    refine service.failed_alike request toldOne toldTwo (some id) _ _ reported
      fun noted member => ?_
    obtain rfl := List.mem_singleton.mp member
    show (ite _ _ _ : Severity).rank ≤ _
    split <;> decide
  | ok response =>
    rw [written] at answers
    rw [service.exchangeAs_of_answer _ now id node toldOne (answers _ _ toldOne routedOne),
      service.exchangeAs_of_answer _ now id node toldTwo (answers _ _ toldTwo routedTwo)]
    refine ⟨service.concluded_alike request id one two response events reported
      fun least => ?_, rfl⟩
    obtain ⟨severity, loud⟩ := severity_problemEvent id written first
      (service.concluded request id first response events).events
    have ending : endingSeverity (service.concluded request id first response events) =
        (problemEvent problem first).severity := severity.symm
    simp only [List.mem_singleton, exists_eq_left, ending]
    omega

/-- Where the route ends in a response that welcomes the caller, the response ends the request. -/
theorem exchangeAs_alike_of_response {response : Response} {events : List Event} {left : Node σ}
    (welcome : response.status < 400)
    (routedOne : service.route now { request with path := one } node =
      ⟨.ok response, events, left⟩)
    (routedTwo : service.route now { request with path := two } node =
      ⟨.ok response, events, left⟩) :
    AlikeButPaths first second
        (service.exchangeAs now id { request with path := one } node).1
        (service.exchangeAs now id { request with path := two } node).1 ∧
      (service.exchangeAs now id { request with path := one } node).2 =
        (service.exchangeAs now id { request with path := two } node).2 := by
  have answers (path : String) (routed : service.route now { request with path } node =
      ⟨.ok response, events, left⟩) :
      service.answer now id { request with path } node = ⟨.ok response, events, left⟩ := by
    rw [answer_of_not_problem _ _ _ _ _ (by simp [routed]), routed]
  rw [service.exchangeAs_of_answer _ now id node toldOne (answers _ routedOne),
    service.exchangeAs_of_answer _ now id node toldTwo (answers _ routedTwo)]
  refine ⟨?_, rfl⟩
  have plain : endingSeverity (service.concluded request id first response events) = .info := by
    show (if false || decide (500 ≤ response.status) then Severity.error
      else if 400 ≤ response.status then .warning else .info) = .info
    rw [decide_eq_false (by omega), if_neg (by decide), if_neg (by omega)]
  have none : List.Forall₂ (TellPaths first second) (notedFor id []) (notedFor id []) := .nil
  have alike := service.concluded_alike request id one two response events none
    fun least => by simp [plain]
  rwa [List.append_nil] at alike

/-- A request whose route does not look at the path is handled alike on two paths that are told. -/
theorem exchangeAs_alike
    (unseen : service.route now { request with path := one } node =
      service.route now { request with path := two } node)
    (welcome : ∀ response, (service.route now { request with path := one } node).outcome =
      .ok response → response.status < 400) :
    AlikeButPaths first second
        (service.exchangeAs now id { request with path := one } node).1
        (service.exchangeAs now id { request with path := two } node).1 ∧
      (service.exchangeAs now id { request with path := one } node).2 =
        (service.exchangeAs now id { request with path := two } node).2 := by
  generalize routedOne : service.route now { request with path := one } node = step
    at unseen welcome
  have routedTwo := unseen.symm
  rcases step with ⟨(fault | problem) | response, events, left⟩
  · exact service.exchangeAs_alike_of_fault request now id node toldOne toldTwo routedOne routedTwo
  · exact service.exchangeAs_alike_of_problem request now id node toldOne toldTwo routedOne
      routedTwo
  · exact service.exchangeAs_alike_of_response request now id node toldOne toldTwo
      (welcome response rfl) routedOne routedTwo

end Told

/-- A visit is routed without a look at its token. -/
theorem route_visitOf (method : request.method = "GET" ∨ request.method = "POST") {token : String}
    (filled : token ≠ "") (simple : '/' ∉ token.toList) :
    service.route now (visitOf request token) node = service.visitInvitation now request node := by
  obtain ⟨opens, accepts⟩ := dispatch_acceptance filled simple
  have taken : ∃ endpoint, dispatch request.method (acceptancePath token) =
      .taken endpoint [token] ∧ (endpoint = .openInvitation ∨ endpoint = .acceptInvitation) := by
    rcases method with get | post
    · exact ⟨_, get ▸ opens, .inl rfl⟩
    · exact ⟨_, post ▸ accepts, .inr rfl⟩
  obtain ⟨endpoint, taken, kind⟩ := taken
  unfold route visitOf
  simp only [taken]
  rcases kind with rfl | rfl <;> rfl

/-- A visit that is accepted has status 200. -/
theorem status_of_visitInvitation {response : Response}
    (accepted : (service.visitInvitation now request node).outcome = .ok response) :
    response.status = 200 := by
  obtain ⟨headers, _, answered⟩ := Action.bind_outcome_eq_ok.mp accepted
  obtain ⟨body, made, finished⟩ := Action.bind_outcome_eq_ok.mp answered
  simp only [respond, Action.ofExcept_apply] at made
  obtain rfl := Except.ok.inj finished
  have status : body.status = 200 := status_of_ofJson made
  exact status

section Visitors

variable {one two : String} (method : request.method = "GET" ∨ request.method = "POST")
  (filled : one ≠ "") (simple : '/' ∉ one.toList) (filledToo : two ≠ "")
  (simpleToo : '/' ∉ two.toList)
include method filled simple filledToo simpleToo

/-- Visits for two tokens are routed alike. -/
theorem route_visitOf_eq : service.route now (visitOf request one) node =
    service.route now (visitOf request two) node :=
  (service.route_visitOf request now node method filled simple).trans
    (service.route_visitOf request now node method filledToo simpleToo).symm

/-- Visits whose paths are told lead to exchanges that differ in the paths. -/
theorem exchange_visitOf_alike (toldOne : (visitOf request one).shownPath = .ok first)
    (toldTwo : (visitOf request two).shownPath = .ok second) :
    AlikeButPaths first second (service.exchange now (visitOf request one) node).1
        (service.exchange now (visitOf request two) node).1 ∧
      (service.exchange now (visitOf request one) node).2 =
        (service.exchange now (visitOf request two) node).2 := by
  cases fault : narrowFault? (Text.lower service.requestHeader) with
  | some failure =>
    have fails (token : String) : service.exchange now (visitOf request token) node =
        (service.failed (visitOf request token) none failure ([] ++ []), node) := by
      unfold exchange
      simp only [fault, List.append_nil]
    have none : List.Forall₂ (TellPaths first second) [] [] := .nil
    rw [fails, fails]
    exact ⟨service.failed_alike request toldOne toldTwo Option.none failure [] none
      (fun _ member => nomatch member), rfl⟩
  | none =>
    have named : service.isNamed = true := Option.isNone_iff_eq_none.mpr fault
    rw [exchange_eq_exchangeAs _ named, exchange_eq_exchangeAs _ named]
    refine service.exchangeAs_alike request now _ _ toldOne toldTwo
      (service.route_visitOf_eq request now _ method filled simple filledToo simpleToo)
      fun response made => ?_
    have accepted := (congrArg Step.outcome
      (service.route_visitOf request now _ method filled simple)).symm.trans made
    have status : response.status = 200 :=
      service.status_of_visitInvitation request now _ accepted
    omega

/-- Visits whose paths cannot be told, by one failure, lead to the same exchange. -/
theorem exchange_visitOf_eq {untold : Failure}
    (fails : ∀ token, (visitOf request token).shownPath = .error untold) :
    service.exchange now (visitOf request one) node =
      service.exchange now (visitOf request two) node := by
  cases fault : narrowFault? (Text.lower service.requestHeader) with
  | some failure =>
    have bare (token : String) : service.exchange now (visitOf request token) node =
        (⟨bareResponse, some untold, []⟩, node) := by
      unfold exchange
      simp only [fault]
      rw [service.failed_of_untold _ (fails token)]
    rw [bare, bare]
  | none =>
    have named : service.isNamed = true := Option.isNone_iff_eq_none.mpr fault
    rw [exchange_eq_exchangeAs _ named, exchange_eq_exchangeAs _ named,
      service.exchangeAs_of_untold _ now _ _ (fails one),
      service.exchangeAs_of_untold _ now _ _ (fails two)]
    have routed := service.route_visitOf_eq request now
      { node with serial := serialAfter service.requestHeader request node.serial } method filled
      simple filledToo simpleToo
    have same (token : String) :
        serialAfter service.requestHeader (visitOf request token) node.serial =
          serialAfter service.requestHeader request node.serial := rfl
    rw [same, same, routed]
    rfl

end Visitors

end Visits

namespace AlikeButPaths

variable {first second : String} {one two : Exchange}

/-- Exchanges that are alike report the same events but for their paths. -/
theorem map_withoutPath_eq (alike : AlikeButPaths first second one two) :
    one.events.map withoutPath = two.events.map withoutPath := by
  obtain ⟨common, ones, twos, oneEvents, twoEvents, tell, _⟩ := alike.events
  have apart : ones.map withoutPath = twos.map withoutPath := by
    rw [← List.forall₂_eq_eq_eq, List.forall₂_map_left_iff, List.forall₂_map_right_iff]
    exact tell.imp fun _ _ tells => tells.alike
  rw [oneEvents, twoEvents, List.map_append, List.map_append, apart]

/-- Exchanges that are alike and tell one path report the same events. -/
theorem events_eq (alike : AlikeButPaths first second one two) (same : first = second) :
    one.events = two.events := by
  obtain ⟨common, ones, twos, oneEvents, twoEvents, tell, _⟩ := alike.events
  have equal : ones = twos := by
    rw [← List.forall₂_eq_eq_eq]
    exact tell.imp fun _ _ tells => tells.same same
  rw [oneEvents, twoEvents, equal]

/-- Records are the same exactly when the paths are, the endings are not heard, or the time has no
text. -/
theorem written_eq_iff (alike : AlikeButPaths first second one two) {now : Int} {level : String} :
    written level now one.events = written level now two.events ↔
      first = second ∨ (endingSeverity one).rank < (thresholdOf level).rank ∨
        ∃ error, Time.logText now = .error error := by
  constructor
  · obtain ⟨common, ones, twos, oneEvents, twoEvents, tell, loudest⟩ := alike.events
    rw [oneEvents, twoEvents, written_append, written_append, List.append_cancel_left_eq]
    intro same
    by_cases heard : ∃ noted ∈ ones, IsHeard level noted
    · cases timely : Time.logText now with
      | error error => exact .inr (.inr ⟨error, rfl⟩)
      | ok text => exact .inl (paths_eq_of_written_eq tell timely heard same)
    · exact .inr (.inl (Int.not_le.mp (mt (loudest (thresholdOf level).rank).mpr heard)))
  · intro reason
    rcases reason with same | others
    · rw [alike.events_eq same]
    · obtain ⟨common, ones, twos, oneEvents, twoEvents, tell, loudest⟩ := alike.events
      rw [oneEvents, twoEvents, written_append, written_append, List.append_cancel_left_eq]
      rcases others with quiet | ⟨error, untold⟩
      · refine written_eq_of_not_heard tell fun noted member heard => ?_
        have loud := (loudest (thresholdOf level).rank).mp ⟨noted, member, heard⟩
        exact absurd loud (Int.not_le.mpr quiet)
      · exact written_eq_of_untimely tell untold

end AlikeButPaths

/-- Visits for two tokens, from one state, are answered alike, leave the same behind, and report the
same events but for the fields that tell the path of the address. The records of them that a level
hears, as the handler writes them, are the same exactly when the address shows the same part of both
tokens or does not show tokens, the level is above the severity of the ending, or the time has no
text. -/
theorem visits_logged_alike_exactly (service : Service) {σ : Type} [Backend σ] (node : Node σ)
    (request : Request) (method : request.method = "GET" ∨ request.method = "POST") (now : Int)
    {first second : String} (filled : first ≠ "") (simple : '/' ∉ first.toList)
    (filledToo : second ≠ "") (simpleToo : '/' ∉ second.toList) :
    let one := service.exchange now (visitOf request first) node
    let two := service.exchange now (visitOf request second) node
    one.1.response = two.1.response ∧ one.1.raised = two.1.raised ∧ one.2 = two.2 ∧
      one.1.events.map withoutPath = two.1.events.map withoutPath ∧
      ∀ level, written level now one.1.events = written level now two.1.events ↔
        (request.ShowsAfter tokenPlace → Net.pathPart first = Net.pathPart second) ∨
          (endingSeverity one.1).rank < (thresholdOf level).rank ∨
          ∃ error, Time.logText now = .error error := by
  rcases shownPath_visitOf_cases request with ⟨untold, never⟩ | ⟨path, always⟩ | ⟨front, shows⟩
  · rw [service.exchange_visitOf_eq request now node method filled simple filledToo simpleToo never]
    refine ⟨rfl, rfl, rfl, rfl, fun level => iff_of_true rfl (.inl ?_)⟩
    rintro ⟨front, shows⟩
    exact nomatch (never "").symm.trans (shows "")
  · obtain ⟨alike, left⟩ := service.exchange_visitOf_alike request now node method filled simple
      filledToo simpleToo (always first) (always second)
    generalize service.exchange now (visitOf request first) node = one at alike left ⊢
    generalize service.exchange now (visitOf request second) node = two at alike left ⊢
    refine ⟨alike.response, alike.raised, left, alike.map_withoutPath_eq, fun level =>
      iff_of_true (alike.written_eq_iff.mpr (.inl rfl)) (.inl ?_)⟩
    rintro ⟨front, shows⟩
    have paths := ((shows first).symm.trans (always first)).trans
      ((always second).symm.trans (shows second))
    exact (String.append_right_inj front).mp (Except.ok.inj paths)
  · obtain ⟨alike, left⟩ := service.exchange_visitOf_alike request now node method filled simple
      filledToo simpleToo (shows first) (shows second)
    generalize service.exchange now (visitOf request first) node = one at alike left ⊢
    generalize service.exchange now (visitOf request second) node = two at alike left ⊢
    refine ⟨alike.response, alike.raised, left, alike.map_withoutPath_eq, fun level => ?_⟩
    rw [alike.written_eq_iff, String.append_right_inj]
    exact or_congr_left ⟨fun same _ => same, fun same => same ⟨front, shows⟩⟩

/-- The exchange of a visit for a token, as the first on an empty store. -/
def firstVisit (token : String) : Exchange :=
  (strict.exchange 0 (visitOf { path := "" } token)
    ⟨Limiter.vacantStore .locked (.whole 0), 1⟩).1

/-- The start of the epoch has a text. -/
theorem logText_zero : ∃ text, Time.logText 0 = .ok text :=
  Time.logText_of_calendar (by decide) (by decide)

/-- Two visits are answered alike; their records are the same at a level above that of their
endings, or where the tokens part after a question mark only. -/
theorem visits_told_alike :
    (firstVisit "alpha").response = (firstVisit "beta").response ∧
      written "ERROR" 0 (firstVisit "alpha").events = written "ERROR" 0 (firstVisit "beta").events ∧
      written "INFO" 0 (firstVisit "a?1").events = written "INFO" 0 (firstVisit "a?2").events := by
  obtain ⟨response, _, _, _, told⟩ := visits_logged_alike_exactly strict
    ⟨Limiter.vacantStore .locked (.whole 0), 1⟩ { path := "" } (.inl rfl) 0
    (show "alpha" ≠ "" by decide) (by decide) (show "beta" ≠ "" by decide) (by decide)
  obtain ⟨_, _, _, _, cut⟩ := visits_logged_alike_exactly strict
    ⟨Limiter.vacantStore .locked (.whole 0), 1⟩ { path := "" } (.inl rfl) 0
    (show "a?1" ≠ "" by decide) (by decide) (show "a?2" ≠ "" by decide) (by decide)
  have shown : Net.pathPart "a?1" = Net.pathPart "a?2" := congrArg String.ofList (by decide)
  exact ⟨response, (told "ERROR").mpr (.inr (.inl (by decide +kernel))),
    (cut "INFO").mpr (.inl fun _ => shown)⟩

/-- A visit to the own host shows its token. -/
theorem showsAfter_tokenPlace : ({ path := "" } : Request).ShowsAfter tokenPlace :=
  Request.showsAfter_of_ordinary ownHost rfl (List.all_eq_true.mp (by decide)) rfl
    isPlace_tokenPlace rfl

/-- The records of visits for two tokens differ. -/
theorem visits_told_apart :
    ("alpha" ≠ "" ∧ '/' ∉ "alpha".toList) ∧ ("beta" ≠ "" ∧ '/' ∉ "beta".toList) ∧
      written "INFO" 0 (firstVisit "alpha").events ≠
        written "INFO" 0 (firstVisit "beta").events := by
  refine ⟨by decide, by decide, fun same => ?_⟩
  obtain ⟨front, shows⟩ := showsAfter_tokenPlace
  obtain ⟨alike, _⟩ := strict.exchange_visitOf_alike { path := "" } 0
    ⟨Limiter.vacantStore .locked (.whole 0), 1⟩ (.inl rfl) (show "alpha" ≠ "" by decide)
    (by decide) (show "beta" ≠ "" by decide) (by decide) (shows "alpha") (shows "beta")
  rcases alike.written_eq_iff.mp same with shown | quiet | ⟨error, untold⟩
  · rw [String.append_right_inj] at shown
    exact absurd (String.ofList_inj.mp shown) (by decide)
  · revert quiet
    decide +kernel
  · obtain ⟨text, told⟩ := logText_zero
    exact nomatch told.symm.trans untold

end Turnstile.Service
