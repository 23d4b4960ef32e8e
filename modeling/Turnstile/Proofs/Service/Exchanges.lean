import Turnstile.Proofs.Http.Address
import Turnstile.Proofs.Service.Endpoints
import Turnstile.Service.Exchange

/-!
# Exchanges in turn

An exchange passes the status of its answer on: 429 exactly when the book denies a charge of its
request, and 500 where nothing else answers. A request whose path cannot be told is answered by the
server alone, with status 500 and after its work is done. The store keeps the book from one exchange
to the next, over any run of requests.
-/

namespace Turnstile.Service

open Http Quota Store Time

/-! ## One exchange -/

/-- The service can write the name of the header that identifies requests. -/
def isNamed (service : Service) : Bool :=
  (narrowFault? (Text.lower service.requestHeader)).isNone

/-- What an outcome is answered with: a problem is told, a fault is passed on. -/
def answered (id : String) : Except Failure Response → Except Failure Response
  | .ok response => .ok response
  | .error (.problem found) => problemResponse found (some id)
  | .error (.fault raised) => .error (.fault raised)

/-- The status of an exchange with an answer; a failure has status 500. -/
def statusOf : Except Failure Response → Nat
  | .ok response => response.status
  | .error _ => 500

/-- An answer that avoids a status keeps avoiding it. -/
theorem statusOf_answered_ne {status : Nat} (other : 500 ≠ status) (id : String)
    {outcome : Except Failure Response} (avoids : Avoids status outcome) :
    statusOf (answered id outcome) ≠ status := by
  rcases outcome with (raised | problem) | response
  · exact other
  · show statusOf (problemResponse problem (some id)) ≠ status
    unfold problemResponse Response.ofJson
    split
    · exact avoids.2 problem rfl
    · exact other
  · exact avoids.1 response rfl

/-- A denial is answered with status 429. -/
theorem statusOf_answered_of_denies (id : String) {outcome : Except Failure Response}
    (denies : Denies outcome) : statusOf (answered id outcome) = 429 := by
  obtain ⟨_, rfl, admission, wait, headers, rfl⟩ := denies
  rfl

section Answering

variable {σ : Type} [Backend σ] (service : Service) (request : Request) (now : Int) (id : String)
  (node : Node σ)

/-- A response of the route is the answer, and so is a fault. -/
theorem answer_of_not_problem
    (told : ∀ problem, (service.route now request node).outcome ≠ .error (.problem problem)) :
    service.answer now id request node = service.route now request node := by
  have tried : ((service.route now request).attempt node).outcome =
      .ok (service.route now request node).outcome := rfl
  unfold answer
  rw [Action.bind_apply_ok tried]
  revert told
  unfold Action.attempt
  rcases service.route now request node with ⟨(raised | problem) | response, events, left⟩
  · exact fun _ => by simp only [Action.fail, List.append_nil]
  · exact fun told => absurd rfl (told problem)
  · exact fun _ => by simp only [Action.pure_apply, List.append_nil]

/-- A problem of the route is reported with the path, and answered. -/
theorem answer_of_problem {problem : Problem} {path : String}
    (told : request.shownPath = .ok path)
    (raised : (service.route now request node).outcome = .error (.problem problem)) :
    service.answer now id request node =
      ⟨problemResponse problem (some id),
        (service.route now request node).events ++ [problemEvent problem path],
        (service.route now request node).state⟩ := by
  have tried : ((service.route now request).attempt node).outcome =
      .ok (.error (.problem problem)) := congrArg Except.ok raised
  unfold answer
  rw [Action.bind_apply_ok tried]
  simp only [told, Action.ofExcept_ok_bind, Action.report_bind_apply, Action.ofExcept_apply]
  rfl

/-- A problem of the route is not reported where the path cannot be told. -/
theorem answer_of_untold {problem : Problem} {untold : Failure}
    (fails : request.shownPath = .error untold)
    (raised : (service.route now request node).outcome = .error (.problem problem)) :
    service.answer now id request node =
      ⟨.error untold, (service.route now request node).events,
        (service.route now request node).state⟩ := by
  have tried : ((service.route now request).attempt node).outcome =
      .ok (.error (.problem problem)) := congrArg Except.ok raised
  unfold answer
  rw [Action.bind_apply_ok tried]
  simp only [fails, Action.ofExcept_error_bind]
  exact congrArg (Step.mk _ · _) (List.append_nil _)

/-- A request is answered by its route, if its path is told. -/
theorem answer_outcome (addressed : request.isAddressed = true) :
    (service.answer now id request node).outcome =
      answered id (service.route now request node).outcome := by
  obtain ⟨path, told⟩ := Request.isAddressed_iff.mp addressed
  by_cases problems :
    ∃ problem, (service.route now request node).outcome = .error (.problem problem)
  · obtain ⟨problem, raised⟩ := problems
    rw [service.answer_of_problem request now id node told raised, raised]
    rfl
  · rw [service.answer_of_not_problem request now id node (not_exists.mp problems)]
    revert problems
    rcases (service.route now request node).outcome with (raised | problem) | response
    · exact fun _ => rfl
    · exact fun problems => absurd ⟨problem, rfl⟩ problems
    · exact fun _ => rfl

/-- What an answer leaves is decided by the route. -/
theorem answer_state :
    (service.answer now id request node).state = (service.route now request node).state := by
  by_cases problems :
    ∃ problem, (service.route now request node).outcome = .error (.problem problem)
  · obtain ⟨problem, raised⟩ := problems
    cases told : request.shownPath with
    | ok path => rw [service.answer_of_problem request now id node told raised]
    | error untold => rw [service.answer_of_untold request now id node told raised]
  · rw [service.answer_of_not_problem request now id node (not_exists.mp problems)]

/-- Events reported while a request is at hand. -/
def notedFor (id : String) (events : List Log.Event) : List Noted :=
  events.map fun event => ⟨some id, event⟩

/-- The exchange of a request with a response: the response is signed and the end reported with the
path. -/
def concluded (path : String) (response : Response) (events : List Log.Event) : Exchange where
  response := signed service.requestHeader id request response
  events := notedFor id events ++ [⟨some id, completedEvent request path response⟩]

/-- The failure that is passed on: an interruption leaves no response. -/
def passedOn (failure : Failure) : Failure := if failure.isInterruption then noResponse else failure

/-- A request with a response is concluded. -/
theorem exchangeAs_of_answer {path : String} (told : request.shownPath = .ok path)
    {response : Response} {events : List Log.Event} {left : Node σ}
    (answers : service.answer now id request node = ⟨.ok response, events, left⟩) :
    service.exchangeAs now id request node =
      (service.concluded request id path response events, left) := by
  unfold exchangeAs
  rw [answers]
  simp only [told]
  rfl

/-- A request without an answer is answered for, and its failure passed on. -/
theorem exchangeAs_of_failure {failure : Failure} {events : List Log.Event} {left : Node σ}
    (fails : service.answer now id request node = ⟨.error failure, events, left⟩) :
    service.exchangeAs now id request node =
      (service.failed request (some id) (passedOn failure) (notedFor id events), left) := by
  unfold exchangeAs
  rw [fails]
  rfl

/-- A failure is reported with the path, and answered. -/
theorem failed_of_told {path : String} (told : request.shownPath = .ok path)
    (known : Option String) (failure : Failure) (before : List Noted) :
    service.failed request known failure before =
      ⟨faultResponse known service.requestHeader, some failure,
        before ++ [⟨none, faultEvent failure request.method path known⟩]⟩ := by
  rw [failed, told]

/-- A failure that cannot be reported with the path leaves the answer to the server. -/
theorem failed_of_untold {untold : Failure} (fails : request.shownPath = .error untold)
    (known : Option String) (failure : Failure) (before : List Noted) :
    service.failed request known failure before = ⟨bareResponse, some untold, before⟩ := by
  rw [failed, fails]

/-- A request whose path cannot be told is answered by the server, after the work of its route. -/
theorem exchangeAs_of_untold {untold : Failure} (fails : request.shownPath = .error untold) :
    service.exchangeAs now id request node =
      (⟨bareResponse, some untold, notedFor id (service.route now request node).events⟩,
        (service.route now request node).state) := by
  have events : (service.answer now id request node).events =
      (service.route now request node).events := by
    by_cases problems :
        ∃ problem, (service.route now request node).outcome = .error (.problem problem)
    · obtain ⟨problem, raised⟩ := problems
      rw [service.answer_of_untold request now id node fails raised]
    · rw [service.answer_of_not_problem request now id node (not_exists.mp problems)]
  rw [← events, ← service.answer_state request now id node]
  unfold exchangeAs
  generalize service.answer now id request node = step
  rcases step with ⟨failure | response, _, _⟩ <;>
    simp only [service.failed_of_untold request fails, fails] <;> rfl

/-- An exchange leaves the node as its route does. -/
theorem exchangeAs_state :
    (service.exchangeAs now id request node).2 = (service.route now request node).state := by
  rw [← service.answer_state request now id node]
  unfold exchangeAs
  generalize service.answer now id request node = step
  rcases step with ⟨failure | response, _, _⟩
  · rfl
  · cases request.shownPath <;> rfl

/-- An exchange has the status of its answer, if the path is told. -/
theorem exchangeAs_status (addressed : request.isAddressed = true) :
    (service.exchangeAs now id request node).1.response.status =
      statusOf (answered id (service.route now request node).outcome) := by
  rw [← service.answer_outcome request now id node addressed]
  obtain ⟨path, told⟩ := Request.isAddressed_iff.mp addressed
  unfold exchangeAs
  generalize service.answer now id request node = step
  rcases step with ⟨failure | response, _, _⟩ <;> simp only [failed, told] <;> rfl

/-- An exchange has status 500, if the path is not told. -/
theorem exchangeAs_status_of_unaddressed (unaddressed : request.isAddressed = false) :
    (service.exchangeAs now id request node).1.response.status = 500 := by
  obtain ⟨untold, fails⟩ := Request.isAddressed_eq_false_iff.mp unaddressed
  rw [service.exchangeAs_of_untold request now id node fails]
  rfl

end Answering

section Identifying

variable {σ : Type} (header : String) (request : Request)

/-- The identifier that the request brings is kept. -/
def keepsOwn : Bool :=
  RequestId.isUsable ((request.headers.first? (Text.lower header)).getD "")

/-- The identifier of a request that arrives with a number at hand. -/
def identifier (serial : Nat) : String :=
  if keepsOwn header request then (request.headers.first? (Text.lower header)).getD ""
  else RequestId.generate serial

/-- The number at hand after a request is identified. -/
def serialAfter (serial : Nat) : Nat := if keepsOwn header request then serial else serial + 1

/-- A request is identified by itself or by the number at hand. -/
theorem identify_apply (node : Node σ) :
    identify header request node =
      ⟨.ok (identifier header request node.serial), [],
        { node with serial := serialAfter header request node.serial }⟩ := by
  unfold identify identifier serialAfter keepsOwn
  cases RequestId.isUsable ((request.headers.first? (Text.lower header)).getD "") <;> rfl

/-- A service that can write the header exchanges by the route of the request. -/
theorem exchange_eq_exchangeAs [Backend σ] {service : Service} (named : service.isNamed = true)
    (now : Int) (node : Node σ) :
    service.exchange now request node =
      service.exchangeAs now (identifier service.requestHeader request node.serial) request
        { node with serial := serialAfter service.requestHeader request node.serial } := by
  have plain : narrowFault? (Text.lower service.requestHeader) = none :=
    Option.isNone_iff_eq_none.mp named
  unfold exchange
  simp only [plain, identify_apply]

end Identifying

/-- A service that cannot write the header answers every request with status 500. -/
theorem exchange_of_not_isNamed {service : Service} {request : Request} {σ : Type} [Backend σ]
    (unnamed : service.isNamed = false) (now : Int) (node : Node σ) :
    (service.exchange now request node).1.response.status = 500 ∧
      (service.exchange now request node).2 = node := by
  cases fault : narrowFault? (Text.lower service.requestHeader) with
  | none =>
    rw [isNamed, fault] at unnamed
    cases unnamed
  | some failure =>
    have failed : service.exchange now request node =
        (service.failed request none failure [], node) := by
      unfold exchange
      simp only [fault]
    rw [failed]
    refine ⟨?_, rfl⟩
    unfold Service.failed
    cases request.shownPath <;> rfl

/-- Identifying a request takes a number at most. -/
theorem stands_identified (header : String) (request : Request) {policy : Policy}
    {done : List Instant} {here : Instant} {spare : Nat} {book : Book} {node : Node Local}
    (stands : Stands policy done here (spare + 1) book node) :
    Stands policy done here spare book
      { node with serial := serialAfter header request node.serial } := by
  unfold serialAfter
  split
  · exact stands.weaken (Nat.le_add_right spare 1)
  · exact stands.takeSerial

/-- A request whose path cannot be told has status 500. -/
theorem exchange_status_of_unaddressed {service : Service} {request : Request} {σ : Type}
    [Backend σ] (unaddressed : request.isAddressed = false) (now : Int) (node : Node σ) :
    (service.exchange now request node).1.response.status = 500 := by
  cases named : service.isNamed with
  | false => exact (exchange_of_not_isNamed named now node).1
  | true =>
    rw [exchange_eq_exchangeAs request named]
    exact service.exchangeAs_status_of_unaddressed request now _ _ unaddressed

/-- An exchange has no status but 500 that its route avoids. -/
theorem exchange_status_ne {service : Service} {request : Request} {now : Int} {status : Nat}
    (other : 500 ≠ status)
    (avoids : ∀ node : Node Local, Avoids status (service.route now request node).outcome)
    (node : Node Local) : (service.exchange now request node).1.response.status ≠ status := by
  cases addressed : request.isAddressed with
  | false =>
    rw [exchange_status_of_unaddressed addressed]
    exact other
  | true =>
    cases named : service.isNamed with
    | false =>
      rw [(exchange_of_not_isNamed named now node).1]
      exact other
    | true =>
      rw [exchange_eq_exchangeAs request named, service.exchangeAs_status request now _ _ addressed]
      exact statusOf_answered_ne other _ (avoids _)

section Exchanging

variable {service : Service} {request : Request} {done : List Instant} {here : Instant}
  {book : Book} {store : Local}

/-- The book after an exchange. -/
def bookAfterExchange (service : Service) (request : Request) (now : Int) (book : Book) : Book :=
  if service.isNamed then service.bookAfter request now book else book

/-- A service that can write the header exchanges by the route of the request, under some
identifier and with the store as the book has it. -/
theorem exchange_of_isNamed (named : service.isNamed = true)
    (keeps : Keeps service.policy done book store) :
    ∃ id node, Stands service.policy done here 3 book node ∧
      service.exchange here.now request (here.node store) =
        service.exchangeAs here.now id request node :=
  ⟨_, _, stands_identified service.requestHeader request (keeps.arrive here),
    exchange_eq_exchangeAs request named here.now _⟩

variable (apart : service.policy.KeepsApart) (inTurn : ∀ earlier ∈ done, earlier.Precedes here)
  (timely : here.IsTimely service.policy) (keeps : Keeps service.policy done book store)
include apart inTurn timely keeps

/-- An exchange leaves the store as the book after it. -/
theorem exchange_keeps :
    Keeps service.policy (done ++ [here]) (service.bookAfterExchange request here.now book)
      (service.exchange here.now request (here.node store)).2.store := by
  cases named : service.isNamed with
  | false =>
    rw [bookAfterExchange, named, (exchange_of_not_isNamed named here.now _).2]
    exact (keeps.arrive here).depart
  | true =>
    obtain ⟨id, node, stands, same⟩ := exchange_of_isNamed named keeps
    rw [bookAfterExchange, named, same, service.exchangeAs_state request here.now id node]
    exact (route_answered apart inTurn timely stands).stands.depart

/-- An exchange has status 429 exactly when the path is told and the book denies one of the
charges. -/
theorem exchange_status (named : service.isNamed = true) :
    (service.exchange here.now request (here.node store)).1.response.status = 429 ↔
      request.isAddressed = true ∧
        book.admitsAll service.policy here.now (service.charges request) = false := by
  obtain ⟨id, node, stands, same⟩ := exchange_of_isNamed named keeps
  have answered := @route_answered service request done here 0 book node apart inTurn timely stands
  cases addressed : request.isAddressed with
  | false =>
    rw [exchange_status_of_unaddressed addressed]
    simp
  | true =>
    rw [same, service.exchangeAs_status request here.now id node addressed]
    constructor
    · intro limited
      refine ⟨rfl, Bool.eq_false_iff.mpr fun admitted => ?_⟩
      exact statusOf_answered_ne (by decide) id (answered.admitted admitted) limited
    · rintro ⟨-, denied⟩
      exact statusOf_answered_of_denies id (answered.denied denied)

end Exchanging

/-! ## Requests in turn -/

/-- A request and the instant at which it is handled. -/
structure Arrival extends Instant where
  request : Request

/-- Requests that a store can follow: in turn, each within the calendar and with the keys written
for it outlasting their windows. -/
structure IsSteady (service : Service) (arrivals : List Arrival) : Prop where
  inTurn : arrivals.Pairwise fun first second => first.toInstant.Precedes second.toInstant
  timely : ∀ arrival ∈ arrivals, arrival.toInstant.IsTimely service.policy

/-- A request that was handled, and its response. -/
structure Served extends Arrival where
  response : Response

/-- The requests handled so far, and the store that they left. -/
structure Session where
  past : List Served
  store : Local

namespace Session

/-- Before the first request. -/
def start (store : Local) : Session := ⟨[], store⟩

/-- The exchange of a request on the store of the session. -/
def exchanged (service : Service) (session : Session) (arrival : Arrival) :
    Exchange × Node Local :=
  service.exchange arrival.now arrival.request (arrival.toInstant.node session.store)

/-- One more request. -/
def attend (service : Service) (session : Session) (arrival : Arrival) : Session :=
  ⟨session.past ++ [⟨arrival, (session.exchanged service arrival).1.response⟩],
    (session.exchanged service arrival).2.store⟩

/-- Requests in turn. -/
def run (service : Service) (session : Session) (arrivals : List Arrival) : Session :=
  arrivals.foldl (attend service) session

/-- The instants of the requests handled. -/
def done (session : Session) : List Instant := session.past.map fun served => served.toInstant

/-- The book after requests in turn. -/
def booked (service : Service) (book : Book) (arrivals : List Arrival) : Book :=
  arrivals.foldl (fun book arrival => service.bookAfterExchange arrival.request arrival.now book)
    book

/-- One more request adds its instant. -/
theorem done_attend (service : Service) (session : Session) (arrival : Arrival) :
    (session.attend service arrival).done = session.done ++ [arrival.toInstant] := by
  rw [done, attend, List.map_append]
  rfl

/-- Requests in turn may be handled in two parts. -/
theorem run_append (service : Service) (session : Session) (first second : List Arrival) :
    session.run service (first ++ second) = (session.run service first).run service second :=
  List.foldl_append ..

/-- The first request of a run is attended before the rest. -/
theorem run_cons (service : Service) (session : Session) (arrival : Arrival)
    (rest : List Arrival) :
    session.run service (arrival :: rest) = (session.attend service arrival).run service rest := rfl

/-- The first request of a run is booked before the rest. -/
theorem booked_cons (service : Service) (book : Book) (arrival : Arrival) (rest : List Arrival) :
    booked service book (arrival :: rest) =
      booked service (service.bookAfterExchange arrival.request arrival.now book) rest :=
  List.foldl_cons ..

/-- The last request of a run is attended after the rest. -/
theorem run_concat (service : Service) (session : Session) (arrivals : List Arrival)
    (arrival : Arrival) :
    session.run service (arrivals ++ [arrival]) =
      (session.run service arrivals).attend service arrival :=
  run_append ..

/-- What every request keeps of a session and a book holds after requests in turn. -/
theorem run_induction {service : Service} {motive : Session → Book → Prop}
    (arrivals : List Arrival)
    (step : ∀ session book arrival, arrival ∈ arrivals →
      (∀ earlier ∈ session.done, earlier.Precedes arrival.toInstant) → motive session book →
        motive (session.attend service arrival)
          (service.bookAfterExchange arrival.request arrival.now book))
    {session : Session} {book : Book}
    (before : ∀ earlier ∈ session.done, ∀ arrival ∈ arrivals, earlier.Precedes arrival.toInstant)
    (inTurn : arrivals.Pairwise fun first second => first.toInstant.Precedes second.toInstant)
    (holds : motive session book) :
    motive (session.run service arrivals) (booked service book arrivals) := by
  induction arrivals generalizing session book with
  | nil => exact holds
  | cons arrival rest ih =>
    obtain ⟨next, others⟩ := List.pairwise_cons.mp inTurn
    rw [run_cons, booked_cons]
    refine ih (fun session book other member => step session book other
      (List.mem_cons_of_mem _ member)) (fun earlier listed other member => ?_) others
      (step session book arrival (List.mem_cons_self ..)
        (fun earlier listed => before earlier listed arrival (List.mem_cons_self ..)) holds)
    rw [done_attend] at listed
    rcases List.mem_append.mp listed with old | own
    · exact before earlier old other (List.mem_cons_of_mem _ member)
    · obtain rfl := List.mem_singleton.mp own
      exact next other member

section Attending

variable {service : Service} {session : Session} {book : Book} {arrival : Arrival}
  (apart : service.policy.KeepsApart)
  (inTurn : ∀ earlier ∈ session.done, earlier.Precedes arrival.toInstant)
  (timely : arrival.toInstant.IsTimely service.policy)
  (keeps : Keeps service.policy session.done book session.store)
include apart inTurn timely keeps

/-- One more request leaves the store as the book after it. -/
theorem attend_keeps :
    Keeps service.policy (session.attend service arrival).done
      (service.bookAfterExchange arrival.request arrival.now book)
      (session.attend service arrival).store := by
  have kept := @exchange_keeps service arrival.request _ _ _ _ apart inTurn timely keeps
  rw [done_attend, attend, exchanged]
  exact kept

/-- A request has status 429 exactly when its path is told and the book denies one of its
charges. -/
theorem exchanged_status (named : service.isNamed = true) :
    (session.exchanged service arrival).1.response.status = 429 ↔
      arrival.request.isAddressed = true ∧
        book.admitsAll service.policy arrival.now (service.charges arrival.request) = false := by
  rw [exchanged]
  exact exchange_status apart inTurn timely keeps named

end Attending

end Session

end Turnstile.Service
