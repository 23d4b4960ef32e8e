import Turnstile.Proofs.Http.RequestId
import Turnstile.Proofs.Log.Passes
import Turnstile.Proofs.Service.Correlation

/-!
# The identifier that a request is handled under

A request that brings an accepted identifier is handled under it, any other under a generated one,
and the lines of its records name that one in either layout. It is well formed unless the request
brings a well-formed identifier with a line feed after it: then the header of the response shows the
line feed, and the plain lines break at it.
-/

namespace Turnstile.Service

open Http Log RequestId Store

/-! ## The identifier -/

/-- The identifier that a request brings, if any. -/
def broughtId? (service : Service) (request : Request) : Option String :=
  request.headers.first? (Text.lower service.requestHeader)

/-- A request is identified as a rule has it: by what it brings if that obeys the rule, and by the
number at hand if nothing does. -/
structure Identifies (rule : String → Prop) (brought : Option String) (serial : Nat) (id : String) :
    Prop where
  kept : ∀ text ∈ brought, (id = text ↔ rule text)
  generated : (∀ text ∈ brought, ¬rule text) → id = generate serial

section Identifying

variable {service : Service} {request : Request} {serial : Nat} {text : String}

/-- A request keeps the identifier that it brings exactly if that is accepted. -/
theorem keepsOwn_iff : keepsOwn service.requestHeader request = true ↔
    ∃ text ∈ broughtId? service request, IsAccepted text := by
  rw [keepsOwn, isUsable_iff]
  show IsAccepted ((broughtId? service request).getD "") ↔ _
  cases brought : broughtId? service request with
  | none =>
    have unusable : ¬IsAccepted "" := by
      rw [← isUsable_iff]
      decide
    refine ⟨fun accepted => absurd accepted unusable, ?_⟩
    rintro ⟨text, member, -⟩
    cases member
  | some text =>
    refine ⟨fun accepted => ⟨text, rfl, accepted⟩, ?_⟩
    rintro ⟨other, member, accepted⟩
    exact Option.some.inj member ▸ accepted

/-- An identifier that is accepted is kept. -/
theorem identifier_of_accepted (brought : broughtId? service request = some text)
    (accepted : IsAccepted text) : identifier service.requestHeader request serial = text := by
  rw [identifier, if_pos (keepsOwn_iff.mpr ⟨text, brought, accepted⟩)]
  exact congrArg (·.getD "") brought

/-- Where none is accepted, an identifier is generated. -/
theorem identifier_of_not_accepted
    (refused : ∀ text ∈ broughtId? service request, ¬IsAccepted text) :
    identifier service.requestHeader request serial = generate serial := by
  refine if_neg fun keeps => ?_
  obtain ⟨text, brought, accepted⟩ := keepsOwn_iff.mp keeps
  exact refused text brought accepted

/-- A request is handled under the identifier that it brings exactly if that is accepted. -/
theorem identifier_identifies : Identifies IsAccepted (broughtId? service request) serial
    (identifier service.requestHeader request serial) where
  kept text brought := by
    refine ⟨fun same => ?_, identifier_of_accepted brought⟩
    by_contra refused
    have made := @identifier_of_not_accepted service request serial fun other held =>
      Option.some.inj (brought.symm.trans held) ▸ refused
    exact refused (.inl (same ▸ made ▸ isWellFormed_generate serial))
  generated := identifier_of_not_accepted

/-- Where no line feed ends what a request brings, the accepted identifiers are the well-formed
ones. -/
theorem identifier_identifies_wellFormed
    (ends : ∀ text ∈ broughtId? service request, text.toList.getLast? ≠ some '\n') :
    Identifies IsWellFormed (broughtId? service request) serial
      (identifier service.requestHeader request serial) := by
  have same (text) (brought : text ∈ broughtId? service request) :
      IsAccepted text ↔ IsWellFormed text :=
    ⟨fun accepted => accepted.isWellFormed (ends text brought), .inl⟩
  obtain ⟨kept, generated⟩ := @identifier_identifies service request serial
  exact ⟨fun text brought => (kept text brought).trans (same text brought), fun refused =>
    generated fun text brought accepted => refused text brought ((same text brought).mp accepted)⟩

/-- An identifier is well formed, or it is brought, and a line feed stands after a well-formed
one. -/
theorem identifier_form : IsWellFormed (identifier service.requestHeader request serial) ∨
    broughtId? service request = some (identifier service.requestHeader request serial) ∧
      ∃ id, IsWellFormed id ∧ identifier service.requestHeader request serial = id ++ "\n" := by
  by_cases keeps : ∃ text ∈ broughtId? service request, IsAccepted text
  · obtain ⟨text, brought, accepted⟩ := keeps
    rw [identifier_of_accepted brought accepted]
    exact accepted.imp_right fun ended => ⟨brought, ended⟩
  · have made := @identifier_of_not_accepted service request serial fun text brought accepted =>
      keeps ⟨text, brought, accepted⟩
    exact .inl (made ▸ isWellFormed_generate serial)

end Identifying

/-! ## Plain lines -/

/-- The plain line of an event names the identifier between brackets. -/
theorem Names.plainLine {now : Int} {id : String} {noted : Noted} (names : Names now id noted)
    {time : String} (told : Time.plainText now = .ok time) :
    (Record.ofEvent now noted.event).line .plain noted.request =
      .ok (time ++ " " ++ noted.event.severity.name ++ " " ++ noted.event.logger ++ " [" ++ id ++
        "] " ++ noted.event.message) := by
  have held := Record.lookup_scrub Record.isOpenName_requestField names.attached
  obtain ⟨fields, passed⟩ := (Record.ofEvent now noted.event).exists_fields_passed noted.request
    ScrubRules.defaults
  rw [passed] at held
  have named : fields.lookup requestField = some (.str id) := held
  show Record.plainLine _ = _
  rw [passed, Record.plainLine]
  show (Except.mapError _ (Time.plainText now) >>= _) = _
  rw [told, named]
  rfl

/-! ## What is told -/

section Exchanging

variable (service : Service) {σ : Type} [Backend σ] (now : Int) (request : Request) (node : Node σ)

/-- A number that an identifier was made of is not at hand again. -/
theorem serial_lt_of_generated (named : service.isNamed = true)
    (refused : ∀ text ∈ broughtId? service request, ¬IsAccepted text) :
    node.serial < (service.exchange now request node).2.serial := by
  have taken : serialAfter service.requestHeader request node.serial = node.serial + 1 := by
    refine if_neg fun keeps => ?_
    obtain ⟨text, brought, accepted⟩ := keepsOwn_iff.mp keeps
    exact refused text brought accepted
  have conducts := @route_conducts service now request σ _
  have reached := (conducts.reaches { node with
    serial := serialAfter service.requestHeader request node.serial }).serial_le
  rw [exchange_eq_exchangeAs _ named, service.exchangeAs_state]
  exact Nat.lt_of_lt_of_le (taken ▸ Nat.lt_succ_self _) reached

/-- Every request is handled under the identifier that it brings if that is accepted, and else under
one that is generated from a number of its own. The header of the response, the error body and the
lines of all records, in either layout, tell that identifier. Unless a line feed ends what the
request brings, the accepted identifiers are the well-formed ones and what is told is well formed;
at worst it is well formed but for one line feed at its end. -/
theorem told_identifiers_wellFormed (named : service.isNamed = true)
    (reticent : ∀ call, IsReticent (Backend.answer call : Action σ Reply)) :
    let brought := broughtId? service request
    let id := identifier service.requestHeader request node.serial
    let exchanged := service.exchange now request node
    (Identifies IsAccepted brought node.serial id ∧
      ((∀ text ∈ brought, ¬IsAccepted text) → node.serial < exchanged.2.serial)) ∧
    ((∀ text ∈ brought, text.toList.getLast? ≠ some '\n') →
      Identifies IsWellFormed brought node.serial id ∧ IsWellFormed id) ∧
    (IsWellFormed id ∨ brought = some id ∧ ∃ plain, IsWellFormed plain ∧ id = plain ++ "\n") ∧
    Correlates service now request id exchanged.1 ∧
    ∀ noted ∈ exchanged.1.events, ∀ time, Time.plainText now = .ok time →
      (Record.ofEvent now noted.event).line .plain noted.request =
        .ok (time ++ " " ++ noted.event.severity.name ++ " " ++ noted.event.logger ++ " [" ++ id ++
          "] " ++ noted.event.message) := by
  intro brought id exchanged
  have form : IsWellFormed id ∨ brought = some id ∧
      ∃ plain, IsWellFormed plain ∧ id = plain ++ "\n" := identifier_form
  have correlates : Correlates service now request id exchanged.1 := by
    show Correlates service now request id (service.exchange now request node).1
    rw [exchange_eq_exchangeAs _ named]
    exact exchangeAs_correlates (identifier_ne_empty _ _ _) reticent _
  refine ⟨⟨identifier_identifies, serial_lt_of_generated service now request node named⟩,
    fun ends => ⟨identifier_identifies_wellFormed ends, ?_⟩, form, correlates, ?_⟩
  · rcases form with fine | ⟨own, plain, -, broken⟩
    · exact fine
    · refine absurd ?_ (ends id own)
      rw [broken, String.toList_append]
      exact List.getLast?_concat
  · exact fun noted member time told => (correlates.records noted member).plainLine told

end Exchanging

/-- A visit that brings an identifier. -/
def visitAs (id : String) : Request :=
  { visit with headers := ("x-request-id", id) :: visit.headers }

/-- A node that has done nothing yet. -/
def freshNode : Node AnyStore := ⟨.inMemory (Limiter.vacantStore .locked (.whole 0)), 1⟩

/-- A visit that brings a well-formed identifier is told under it, in plain lines between
brackets. -/
theorem traced_visit_told :
    let exchanged := strict.exchange 0 (visitAs "trace:9.a_B-1") freshNode
    broughtId? strict (visitAs "trace:9.a_B-1") = some "trace:9.a_B-1" ∧
      IsWellFormed "trace:9.a_B-1" ∧
      ShowsOnly exchanged.1.response.headers "x-request-id" "trace:9.a_B-1" ∧
      ∀ noted ∈ exchanged.1.events,
        (Record.ofEvent 0 noted.event).line .plain noted.request =
          .ok ("1970-01-01 00:00:00,000" ++ " " ++ noted.event.severity.name ++ " " ++
            noted.event.logger ++ " [" ++ "trace:9.a_B-1" ++ "] " ++ noted.event.message) := by
  have named : strict.isNamed = true := by decide +kernel
  have brought : broughtId? strict (visitAs "trace:9.a_B-1") = some "trace:9.a_B-1" := by
    decide +kernel
  have ends : ∀ text ∈ broughtId? strict (visitAs "trace:9.a_B-1"),
      text.toList.getLast? ≠ some '\n' := by
    rw [brought]
    decide
  have told : Time.plainText 0 = .ok "1970-01-01 00:00:00,000" := by rfl
  have own : identifier strict.requestHeader (visitAs "trace:9.a_B-1") freshNode.serial =
      "trace:9.a_B-1" := by decide +kernel
  have known := told_identifiers_wellFormed strict 0 (visitAs "trace:9.a_B-1") freshNode named
    AnyStore.answer_isReticent
  simp only [own] at known
  obtain ⟨-, fine, -, correlates, lines⟩ := known
  have header : Text.lower strict.requestHeader = "x-request-id" := by decide +kernel
  exact ⟨brought, (fine ends).2, header ▸ correlates.header (by decide +kernel), fun noted member =>
    lines noted member _ told⟩

/-- A line feed that a visit brings after its identifier is told with it: the identifier is not
replaced, and the plain line of the visit breaks at it. -/
theorem lineFeed_told :
    let exchanged := strict.exchange 0 (visitAs "ok\n") freshNode
    ¬Identifies IsWellFormed (broughtId? strict (visitAs "ok\n")) freshNode.serial
        (identifier strict.requestHeader (visitAs "ok\n") freshNode.serial) ∧
      exchanged.1.response.headers.first? "x-request-id" = some "ok\n" ∧
      (exchanged.1.events.getLast?.bind fun noted =>
          ((Record.ofEvent 0 noted.event).line .plain noted.request).toOption) =
        some ("1970-01-01 00:00:00,000 INFO tenant_ratelimit.core.middleware [ok\n] " ++
          "http.request_completed") := by
  have brought : broughtId? strict (visitAs "ok\n") = some "ok\n" := by decide +kernel
  have own : identifier strict.requestHeader (visitAs "ok\n") freshNode.serial = "ok\n" := by
    decide +kernel
  refine ⟨fun identifies => ?_, by decide +kernel, by decide +kernel⟩
  have fine : IsWellFormed "ok\n" := (identifies.kept _ brought).mp own
  exact fine.lineFeed_not_mem (by decide)

end Turnstile.Service
