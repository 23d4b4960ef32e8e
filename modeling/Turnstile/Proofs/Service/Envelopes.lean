import Turnstile.Proofs.Json.Writing
import Turnstile.Proofs.Service.Conduct

/-!
# Error bodies

The text of an error body tells one identifier, and no response of a route that is not a failure has
such a text: its body is empty, or an object that begins otherwise.
-/

namespace Turnstile.Service

open Http Store

/-! ## Texts of error bodies -/

/-- What stands in the text of an error body before the identifier, and the identifier. -/
theorem exists_compact_errorBody (code message : String) (request : Option String)
    (details : Option (List (String × Json))) : ∃ tail,
      Json.compact (errorBody code message request details) =
        "\x7b" ++ (Json.quote false "error" ++ (":" ++ ("\x7b" ++
          (Json.quote false "code" ++ (":" ++ (Json.quote false code ++ ("," ++
            (Json.quote false "message" ++ (":" ++ (Json.quote false message ++ ("," ++
              (Json.quote false "request_id" ++ (":" ++
                (Json.compact (Json.ofOption request) ++ tail)))))))))))))) := by
  unfold errorBody Json.compact
  cases (details.getD []).isEmpty with
  | true =>
    refine ⟨"\x7d\x7d", ?_⟩
    simp only [if_true, Json.write, Json.writeMembers, Json.writeMember, Json.Dialect.compact,
      String.append_assoc]
    rfl
  | false =>
    refine ⟨"," ++ (Json.writeMember .compact ("details", .obj (details.getD [])) ++
      "\x7d\x7d"), ?_⟩
    simp only [Bool.false_eq_true, if_false, List.cons_append, List.nil_append, Json.write,
      Json.writeMembers, Json.writeMember, Json.Dialect.compact, String.append_assoc]
    rfl

/-- Error bodies of one text tell one identifier. -/
theorem request_eq_of_compact_eq {code message code' message' : String}
    {request request' : Option String} {details details' : Option (List (String × Json))}
    (same : Json.compact (errorBody code message request details) =
      Json.compact (errorBody code' message' request' details')) : request = request' := by
  obtain ⟨tail, text⟩ := exists_compact_errorBody code message request details
  obtain ⟨tail', text'⟩ := exists_compact_errorBody code' message' request' details'
  rw [text, text'] at same
  simp only [String.append_right_inj] at same
  have afterCode := (Json.quote_append_inj same).2
  simp only [String.append_right_inj] at afterCode
  have told := (Json.quote_append_inj afterCode).2
  simp only [String.append_right_inj] at told
  have apart (id tail tail' : String) :
      Json.compact (.str id) ++ tail ≠ Json.compact .null ++ tail' := by
    intro equal
    have heads := congrArg (fun text => text.toList.head?) equal
    simp [Json.compact, Json.write, Json.quote] at heads
  cases request with
  | none =>
    cases request' with
    | none => rfl
    | some id' => exact absurd told.symm (apart id' tail' tail)
  | some id =>
    cases request' with
    | none => exact absurd told (apart id tail tail')
    | some id' =>
      have ids : id = id' := (Json.quote_append_inj told).1
      rw [ids]

/-- The body is empty, or an object that begins otherwise than an error body. -/
def IsPlainBody (body : String) : Prop :=
  body = "" ∨ ∃ name value rest, name ≠ "error" ∧ body = Json.compact (.obj ((name, value) :: rest))

/-- Such a body is no error body. -/
theorem IsPlainBody.ne {body : String} (plain : IsPlainBody body) (code message : String)
    (request : Option String) (details : Option (List (String × Json))) :
    body ≠ Json.compact (errorBody code message request details) := by
  obtain ⟨tail, text⟩ := exists_compact_errorBody code message request details
  rw [text]
  rcases plain with rfl | ⟨name, value, rest, different, rfl⟩
  · intro same
    have heads := congrArg (fun text => text.toList.head?) same
    simp at heads
  · intro same
    have begins : ∃ after, Json.compact (.obj ((name, value) :: rest)) =
        "\x7b" ++ (Json.quote false name ++ after) := by
      unfold Json.compact
      cases rest with
      | nil =>
        simp only [Json.write, Json.writeMembers, Json.writeMember, Json.Dialect.compact,
          String.append_assoc]
        exact ⟨_, rfl⟩
      | cons second others =>
        simp only [Json.write, Json.writeMembers, Json.writeMember, Json.Dialect.compact,
          String.append_assoc]
        exact ⟨_, rfl⟩
    obtain ⟨after, begins⟩ := begins
    rw [begins, String.append_right_inj] at same
    exact different (Json.quote_append_inj same).1

/-- The answer of the server is no error body. -/
theorem bareResponse_body_ne (code message : String) (request : Option String)
    (details : Option (List (String × Json))) :
    bareResponse.body ≠ Json.compact (errorBody code message request details) := by
  obtain ⟨tail, text⟩ := exists_compact_errorBody code message request details
  rw [text]
  intro same
  have heads := congrArg (fun text => text.toList.head?) same
  simp [bareResponse] at heads

/-! ## Responses of routes -/

/-- The statuses of responses that are no failures. -/
def plainStatuses : List Nat := [200, 202, 204, 307, 400, 404, 405, 422]

/-- A response that is no failure. -/
structure IsPlain (response : Response) : Prop where
  status : response.status ∈ plainStatuses
  body : IsPlainBody response.body

section Parts

variable {σ : Type} [Backend σ]

omit [Backend σ] in
/-- A response with an object that begins otherwise than an error body is no failure. -/
theorem isPlain_of_ofJson {status : Nat} (listed : status ∈ plainStatuses) {name : String}
    (different : name ≠ "error") {value : Json} {rest : List (String × Json)}
    {headers : List (String × String)} {response : Response}
    (made : Response.ofJson status (.obj ((name, value) :: rest)) headers = .ok response) :
    IsPlain response := by
  unfold Response.ofJson at made
  split at made
  · obtain rfl := Except.ok.inj made
    exact ⟨listed, .inr ⟨name, value, rest, different, rfl⟩⟩
  · cases made

/-- An object that begins otherwise than an error body is no failure. -/
theorem respond_conducts {status : Nat} (listed : status ∈ plainStatuses) (name : String)
    (different : name ≠ "error") (value : Json) (rest : List (String × Json))
    (headers : List (String × String)) :
    Conducts IsPlain (respond status (.obj ((name, value) :: rest)) headers :
      Action (Node σ) Response) := by
  apply Conducts.ofExcept
  intro response made
  exact isPlain_of_ofJson listed different made

/-- A short answer conducts, if its status is listed. -/
theorem detail_conducts {status : Nat} (listed : status ∈ plainStatuses) (text : String)
    (headers : List (String × String)) :
    Conducts IsPlain (detail status text headers : Action (Node σ) Response) :=
  respond_conducts listed "detail" (by decide) _ _ _

/-- Refused inputs are answered with an object that begins otherwise than an error body. -/
theorem refuse_conducts (request : Request) (refusals : List Refusal) :
    Conducts IsPlain (refuse request refusals : Action (Node σ) Response) := by
  apply Conducts.ofExcept
  intro response made
  obtain ⟨details, told⟩ := Response.exists_ofJson_of_ofRefusals made
  exact isPlain_of_ofJson (by decide) (by decide) told

/-- An acceptance conducts, if its status is listed. -/
theorem accept_conducts {status : Nat} (listed : status ∈ plainStatuses) (operation : Operation)
    (tenant : Option String) (headers : List (String × String)) :
    Conducts IsPlain (accept status operation tenant headers : Action (Node σ) Response) := by
  apply (respond_conducts listed "status" (by decide) _ _ _).bind
  intro response plain
  exact .pure ⟨plain.status, plain.body⟩

/-- Reading an order conducts, if what follows does. -/
theorem withOrder_conducts {α : Type} (request : Request)
    (read : Wide.Members → Validation.Checked α)
    {next : Except (List Refusal) α → Action (Node σ) Response}
    (others : ∀ order, Conducts IsPlain (next order)) :
    Conducts IsPlain (withOrder request read next) := by
  unfold withOrder
  split
  · unfold refuseBody
    split
    · exact refuse_conducts _ _
    · exact detail_conducts (by decide) _ _
  · exact others _

/-- Finding a scope conducts, if what follows does. -/
theorem withScope_conducts (request : Request) (name : String)
    {next : Scope → Action (Node σ) Response} (others : ∀ scope, Conducts IsPlain (next scope)) :
    Conducts IsPlain (withScope request name next) := by
  unfold withScope
  split
  · exact others _
  · exact refuse_conducts _ _

/-- A redirection has no body. -/
theorem redirect_conducts (request : Request) (path : String) :
    Conducts IsPlain (redirect request path : Action (Node σ) Response) := by
  have moved : 307 ∈ plainStatuses := by decide
  apply (Conducts.ofExcept fun _ _ => trivial).bind
  intro address _
  exact .pure ⟨moved, .inl rfl⟩

end Parts

section Walking

variable (service : Service) (now : Int) (request : Request) {σ : Type} [Backend σ]

/-- Charging budgets is orderly. -/
theorem charge_conducts (operation : Operation) (sparesAdmins : Bool) :
    IsOrderly (service.charge operation sparesAdmins now request :
      Action (Node σ) (List (String × String))) := by
  unfold charge
  split
  · apply (service.guard.evaluate_conducts (clocksAt now) operation request.principal _ _).bind
    intro last _
    cases last with
    | none => exact .pure trivial
    | some admission => exact .ofExcept fun _ _ => trivial
  · exact .pure trivial

/-- Charging the budget of an address is orderly. -/
theorem chargeEmail_conducts (email : String) :
    IsOrderly (service.chargeEmail email now : Action (Node σ) (List (String × String))) := by
  unfold chargeEmail
  split
  · apply (service.guard.enforceEmail_conducts (clocksAt now) email).bind
    intro admission _
    exact .ofExcept fun _ _ => trivial
  · exact .pure trivial

/-- Taking the order of an invitation conducts. -/
theorem createInvitation_conducts :
    Conducts IsPlain (service.createInvitation now request : Action (Node σ) Response) := by
  apply withOrder_conducts
  intro order
  apply (service.charge_conducts now request .invitationCreation false).bind
  intro headers _
  cases order with
  | error refusals => exact refuse_conducts request refusals
  | ok order =>
    apply (service.chargeEmail_conducts now order.email).bind
    intro own _
    exact accept_conducts (by decide) _ _ _

/-- Taking a visit conducts. -/
theorem visitInvitation_conducts :
    Conducts IsPlain (service.visitInvitation now request : Action (Node σ) Response) := by
  apply (service.charge_conducts now request .invitationAcceptance false).bind
  intro headers _
  exact accept_conducts (by decide) _ _ _

/-- Taking the order of a tenant conducts. -/
theorem createTenant_conducts :
    Conducts IsPlain (service.createTenant now request : Action (Node σ) Response) := by
  apply withOrder_conducts
  intro order
  apply (service.charge_conducts now request .tenantCreation true).bind
  intro headers _
  cases order with
  | error refusals => exact refuse_conducts request refusals
  | ok order => exact accept_conducts (by decide) _ _ _

/-- Taking a wish to join a tenant conducts. -/
theorem joinTenant_conducts (tenant : String) :
    Conducts IsPlain (service.joinTenant tenant now request : Action (Node σ) Response) := by
  apply (service.charge_conducts now request .tenantJoining false).bind
  intro headers _
  exact accept_conducts (by decide) _ _ _

/-- Showing the limits conducts. -/
theorem showPolicy_conducts :
    Conducts IsPlain (service.showPolicy : Action (Node σ) Response) := by
  apply service.policy.listing_conducts.bind
  intro table _
  exact respond_conducts (by decide) "scopes" (by decide) _ _ _

/-- Showing several windows conducts. -/
theorem showWindows_conducts (scopes : List (String × Scope)) (identifier : String) :
    Conducts IsPlain (service.showWindows scopes identifier now : Action (Node σ) Response) := by
  apply (Quota.statuses_conducts service.policy identifier now scopes).bind
  intro verdicts _
  have begins : ∀ body, windowsJson verdicts = .ok body →
      ∃ value rest, body = .obj (("scopes", value) :: rest) := by
    intro body made
    unfold windowsJson at made
    cases views : verdicts.mapM fun entry => do return (entry.1, ← WindowView.jsonOf entry.2) with
    | error failure =>
      rw [views] at made
      cases made
    | ok views' =>
      rw [views] at made
      obtain rfl := Except.ok.inj made
      exact ⟨_, _, rfl⟩
  apply (Conducts.ofExcept begins).bind
  intro body known
  obtain ⟨value, rest, rfl⟩ := known
  exact respond_conducts (by decide) "scopes" (by decide) _ _ _

/-- Showing one window conducts. -/
theorem showWindow_conducts (scope : Scope) (identifier : String) :
    Conducts IsPlain (service.showWindow scope identifier now : Action (Node σ) Response) := by
  apply (Quota.status_conducts service.policy scope _ now).bind
  intro verdict _
  have begins : ∀ body, WindowView.jsonOf verdict = .ok body →
      ∃ value rest, body = .obj (("allowed", value) :: rest) := by
    intro body made
    unfold WindowView.jsonOf at made
    cases view : WindowView.ofVerdict verdict with
    | error failure =>
      rw [view] at made
      cases made
    | ok view' =>
      rw [view] at made
      simp only [bind, Except.bind] at made
      split at made
      · obtain rfl := Except.ok.inj made
        exact ⟨_, _, rfl⟩
      · cases made
  apply (Conducts.ofExcept begins).bind
  intro body known
  obtain ⟨value, rest, rfl⟩ := known
  exact respond_conducts (by decide) "allowed" (by decide) _ _ _

/-- Emptying a budget conducts. -/
theorem resetWindow_conducts (scope : Scope) (identifier : String) :
    Conducts IsPlain (service.resetWindow scope identifier : Action (Node σ) Response) := by
  apply (Quota.reset_conducts service.policy scope _).bind
  intro _ _
  exact .pure ⟨by decide, .inl rfl⟩

/-- Telling whether the store answers conducts. -/
theorem readiness_conducts : Conducts IsPlain (readiness : Action (Node σ) Response) := by
  apply (Conducts.call .ping).bind
  intro reply _
  exact respond_conducts (by decide) "status" (by decide) _ _ _

/-- The work of an endpoint conducts. -/
theorem perform_conducts (endpoint : Endpoint) (arguments : List String) :
    Conducts IsPlain (service.perform endpoint arguments now request :
      Action (Node σ) Response) := by
  cases endpoint with
  | createInvitation => exact service.createInvitation_conducts now request
  | openInvitation => exact service.visitInvitation_conducts now request
  | acceptInvitation => exact service.visitInvitation_conducts now request
  | createTenant => exact service.createTenant_conducts now request
  | joinTenant => exact service.joinTenant_conducts now request _
  | showPolicy => exact service.showPolicy_conducts
  | tenantStatus => exact service.showWindows_conducts now _ _
  | userStatus => exact service.showWindows_conducts now _ _
  | adminStatus => exact service.showWindows_conducts now _ _
  | scopeStatus =>
    exact withScope_conducts request _ fun scope => service.showWindow_conducts now scope _
  | scopeReset =>
    exact withScope_conducts request _ fun scope => service.resetWindow_conducts scope _
  | health => exact respond_conducts (by decide) "status" (by decide) _ _ _
  | readiness => exact readiness_conducts

/-- Checking the key of an operator is orderly. -/
theorem verifyOperator_conducts :
    IsOrderly (service.verifyOperator request : Action (Node σ) Unit) := by
  have reject (code message : String) (fields : List (String × Json))
      (unnamed : fields.lookup Log.requestField = none) :
      IsOrderly (Access.reject code message fields : Action (Node σ) Unit) := by
    refine .report_bind ?_ (.fail _)
    exact unnamed
  unfold verifyOperator Access.verify
  split
  · simp only
    split
    · refine .report_bind rfl ?_
      exact .fail_bind _
    · split
      · exact reject _ _ [] rfl
      · split
        · exact reject _ _ _ rfl
        · exact .pure trivial
  · exact .pure trivial

/-- Handling a request to an endpoint conducts. -/
theorem handle_conducts (endpoint : Endpoint) (arguments : List String) :
    Conducts IsPlain (service.handle endpoint arguments now request :
      Action (Node σ) Response) := by
  unfold handle
  split
  · apply (service.verifyOperator_conducts request).bind
    intro _ _
    exact service.perform_conducts now request endpoint arguments
  · exact service.perform_conducts now request endpoint arguments

/-- A route reports nothing under the name of a request that is not of the store, and what it
yields is no failure. -/
theorem route_conducts :
    Conducts IsPlain (service.route now request : Action (Node σ) Response) := by
  unfold route
  split
  · exact service.handle_conducts now request _ _
  · exact detail_conducts (by decide) _ _
  · exact detail_conducts (by decide) _ _
  · exact redirect_conducts request _

end Walking

end Turnstile.Service
