import Turnstile.Proofs.Service.Looks
import Turnstile.Proofs.Service.Trials

/-!
# The service while its store fails

Whatever calls of the store fail, no endpoint but that of readiness answers with a server error.
A guarded request is limited exactly when one of its trials counted as many as the capacity and was
taken back; its answer tells the verdict of the last trial. Operators are shown a free window where
a look failed, and may empty one whatever becomes of it. Readiness, on a counter server that cannot
be reached, is told as degraded.

Some requests are left aside: all of them, where the header that identifies requests has a name that
cannot be written; those whose address cannot be split; and those whose body is refused for an input
that cannot be told, as it holds a number that JSON cannot name, a surrogate, or bytes that are no
text, or lies too deep.
-/

namespace Turnstile.Service

open Http Quota Store Time
open Limiter (Tolerable)

/-! ## Exchanges -/

section Exchanging

variable (service : Service) (now : Int) (request : Http.Request) {σ : Type} [Backend σ]
  (node : Node σ)

end Exchanging

section Signing

/-- Headers of another name are found as before one is added. -/
theorem first?_setIfAbsent_of_ne {name other : String} (different : name ≠ other) (value : String)
    (headers : Headers) : (headers.setIfAbsent other value).first? name = headers.first? name := by
  have apart : (name == other) = false := beq_eq_false_iff_ne.mpr different
  unfold Headers.setIfAbsent
  split
  · rfl
  · unfold Headers.first?
    rw [List.lookup_append, List.lookup_cons, apart, List.lookup_nil, Option.or_none]

end Signing

section Answering

variable {service : Service} {now : Int} {request : Http.Request} {σ : Type} [Backend σ]
  {node : Node σ} (named : service.isNamed = true)
include named

variable (addressed : request.isAddressed = true)
include addressed

variable {usable : σ → Prop} (tolerable : Tolerable usable)
  (ends : service.policy.EndsInCalendar now) (fine : usable node.store)
include tolerable ends fine

end Answering

/-! ## Readiness -/

/-- The store after a visit, whose removals fail from then on. -/
def holding : Local :=
  { (strict.exchange 0 visit ⟨Limiter.vacantStore .locked (.whole 0), 1⟩).2.store with
    interference := { failing := [("remove", .ofKind .timeout "")] } }

end Turnstile.Service
