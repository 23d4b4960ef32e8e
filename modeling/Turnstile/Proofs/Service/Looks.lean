import Turnstile.Proofs.Http.Refusal
import Turnstile.Proofs.Limiter.Tolerance
import Turnstile.Proofs.Service.Gate

/-!
# What operators see of a store that may fail

An operator is shown the verdicts of looks: that on the count when the store told one, else that of
a free window. A budget is emptied as far as the store lets it, and whatever becomes of that, the
operator is told that it is done.
-/

namespace Turnstile.Service

open Http Quota Store Time
open Limiter (Tolerable)

/-! ## Looks -/

section Looking

variable {σ : Type} [Backend σ]

variable {usable : σ → Prop} (tolerable : Tolerable usable) (policy : Policy) {now : Int}
  (identifier : String)
include tolerable

variable (ends : policy.EndsInCalendar now)
include ends

end Looking

section Operating

variable {service : Service} {σ : Type} [Backend σ] {usable : σ → Prop}
  (tolerable : Tolerable usable) {now : Int} {node : Node σ} (fine : usable node.store)

include tolerable fine

variable (ends : service.policy.EndsInCalendar now)
include ends

end Operating

/-! ## Endpoints of operators -/

section Performing

variable {service : Service} {request : Request} {σ : Type} [Backend σ] {usable : σ → Prop}
  (tolerable : Tolerable usable) {now : Int} (ends : service.policy.EndsInCalendar now)

include tolerable ends

end Performing

end Turnstile.Service
