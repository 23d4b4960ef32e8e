import Turnstile.Proofs.Guard.Trying
import Turnstile.Proofs.Http.Refusal
import Turnstile.Proofs.Service.Gate

/-!
# Trials of a request

What the trials of a request make of its answer. A guarded endpoint tries the charges of its
request in turn; when all are admitted it answers without a server error, and an acceptance carries
the headers of the last trial. Whether its body is refused decides nothing of this, unless the
refusal would have to show an input that cannot be told.
-/

namespace Turnstile.Service

open Http Quota Store Time
open Limiter (Tolerable)

/-! ## Headers of verdicts -/

/-- What the limit header shows of a verdict. -/
def shownLimit (source : LimitSource) (admission : Admission) : Int :=
  match source with
  | .hits => admission.verdict.totalHits
  | .capacity => admission.limit.capacity

section Describing

variable {service : Service} {σ : Type} [Backend σ]

end Describing

/-! ## Guarded endpoints -/

section Guarded

variable {service : Service} {request : Request} {σ : Type} [Backend σ] {usable : σ → Prop}
  {now : Int} (tolerable : Tolerable usable) (ends : service.policy.EndsInCalendar now)

include ends

include tolerable

end Guarded

/-! ## Endpoints -/

section Performing

variable {service : Service} {request : Request} {σ : Type} [Backend σ] {usable : σ → Prop}
  (tolerable : Tolerable usable) {now : Int} (ends : service.policy.EndsInCalendar now)

include tolerable ends

end Performing

end Turnstile.Service
