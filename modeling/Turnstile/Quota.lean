import Turnstile.Limiter.Basic
import Turnstile.Policy.Basic
import Turnstile.Text.Blank
import Turnstile.Text.Case

/-!
# Quotas

The limiter bound to a policy, so that a quota is named by its scope and identifier. Mail addresses
are counted in their normal form.
-/

namespace Turnstile

open Store

/-- The normal form of a mail address: blanks cut off at both ends, small letters. -/
def normalizeEmail (address : String) : String := Text.lower (Text.strip address)

namespace Quota

variable {σ : Type} [Backend σ]

/-- Charge one attempt to a quota. -/
def check (policy : Policy) (scope : Scope) (identifier : String) (now : Int) :
    Action (Node σ) Verdict := do
  let limit ← policy.find scope
  Limiter.check limit identifier now

/-- Look at a quota. -/
def status (policy : Policy) (scope : Scope) (identifier : String) (now : Int) :
    Action (Node σ) Verdict := do
  let limit ← policy.find scope
  Limiter.status limit identifier now

/-- Empty a quota. -/
def reset (policy : Policy) (scope : Scope) (identifier : String) : Action (Node σ) Unit := do
  let limit ← policy.find scope
  Limiter.reset limit identifier

/-- Charge one attempt to the quota of a mail address. -/
def checkEmail (policy : Policy) (address : String) (now : Int) : Action (Node σ) Verdict :=
  check policy .invitationEmail (normalizeEmail address) now

/-- Look at several scopes of one identifier, each under a label. -/
def statuses (policy : Policy) (scopes : List (String × Scope)) (identifier : String)
    (now : Int) : Action (Node σ) (List (String × Verdict)) :=
  scopes.mapM fun entry => do return (entry.1, ← status policy entry.2 identifier now)

/-- The scopes shown for a tenant. -/
def tenantScopes : List (String × Scope) := [("tenant", .invitationTenant)]

/-- The scopes shown for an administrator. -/
def adminScopes : List (String × Scope) := [("admin", .invitationAdmin)]

/-- The scopes shown for a user. -/
def userScopes : List (String × Scope) := Scope.ofUser.map fun scope => (scope.name, scope)

end Quota

end Turnstile
