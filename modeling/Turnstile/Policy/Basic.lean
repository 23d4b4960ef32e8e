import Turnstile.Action
import Turnstile.Policy.Limit
import Turnstile.Scope

/-!
# Policies

A policy gives every scope its limit: a limit of its own, or the default of the scope. The keys of
a scope are always in the scope's own key space when the policy is built from window lengths and
counts, so no choice of those can merge two scopes.
-/

namespace Turnstile

open Log

/-- An hour in milliseconds. -/
def hour : Int := 60 * 60 * 1000

/-- A day in milliseconds. -/
def day : Int := 24 * hour

/-- No scope has an empty key space. -/
theorem Scope.keyPrefix_ne (scope : Scope) : scope.keyPrefix ≠ "" := by
  cases scope <;> decide

/-- The limit of a scope for which nothing is configured. -/
def Scope.defaultLimit (scope : Scope) : Limit :=
  match scope with
  | .tenantCreation => ⟨hour, 3, _, by decide, by decide, scope.keyPrefix_ne⟩
  | .tenantJoining => ⟨hour, 10, _, by decide, by decide, scope.keyPrefix_ne⟩
  | .invitationAcceptance => ⟨hour, 10, _, by decide, by decide, scope.keyPrefix_ne⟩
  | .invitationTenant => ⟨day, 100, _, by decide, by decide, scope.keyPrefix_ne⟩
  | .invitationAdmin => ⟨hour, 20, _, by decide, by decide, scope.keyPrefix_ne⟩
  | .invitationIp => ⟨hour, 10, _, by decide, by decide, scope.keyPrefix_ne⟩
  | .invitationEmail => ⟨day, 3, _, by decide, by decide, scope.keyPrefix_ne⟩

/-- The limits of the scopes that have one of their own. -/
structure Policy where
  own : Scope → Option Limit

namespace Policy

/-- The policy of defaults. -/
def defaults : Policy := ⟨fun _ => none⟩

/-- The limit of a scope. -/
def limitOf (policy : Policy) (scope : Scope) : Limit :=
  (policy.own scope).getD scope.defaultLimit

/-- The event of falling back on the default of a scope. -/
def defaultUsedEvent (scope : Scope) : Event where
  severity := .debug
  logger := "tenant_ratelimit.services.policy"
  message := "rate_limit.policy_default_used"
  fields := [("scope", .str scope.name)]

/-- Look the limit of a scope up; falling back on the default is reported. -/
def find {ν : Type} (policy : Policy) (scope : Scope) : Action ν Limit := do
  if (policy.own scope).isNone then Action.report (defaultUsedEvent scope)
  return policy.limitOf scope

/-- Build a policy from window lengths and counts, scope by scope in their order; each limit gets
the key space of its scope. -/
def ofWindows (windows : Scope → Option (Int × Int)) : Except LimitFault Policy := do
  let limits ← Scope.all.mapM fun scope =>
    match windows scope with
    | none => return (scope, none)
    | some (window, capacity) => return (scope, some (← Limit.make window capacity scope.keyPrefix))
  return ⟨fun scope => (limits.lookup scope).join⟩

/-- The limits of all scopes in order. -/
def table (policy : Policy) : List (Scope × Limit) :=
  Scope.all.map fun scope => (scope, policy.limitOf scope)

/-- The limits of all scopes in order, each fallback reported. -/
def listing {ν : Type} (policy : Policy) : Action ν (List (Scope × Limit)) :=
  Scope.all.mapM fun scope => do return (scope, ← policy.find scope)

end Policy

/-- The failure of a refused limit. -/
def LimitFault.failure (fault : LimitFault) : Failure := .ofKind .value fault.message

end Turnstile
