/-!
# Scopes

A scope is one independent dimension of limiting with a budget and a key space of its own.
-/

namespace Turnstile

/-- The dimensions of limiting. -/
inductive Scope where
  | tenantCreation
  | tenantJoining
  | invitationAcceptance
  | invitationTenant
  | invitationAdmin
  | invitationIp
  | invitationEmail
deriving DecidableEq, Repr, Inhabited

namespace Scope

/-- All scopes in their customary order. -/
def all : List Scope :=
  [.tenantCreation, .tenantJoining, .invitationAcceptance, .invitationTenant, .invitationAdmin,
   .invitationIp, .invitationEmail]

/-- The name of a scope. -/
def name : Scope → String
  | .tenantCreation => "tenant_creation"
  | .tenantJoining => "tenant_joining"
  | .invitationAcceptance => "invitation_acceptance"
  | .invitationTenant => "invitation_tenant"
  | .invitationAdmin => "invitation_admin"
  | .invitationIp => "invitation_ip"
  | .invitationEmail => "invitation_email"

/-- The scope of that name. -/
def ofName? (name : String) : Option Scope := all.find? (·.name == name)

/-- The key space of a scope. -/
def keyPrefix (scope : Scope) : String := scope.name ++ "_rate_limit"

/-- The scopes counted per user, in the order of a user's status. -/
def ofUser : List Scope :=
  [.tenantCreation, .tenantJoining, .invitationAcceptance, .invitationAdmin]

/-- Every scope is listed. -/
theorem mem_all (scope : Scope) : scope ∈ all := by cases scope <;> decide

/-- A scope is found under its name. -/
theorem ofName?_name (scope : Scope) : ofName? scope.name = some scope := by
  cases scope <;> decide

end Scope

end Turnstile
