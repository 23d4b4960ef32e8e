import Turnstile.Caller
import Turnstile.Scope

/-!
# Guarded operations

The operations under guard, the scopes that each is checked against in order, and the identifier a
scope counts a caller under.
-/

namespace Turnstile

/-- The guarded operations. -/
inductive Operation where
  | invitationCreation
  | invitationAcceptance
  | tenantCreation
  | tenantJoining
deriving DecidableEq, Repr, Inhabited

namespace Operation

/-- All operations. -/
def all : List Operation :=
  [.invitationCreation, .invitationAcceptance, .tenantCreation, .tenantJoining]

/-- The name of an operation. -/
def name : Operation → String
  | .invitationCreation => "invitation_creation"
  | .invitationAcceptance => "invitation_acceptance"
  | .tenantCreation => "tenant_creation"
  | .tenantJoining => "tenant_joining"

/-- The operation of that name. -/
def ofName? (name : String) : Option Operation := all.find? (·.name == name)

/-- The scopes of an operation; earlier ones are charged before later ones are checked. -/
def scopes : Operation → List Scope
  | .invitationCreation => [.invitationTenant, .invitationAdmin]
  | .invitationAcceptance => [.invitationIp, .invitationAcceptance]
  | .tenantCreation => [.tenantCreation]
  | .tenantJoining => [.tenantJoining]

end Operation

/-- The identifier under which a scope counts a caller, if the scope applies. A mail address is
not part of the caller. -/
def Scope.identifier? (scope : Scope) (principal : Principal) (address : Option String) :
    Option String :=
  match scope with
  | .invitationTenant => principal.tenantId
  | .invitationIp => address
  | .invitationEmail => none
  | _ => principal.userId

/-- What a denied caller is told about the scope. -/
def Scope.denial : Scope → String
  | .invitationTenant => "Tenant invitation limit exceeded"
  | .invitationAdmin => "Admin invitation limit exceeded"
  | .invitationIp => "Too many invitation attempts from this IP"
  | .invitationEmail => "Invitation limit for this email address exceeded"
  | .invitationAcceptance => "Rate limit exceeded for invitation acceptance"
  | .tenantCreation => "Rate limit exceeded for tenant creation"
  | .tenantJoining => "Rate limit exceeded for tenant joining"

end Turnstile
