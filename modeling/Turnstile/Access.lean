import Turnstile.Action
import Turnstile.Text.Blank
import Turnstile.Text.Digest

/-!
# Operator access

The operator endpoints ask for a key. The keys are configured as one text, separated by commas;
blanks around a key do not belong to it, and blank pieces are no keys. A given key must equal a
configured one exactly.
-/

namespace Turnstile.Access

open Log

/-- The part that reports access decisions. -/
def logger : String := "tenant_ratelimit.core.auth"

/-- The keys that a text configures. -/
def keys (configured : Option String) : List String :=
  (((Text.splitOnChar ',' (configured.getD "")).map Text.strip).filter (!·.isEmpty)).eraseDups

/-- A refusal of access. -/
def denial (code message : String) (details : Option (List (String × Json))) : Problem where
  kind := .authentication
  code := code
  message := message
  details := details

/-- The code of access that asks for keys where there are none. -/
def unconfiguredCode : String := "api_keys_not_configured"

/-- Refuse access for a reason that is reported with some fields. -/
def reject {ν α : Type} (code message : String) (fields : List (String × Json)) :
    Action ν α := do
  Action.report
    { severity := .warning, logger, message := "operator_auth.rejected",
      fields := ("reason", .str code) :: fields }
  Action.fail (.problem (denial code message none))

/-- Check a given key against the configured ones. -/
def verify {ν : Type} (required : Bool) (configured given : Option String) : Action ν Unit := do
  if required then
    let valid := keys configured
    if valid.isEmpty then
      Action.report
        { severity := .error, logger, message := "operator_auth.misconfigured",
          fields := [("reason", .str unconfiguredCode)] }
      Action.fail (.problem (denial unconfiguredCode
        "API key authentication is enabled but no valid keys are configured"
        (some [("hint", .str
          "Set APP_API_KEYS or disable auth with APP_API_KEY_REQUIRED=false")])))
    match given.filter (!·.isEmpty) with
    | none => reject "missing_api_key" "Missing API key. Provide X-API-Key header." []
    | some key =>
      if !valid.contains key then
        reject "invalid_api_key" "Invalid or missing API key"
          [("api_key_hash", .str (hashIdentifier key))]

end Turnstile.Access
