import Turnstile.Guard.Basic
import Turnstile.Log.Record
import Turnstile.Settings.Environment

/-!
# Groups of settings

The four groups of settings, each read from a source. A group lists its settings in order with
reader and default, and findings come in that order; names that a group does not know are refused,
except for the limits. The limits are accepted only within their bounds, which stay in their type.
-/

namespace Turnstile.Settings

open Log Number Validation

/-- Which store to run on. -/
inductive StoreKind where
  | server
  | memory
deriving DecidableEq, Repr, Inhabited

/-- The name of a kind of store. -/
def StoreKind.name : StoreKind → String
  | .server => "redis"
  | .memory => "memory"

/-- Where log lines go. -/
inductive Output where
  | stream
  | file
deriving DecidableEq, Repr, Inhabited

/-- The name of an output. -/
def Output.name : Output → String
  | .stream => "stdout"
  | .file => "file"

/-- The name of a line format. -/
def lineFormatName : LineFormat → String
  | .json => "json"
  | .plain => "plain"

/-- Each value under its name. -/
def named {α : Type} (name : α → String) (values : List α) : List (String × α) :=
  values.map fun value => (name value, value)

/-- Settings of the service as a whole. -/
structure ServiceSettings where
  debug : Bool := false
  limitsEnabled : Bool := true
  limitHeaders : Bool := true
  limitSource : LimitSource := .hits
  store : StoreKind := .server
  keyRequired : Bool := true
  keys : Option String := none
deriving Repr

instance : Inhabited ServiceSettings := ⟨{}⟩

namespace ServiceSettings

/-- The names of the settings. -/
def names : List String :=
  ["debug", "rate_limit_enabled", "rate_limit_include_headers", "rate_limit_limit_header_source",
   "rate_limit_store", "api_key_required", "api_keys"]

/-- Read the settings of the service. -/
def read (source : Source) : Checked ServiceSettings :=
  let checked : Checked ServiceSettings := ServiceSettings.mk
    <$> source.setting "debug" Reading.truth false
    <*> source.setting "rate_limit_enabled" Reading.truth true
    <*> source.setting "rate_limit_include_headers" Reading.truth true
    <*> source.setting "rate_limit_limit_header_source"
          (Reading.oneOf (named LimitSource.name [.hits, .capacity])) .hits
    <*> source.setting "rate_limit_store"
          (Reading.oneOf (named StoreKind.name [.server, .memory])) .server
    <*> source.setting "api_key_required" Reading.truth true
    <*> source.setting "api_keys" (Reading.optional Reading.text) none
  checked.withFindings (source.unknown names)

/-- The settings under their names. -/
def listing (settings : ServiceSettings) : List (String × Json) :=
  [("debug", .bool settings.debug), ("rate_limit_enabled", .bool settings.limitsEnabled),
   ("rate_limit_include_headers", .bool settings.limitHeaders),
   ("rate_limit_limit_header_source", .str settings.limitSource.name),
   ("rate_limit_store", .str settings.store.name),
   ("api_key_required", .bool settings.keyRequired), ("api_keys", Json.ofOption settings.keys)]

end ServiceSettings

/-- The number two in binary64. -/
def two : Binary64 := Binary64.ofInt 2

/-- Settings of the connection to the counter server. -/
structure ServerSettings where
  url : String := "redis://localhost:6379/0"
  timeout : Binary64 := two
  connectTimeout : Binary64 := two
deriving Repr

instance : Inhabited ServerSettings := ⟨{}⟩

namespace ServerSettings

/-- The names of the settings. -/
def names : List String := ["url", "socket_timeout_seconds", "socket_connect_timeout_seconds"]

/-- Read the settings of the connection. -/
def read (source : Source) : Checked ServerSettings :=
  let checked : Checked ServerSettings := ServerSettings.mk
    <$> source.setting "url" Reading.text "redis://localhost:6379/0"
    <*> source.setting "socket_timeout_seconds" Reading.positive two
    <*> source.setting "socket_connect_timeout_seconds" Reading.positive two
  checked.withFindings (source.unknown names)

/-- The settings under their names. -/
def listing (settings : ServerSettings) : List (String × Json) :=
  [("url", .str settings.url), ("socket_timeout_seconds", .float settings.timeout),
   ("socket_connect_timeout_seconds", .float settings.connectTimeout)]

end ServerSettings

/-- Settings of the log. -/
structure LogSettings where
  level : String := "INFO"
  format : LineFormat := .json
  output : Output := .stream
  filePath : Option String := none
  maxBytes : Int := 0
  backups : Int := 5
  requestHeader : String := "X-Request-ID"
deriving Repr

instance : Inhabited LogSettings := ⟨{}⟩

namespace LogSettings

/-- The names of the settings. -/
def names : List String :=
  ["level", "format", "output", "file_path", "max_bytes", "backup_count", "request_id_header"]

/-- Read the settings of the log. -/
def read (source : Source) : Checked LogSettings :=
  let checked : Checked LogSettings := LogSettings.mk
    <$> source.setting "level" Reading.text "INFO"
    <*> source.setting "format" (Reading.oneOf (named lineFormatName [.json, .plain])) .json
    <*> source.setting "output" (Reading.oneOf (named Output.name [.stream, .file])) .stream
    <*> source.setting "file_path" (Reading.optional Reading.text) none
    <*> source.setting "max_bytes" Reading.whole 0
    <*> source.setting "backup_count" Reading.whole 5
    <*> source.setting "request_id_header" Reading.text "X-Request-ID"
  checked.withFindings (source.unknown names)

/-- The settings under their names. -/
def listing (settings : LogSettings) : List (String × Json) :=
  [("level", .str settings.level), ("format", .str (lineFormatName settings.format)),
   ("output", .str settings.output.name), ("file_path", Json.ofOption settings.filePath),
   ("max_bytes", .int settings.maxBytes), ("backup_count", .int settings.backups),
   ("request_id_header", .str settings.requestHeader)]

end LogSettings

/-- A window length and a capacity within their bounds. -/
structure Budget where
  window : { value : Int // 0 < value }
  capacity : { value : Int // 1 ≤ value }
deriving Repr

/-- The budget of a scope for which nothing is configured. -/
def Budget.default (scope : Scope) : Budget :=
  ⟨⟨scope.defaultLimit.window, scope.defaultLimit.window_pos⟩,
    ⟨scope.defaultLimit.capacity, scope.defaultLimit.capacity_pos⟩⟩

/-- The name of the window setting of a scope. -/
def windowName (scope : Scope) : String := scope.name ++ "_rate_limit_window_ms"

/-- The name of the capacity setting of a scope. -/
def capacityName (scope : Scope) : String := scope.name ++ "_rate_limit_max_requests"

/-- The budgets of the scopes. -/
structure LimitSettings where
  budget : Scope → Budget

namespace LimitSettings

instance : Inhabited LimitSettings := ⟨⟨Budget.default⟩⟩

/-- Read the budget of one scope. -/
def readBudget (source : Source) (scope : Scope) : Checked Budget :=
  Budget.mk
    <$> source.setting (windowName scope) (Reading.wholeAbove 0) (Budget.default scope).window
    <*> source.setting (capacityName scope) (Reading.wholeFrom 1) (Budget.default scope).capacity

/-- Read the budgets; names that are not known are passed over. -/
def read (source : Source) : Checked LimitSettings :=
  (Checked.each (fun scope => (readBudget source scope).map fun budget => (scope, budget))
    Scope.all).map fun budgets =>
      ⟨fun scope => (budgets.lookup scope).getD (Budget.default scope)⟩

/-- The settings under their names. -/
def listing (settings : LimitSettings) : List (String × Json) :=
  Scope.all.flatMap fun scope =>
    [(windowName scope, .int (settings.budget scope).window.val),
     (capacityName scope, .int (settings.budget scope).capacity.val)]

/-- The window length and the capacity for a scope of that name. -/
def limitsFor (settings : LimitSettings) (scopeName : String) : Option (Int × Int) :=
  (Scope.ofName? scopeName).map fun scope =>
    ((settings.budget scope).window.val, (settings.budget scope).capacity.val)

/-- The limit of a scope: its budget in the key space of the scope. -/
def limit (settings : LimitSettings) (scope : Scope) : Limit :=
  let budget := settings.budget scope
  ⟨budget.window.val, budget.capacity.val, scope.keyPrefix, budget.window.property,
    budget.capacity.property, scope.keyPrefix_ne⟩

/-- The policy that the budgets describe. -/
def policy (settings : LimitSettings) : Policy := ⟨fun scope => some (settings.limit scope)⟩

end LimitSettings

end Turnstile.Settings
