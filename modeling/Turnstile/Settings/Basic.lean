import Turnstile.Json.Reader
import Turnstile.Settings.Groups

/-!
# Settings

All settings together. A group is given directly, or taken as a whole from one variable that
holds a JSON object, or read variable by variable. A whole group of the first kind is read before
anything else; a variable that should hold JSON and does not stops the reading; faults inside such
a variable are gathered over all groups.
-/

namespace Turnstile

open Validation

namespace Settings

/-- The groups of settings. -/
inductive Group where
  | service
  | server
  | log
  | limits
deriving DecidableEq, Repr

namespace Group

/-- All groups in the order they are read. -/
def all : List Group := [.service, .server, .log, .limits]

/-- The name of a group, also that of the variable that may hold it as a whole. -/
def name : Group → String
  | .service => "app"
  | .server => "redis"
  | .log => "log"
  | .limits => "rate_limit"

/-- What the names of the variables of a group start with. -/
def mark : Group → String
  | .service => "app_"
  | .server => "redis_"
  | .log => "log_"
  | .limits => ""

/-- The names of the settings of a group. -/
def settingNames : Group → List String
  | .service => ServiceSettings.names
  | .server => ServerSettings.names
  | .log => LogSettings.names
  | .limits => Scope.all.flatMap fun scope => [windowName scope, capacityName scope]

/-- What a group reads into. -/
abbrev Value : Group → Type
  | .service => ServiceSettings
  | .server => ServerSettings
  | .log => LogSettings
  | .limits => LimitSettings

/-- Read a group. -/
def read : (group : Group) → Source → Checked group.Value
  | .service => ServiceSettings.read
  | .server => ServerSettings.read
  | .log => LogSettings.read
  | .limits => LimitSettings.read

/-- Read a group from given values and an environment. -/
def readFrom (group : Group) (given : List (String × Json)) (environment : Environment) :
    Checked group.Value :=
  group.read ⟨given, environment, group.mark⟩

end Group

/-- Why settings are refused. -/
inductive SettingsFault where
  /-- The variable of a group does not hold JSON. -/
  | unreadable (group : Group)
  /-- Findings about one group, or about the settings as a whole. -/
  | refused (group : Option Group) (findings : List Finding)
deriving Repr

end Settings

open Settings in
/-- The settings of the service. -/
structure Settings where
  environmentName : String := "development"
  service : ServiceSettings := {}
  server : ServerSettings := {}
  log : LogSettings := {}
  limits : LimitSettings := default

namespace Settings

instance : Inhabited Settings := ⟨{}⟩

/-- Groups given directly. -/
abbrev Given := Group → Option (List (String × Json))

/-- Read a group that was given directly, if it was. -/
def readGiven (given : Given) (environment : Environment) (group : Group) :
    Except SettingsFault (Option group.Value) :=
  match given group with
  | none => .ok none
  | some members =>
    match group.readFrom members environment with
    | .accepted value => .ok (some value)
    | .refused findings => .error (.refused (some group) findings)

/-- The JSON value of the variable of a group, if it is set and not null. -/
def wholeGroup (environment : Environment) (group : Group) :
    Except SettingsFault (Option Json) :=
  match environment.find? group.name with
  | none => .ok none
  | some text =>
    match Json.ofText? text with
    | none => .error (.unreadable group)
    | some .null => .ok none
    | some value => .ok (some value)

/-- Give members the names of settings that they spell in letters of another case. -/
def settleNames (names : List String) (members : List (String × Json)) : List (String × Json) :=
  Json.setMembers [] (members.map fun entry =>
    ((names.find? fun name => Text.lower name == Text.lower entry.1).getD entry.1, entry.2))

/-- Read a group from what was given, else from its own variable, else from the variables of its
settings. -/
def readGroup (environment : Environment) (group : Group) (given : Option group.Value)
    (whole : Option Json) : Except SettingsFault (Checked group.Value) :=
  match given, whole with
  | some value, _ => .ok (.accepted value)
  | none, some (.obj members) =>
    .ok ((group.readFrom (settleNames group.settingNames members) environment).under group.name)
  | none, some _ => .ok (.refused [⟨[group.name], .notGroup⟩])
  | none, none =>
    match group.readFrom [] environment with
    | .accepted value => .ok (.accepted value)
    | .refused findings => .error (.refused (some group) findings)

/-- The environment's name where no variable tells it. -/
def defaultEnvironmentName : String := "development"

/-- Read all settings. -/
def read (given : Given) (environment : Environment)
    (environmentName : String) : Except SettingsFault Settings := do
  let service ← readGiven given environment .service
  let server ← readGiven given environment .server
  let log ← readGiven given environment .log
  let limits ← readGiven given environment .limits
  let wholeService ← wholeGroup environment .service
  let wholeServer ← wholeGroup environment .server
  let wholeLog ← wholeGroup environment .log
  let wholeLimits ← wholeGroup environment .limits
  let service ← readGroup environment .service service wholeService
  let server ← readGroup environment .server server wholeServer
  let log ← readGroup environment .log log wholeLog
  let limits ← readGroup environment .limits limits wholeLimits
  let name := (environment.find? "app_env").getD environmentName
  let checked : Checked Settings :=
    Settings.mk name <$> service <*> server <*> log <*> limits
  match checked with
  | .accepted settings => .ok settings
  | .refused findings => .error (.refused none findings)

/-- The settings under their names, group by group. -/
def listing (settings : Settings) : List (String × Json) :=
  [("app_env", .str settings.environmentName),
   (Group.service.name, .obj settings.service.listing),
   (Group.server.name, .obj settings.server.listing),
   (Group.log.name, .obj settings.log.listing),
   (Group.limits.name, .obj settings.limits.listing)]

end Settings

end Turnstile
