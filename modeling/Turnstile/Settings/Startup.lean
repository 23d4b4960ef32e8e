import Turnstile.Settings.Basic
import Turnstile.Settings.EnvFile

/-!
# Startup

The environment's name selects the file that supplements the environment before the settings are
read. An unknown name selects the file for development; under test no file is loaded.
-/

namespace Turnstile.Settings

/-- The environments that have a file of their own. -/
def environmentNames : List String := ["development", "testing", "staging", "production"]

/-- The file of an environment. -/
def fileNameOf (environmentName : String) : String :=
  if environmentNames.contains environmentName then ".env." ++ environmentName
  else ".env.development"

/-- What startup found. -/
structure Startup where
  environmentName : String
  fileName : String
  content : Option String
  /-- The file is to be loaded. -/
  loads : Bool
  /-- The environment with the file's variables. -/
  environment : Environment

/-- Select and load the file of an environment from the files at hand. -/
def Startup.run (environment : Environment) (files : List (String × String)) : Startup :=
  let name := (environment.spelled? "APP_ENV").getD defaultEnvironmentName
  let fileName := fileNameOf name
  let content := files.lookup fileName
  let underTest := ((environment.spelled? "TESTING").map fun value => !value.isEmpty).getD false
  let loads := content.isSome && !underTest
  let loaded := match content, underTest with
    | some text, false => EnvFile.load environment text
    | _, _ => environment
  ⟨name, fileName, content, loads, loaded⟩

/-- The settings after startup. -/
def Startup.settings (startup : Startup) : Except SettingsFault Settings :=
  Settings.read (fun _ => none) startup.environment startup.environmentName

end Turnstile.Settings
