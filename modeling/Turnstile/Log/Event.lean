import Turnstile.Failure

/-!
# Events

What the service reports about its work, before any time, request or layout is added: a severity,
the name of the reporting part, a message and named fields in order.
-/

namespace Turnstile.Log

/-- How grave an event is; a greater rank is graver. -/
structure Severity where
  rank : Int
deriving DecidableEq, Repr, Inhabited

namespace Severity

/-- Details for those who look for a fault. -/
def debug : Severity := ⟨10⟩

/-- What happens in the ordinary way. -/
def info : Severity := ⟨20⟩

/-- What deserves notice. -/
def warning : Severity := ⟨30⟩

/-- What has gone wrong. -/
def error : Severity := ⟨40⟩

/-- What stops the service. -/
def critical : Severity := ⟨50⟩

/-- The ranks that have a name. -/
def named : List (Int × String) :=
  [(0, "NOTSET"), (10, "DEBUG"), (20, "INFO"), (30, "WARNING"), (40, "ERROR"), (50, "CRITICAL")]

/-- The name of a severity. -/
def name (severity : Severity) : String :=
  (named.lookup severity.rank).getD ("Level " ++ toString severity.rank)

/-- The severity that a name stands for; two names have a short form. -/
def ofName? (name : String) : Option Severity :=
  if name = "WARN" then some warning
  else if name = "FATAL" then some critical
  else (named.find? (·.2 == name)).map fun entry => ⟨entry.1⟩

end Severity

/-- One reported event. -/
structure Event where
  severity : Severity
  logger : String
  message : String
  fields : List (String × Json) := []
  /-- The last line of the trace of the failure that the event reports. -/
  trace : Option String := none
deriving Inhabited, Repr

end Turnstile.Log
