import Turnstile.Log.Volume
import Turnstile.Settings.Groups

/-!
# The journal

The log of the service as its settings describe it: which records are heard, how a line is laid
out, and where it goes. The client of the counter server is heard from warnings on, the web server
not at all; every other part is heard from the configured level on.
-/

namespace Turnstile.Service

open Log Settings

/-- The least severity that is logged under a name of a level; an unknown name stands for
information. -/
def thresholdOf (level : String) : Severity :=
  (Severity.ofName? (Text.upper level)).getD .info

/-- Where lines go, and what has gone there. -/
inductive Sink where
  | stream (text : String)
  | file (path : String) (retention : Option Retention) (volume : Volume)
deriving Repr, Inhabited

namespace Sink

/-- Add a line. -/
def write (text : String) : Sink → Sink
  | .stream before => .stream (before ++ text ++ "\n")
  | .file path retention volume => .file path retention (volume.write retention text)

/-- What the stream has received. -/
def streamText : Sink → String
  | .stream text => text
  | .file .. => ""

/-- The files under their paths. -/
def files : Sink → List (String × String)
  | .stream _ => []
  | .file path _ volume => volume.listing path

end Sink

/-- The log of the service. -/
structure Journal where
  threshold : Severity
  format : LineFormat
  sink : Sink
deriving Repr, Inhabited

namespace Journal

/-- Where the log file is if no path is given. -/
def defaultPath : String := "logs/tenant_ratelimit.log"

/-- The bounds of a log file; a size of zero stands for a file without bounds. -/
def retentionOf (settings : LogSettings) : Option Retention :=
  if settings.maxBytes = 0 then none else some ⟨settings.maxBytes, settings.backups⟩

/-- Open the log that settings describe. A directory cannot be written. -/
def start (settings : LogSettings) : Except Failure Journal := do
  let sink : Sink ← match settings.output with
    | .stream => pure (.stream "")
    | .file =>
      let given := (settings.filePath.filter (!·.isEmpty)).getD defaultPath
      let path := shortPath given
      if path.isEmpty then .error (.ofKind .directory given)
      else pure (.file path (retentionOf settings) {})
  return ⟨thresholdOf settings.level, settings.format, sink⟩

/-- The part of the program to which a logger belongs. -/
def partOf (logger : String) : String := (Text.splitOnChar '.' logger).headD ""

/-- The client of the counter server is heard from warnings on. -/
def clientThreshold (journal : Journal) : Severity :=
  if journal.threshold.rank < Severity.warning.rank then .warning else journal.threshold

/-- A record is made at all. The lowest rank of all is never heard. -/
def hears (journal : Journal) (logger : String) (severity : Severity) : Bool :=
  let least := if partOf logger = "redis" then journal.clientThreshold else journal.threshold
  decide (0 < severity.rank) && decide (least.rank ≤ severity.rank)

/-- The records of a logger are passed on to the log. -/
def passes (logger : String) : Bool := partOf logger != "uvicorn"

/-- The name of the logger that has none. -/
def rootLogger : String := "root"

/-- Log a record on behalf of a request. A record that has no line is left out. -/
def log (journal : Journal) (request : Option String) (record : Record) :
    Except Failure Journal := do
  if journal.hears record.logger record.severity then
    let logger := if record.logger.isEmpty then rootLogger else record.logger
    let made ← { record with logger }.checked
    match made.line journal.format request with
    | .ok text =>
      return if passes made.logger then { journal with sink := journal.sink.write text }
        else journal
    | .error _ => return journal
  else return journal

end Journal

end Turnstile.Service
