import Turnstile.Json.Writer
import Turnstile.Log.Event
import Turnstile.Log.Scrub
import Turnstile.Policy.Limit
import Turnstile.Time.Instant

/-!
# Log records and their lines

A record is an event at an instant. Two passes prepare it: one attaches the identifier of the
request at hand, one scrubs the fields. Two layouts write it: one JSON object per line, or a plain
line. The JSON layout scrubs a record that no pass has scrubbed.
-/

namespace Turnstile.Log

open Time

/-- A record. Its fields include those that a pass has attached. -/
structure Record where
  created : Int
  severity : Severity
  logger : String
  message : String
  fields : List (String × Json) := []
  trace : Option String := none
deriving Inhabited, Repr

/-- The record of an event at an instant. -/
def Record.ofEvent (created : Int) (event : Event) : Record :=
  ⟨created, event.severity, event.logger, event.message, event.fields, event.trace⟩

/-- The names that every record uses itself. -/
def builtinNames : List String :=
  ["name", "msg", "args", "levelname", "levelno", "pathname", "filename", "module", "exc_info",
   "exc_text", "stack_info", "lineno", "funcName", "created", "msecs", "relativeCreated", "thread",
   "threadName", "processName", "process"]

/-- The names that a field may not have. -/
def refusedNames : List String := ["message", "asctime"] ++ builtinNames

/-- The names that are not shown as fields. -/
def hiddenNames : List String := builtinNames ++ ["message", "asctime", "taskName"]

/-- The field under which the request identifier stands. -/
def requestField : String := "request_id"

/-- The field that marks a scrubbed record. -/
def scrubbedMark : String := "_scrubbed"

/-- The field is shown. -/
def isVisible (name : String) : Bool :=
  !hiddenNames.contains name && name.toList.head? != some '_'

namespace Record

/-- A pass has scrubbed the record. -/
def isScrubbed (record : Record) : Bool :=
  ((record.fields.lookup scrubbedMark).map Json.truthy).getD false

/-- The fields that are shown. -/
def visible (record : Record) : List (String × Json) :=
  record.fields.filter fun entry => isVisible entry.1

/-- A record is refused if a field has a name that it may not have. -/
def checked (record : Record) : Except Failure Record :=
  match record.fields.find? fun entry => refusedNames.contains entry.1 with
  | some (name, _) => .error (.ofKind .key name)
  | none => .ok record

/-- Attach the identifier of the request at hand, unless the record has one. -/
def attachRequest (request : Option String) (record : Record) : Record :=
  match record.fields.lookup requestField with
  | some value =>
    if value.isNull then
      { record with fields := Json.setMember record.fields requestField (Json.ofOption request) }
    else record
  | none =>
    { record with fields := Json.setMember record.fields requestField (Json.ofOption request) }

/-- Scrub the shown fields once. -/
def scrub (rules : ScrubRules) (record : Record) : Record :=
  if record.isScrubbed then record
  else
    let fields := record.fields.map fun entry =>
      if isVisible entry.1 then rules.scrubMember entry else entry
    { record with fields := Json.setMember fields scrubbedMark (.bool true) }

/-- The members of the JSON line of a record. -/
def members (rules : ScrubRules) (request : Option String) (record : Record) :
    Except Failure (List (String × Json)) := do
  let time ← (logText record.created).mapError TimeError.failure
  let header : List (String × Json) :=
    [("timestamp", .str time), ("level", .str (Text.lower record.severity.name)),
     ("logger", .str record.logger), ("message", .str record.message)]
  let shown :=
    if record.isScrubbed then record.visible
    else record.visible.map rules.scrubMember
  let merged := Json.setMembers header shown
  let own := (merged.lookup requestField).filter Json.truthy
  let bound := own.or ((request.map Json.str).filter Json.truthy)
  let identified := match bound with
    | some value => Json.setMember merged requestField value
    | none => Json.dropMember merged requestField
  return match record.trace with
    | some trace => Json.setMember identified "exc_info" (.str trace)
    | none => identified

/-- The JSON line of a record. -/
def jsonLine (rules : ScrubRules) (asciiOnly : Bool) (request : Option String) (record : Record) :
    Except Failure String := do
  let members ← record.members rules request
  return Json.write (Json.Dialect.line asciiOnly) (.obj members)

/-- The plain line of a record. -/
def plainLine (record : Record) : Except Failure String := do
  let time ← (plainText record.created).mapError TimeError.failure
  let request := match record.fields.lookup requestField with
    | none => "-"
    | some value => if value.isNull then "-" else Text.valueText value
  return time ++ " " ++ record.severity.name ++ " " ++ record.logger ++ " [" ++ request ++ "] " ++
    record.message

end Record

/-- The layouts of a log line. -/
inductive LineFormat where
  | json
  | plain
deriving DecidableEq, Repr, Inhabited

/-- A record as the handler writes it: both passes, then the layout. -/
def Record.line (format : LineFormat) (request : Option String) (record : Record) :
    Except Failure String :=
  let passed := (record.attachRequest request).scrub ScrubRules.defaults
  match format with
  | .json => passed.jsonLine ScrubRules.defaults true request
  | .plain => passed.plainLine

/-- The members of a record as the handler writes it in JSON. -/
def Record.handled (request : Option String) (record : Record) :
    Except Failure (List (String × Json)) :=
  ((record.attachRequest request).scrub ScrubRules.defaults).members ScrubRules.defaults request

end Turnstile.Log
