import Turnstile.Json.Value
import Turnstile.Net.Url
import Turnstile.Settings.Groups
import Turnstile.Validation.Numeral

/-!
# Connections to the counter server

An address of the counter server names the parts of a connection: host and socket, or the path of a
socket of the machine; user and password; the number of the database; and any part in its query.
The authority and a socket's path win over the query, and a database in the query over one in the
path. What the address does not name is left out, save the waiting times, which have their
settings.
-/

namespace Turnstile.Store

open Net Settings Validation

/-- The parts of a connection under their names. -/
abbrev Connection := List (String × Json)

namespace Connection

/-- The parts of a query that are whole numbers. -/
def wholeParts : List String := ["db", "max_connections", "health_check_interval"]

/-- The parts of a query that are waiting times. -/
def timeParts : List String := ["socket_timeout", "socket_connect_timeout"]

/-- The refusal of an address. -/
def refusal (text : String) : Failure := .ofKind .value text

/-- Read a part of the query. -/
def readPart (name value : String) : Except Failure Json :=
  let unsuited := refusal ("unsuited value of '" ++ name ++ "'")
  if wholeParts.contains name then
    match Numeral.count? value with
    | some number =>
      if name = "max_connections" ∧ number < 0 then
        .error (unsuited)
      else .ok (.int number)
    | none => .error unsuited
  else if timeParts.contains name then
    match Numeral.measure? value with
    | some number => .ok (.float number)
    | none => .error unsuited
  else .ok (.str value)

/-- Read all parts of the query. -/
def queryParts (url : Url) : Except Failure Connection :=
  url.arguments.mapM fun entry => do
    return (entry.1, ← readPart entry.1 (Text.unescape entry.2))

/-- A part that is a text, unless that is empty. -/
def textPart (name value : String) : Connection :=
  if value.isEmpty then [] else [(name, .str (Text.unescape value))]

/-- The parts that name who connects. -/
def userParts (url : Url) : Connection :=
  let (user, password) := url.credentials
  textPart "username" user ++ textPart "password" (password.getD "")

/-- The parts that name the socket at a host; number zero stands for none. -/
def socketParts (url : Url) : Except Failure Connection :=
  match url.socket? with
  | .error _ => .error (refusal "no such socket at a host")
  | .ok socket => .ok (match socket with
    | some number => if number = 0 then [] else [("port", Json.nat number)]
    | none => [])

/-- The part that names the database by the path, slashes aside; another path names none. -/
def databaseParts (url : Url) : Connection :=
  let shown := String.ofList ((Text.unescape url.path).toList.filter (· != '/'))
  match Numeral.count? shown with
  | some number => [("db", .int number)]
  | none => []

/-- The kinds of address that lead to a host. -/
def hostSchemes : List String := ["redis", "rediss"]

/-- The parts that the place of the server has, by the kind of address. -/
def placeParts (url : Url) (query : Connection) : Except Failure Connection :=
  if url.scheme = "unix" then .ok (textPart "path" url.path)
  else if hostSchemes.contains url.scheme then do
    let socket ← socketParts url
    let database := if (query.lookup "db").isSome then [] else databaseParts url
    return textPart "host" url.host ++ socket ++ database
  else .error (refusal
    "unknown kind of address")

/-- The parts of a connection that are told. -/
def shownParts : List String :=
  ["host", "port", "db", "username", "password", "path", "socket_timeout",
   "socket_connect_timeout", "decode_responses"]

/-- The connection that settings describe. -/
def ofSettings (settings : ServerSettings) : Except Failure Connection := do
  let own : Connection :=
    [("socket_timeout", .float settings.timeout),
     ("socket_connect_timeout", .float settings.connectTimeout),
     ("decode_responses", .bool true)]
  match Url.read? settings.url with
  | none => .error (refusal "Invalid URL")
  | some url =>
    let query ← queryParts url
    let place ← placeParts url query
    let named := Json.setMembers query (userParts url ++ place)
    return (Json.setMembers own named).filter fun part => shownParts.contains part.1

end Connection

end Turnstile.Store
