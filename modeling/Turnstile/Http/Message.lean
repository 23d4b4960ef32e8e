import Turnstile.Caller
import Turnstile.Http.Url
import Turnstile.Json.Reader
import Turnstile.Net.Url

/-!
# Requests and responses

A request as it reaches the service and a response as it leaves. Header names are in small
letters. The path that log lines show of a request is that of its address, which not every request
has. A response made of JSON tells its length in bytes and its type, unless headers given for it
already do.
-/

namespace Turnstile

namespace Headers

/-- Set a header: the first of that name changes, others of that name go. -/
def set (headers : Headers) (name value : String) : Headers :=
  match headers with
  | [] => [(name, value)]
  | entry :: rest =>
    if entry.1 == name then (name, value) :: rest.filter (·.1 != name)
    else entry :: set rest name value

/-- Set a header unless one of that name is there. -/
def setIfAbsent (headers : Headers) (name value : String) : Headers :=
  if headers.any (·.1 == name) then headers else headers ++ [(name, value)]

/-- Names in small letters. -/
def small (headers : List (String × String)) : Headers :=
  headers.map fun entry => (Text.lower entry.1, entry.2)

end Headers

namespace Http

open Number Text

/-- A request. -/
structure Request where
  method : String := "GET"
  /-- The path, percent escapes already decoded, without a query. -/
  path : String
  /-- The query as it came. -/
  query : List UInt8 := []
  headers : Headers := []
  /-- What stands before the path in the address. -/
  origin : String := originOf (headers.first? "host")
  /-- The body as it came. -/
  body : List UInt8 := []
  /-- The host of the peer. -/
  peer : Option String := none
  /-- The caller that an outer layer vouches for. -/
  vouched : Option Principal := none
  /-- Seconds that handling the request takes. -/
  elapsed : Binary64 := Binary64.ofInt 0
  /-- How many arrays and objects within one another there is room for when the body is read. -/
  readRoom : Nat := 900
  /-- How many there is room for when what is refused of the body is shown. -/
  shownRoom : Nat := 900
deriving Repr, Inhabited

/-- The caller of a request. -/
def Request.principal (request : Request) : Principal :=
  request.vouched.getD (Principal.ofHeaders request.headers)

/-- The address of the client of a request. -/
def Request.address (request : Request) : String := clientAddress request.headers request.peer

/-- The address of a path at the origin of a request, with its query. -/
def Request.addressOf (request : Request) (path : String) : Except Failure String :=
  if request.query.isEmpty then .ok (request.origin ++ path)
  else match readText request.query with
    | .ok query => .ok (request.origin ++ path ++ "?" ++ query)
    | .error error => .error (decodeFault request.query error)

/-- An address whose authority is none. What the failure says of it is told nowhere. -/
def malformedAddress : Failure := .ofKind .value "Invalid URL"

/-- The path that log lines show: the path in the address of the request. -/
def Request.shownPath (request : Request) : Except Failure String :=
  match request.addressOf request.path with
  | .error failure => .error failure
  | .ok address =>
    match Net.Url.read? address with
    | some url => .ok url.path
    | none => .error malformedAddress

/-- A response. -/
structure Response where
  status : Nat
  headers : Headers
  body : String
deriving DecidableEq, Repr, Inhabited

namespace Response

/-- A response with a text of a type. -/
def ofText (status : Nat) (type body : String) (headers : List (String × String)) : Response :=
  let given := Headers.small headers
  ⟨status,
    (given.setIfAbsent "content-length" (toString body.utf8ByteSize)).setIfAbsent
      "content-type" type, body⟩

/-- JSON holds a number that JSON cannot name. -/
def notWritable : Failure := .ofKind .value "Out of range float values are not JSON compliant"

/-- A response with a JSON value. -/
def ofJson (status : Nat) (value : Json) (headers : List (String × String)) :
    Except Failure Response :=
  if value.isFinite then .ok (ofText status "application/json" (Json.compact value) headers)
  else .error notWritable

/-- A response with a JSON value whose texts may hold surrogates. -/
def ofWide (status : Nat) (value : Wide) (headers : List (String × String)) :
    Except Failure Response :=
  if value.isFinite then
    match surrogateFault? value.compact with
    | none => .ok (ofText status "application/json" (charsOf value.compact) headers)
    | some fault => .error fault
  else .error notWritable

/-- A response without a body or any word of one. -/
def ofStatus (status : Nat) : Response := ⟨status, [], ""⟩

/-- Add headers at the end. -/
def withHeaders (response : Response) (headers : List (String × String)) : Response :=
  { response with headers := response.headers ++ Headers.small headers }

end Response

/-- What the body of a request holds. -/
inductive Payload where
  | absent
  | json (value : Wide)
  | bytes (content : List UInt8)
deriving Repr

/-- The media type of a content type: what stands before the parameters, in small letters; plain
text unless it has two parts. -/
def mediaType (contentType : String) : String × String :=
  let essence := Text.lower (Text.strip ((Text.splitOnChar ';' contentType).headD ""))
  match Text.splitOnChar '/' essence with
  | [kind, subtype] => (kind, subtype)
  | _ => ("text", "plain")

/-- The content type announces JSON. -/
def announcesJson (contentType : String) : Bool :=
  let (kind, subtype) := mediaType contentType
  kind == "application" && (subtype == "json" || subtype.endsWith "+json")

/-- Read the body of a request. -/
def Request.payload (request : Request) : Except Json.ReadError Payload :=
  if request.body.isEmpty then .ok .absent
  else if ((request.headers.first? "content-type").map announcesJson).getD false then
    (Json.readBody request.readRoom request.body).map .json
  else .ok (.bytes request.body)

end Http

end Turnstile
