import Turnstile.Net.Ip
import Turnstile.Text.Case

/-!
# Addresses of services

The parts of an address: a scheme, an authority that holds user, host and socket, a path and a
query. Control characters in front and line ends and tabs anywhere are passed over.
-/

namespace Turnstile.Net

/-- The parts of an address as they stand, with escapes. -/
structure Url where
  scheme : String
  authority : String
  path : String
  query : String
deriving DecidableEq, Repr, Inhabited

/-- What comes before the first occurrence of a character, and what comes after it if it occurs. -/
def cutAt (mark : Char) (text : String) : String × Option String :=
  let parts := text.toList.span (· != mark)
  match parts.2 with
  | _ :: after => (String.ofList parts.1, some (String.ofList after))
  | [] => (text, none)

/-- What comes before the last occurrence of a character if it occurs, and what comes after it. -/
def cutAtLast (mark : Char) (text : String) : Option String × String :=
  let parts := text.toList.reverse.span (· != mark)
  match parts.2 with
  | _ :: before => (some (String.ofList before.reverse), String.ofList parts.1.reverse)
  | [] => (none, text)

/-- The character may stand in a scheme. -/
def isSchemeChar (c : Char) : Bool := c.isAlphanum || c = '+' || c = '-' || c = '.'

/-- Take a scheme and its colon off the front; the scheme is empty if there is none. -/
def takeScheme (text : List Char) : List Char × List Char :=
  let parts := text.span (· != ':')
  match parts.2 with
  | _ :: rest =>
    if (parts.1.head?.map Char.isAlpha).getD false && parts.1.all isSchemeChar then
      (parts.1.map Char.toLower, rest)
    else ([], text)
  | [] => ([], text)

/-- Take an authority with the two slashes before it off the front. -/
def takeAuthority : List Char → List Char × List Char
  | '/' :: '/' :: rest => rest.span fun c => c != '/' && c != '?' && c != '#'
  | text => ([], text)

/-- Characters that stand for texts with a mark of an address in them. -/
def isMaskedMark (c : Char) : Bool :=
  [0x2047, 0x2048, 0x2049, 0x2100, 0x2101, 0x2105, 0x2106, 0x2A74, 0xFE13, 0xFE16, 0xFE55, 0xFE56,
   0xFE5F, 0xFE6B, 0xFF03, 0xFF0F, 0xFF1A, 0xFF1F, 0xFF20].contains c.toNat

/-- What stands in brackets is a numeric address, or has a form kept for the future. -/
def isBracketed (text : List Char) : Bool :=
  match text with
  | 'v' :: rest =>
    let parts := rest.span fun c => (Text.hexValue? c).isSome
    !parts.1.isEmpty && parts.2.head? = some '.' && 2 ≤ parts.2.length
  | _ => isNewerAddress text

/-- An authority has no masked marks, and its brackets enclose a numeric address. -/
def isAuthority (text : List Char) : Bool :=
  let after := (text.dropWhile (· != '[')).drop 1
  let paired := text.contains '[' == text.contains ']'
  let enclosed := after.takeWhile (· != ']')
  !text.any isMaskedMark && paired && (!text.contains '[' || isBracketed enclosed)

/-- Split an address; `none` when its authority is not one. -/
def Url.read? (text : String) : Option Url :=
  let shown := (text.toList.dropWhile fun c => c.toNat ≤ 0x20).filter fun c =>
    c != '\t' && c != '\r' && c != '\n'
  let (scheme, rest) := takeScheme shown
  let (authority, rest) := takeAuthority rest
  if isAuthority authority then
    let (path, query) := cutAt '?' (cutAt '#' (String.ofList rest)).1
    some ⟨String.ofList scheme, String.ofList authority, path, query.getD ""⟩
  else none

namespace Url

/-- User and password, where the authority names a user. -/
def credentials (url : Url) : String × Option String :=
  match cutAtLast '@' url.authority with
  | (some user, _) => cutAt ':' user
  | (none, _) => ("", none)

/-- The host and the number of its socket as they stand. -/
def hostAndSocket (url : Url) : String × String :=
  let place := (cutAtLast '@' url.authority).2
  match cutAt '[' place with
  | (_, some bracketed) =>
    let (host, after) := cutAt ']' bracketed
    (host, ((cutAt ':' (after.getD "")).2).getD "")
  | (_, none) =>
    let (host, socket) := cutAt ':' place
    (host, socket.getD "")

/-- The host in small letters; a zone keeps its own. -/
def host (url : Url) : String :=
  match cutAt '%' url.hostAndSocket.1 with
  | (name, some zone) => Text.lower name ++ "%" ++ zone
  | (name, none) => Text.lower name

/-- The number of the socket, if one is named; an error if it is no number or too large. -/
def socket? (url : Url) : Except Unit (Option Nat) :=
  let digits := url.hostAndSocket.2.toList
  if digits.isEmpty then .ok none
  else if digits.all Char.isDigit then
    let number := digits.foldl (fun acc c => acc * 10 + (c.toNat - '0'.toNat)) 0
    if number ≤ 65535 then .ok (some number) else .error ()
  else .error ()

/-- The text of a name or value in a query: a plus sign stands for a blank. -/
def queryText (text : String) : String :=
  Text.unescape (String.ofList (text.toList.map fun c => if c = '+' then ' ' else c))

/-- The names in the query with their values. A name without a value is passed over, and the first
value of a name counts. -/
def arguments (url : Url) : List (String × String) :=
  let pairs := (Text.splitOnChar '&' url.query).filterMap fun piece =>
    match cutAt '=' piece with
    | (name, some value) =>
      if value.isEmpty then none else some (queryText name, queryText value)
    | (_, none) => none
  pairs.foldl (fun acc entry =>
    if acc.any (·.1 == entry.1) then acc else acc ++ [entry]) []

end Url

end Turnstile.Net
