import Turnstile.Text.Blank
import Turnstile.Text.Case

/-!
# Callers

Who makes a request: the identity vouched for before the service, or what the identity headers
say, and the client's address. The address is the first forwarded hop unless that is blank, or the
real address header cut at its ends, or the peer, or a fixed word.
-/

namespace Turnstile

/-- Headers of a request, names in small letters, in the order received. -/
abbrev Headers := List (String × String)

/-- The value of the first header of that name. -/
def Headers.first? (headers : Headers) (name : String) : Option String := headers.lookup name

/-- A caller; any part may be missing. -/
structure Principal where
  userId : Option String := none
  tenantId : Option String := none
  roles : List String := []
deriving DecidableEq, Repr, Inhabited

namespace Principal

/-- One text occurs inside another. -/
def occursIn (needle : List Char) : List Char → Bool
  | [] => needle.isEmpty
  | c :: rest => needle.isPrefixOf (c :: rest) || occursIn needle rest

/-- Some role names an administrator, in letters of either case. -/
def isAdmin (principal : Principal) : Bool :=
  principal.roles.any fun role => occursIn "admin".toList (Text.lowerChars role.toList)

/-- The roles of a header value: the pieces between commas, cut at their ends, blanks left out. -/
def parseRoles (value : String) : List String :=
  ((Text.splitOnChar ',' value).map Text.strip).filter (!·.isEmpty)

/-- A header value, unless it is missing or empty. -/
def nonEmpty? (value : Option String) : Option String := value.filter (!·.isEmpty)

/-- The caller that the identity headers describe. -/
def ofHeaders (headers : Headers) : Principal where
  userId := nonEmpty? (headers.first? "x-user-id")
  tenantId := nonEmpty? (headers.first? "x-tenant-id")
  roles := ((headers.first? "x-user-roles").map parseRoles).getD []

end Principal

/-- The address of a client, from its headers and its peer. -/
def clientAddress (headers : Headers) (peer : Option String) : String :=
  let hop := (headers.first? "x-forwarded-for").map fun value =>
    Text.strip ((Text.splitOnChar ',' value).headD "")
  match Principal.nonEmpty? hop with
  | some address => address
  | none =>
    match Principal.nonEmpty? (headers.first? "x-real-ip") with
    | some address => Text.strip address
    | none => (Principal.nonEmpty? peer).getD "unknown"

end Turnstile
