import Turnstile.Http.Refusal
import Turnstile.Limiter.Verdict
import Turnstile.Policy.Basic
import Turnstile.Validation.Reading

/-!
# Bodies

What the bodies of requests and responses hold: the orders that callers place, and the views of
their acceptance, of a window, of several windows and of the policy.
-/

namespace Turnstile.Service

open Http Text Validation

/-- A reader of one value of an order. -/
abbrev OrderReading (α : Type) := Wide → Except Complaint α

/-- A text made of characters, with bounds on their count. -/
def textWithin (least most : Nat) : OrderReading String
  | .str value =>
    match ofPoints? value with
    | some text => Reading.within least most text
    | none => .error .notUnicode
  | _ => .error .notText

/-- Null, or a text of any kind. -/
def anyText : OrderReading (Option (List Point))
  | .null => .ok none
  | .str value => .ok (some value)
  | _ => .error .notText

/-- The member of that name, read. -/
def orderMember {α : Type} (members : Wide.Members) (name : String) (reading : OrderReading α)
    (default? : Option α) : Checked α :=
  Reading.given (Wide.member? members name) name reading default?

/-- The order of an invitation. -/
structure InvitationOrder where
  email : String
  role : Option (List Point) := none
deriving DecidableEq, Repr

/-- Read the order of an invitation. -/
def InvitationOrder.read (members : Wide.Members) : Checked InvitationOrder :=
  InvitationOrder.mk
    <$> orderMember members "email" (textWithin 3 320) none
    <*> orderMember members "role" anyText (some none)

/-- An order of an invitation as a value. -/
def InvitationOrder.toWide (order : InvitationOrder) : Wide :=
  .obj [(points "email", .text order.email),
    (points "role", (order.role.map Wide.str).getD .null)]

/-- The order of a tenant. -/
structure TenantOrder where
  name : String
deriving DecidableEq, Repr

/-- Read the order of a tenant. -/
def TenantOrder.read (members : Wide.Members) : Checked TenantOrder :=
  TenantOrder.mk <$> orderMember members "name" (textWithin 1 200) none

/-- An order of a tenant as a value. -/
def TenantOrder.toWide (order : TenantOrder) : Wide := .obj [(points "name", .text order.name)]

/-- The input that a finding about the members of a body shows: the whole body where a member is
missing, else the member. -/
def shownInput (members : Wide.Members) (finding : Finding) : Wide :=
  match finding.complaint, finding.place with
  | .missing, _ => .obj members
  | _, name :: _ => (Wide.member? members name).getD .null
  | _, [] => .obj members

/-- Read an order from the body of a request. -/
def readOrder {α : Type} (read : Wide.Members → Checked α) : Payload → Except (List Refusal) α
  | .absent => .error [Refusal.ofComplaint [.str "body"] .missing (.json .null)]
  | .json (.obj members) =>
    match read members with
    | .accepted order => .ok order
    | .refused findings => .error (findings.map fun finding =>
        Refusal.ofComplaint (.str "body" :: finding.place.map .str) finding.complaint
          (.json (shownInput members finding)))
  | .json other => .error [Refusal.ofComplaint [.str "body"] .notObject (.json other)]
  | .bytes content => .error [Refusal.ofComplaint [.str "body"] .notObject (.bytes content)]

/-- The acknowledgement of an order. -/
structure Acceptance where
  status : String := "accepted"
  operation : String
  tenant : Option String := none
deriving DecidableEq, Repr

/-- Read an acknowledgement. -/
def Acceptance.read (members : List (String × Json)) : Checked Acceptance :=
  Acceptance.mk
    <$> Reading.member members "status" Reading.text (some "accepted")
    <*> Reading.member members "operation" Reading.text none
    <*> Reading.member members "tenant_id" (Reading.optional Reading.text) (some none)

/-- An acknowledgement as JSON. -/
def Acceptance.toJson (acceptance : Acceptance) : Json :=
  .obj [("status", .str acceptance.status), ("operation", .str acceptance.operation),
    ("tenant_id", Json.ofOption acceptance.tenant)]

/-- What an operator sees of a window. -/
structure WindowView where
  verdict : Verdict
  resetAt : String
deriving Repr

namespace WindowView

/-- The view of a verdict; its end must lie within the calendar. -/
def ofVerdict (verdict : Verdict) : Except Failure WindowView := do
  return ⟨verdict, ← (Time.statusText verdict.resetTime).mapError Time.TimeError.failure⟩

/-- No count is negative. -/
def check (view : WindowView) : Checked WindowView :=
  let count (name : String) (value : Int) : Checked { value : Int // 0 ≤ value } :=
    Checked.ofExcept name (Reading.wholeFrom 0 (.int value))
  (fun _ _ => view)
    <$> count "remaining" view.verdict.remaining
    <*> count "total_hits" view.verdict.totalHits

/-- A view as JSON. -/
def toJson (view : WindowView) : Json :=
  .obj [("allowed", .bool view.verdict.allowed), ("remaining", .int view.verdict.remaining),
    ("total_hits", .int view.verdict.totalHits), ("reset_time", .int view.verdict.resetTime),
    ("reset_at", .str view.resetAt)]

/-- A view with a negative count is not shown. -/
def impossible : Failure := .ofKind .value "negative count"

/-- The JSON of a verdict. -/
def jsonOf (verdict : Verdict) : Except Failure Json := do
  let view ← ofVerdict verdict
  match view.check with
  | .accepted checked => return checked.toJson
  | .refused _ => .error impossible

end WindowView

/-- The JSON of several windows, each under its label. -/
def windowsJson (verdicts : List (String × Verdict)) : Except Failure Json := do
  let views ← verdicts.mapM fun entry => do return (entry.1, ← WindowView.jsonOf entry.2)
  return .obj [("scopes", .obj (Json.setMembers [] views))]

/-- A limit as an operator sees it. -/
structure LimitView where
  window : Int
  capacity : Int
  keySpace : String
deriving DecidableEq, Repr

namespace LimitView

/-- The view of a limit. -/
def ofLimit (limit : Limit) : LimitView := ⟨limit.window, limit.capacity, limit.keySpace⟩

/-- Read a view. -/
def read (members : List (String × Json)) : Checked LimitView :=
  LimitView.mk
    <$> Reading.member members "window_ms" Reading.whole none
    <*> Reading.member members "max_requests" Reading.whole none
    <*> Reading.member members "key_prefix" Reading.text none

/-- A view as JSON. -/
def toJson (view : LimitView) : Json :=
  .obj [("window_ms", .int view.window), ("max_requests", .int view.capacity),
    ("key_prefix", .str view.keySpace)]

end LimitView

/-- The limits of the scopes as an operator sees them. -/
structure PolicyView where
  scopes : List (String × LimitView)
deriving Repr

namespace PolicyView

/-- The view of a table of limits. -/
def ofTable (table : List (Scope × Limit)) : PolicyView :=
  ⟨table.map fun entry => (entry.1.name, LimitView.ofLimit entry.2)⟩

/-- Read one scope of a view. -/
def readScope (entry : String × Json) : Checked (String × LimitView) :=
  match entry.2 with
  | .obj members => ((LimitView.read members).map fun view => (entry.1, view)).under entry.1
  | _ => .refused [⟨[entry.1], .notGroup⟩]

/-- Read a view. -/
def read (members : List (String × Json)) : Checked PolicyView :=
  match members.lookup "scopes" with
  | none => .refused [⟨["scopes"], .missing⟩]
  | some (.obj scopes) => ((Checked.each readScope scopes).map PolicyView.mk).under "scopes"
  | some _ => .refused [⟨["scopes"], .notMapping⟩]

/-- A view as JSON. -/
def toJson (view : PolicyView) : Json :=
  .obj [("scopes", .obj (view.scopes.map fun entry => (entry.1, entry.2.toJson)))]

end PolicyView

end Turnstile.Service
