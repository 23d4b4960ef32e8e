import Turnstile.Proofs.Quota.Standing
import Turnstile.Service.Basic

/-!
# Windows as operators see them

Operators are shown what the book has, and empty one quota of it. Every window that the book has can
be written as JSON: no count is negative and the end lies in the calendar.
-/

namespace Turnstile.Service

open Http Quota Store Time

/-! ## What is shown -/

/-- The end of a window that starts at the instant, as answers show it. -/
def endText (policy : Policy) (now : Int) (scope : Scope) : String :=
  match Time.statusText (now + (policy.limitOf scope).window) with
  | .ok text => text
  | .error _ => ""

/-- The window of a quota as operators see it. -/
def shownWindow (policy : Policy) (now : Int) (book : Book) (scope : Scope) (identifier : String) :
    Json :=
  WindowView.toJson ⟨book.look policy now scope identifier, endText policy now scope⟩

/-- Several windows of an identifier as operators see them, each under its label. -/
def shownWindows (policy : Policy) (now : Int) (book : Book) (scopes : List (String × Scope))
    (identifier : String) : Json :=
  .obj [("scopes", .obj (scopes.map fun entry =>
    (entry.1, shownWindow policy now book entry.2 identifier)))]

/-- A response with a JSON value of status 200. -/
def shown (value : Json) : Response :=
  Response.ofText 200 "application/json" (Json.compact value) []

/-- A verdict without negative counts is shown with the end of its window. -/
theorem jsonOf_of_told {verdict : Verdict} {text : String}
    (told : Time.statusText verdict.resetTime = .ok text) (left : 0 ≤ verdict.remaining)
    (counted : 0 ≤ verdict.totalHits) :
    WindowView.jsonOf verdict = .ok (WindowView.toJson ⟨verdict, text⟩) := by
  have count {value : Int} (name : String) (nonnegative : 0 ≤ value) :
      Validation.Checked.ofExcept name (Validation.Reading.wholeFrom 0 (.int value)) =
        .accepted ⟨value, nonnegative⟩ := by
    have read : Validation.Reading.wholeFrom 0 (.int value) = .ok ⟨value, nonnegative⟩ :=
      dif_pos nonnegative
    rw [read]
    rfl
  have checked : WindowView.check ⟨verdict, text⟩ = .accepted ⟨verdict, text⟩ := by
    unfold WindowView.check
    simp only [count _ left, count _ counted]
    rfl
  have viewed : WindowView.ofVerdict verdict = .ok ⟨verdict, text⟩ := by
    unfold WindowView.ofVerdict
    rw [told]
    rfl
  unfold WindowView.jsonOf
  rw [viewed]
  simp only [bind, Except.bind, checked]
  rfl

/-- No count is negative, so the window is shown. -/
theorem jsonOf_look {policy : Policy} {here : Instant} (timely : here.IsTimely policy)
    {book : Book} {scope : Scope} {identifier : String}
    (fits : book.hits policy here.now scope identifier ≤ (policy.limitOf scope).capacity) :
    WindowView.jsonOf (book.look policy here.now scope identifier) =
      .ok (shownWindow policy here.now book scope identifier) := by
  obtain ⟨text, told⟩ := statusText_of_calendar (timely.earliest_le scope) (timely.before scope)
  have left : 0 ≤ (policy.limitOf scope).capacity - book.hits policy here.now scope identifier := by
    omega
  have counted : 0 ≤ book.hits policy here.now scope identifier := Int.natCast_nonneg _
  have ended : endText policy here.now scope = text := by
    rw [endText, told]
  have view := @jsonOf_of_told (book.look policy here.now scope identifier) text told left counted
  rw [view, shownWindow, ended]

/-- Members with names of their own are all set. -/
theorem setMembers_of_nodup (members updates : List (String × Json))
    (distinct : ((members ++ updates).map Prod.fst).Nodup) :
    Json.setMembers members updates = members ++ updates := by
  induction updates generalizing members with
  | nil => exact (List.append_nil members).symm
  | cons update rest ih =>
    have absent : (members.any (·.1 == update.1)) = false := by
      refine List.any_eq_false.mpr fun entry listed same => ?_
      rw [List.map_append, List.nodup_append] at distinct
      exact distinct.2.2 entry.1 (List.mem_map_of_mem listed) update.1
        (List.mem_map_of_mem (List.mem_cons_self ..)) (eq_of_beq same)
    have set : Json.setMember members update.1 update.2 = members ++ [update] := by
      rw [Json.setMember, absent]
      rfl
    rw [Json.setMembers, List.foldl_cons, set]
    rw [List.append_cons] at distinct
    rw [List.append_cons members update rest]
    exact ih _ distinct

/-- Verdicts that can be shown, under labels of their own, are shown together. -/
theorem windowsJson_of_told {α : Type} {verdict : α → Verdict} {view : α → Json}
    {entries : List (String × α)}
    (told : ∀ entry ∈ entries, WindowView.jsonOf (verdict entry.2) = .ok (view entry.2))
    (distinct : (entries.map Prod.fst).Nodup) :
    windowsJson (entries.map fun entry => (entry.1, verdict entry.2)) =
      .ok (.obj [("scopes", .obj (entries.map fun entry => (entry.1, view entry.2)))]) := by
  have views : ((entries.map fun entry => (entry.1, verdict entry.2)).mapM fun entry => do
      return (entry.1, ← WindowView.jsonOf entry.2) : Except Failure (List (String × Json))) =
        .ok (entries.map fun entry => (entry.1, view entry.2)) := by
    clear distinct
    induction entries with
    | nil => rfl
    | cons entry rest ih =>
      obtain ⟨own, others⟩ := List.forall_mem_cons.mp told
      rw [List.map_cons, List.mapM_cons, ih others, own]
      rfl
  unfold windowsJson
  rw [views]
  simp only [bind, Except.bind]
  rw [setMembers_of_nodup]
  · rfl
  · rw [List.nil_append, List.map_map]
    exact distinct

/-- The windows of several looks, under labels of their own, are shown. -/
theorem windowsJson_look {policy : Policy} {here : Instant} (timely : here.IsTimely policy)
    {book : Book} {identifier : String}
    (fits : ∀ scope, book.hits policy here.now scope identifier ≤ (policy.limitOf scope).capacity)
    {scopes : List (String × Scope)} (distinct : (scopes.map Prod.fst).Nodup) :
    windowsJson (scopes.map fun entry =>
        (entry.1, book.look policy here.now entry.2 identifier)) =
      .ok (shownWindows policy here.now book scopes identifier) :=
  @windowsJson_of_told Scope (book.look policy here.now · identifier)
    (shownWindow policy here.now book · identifier) scopes
    (fun entry _ => jsonOf_look timely (fits entry.2)) distinct

/-- An object of finite members is written. -/
theorem membersFinite_of_forall {members : List (String × Json)}
    (finite : ∀ member ∈ members, member.2.isFinite = true) :
    Json.membersFinite members = true := by
  induction members with
  | nil => rfl
  | cons member rest ih =>
    rw [Json.membersFinite, Json.memberFinite, finite member (List.mem_cons_self ..),
      ih fun other listed => finite other (List.mem_cons_of_mem _ listed)]
    rfl

/-- A finite value that is there is responded with. -/
theorem respond_of_isFinite {value : Json} (finite : value.isFinite = true) {σ : Type}
    (node : Node σ) :
    (Action.ofExcept (.ok value) >>= fun body => respond 200 body []) node =
      ⟨.ok (shown value), [], node⟩ := by
  have written : Response.ofJson 200 value [] = .ok (shown value) := if_pos finite
  simp only [respond, Action.bind_apply, Action.ofExcept, Action.done, written, List.nil_append]

/-- A window as it is shown can be written. -/
theorem isFinite_shownWindow (policy : Policy) (now : Int) (book : Book) (scope : Scope)
    (identifier : String) : (shownWindow policy now book scope identifier).isFinite = true := rfl

/-- Windows as they are shown can be written. -/
theorem isFinite_shownWindows (policy : Policy) (now : Int) (book : Book)
    (scopes : List (String × Scope)) (identifier : String) :
    (shownWindows policy now book scopes identifier).isFinite = true := by
  have members : Json.membersFinite (scopes.map fun entry =>
      (entry.1, shownWindow policy now book entry.2 identifier)) = true := by
    refine membersFinite_of_forall fun member listed => ?_
    obtain ⟨entry, _, rfl⟩ := List.mem_map.mp listed
    rfl
  rw [shownWindows, Json.isFinite, Json.membersFinite, Json.memberFinite, Json.isFinite, members]
  rfl

/-! ## Looks and resets -/

section Looking

variable (service : Service) {done : List Instant} {here : Instant} {spare : Nat} {book : Book}
  {node : Node Local} (apart : service.policy.KeepsApart)
  (inTurn : ∀ earlier ∈ done, earlier.Precedes here) (timely : here.IsTimely service.policy)
  (stands : Stands service.policy done here spare book node)

include apart inTurn timely stands

/-- A window is shown as the book has it, and the book stays. -/
theorem showWindow_spec (scope : Scope) (identifier : String) :
    (service.showWindow scope identifier here.now node).outcome =
        .ok (shown (shownWindow service.policy here.now book scope
          (quotaIdentifier scope identifier))) ∧
      Stands service.policy done here spare book
        (service.showWindow scope identifier here.now node).state := by
  obtain ⟨told, left⟩ := stands.status apart inTurn timely scope (quotaIdentifier scope identifier)
  have fits := stands.hits_le apart inTurn scope (quotaIdentifier scope identifier)
  unfold showWindow
  rw [Action.bind_apply_ok told, jsonOf_look timely fits,
    respond_of_isFinite (isFinite_shownWindow ..)]
  exact ⟨rfl, left⟩

/-- Several windows are shown as the book has them, and the book stays. -/
theorem showWindows_spec {scopes : List (String × Scope)} (distinct : (scopes.map Prod.fst).Nodup)
    (identifier : String) :
    (service.showWindows scopes identifier here.now node).outcome =
        .ok (shown (shownWindows service.policy here.now book scopes identifier)) ∧
      Stands service.policy done here spare book
        (service.showWindows scopes identifier here.now node).state := by
  have look (entry : String × Scope) (state : Node Local)
      (stands : Stands service.policy done here spare book state) :
      let step := (do
        return (entry.1, ← Quota.status service.policy entry.2 identifier here.now) :
          Action (Node Local) (String × Verdict)) state
      step.outcome = .ok (entry.1, book.look service.policy here.now entry.2 identifier) ∧
        Stands service.policy done here spare book step.state := by
    obtain ⟨told, left⟩ := stands.status apart inTurn timely entry.2 identifier
    simp only [Action.bind_apply_ok told]
    exact ⟨rfl, left⟩
  obtain ⟨told, left⟩ := Action.mapM_spec look scopes stands
  have fits scope := stands.hits_le apart inTurn scope identifier
  unfold showWindows Quota.statuses
  rw [Action.bind_apply_ok told, windowsJson_look timely fits distinct,
    respond_of_isFinite (isFinite_shownWindows ..)]
  exact ⟨rfl, left⟩

/-- A budget is emptied in the book. -/
theorem resetWindow_spec (scope : Scope) (identifier : String) :
    (service.resetWindow scope identifier node).outcome = .ok (Response.ofStatus 204) ∧
      Stands service.policy done here spare
        (book.cleared scope (quotaIdentifier scope identifier))
        (service.resetWindow scope identifier node).state := by
  obtain ⟨told, left⟩ := stands.reset apart inTurn timely scope (quotaIdentifier scope identifier)
  unfold resetWindow
  rw [Action.bind_apply_ok told]
  exact ⟨rfl, left⟩

end Looking

end Turnstile.Service
