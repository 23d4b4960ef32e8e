import Turnstile.Http.Route
import Turnstile.Proofs.Text.Pieces
import Turnstile.Scope

/-!
# Paths of operators

A path splits into the segments that it is joined from. The path of a quota is taken by the
endpoints for one quota, and the paths of tenants, users and administrators by their own.
-/

namespace Turnstile

namespace Http

/-- A request that an endpoint takes has the method of the endpoint. -/
theorem method_of_dispatch {method path : String} {endpoint : Endpoint} {arguments : List String}
    (taken : dispatch method path = .taken endpoint arguments) : endpoint.method = method := by
  unfold dispatch at taken
  simp only at taken
  split at taken
  · rename_i found
    obtain ⟨rfl, rfl⟩ := Dispatch.taken.inj taken
    have same := List.find?_some found
    exact eq_of_beq same
  · split at taken
    · cases taken
    · split at taken <;> cases taken

/-- The characters of a path with the segments. -/
def joined (segments : List String) : List Char :=
  segments.flatMap fun segment => '/' :: segment.toList

/-- Without segments there is no path. -/
theorem joined_nil : joined [] = [] := rfl

/-- A path starts with a slash and its first segment. -/
theorem joined_cons (segment : String) (rest : List String) :
    joined (segment :: rest) = '/' :: segment.toList ++ joined rest := rfl

/-- A path splits into the segments that follow its slashes. -/
theorem segmentsOf_of_toList {path : String} {segments : List String}
    (plain : ∀ segment ∈ segments, '/' ∉ segment.toList)
    (characters : path.toList = joined segments) : segmentsOf path = some segments := by
  have none : '/' ∉ ([] : List Char) := List.not_mem_nil
  have others : ∀ piece ∈ segments.map String.toList, '/' ∉ piece := List.forall_mem_map.mpr plain
  have pieces : path.toList = [] ++ (segments.map String.toList).flatMap ('/' :: ·) := by
    rw [List.nil_append, List.flatMap_map, characters, joined]
  have split : Text.splitOnChar '/' path = "" :: segments := by
    rw [Text.splitOnChar, pieces, Text.splitAt_append_flatMap none others, List.map_cons,
      List.map_map]
    simp only [Function.comp_def, String.ofList_toList, List.map_id']
  simp only [segmentsOf, split]

/-- The path of an operator's request about an identifier. -/
def operatorPath (subject identifier : String) : String :=
  "/v1/rate-limits/" ++ subject ++ "/" ++ identifier

section Segments

variable {subject identifier : String} (plain : '/' ∉ subject.toList)
  (simple : '/' ∉ identifier.toList)
include plain simple

/-- The segments of an operator's path. -/
theorem segmentsOf_operatorPath :
    segmentsOf (operatorPath subject identifier) =
      some ["v1", "rate-limits", subject, identifier] := by
  have version : '/' ∉ "v1".toList := by decide
  have space : '/' ∉ "rate-limits".toList := by decide
  have start : "/v1/rate-limits/".toList =
      '/' :: "v1".toList ++ ('/' :: "rate-limits".toList ++ ['/']) := by decide
  have between : "/".toList = ['/'] := by decide
  refine segmentsOf_of_toList ?_ ?_
  · simp only [List.forall_mem_cons]
    exact ⟨version, space, plain, simple, fun _ none => nomatch none⟩
  · unfold operatorPath
    rw [String.toList_append, String.toList_append, String.toList_append, start, between]
    simp only [joined_cons, joined_nil, List.append_assoc, List.cons_append, List.nil_append,
      List.append_nil]

/-- An endpoint fits an operator's path as it fits the segments. -/
theorem arguments?_operatorPath (endpoint : Endpoint) :
    endpoint.arguments? (operatorPath subject identifier) =
      fit endpoint.pieces ["v1", "rate-limits", subject, identifier] := by
  rw [Endpoint.arguments?, segmentsOf_operatorPath plain simple]
  rfl

end Segments

section Dispatching

variable {identifier : String} (filled : identifier ≠ "") (simple : '/' ∉ identifier.toList)
include filled simple

/-- The path of a quota is taken by the endpoint that shows it, or by the one that empties it. -/
theorem dispatch_quota (scope : Scope) :
    dispatch "GET" (operatorPath scope.name identifier) =
        .taken .scopeStatus [scope.name, identifier] ∧
      dispatch "DELETE" (operatorPath scope.name identifier) =
        .taken .scopeReset [scope.name, identifier] := by
  have plain : '/' ∉ scope.name.toList := by cases scope <;> decide
  have full : identifier.isEmpty = false :=
    Bool.eq_false_iff.mpr (mt String.isEmpty_iff.mp filled)
  unfold dispatch
  simp only [arguments?_operatorPath plain simple, Endpoint.all, List.filterMap_cons,
    List.filterMap_nil, Endpoint.pieces]
  cases scope <;> simp [fit, full, Scope.name, Endpoint.method]

end Dispatching

section Acceptance

/-- The path of a visit to an invitation. -/
def acceptancePath (token : String) : String := "/v1/invitation-acceptance/" ++ token

variable {token : String} (filled : token ≠ "") (simple : '/' ∉ token.toList)
include filled simple

/-- The path of an invitation is taken by the endpoint that opens it, or by the one that accepts
it. -/
theorem dispatch_acceptance :
    dispatch "GET" (acceptancePath token) = .taken .openInvitation [token] ∧
      dispatch "POST" (acceptancePath token) = .taken .acceptInvitation [token] := by
  have version : '/' ∉ "v1".toList := by decide
  have space : '/' ∉ "invitation-acceptance".toList := by decide
  have segments : segmentsOf (acceptancePath token) =
      some ["v1", "invitation-acceptance", token] := by
    have start : "/v1/invitation-acceptance/".toList =
        '/' :: "v1".toList ++ ('/' :: "invitation-acceptance".toList ++ ['/']) := by decide
    refine segmentsOf_of_toList ?_ ?_
    · simp only [List.forall_mem_cons]
      exact ⟨version, space, simple, fun _ none => nomatch none⟩
    · unfold acceptancePath
      rw [String.toList_append, start]
      simp only [joined_cons, joined_nil, List.append_assoc, List.cons_append, List.nil_append,
        List.append_nil]
  have arguments (endpoint : Endpoint) : endpoint.arguments? (acceptancePath token) =
      fit endpoint.pieces ["v1", "invitation-acceptance", token] := by
    rw [Endpoint.arguments?, segments]
    rfl
  have full : token.isEmpty = false := Bool.eq_false_iff.mpr (mt String.isEmpty_iff.mp filled)
  unfold dispatch
  simp only [arguments, Endpoint.all, List.filterMap_cons, List.filterMap_nil, Endpoint.pieces]
  constructor <;> simp [fit, full, Endpoint.method]

end Acceptance

end Http

end Turnstile
