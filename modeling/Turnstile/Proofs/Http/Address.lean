import Turnstile.Http.Message
import Turnstile.Proofs.Net.Url

/-!
# Addresses of requests

The path that log lines show of a request is told, or it is a failure to tell it. It is told where
the host is an ordinary one. Over the texts that may follow a place in its path, it is never told,
or is always the same, or shows each text up to its first mark.
-/

namespace Turnstile.Http.Request

/-- The address of the request can be split, so that its path is told. -/
def isAddressed (request : Request) : Bool := request.shownPath.toOption.isSome

variable {request : Request}

/-- A request is addressed exactly when its path is told. -/
theorem isAddressed_iff : request.isAddressed = true ↔ ∃ path, request.shownPath = .ok path := by
  unfold isAddressed
  cases request.shownPath <;> simp [Except.toOption]

/-- A request is not addressed exactly when it is a failure to tell its path. -/
theorem isAddressed_eq_false_iff :
    request.isAddressed = false ↔ ∃ failure, request.shownPath = .error failure := by
  unfold isAddressed
  cases request.shownPath <;> simp [Except.toOption]

/-- With a query that is a text, an address is its origin, the path and what adds nothing to it. -/
theorem exists_addressOf_of_legible {query : String}
    (legible : Text.readText request.query = .ok query) :
    ∃ tail, (∀ text, Net.pathPart (text ++ tail) = Net.pathPart text) ∧
      ∀ path, request.addressOf path = .ok (request.origin ++ path ++ tail) := by
  unfold addressOf
  rw [legible]
  cases request.query.isEmpty with
  | true =>
    refine ⟨"", fun text => ?_, fun path => ?_⟩
    · rw [String.append_empty]
    · rw [String.append_empty]
      rfl
  | false =>
    refine ⟨"?" ++ query, fun text => ?_, fun path => ?_⟩
    · rw [← String.append_assoc]
      exact Net.pathPart_append_query text query
    · rw [← String.append_assoc]
      rfl

/-- With a query that is no text, there is no address of any path. -/
theorem addressOf_of_illegible {error : Text.DecodeError}
    (illegible : Text.readText request.query = .error error) (path : String) :
    request.addressOf path = .error (decodeFault request.query error) := by
  unfold addressOf
  rw [illegible]
  cases empty : request.query.isEmpty with
  | true =>
    rw [List.isEmpty_iff.mp empty] at illegible
    cases illegible
  | false => rfl

/-- A request without an address shows no path. -/
theorem shownPath_of_error {path : String} {failure : Failure}
    (fails : request.addressOf path = .error failure) :
    { request with path }.shownPath = .error failure := by
  have same : { request with path }.addressOf path = .error failure := fails
  rw [shownPath, same]

/-- A request whose address cannot be split shows no path. -/
theorem shownPath_of_none {path address : String} (addressed : request.addressOf path = .ok address)
    (unread : Net.Url.read? address = none) :
    { request with path }.shownPath = .error malformedAddress := by
  have same : { request with path }.addressOf path = .ok address := addressed
  simp only [shownPath, same, unread]

/-- A request whose address is split shows its path. -/
theorem shownPath_of_path {path address shown : String}
    (addressed : request.addressOf path = .ok address)
    (splits : (Net.Url.read? address).map Net.Url.path = some shown) :
    { request with path }.shownPath = .ok shown := by
  have same : { request with path }.addressOf path = .ok address := addressed
  obtain ⟨url, reads, rfl⟩ := Option.map_eq_some_iff.mp splits
  simp only [shownPath, same, reads]

/-- A request to an ordinary host is addressed, if its query is a text. -/
theorem isAddressed_of_ordinary {host query : String} (origin : request.origin = "http://" ++ host)
    (ordinary : ∀ c ∈ host.toList, Net.isHostChar c = true)
    (rooted : request.path.toList.head? = some '/')
    (legible : Text.readText request.query = .ok query) : request.isAddressed = true := by
  obtain ⟨tail, -, addresses⟩ := exists_addressOf_of_legible legible
  have begins : (request.path ++ tail).toList.head? = some '/' := by
    rw [String.toList_append, List.head?_append, rooted, Option.some_or]
  have splits := Net.map_path_read?_of_ordinary ordinary begins
  rw [← origin, ← String.append_assoc] at splits
  exact isAddressed_iff.mpr ⟨_, shownPath_of_path (addresses request.path) splits⟩

/-- The path of the request shows what follows a place, up to its first mark. -/
def ShowsAfter (request : Request) (place : String) : Prop :=
  ∃ front, ∀ rest,
    { request with path := place ++ rest }.shownPath = .ok (front ++ Net.pathPart rest)

/-- A request to an ordinary host shows what follows a place, if its query is a text. -/
theorem showsAfter_of_ordinary (host : String) {query place : String}
    (origin : request.origin = "http://" ++ host)
    (ordinary : ∀ c ∈ host.toList, Net.isHostChar c = true)
    (legible : Text.readText request.query = .ok query)
    (isPlace : Net.IsPlace place.toList) (rooted : place.toList.head? = some '/') :
    request.ShowsAfter place := by
  obtain ⟨tail, silent, addresses⟩ := exists_addressOf_of_legible legible
  refine ⟨place, fun rest => shownPath_of_path (addresses _) ?_⟩
  have begins : (place ++ (rest ++ tail)).toList.head? = some '/' := by
    rw [String.toList_append, List.head?_append, rooted, Option.some_or]
  have splits := Net.map_path_read?_of_ordinary ordinary begins
  rw [isPlace.pathPart_append, silent, ← origin] at splits
  simpa only [String.append_assoc] using splits

/-- Over what may follow a place, the path is never told, always the same, or shows what follows. -/
theorem shownPath_cases (request : Request) {place : String} (isPlace : Net.IsPlace place.toList) :
    (∃ failure, ∀ rest, { request with path := place ++ rest }.shownPath = .error failure) ∨
      (∃ path, ∀ rest, { request with path := place ++ rest }.shownPath = .ok path) ∨
      request.ShowsAfter place := by
  cases legible : Text.readText request.query with
  | error error =>
    exact .inl ⟨_, fun rest => shownPath_of_error (addressOf_of_illegible legible _)⟩
  | ok query =>
    obtain ⟨tail, silent, addresses⟩ := exists_addressOf_of_legible legible
    have whole (rest : String) : request.addressOf (place ++ rest) =
        .ok (request.origin ++ place ++ (rest ++ tail)) := by
      rw [addresses]
      simp only [String.append_assoc]
    rcases Net.exists_path_append request.origin isPlace with
      never | ⟨path, always⟩ | ⟨front, shows⟩
    · exact .inl ⟨_, fun rest => shownPath_of_none (whole rest) (never _)⟩
    · exact .inr (.inl ⟨path, fun rest => shownPath_of_path (whole rest) (always _)⟩)
    · refine .inr (.inr ⟨front, fun rest => shownPath_of_path (whole rest) ?_⟩)
      rw [shows, silent]

end Turnstile.Http.Request
