import Turnstile.Http.Refusal
import Turnstile.Proofs.Json.Wide

/-!
# What becomes of refusals

Refused inputs are answered with status 422 and an object that tells the details, or not at all: an
input may lie deeper than there is room for, hold bytes that are no text, or hold a number or a
surrogate that cannot be written. Where none does, there is a response.
-/

namespace Turnstile.Http

open Text Validation

/-- A value is written: its numbers are finite, and its text has no surrogate. -/
def isWritable (value : Wide) : Bool := value.isFinite && (surrogateFault? value.compact).isNone

/-- An input can be shown, and what is shown of it is written. -/
def Input.isTold (room : Nat) (input : Input) : Bool :=
  match input.shown room with
  | .ok value => isWritable value
  | .error _ => false

/-- An input is shown, or it is a fault to show it. -/
theorem Input.exists_fault_of_shown {room : Nat} {input : Input} {failure : Failure}
    (failed : input.shown room = .error failure) : ∃ fault, failure = .fault fault := by
  unfold Input.shown at failed
  split at failed
  · split at failed
    · cases failed
    · exact ⟨_, (Except.error.inj failed).symm⟩
  · split at failed
    · cases failed
    · exact ⟨_, (Except.error.inj failed).symm⟩

namespace Refusal

/-- A refusal is told when its input is, and its place and bounds are finite. -/
def isTold (room : Nat) (refusal : Refusal) : Bool :=
  refusal.input.isTold room && Json.itemsFinite refusal.place && Json.membersFinite refusal.context

/-- It is a fault not to show a refusal. -/
theorem exists_fault_of_toWide {room : Nat} {refusal : Refusal} {failure : Failure}
    (failed : refusal.toWide room = .error failure) : ∃ fault, failure = .fault fault := by
  unfold toWide at failed
  cases seen : refusal.input.shown room with
  | error other =>
    rw [seen] at failed
    obtain rfl := Except.error.inj failed
    exact Input.exists_fault_of_shown seen
  | ok value =>
    rw [seen] at failed
    cases failed

variable {room : Nat} {refusals : List Refusal}

/-- It is a fault not to show several refusals. -/
theorem exists_fault_of_mapM {failure : Failure}
    (failed : refusals.mapM (toWide room) = .error failure) : ∃ fault, failure = .fault fault := by
  induction refusals with
  | nil => cases failed
  | cons refusal rest ih =>
    rw [List.mapM_cons] at failed
    cases first : refusal.toWide room with
    | error own =>
      rw [first] at failed
      obtain rfl := Except.error.inj failed
      exact exists_fault_of_toWide first
    | ok entry =>
      rw [first] at failed
      cases others : rest.mapM (toWide room) with
      | error later =>
        rw [others] at failed
        obtain rfl := Except.error.inj failed
        exact ih others
      | ok entries =>
        rw [others] at failed
        cases failed

end Refusal

namespace Response

variable {room : Nat} {refusals : List Refusal}

/-- Refused inputs are responded to with a JSON object that tells the details. -/
theorem exists_ofJson_of_ofRefusals {response : Response}
    (made : ofRefusals room refusals = .ok response) :
    ∃ details, ofJson 422 (.obj [("detail", details)]) [] = .ok response := by
  unfold ofRefusals at made
  cases shown : refusals.mapM (Refusal.toWide room) with
  | error failure =>
    rw [shown] at made
    cases made
  | ok entries =>
    rw [shown] at made
    obtain ⟨json, same, told⟩ := exists_ofJson_of_ofWide made
    obtain ⟨details, rfl⟩ := Wide.exists_detail_of_ofJson same.symm
    exact ⟨details, told⟩

/-- It is a fault not to respond with a value. -/
theorem exists_fault_of_ofWide {status : Nat} {value : Wide} {headers : List (String × String)}
    {failure : Failure} (failed : ofWide status value headers = .error failure) :
    ∃ fault, failure = .fault fault := by
  unfold ofWide at failed
  split at failed
  · split at failed
    · cases failed
    · rename_i fault found
      obtain rfl := Except.error.inj failed
      obtain ⟨_, -, rfl⟩ := Option.map_eq_some_iff.mp found
      exact ⟨_, rfl⟩
  · exact ⟨_, (Except.error.inj failed).symm⟩

/-- It is a fault not to respond to refused inputs. -/
theorem exists_fault_of_ofRefusals {failure : Failure}
    (failed : ofRefusals room refusals = .error failure) : ∃ fault, failure = .fault fault := by
  unfold ofRefusals at failed
  cases shown : refusals.mapM (Refusal.toWide room) with
  | error other =>
    rw [shown] at failed
    obtain rfl := Except.error.inj failed
    exact Refusal.exists_fault_of_mapM shown
  | ok entries =>
    rw [shown] at failed
    exact exists_fault_of_ofWide failed

end Response

end Turnstile.Http
