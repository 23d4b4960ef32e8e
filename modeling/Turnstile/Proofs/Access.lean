import Mathlib.Logic.Relation
import Turnstile.Access
import Turnstile.Proofs.Text.Pieces

/-!
# Who is granted access

Access is granted when no key is asked for or the given key is one of the configured ones. A key is
configured when it is what trimming leaves of a segment between commas, so it does not matter in
which order the segments stand, how often, or with which blanks. Every refusal is a problem of
authentication; neither decision touches the state or depends on it.
-/

namespace Turnstile.Access

open Log

/-! ## Configured keys -/

/-- The segments of a text that configures keys. -/
def segments (configured : Option String) : List String :=
  Text.splitOnChar ',' (configured.getD "")

/-- The text has the segment between its commas and its ends. -/
def IsSegment (configured : Option String) (segment : String) : Prop :=
  Text.IsPiece ',' (configured.getD "").toList segment.toList

/-- The segments are the texts between commas. -/
theorem mem_segments_iff {configured : Option String} {segment : String} :
    segment ∈ segments configured ↔ IsSegment configured segment := by
  rw [segments, Text.splitOnChar, List.mem_map, IsSegment, ← Text.mem_splitAt_iff]
  constructor
  · rintro ⟨piece, listed, rfl⟩
    rwa [String.toList_ofList]
  · exact fun listed => ⟨_, listed, String.ofList_toList⟩

/-- The segments configure a key. -/
def Configures (segments : List String) (key : String) : Prop :=
  key ≠ "" ∧ ∃ segment ∈ segments, Text.strip segment = key

/-- The keys are what trimming leaves of the segments, where it leaves something. -/
theorem mem_keys_iff {configured : Option String} {key : String} :
    key ∈ keys configured ↔ Configures (segments configured) key := by
  rw [keys, List.mem_eraseDups, List.mem_filter, List.mem_map, Configures, segments, and_comm]
  simp only [Bool.not_eq_true', ← Bool.not_eq_true, String.isEmpty_iff]

/-- A text of blanks. -/
def IsBlank (text : String) : Prop := ∀ c ∈ text.toList, Text.isBlank c = true

/-- Segments stated in another way: in another order, one of them twice, one with blanks around it,
or with one more that is blank. -/
inductive Restates : List String → List String → Prop
  | permuted {first second : List String} (same : first.Perm second) : Restates first second
  | duplicated {segment : String} {segments : List String} (listed : segment ∈ segments) :
      Restates segments (segment :: segments)
  | padded {before after : String} (left : IsBlank before) (right : IsBlank after)
      (segment : String) (segments : List String) :
      Restates (segment :: segments) ((before ++ (segment ++ after)) :: segments)
  | blanked {blank : String} (empty : IsBlank blank) (segments : List String) :
      Restates segments (blank :: segments)

/-- Nothing is left of a blank text. -/
theorem strip_of_isBlank {text : String} (blank : IsBlank text) : Text.strip text = "" := by
  rw [Text.strip, Text.stripChars, Text.trimBy_of_all blank]

/-- Blanks around a text are trimmed. -/
theorem strip_padded {before after : String} (left : IsBlank before) (right : IsBlank after)
    (text : String) : Text.strip (before ++ (text ++ after)) = Text.strip text := by
  rw [Text.strip, Text.stripChars, String.toList_append, String.toList_append,
    Text.trimBy_append_append left right]
  rfl

/-- Segments stated in another way configure the same keys. -/
theorem Restates.configures_iff {first second : List String} (restates : Restates first second)
    (key : String) : Configures first key ↔ Configures second key := by
  unfold Configures
  refine and_congr_right fun filled => ?_
  cases restates with
  | permuted same => simp only [same.mem_iff]
  | duplicated listed =>
    simp only [List.exists_mem_cons_iff]
    exact ⟨.inr, fun found => found.elim (fun same => ⟨_, listed, same⟩) id⟩
  | padded left right => simp only [List.exists_mem_cons_iff, strip_padded left right]
  | blanked empty =>
    simp only [List.exists_mem_cons_iff, strip_of_isBlank empty]
    exact ⟨.inr, fun found => found.resolve_left filled.symm⟩

/-- Segments restated in turn, or restated back, configure the same keys. -/
theorem configures_iff_of_restates {first second : List String}
    (restates : Relation.EqvGen Restates first second) (key : String) :
    Configures first key ↔ Configures second key := by
  induction restates with
  | rel _ _ step => exact step.configures_iff key
  | refl => exact Iff.rfl
  | symm _ _ _ ih => exact ih.symm
  | trans _ _ _ _ _ ih next => exact ih.trans next

/-! ## Decisions -/

/-- Access is granted. -/
def grants (required : Bool) (configured given : Option String) : Bool :=
  !required || ((given.filter (!·.isEmpty)).map (keys configured).contains).getD false

/-- Where keys are asked for, access is granted to exactly the configured ones. -/
theorem grants_iff {configured given : Option String} :
    grants true configured given = true ↔ ∃ key, given = some key ∧ key ∈ keys configured := by
  rw [grants, Bool.not_true, Bool.false_or]
  cases given with
  | none => simp
  | some key =>
    cases filled : key.isEmpty with
    | false => simp [Option.filter, filled]
    | true =>
      have unlisted : key ∉ keys configured := fun listed =>
        (mem_keys_iff.mp listed).1 (String.isEmpty_iff.mp filled)
      simp [Option.filter, filled, unlisted]

/-- A key with a comma or with a blank at an end is not configured. -/
theorem plain_of_mem_keys {configured : Option String} {key : String}
    (listed : key ∈ keys configured) :
    ',' ∉ key.toList ∧ (∀ c, key.toList.head? = some c → Text.isBlank c = false) ∧
      ∀ c, key.toList.getLast? = some c → Text.isBlank c = false := by
  obtain ⟨_, segment, found, rfl⟩ := mem_keys_iff.mp listed
  rw [Text.toList_strip]
  refine ⟨fun member => ?_, fun c => Text.cut_of_head?_trimBy, fun c => Text.cut_of_getLast?_trimBy⟩
  exact (mem_segments_iff.mp found).1 (Text.mem_of_mem_trimBy member)

variable {ν : Type} (required : Bool) (configured given : Option String) (state : ν)

/-- The decision and its reasons depend on the configured keys only. -/
theorem verify_congr {other : Option String}
    (same : ∀ key, key ∈ keys configured ↔ key ∈ keys other) :
    (verify required configured given : Action ν Unit) = verify required other given := by
  have empty : (keys configured).isEmpty = (keys other).isEmpty := by
    rw [Bool.eq_iff_iff, List.isEmpty_iff, List.isEmpty_iff, List.eq_nil_iff_forall_not_mem,
      List.eq_nil_iff_forall_not_mem]
    simp only [same]
  have listed (key : String) : (keys configured).contains key = (keys other).contains key := by
    rw [Bool.eq_iff_iff, List.contains_iff_mem, List.contains_iff_mem, same]
  unfold verify
  simp only [empty, listed]

/-- Access that is granted is let through. -/
theorem verify_of_grants (granted : grants required configured given = true) :
    verify required configured given state = ⟨.ok (), [], state⟩ := by
  cases required with
  | false => rfl
  | true =>
    rw [grants, Bool.not_true, Bool.false_or] at granted
    cases asked : given.filter (!·.isEmpty) with
    | none =>
      rw [asked] at granted
      cases granted
    | some key =>
      rw [asked] at granted
      have listed : (keys configured).contains key = true := granted
      have configuredKeys : (keys configured).isEmpty = false := by
        cases found : keys configured with
        | nil => rw [found] at listed; cases listed
        | cons => rfl
      simp only [verify, if_true, configuredKeys, asked, listed]
      rfl

/-- Access that is not granted ends with one event and one problem of authentication, whatever the
state; the details of the problem can be written as JSON. -/
theorem exists_refusal (refused : grants required configured given = false) :
    ∃ event problem, problem.kind = .authentication ∧
      (Json.obj (problem.details.getD [])).isFinite = true ∧
      ∀ {ν : Type} (state : ν), verify required configured given state =
        ⟨.error (.problem problem), [event], state⟩ := by
  cases required with
  | false => cases refused
  | true =>
    rw [grants, Bool.not_true, Bool.false_or] at refused
    cases configuredKeys : (keys configured).isEmpty with
    | true =>
      simp only [verify, if_true, configuredKeys]
      exact ⟨_, _, rfl, rfl, fun _ => rfl⟩
    | false =>
      cases asked : given.filter (!·.isEmpty) with
      | none =>
        simp only [verify, if_true, configuredKeys, asked]
        exact ⟨_, _, rfl, rfl, fun _ => rfl⟩
      | some key =>
        rw [asked] at refused
        have missing : (keys configured).contains key = false := refused
        simp only [verify, if_true, configuredKeys, asked, missing]
        exact ⟨_, _, rfl, rfl, fun _ => rfl⟩

/-- Access that is not granted ends with a problem of authentication. -/
theorem verify_of_not_grants (refused : grants required configured given = false) :
    (verify required configured given state).state = state ∧
      ∃ problem, (verify required configured given state).outcome = .error (.problem problem) ∧
        problem.kind = .authentication := by
  obtain ⟨_, problem, kind, _, ends⟩ := exists_refusal required configured given refused
  rw [ends]
  exact ⟨rfl, problem, rfl, kind⟩

end Turnstile.Access
