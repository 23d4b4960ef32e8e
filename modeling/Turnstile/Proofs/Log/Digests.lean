import Turnstile.Proofs.Log.Scrubbing
import Turnstile.Proofs.Text.Digest

/-!
# Where digests stand for texts

A name that identifies someone reaches one step far: a text directly under it is digested, and a
text in a list or an object under it is not, unless another such name stands directly above it. The
names of secrets reach all the way down. An array stands for a sequence of either kind.
-/

namespace Turnstile

open Json (Label)

/-- A value that has parts counts as set. -/
theorem Json.truthy_of_part? {value part : Json} {label : Label}
    (found : value.part? label = some part) : value.truthy = true := by
  cases value with
  | arr items =>
    cases items with
    | nil => cases label <;> cases found
    | cons item rest => rfl
  | obj members =>
    cases members with
    | nil => cases label <;> cases found
    | cons entry rest => rfl
  | _ => cases label <;> cases found

namespace Log

namespace ScrubRules

/-- What the rules make of a text under a name. -/
theorem field_str (rules : ScrubRules) (name text : String) : rules.field name (.str text) =
    if rules.isSensitive name then redacted
    else .str (if rules.isHashed name then hashIdentifier text else text) := by
  rw [field, Record.scrubMember_str]
  split
  · rfl
  · split <;> rfl

/-- What the rules make of a text that stands under no secret. -/
theorem under_str (rules : ScrubRules) {label : Label} (disclosed : rules.isSecret label = false)
    (text : String) : rules.under label (.str text) =
      .str (if rules.isDigested label then hashIdentifier text else text) := by
  cases label with
  | place index => rfl
  | name name =>
    have named : ¬rules.isSensitive name = true := Bool.eq_false_iff.mp disclosed
    rw [under, field_str, if_neg named]
    rfl

/-- No secret has a name that identifies someone. -/
theorem isSensitive_of_isHashed {name : String} (hashed : defaults.isHashed name = true) :
    defaults.isSensitive name = false := by
  have apart : hashedDefaults.all (fun small => !sensitiveDefaults.contains small) = true := by
    decide
  have listed : Text.lower name ∈ hashedDefaults := List.contains_iff_mem.mp hashed
  have different := List.all_eq_true.mp apart _ listed
  rwa [Bool.not_eq_true'] at different

end ScrubRules

namespace Record

variable {record : Record} {rules : ScrubRules}

/-- Where its time has a text, the line of a scrubbed record shows its scrubbed fields. -/
theorem scrubbedLine_eq (unmarked : record.fields.lookup scrubbedMark = none) {time : String}
    (told : Time.logText record.created = .ok time) (asciiOnly : Bool) (request : Option String) :
    record.scrubbedLine asciiOnly request = .ok (Json.write (Json.Dialect.line asciiOnly)
      (.obj (record.laidOut request time (record.shownFields .defaults)))) := by
  rw [scrubbedLine, jsonLine, members_scrub (isScrubbed_of_unmarked unmarked), told]
  rfl

/-- A request that is shown, and counts as set, is laid out. -/
theorem carries_laidOut_request {shown : List (String × Json)} {value : Json}
    (carries : Carries shown requestField value) (set : value.truthy = true)
    (request : Option String) (time : String) :
    Carries (record.laidOut request time shown) requestField value := by
  have merged := (carries.setMembers (record.header time)).lookup_eq
  have identified : Carries (identified request (Json.setMembers (record.header time) shown))
      requestField value := by
    unfold Record.identified
    simp only [merged, Option.filter_some_pos set, Option.some_or]
    exact Carries.setMember_self _ _ _
  unfold laidOut
  cases record.trace with
  | none => exact identified
  | some trace => exact identified.setMember_of_ne (by decide) _

/-- Scrubbing keeps whether a value with parts counts as set. -/
theorem truthy_value_of_part? {content part : Json} {label : Label}
    (found : content.part? label = some part) : (rules.value content).truthy = true := by
  have kept := rules.part?_value content label
  rw [found] at kept
  exact Json.truthy_of_part? kept

/-- A shown field is laid out as it is scrubbed, and so is a request with parts. -/
theorem carries_laidOut_scrubbed {name : String} {content : Json} {path : List Label}
    {found : Json} (distinct : (record.fields.map Prod.fst).Nodup)
    (visible : isVisible name = true) (bound : name = requestField → path ≠ [])
    (held : record.fields.lookup name = some content) (inside : content.at? path = some found)
    (disclosed : rules.isSensitive name = false) (request : Option String) (time : String) :
    Carries (record.laidOut request time (record.shownFields rules)) name
      (rules.field name content) := by
  have carries : Carries record.fields name content := .of_lookup distinct held
  by_cases unbound : name = requestField
  · subst unbound
    obtain ⟨label, rest, rfl⟩ := List.exists_cons_of_ne_nil (bound rfl)
    obtain ⟨part, begins, -⟩ := Option.bind_eq_some_iff.mp inside
    have plain : ¬(rules.isHashed requestField = true ∧ content.isText = true) := fun both => by
      rw [ScrubRules.part?_of_isText both.2] at begins
      cases begins
    have shown : Carries (record.shownFields rules) requestField
        (rules.field requestField content) :=
      (carries.map fst_scrubMember (rules.scrubMember_eq _)).filter visible
    refine carries_laidOut_request shown ?_ request time
    rw [rules.field_of_legible disclosed plain]
    exact truthy_value_of_part? begins
  · exact carries_laidOut_shownFields visible unbound carries request time

/-- A text at the end of a path without secrets is laid out as its digest directly under a hashed
name, and as it is anywhere else. -/
theorem at?_laidOut_of_text {name text : String} {path : List Label}
    (distinct : (record.fields.map Prod.fst).Nodup) (visible : isVisible name = true)
    (bound : name = requestField → path ≠ [])
    (found : (Json.obj record.fields).at? (.name name :: path) = some (.str text))
    (disclosed : ∀ label ∈ .name name :: path, rules.isSecret label = false)
    (request : Option String) (time : String) :
    (Json.obj (record.laidOut request time (record.shownFields rules))).at? (.name name :: path) =
      some (.str (if rules.isDigested (path.getLastD (.name name)) then hashIdentifier text
        else text)) := by
  obtain ⟨content, held, inside⟩ := Option.bind_eq_some_iff.mp found
  have named : rules.isSensitive name = false := disclosed _ List.mem_cons_self
  have carries := carries_laidOut_scrubbed distinct visible bound held inside named request time
  have last := disclosed _ (@List.getLastD_mem_cons _ path (.name name))
  have below := rules.at?_under disclosed content
  rw [inside, Option.map_some, rules.under_str last] at below
  exact Option.bind_eq_some_iff.mpr ⟨_, carries.lookup_eq, below⟩

/-- Where the time of a record has a text, the line of the scrubbed record is the text of members
in which every text that stands under no secret, an identifier of the request itself aside, is
shown in its place: as its digest exactly when it stands directly under a hashed name, and as it is
however deep it stands in a list or an object under one. -/
theorem texts_digested_directly_under_hashed_names (record : Record) (asciiOnly : Bool)
    (request : Option String) (unmarked : record.fields.lookup scrubbedMark = none)
    (distinct : (record.fields.map Prod.fst).Nodup) :
    ∀ time, Time.logText record.created = .ok time → ∃ members,
      record.scrubbedLine asciiOnly request =
          .ok (Json.write (Json.Dialect.line asciiOnly) (.obj members)) ∧
        ∀ name path text, isVisible name = true → (name = requestField → path ≠ []) →
          (Json.obj record.fields).at? (.name name :: path) = some (.str text) →
          (∀ label ∈ .name name :: path, ScrubRules.defaults.isSecret label = false) →
          (Json.obj members).at? (.name name :: path) =
            some (.str (if ScrubRules.defaults.isDigested (path.getLastD (.name name)) then
              hashIdentifier text else text)) := by
  intro time told
  refine ⟨_, scrubbedLine_eq unmarked told asciiOnly request, ?_⟩
  intro name path text visible bound found disclosed
  exact at?_laidOut_of_text distinct visible bound found disclosed request time

/-- A record with addresses directly under names that identify someone, and in a list. -/
def invitationRecord : Record where
  created := 0
  severity := .info
  logger := "tenant_ratelimit.x"
  message := "invited"
  fields :=
    [("User_ID", .str "u1"),
     ("email", .arr [.str "a@b.example", .obj [("key", .str "k"), ("note", .str "n")]])]

/-- The time of the record has a text. -/
theorem logText_invitationRecord : ∃ time, Time.logText invitationRecord.created = .ok time :=
  Time.logText_of_calendar (by decide) (by decide)

/-- Its line shows digests directly under such names, and texts in the list as they are. -/
theorem invitationRecord_line : ∃ members,
    invitationRecord.scrubbedLine true none =
        .ok (Json.write (Json.Dialect.line true) (.obj members)) ∧
      (Json.obj members).at? [.name "User_ID"] = some (.str (hashIdentifier "u1")) ∧
      (Json.obj members).at? [.name "email", .place 0] = some (.str "a@b.example") ∧
      (Json.obj members).at? [.name "email", .place 1, .name "key"] =
        some (.str (hashIdentifier "k")) ∧
      (Json.obj members).at? [.name "email", .place 1, .name "note"] = some (.str "n") := by
  obtain ⟨time, told⟩ := logText_invitationRecord
  obtain ⟨members, line, shows⟩ :=
    texts_digested_directly_under_hashed_names invitationRecord true none rfl (by decide) time told
  refine ⟨members, line, ?_, ?_, ?_, ?_⟩
  · exact shows "User_ID" [] "u1" (by decide) (by decide) rfl (by decide)
  · exact shows "email" [.place 0] "a@b.example" (by decide) (by decide) rfl (by decide)
  · exact shows "email" [.place 1, .name "key"] "k" (by decide) (by decide) rfl (by decide)
  · exact shows "email" [.place 1, .name "note"] "n" (by decide) (by decide) rfl (by decide)

/-- The address in the list stands under a name that identifies someone, and is not digested. -/
theorem listed_address_not_digested : ScrubRules.defaults.isHashed "email" = true ∧
    (Json.obj invitationRecord.fields).at? [.name "email", .place 0] =
      some (.str "a@b.example") ∧
    ∃ members, invitationRecord.scrubbedLine true none =
        .ok (Json.write (Json.Dialect.line true) (.obj members)) ∧
      (Json.obj members).at? [.name "email", .place 0] = some (.str "a@b.example") ∧
      (Json.obj members).at? [.name "email", .place 0] ≠
        some (.str (hashIdentifier "a@b.example")) := by
  obtain ⟨time, told⟩ := logText_invitationRecord
  have shown := @at?_laidOut_of_text invitationRecord .defaults "email" "a@b.example" [.place 0]
    (by decide) (by decide) (by decide) rfl (by decide) none time
  refine ⟨by decide, rfl, _, scrubbedLine_eq rfl told true none, shown, ?_⟩
  rw [shown]
  intro same
  have lengths := congrArg String.length (Json.str.inj (Option.some.inj same))
  rw [length_hashIdentifier] at lengths
  exact absurd lengths (by decide)

end Record

end Log

end Turnstile
