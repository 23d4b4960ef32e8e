import Turnstile.Proofs.Json.Members
import Turnstile.Proofs.Log.Digests

/-!
# Passes over a record

A record may meet the two passes any number of times and in any order on its way to its line, for
it is shared by all who write it. The line is that of the record before any pass: the identifier
that one pass attaches is the one that the layout would bind, in the same place, and what the other
scrubs, once, is what the layout would scrub.
-/

namespace Turnstile.Log

open Json (Lacks)

/-- A pass over a record. -/
inductive Pass where
  | attach
  | scrub
deriving DecidableEq, Repr

namespace Record

/-- What a layout shows of the fields of a record. -/
def shown (rules : ScrubRules) (record : Record) : List (String × Json) :=
  if record.isScrubbed then record.visible else record.visible.map rules.scrubMember

/-- A record after a pass. -/
def after (request : Option String) (record : Record) : Pass → Record
  | .attach => record.attachRequest request
  | .scrub => record.scrub .defaults

/-- A record after passes in turn. -/
def afterAll (request : Option String) (record : Record) (passes : List Pass) : Record :=
  passes.foldl (after request) record

/-- The record names no request: it has no field for one, or null in it. -/
def NamesNone (record : Record) : Prop :=
  ∀ value ∈ record.fields.lookup requestField, value = .null

variable {record : Record} {rules : ScrubRules} {request : Option String}

/-! ## Scrubbing -/

/-- What a layout scrubs of a record are its fields scrubbed, as far as they are shown. -/
theorem map_visible : record.visible.map rules.scrubMember = record.shownFields rules := by
  have names : (fun entry : String × Json => isVisible entry.1) ∘ rules.scrubMember =
      fun entry => isVisible entry.1 := by
    funext entry
    exact congrArg isVisible (fst_scrubMember entry)
  rw [shownFields, List.filter_map, names]
  rfl

/-- A layout shows of a scrubbed record what it would scrub of the record itself. -/
theorem members_scrub_eq : (record.scrub rules).members rules request =
    record.members rules request := by
  cases marked : record.isScrubbed with
  | true => rw [scrub, if_pos marked]
  | false =>
    rw [members_scrub marked, members_eq, marked, map_visible]
    rfl

/-- Scrubbing leaves the text that stands under an open name. -/
theorem lookup_scrub {name text : String} (legible : IsOpenName rules name)
    (held : record.fields.lookup name = some (.str text)) :
    (record.scrub rules).fields.lookup name = some (.str text) := by
  unfold scrub
  split
  · exact held
  · rw [Json.lookup_setMember_of_ne (Ne.symm legible.unmarked),
      Json.lookup_map_change (fst_scrubVisible rules), held, Option.map_some,
      if_pos legible.visible, scrubMember_of_open legible]

/-! ## Attaching -/

/-- The identifier at hand is attached to a record that names no request. -/
theorem attachRequest_of_namesNone (unnamed : record.NamesNone) :
    record.attachRequest request = { record with
      fields := Json.setMember record.fields requestField (Json.ofOption request) } := by
  unfold attachRequest
  cases found : record.fields.lookup requestField with
  | none => rfl
  | some value =>
    obtain rfl := unnamed value found
    rfl

/-- A record that names a request is left as it is. -/
theorem attachRequest_of_not_namesNone (named : ¬record.NamesNone) :
    record.attachRequest request = record := by
  unfold attachRequest
  cases found : record.fields.lookup requestField with
  | none => exact absurd (fun _ held => nomatch found.symm.trans held) named
  | some value =>
    cases value with
    | null =>
      refine absurd (fun other held => ?_) named
      exact (Option.some.inj (found.symm.trans held)).symm
    | _ => rfl

/-- Scrubbing leaves an identifier, or none, under the name of the request. -/
theorem scrubMember_ofOption :
    ScrubRules.defaults.scrubMember (requestField, Json.ofOption request) =
      (requestField, Json.ofOption request) := by
  have plain : ¬(ScrubRules.defaults.isHashed requestField = true ∧
      (Json.ofOption request).isText = true) := by
    rw [isOpenName_requestField.legible]
    exact fun both => nomatch both.1
  rw [ScrubRules.scrubMember_eq,
    ScrubRules.field_of_legible _ isOpenName_requestField.notSecret plain]
  cases request <;> rfl

/-- Attaching a request marks nothing. -/
theorem isScrubbed_attachRequest :
    (record.attachRequest request).isScrubbed = record.isScrubbed := by
  by_cases unnamed : record.NamesNone
  · have different : scrubbedMark ≠ requestField := by decide
    rw [attachRequest_of_namesNone unnamed, isScrubbed, isScrubbed,
      Json.lookup_setMember_of_ne different]
  · rw [attachRequest_of_not_namesNone unnamed]

/-- What a layout shows of a record to which a request is attached. -/
theorem shown_attachRequest (unnamed : record.NamesNone) :
    (record.attachRequest request).shown .defaults =
      Json.setMember (record.shown .defaults) requestField (Json.ofOption request) := by
  have visible : (record.attachRequest request).visible =
      Json.setMember record.visible requestField (Json.ofOption request) := by
    rw [attachRequest_of_namesNone unnamed]
    exact Json.filter_setMember_of_kept isOpenName_requestField.visible
  unfold shown
  rw [isScrubbed_attachRequest, visible]
  split
  · rfl
  · rw [Json.map_setMember fst_scrubMember, scrubMember_ofOption]

/-- The layout shows no request, or null, for a record that names none. -/
theorem lacks_or_carries_shown (distinct : (record.fields.map Prod.fst).Nodup)
    (unnamed : record.NamesNone) :
    Lacks (record.shown .defaults) requestField ∨
      Carries (record.shown .defaults) requestField .null := by
  cases found : record.fields.lookup requestField with
  | none =>
    have lacks : Lacks record.visible requestField :=
      Json.lacks_filter (Json.lacks_of_lookup found) _
    refine .inl ?_
    unfold shown
    split
    · exact lacks
    · exact (Json.any_map_change fst_scrubMember).trans lacks
  | some value =>
    obtain rfl := unnamed value found
    have carries : Carries record.visible requestField .null :=
      (Carries.of_lookup distinct found).filter isOpenName_requestField.visible
    refine .inr ?_
    unfold shown
    split
    · exact carries
    · exact carries.map fst_scrubMember (@scrubMember_ofOption none)

/-- A request that is shown where none is named is the one that would be bound there. -/
theorem identified_setMember {members : List (String × Json)}
    (unnamed : ∀ value ∈ members.lookup requestField, value = .null) :
    identified request (Json.setMember members requestField (Json.ofOption request)) =
      identified request members := by
  have own : (members.lookup requestField).filter Json.truthy = none := by
    cases found : members.lookup requestField with
    | none => rfl
    | some value =>
      obtain rfl := unnamed value found
      rfl
  have set : ((Json.setMember members requestField (Json.ofOption request)).lookup
      requestField).filter Json.truthy = (request.map Json.str).filter Json.truthy := by
    rw [(Carries.setMember_self members requestField _).lookup_eq]
    cases request <;> rfl
  unfold identified
  simp only [own, set, Option.none_or, Option.or_self]
  split
  · exact Json.setMember_setMember
  · exact Json.dropMember_setMember

/-- The members that every line begins with name no request. -/
theorem lacks_header (time : String) : Lacks (record.header time) requestField := by
  simp [Lacks, header, requestField]

/-- A line that is laid out with the request at hand is laid out alike with it among the fields, if
the record names none. -/
theorem laidOut_setMember (distinct : (record.fields.map Prod.fst).Nodup)
    (unnamed : record.NamesNone) (time : String) :
    record.laidOut request time
        (Json.setMember (record.shown .defaults) requestField (Json.ofOption request)) =
      record.laidOut request time (record.shown .defaults) := by
  have nothing : ∀ value ∈ (Json.setMembers (record.header time)
      (record.shown .defaults)).lookup requestField, value = .null := by
    intro value found
    rcases lacks_or_carries_shown distinct unnamed with lacks | carries
    · rw [(Json.lacks_setMembers (lacks_header time) lacks).lookup_eq] at found
      cases found
    · rw [(carries.setMembers _).lookup_eq] at found
      exact (Option.some.inj found).symm
  unfold laidOut
  rw [Json.setMembers_setMember (lacks_header time), identified_setMember nothing]

/-- The members of a record, by what a layout shows of its fields. -/
theorem members_eq_shown : record.members rules request =
    ((Time.logText record.created).mapError Time.TimeError.failure).map fun time =>
      record.laidOut request time (record.shown rules) := by
  rw [members_eq]
  rfl

/-- A layout shows of a record to which a request is attached what it shows of the record. -/
theorem members_attachRequest (distinct : (record.fields.map Prod.fst).Nodup) :
    (record.attachRequest request).members .defaults request =
      record.members .defaults request := by
  by_cases unnamed : record.NamesNone
  · have laid (time : String) :
        (record.attachRequest request).laidOut request time
            ((record.attachRequest request).shown .defaults) =
          record.laidOut request time (record.shown .defaults) := by
      rw [shown_attachRequest unnamed, ← laidOut_setMember distinct unnamed,
        attachRequest_of_namesNone unnamed]
      rfl
    simp only [members_eq_shown, created_attachRequest, laid]
  · rw [attachRequest_of_not_namesNone unnamed]

/-! ## Passes in turn -/

/-- The passes change nothing but fields. -/
theorem exists_fields_passed (record : Record) (request : Option String) (rules : ScrubRules) :
    ∃ fields, (record.attachRequest request).scrub rules = { record with fields := fields } := by
  have attached : ∃ fields, record.attachRequest request = { record with fields := fields } := by
    by_cases unnamed : record.NamesNone
    · exact ⟨_, attachRequest_of_namesNone unnamed⟩
    · exact ⟨record.fields, attachRequest_of_not_namesNone unnamed⟩
  obtain ⟨fields, attached⟩ := attached
  rw [attached, scrub]
  split
  · exact ⟨fields, rfl⟩
  · exact ⟨_, rfl⟩

/-- A pass keeps the names of fields distinct. -/
theorem nodup_after (distinct : (record.fields.map Prod.fst).Nodup) (pass : Pass) :
    ((after request record pass).fields.map Prod.fst).Nodup := by
  cases pass with
  | attach =>
    show ((record.attachRequest request).fields.map Prod.fst).Nodup
    by_cases unnamed : record.NamesNone
    · rw [attachRequest_of_namesNone unnamed]
      exact Json.nodup_setMember distinct
    · rw [attachRequest_of_not_namesNone unnamed]
      exact distinct
  | scrub =>
    show ((record.scrub .defaults).fields.map Prod.fst).Nodup
    unfold scrub
    split
    · exact distinct
    · apply Json.nodup_setMember
      rw [List.map_map, show Prod.fst ∘ _ = Prod.fst from
        funext (fst_scrubVisible ScrubRules.defaults)]
      exact distinct

/-- A pass leaves what a layout shows. -/
theorem members_after (distinct : (record.fields.map Prod.fst).Nodup) (pass : Pass) :
    (after request record pass).members .defaults request = record.members .defaults request := by
  cases pass with
  | attach => exact members_attachRequest distinct
  | scrub => exact members_scrub_eq

/-- Passes leave what a layout shows. -/
theorem members_afterAll (distinct : (record.fields.map Prod.fst).Nodup) (passes : List Pass) :
    (afterAll request record passes).members .defaults request =
      record.members .defaults request := by
  unfold afterAll
  induction passes generalizing record with
  | nil => rfl
  | cons pass rest ih =>
    rw [List.foldl_cons, ih (nodup_after distinct pass), members_after distinct]

/-- The line of a record is the same after any passes in any order. A record without a mark of its
own shows each of its fields, the request aside, scrubbed once, and so a hashed text as its digest:
in the line without any pass as in the line after them. -/
theorem passes_keep_line (record : Record) (distinct : (record.fields.map Prod.fst).Nodup)
    (request : Option String) (asciiOnly : Bool) (passes : List Pass) :
    (afterAll request record passes).jsonLine .defaults asciiOnly request =
        record.jsonLine .defaults asciiOnly request ∧
      (record.fields.lookup scrubbedMark = none → ∀ time, Time.logText record.created = .ok time →
        ∃ members, (afterAll request record passes).jsonLine .defaults asciiOnly request =
            .ok (Json.write (Json.Dialect.line asciiOnly) (.obj members)) ∧
          ∀ name content, record.fields.lookup name = some content → isVisible name = true →
            name ≠ requestField →
            members.lookup name = some (ScrubRules.defaults.field name content) ∧
              ∀ text, content = .str text → ScrubRules.defaults.isHashed name = true →
                members.lookup name = some (.str (hashIdentifier text))) := by
  have same := @members_afterAll record request distinct passes
  have line : (afterAll request record passes).jsonLine .defaults asciiOnly request =
      record.jsonLine .defaults asciiOnly request := by
    unfold jsonLine
    rw [same]
  refine ⟨line, fun unmarked time told => ?_⟩
  have scrubbed : record.jsonLine .defaults asciiOnly request =
      record.scrubbedLine asciiOnly request := by
    rw [scrubbedLine, jsonLine, jsonLine, members_scrub_eq]
  refine ⟨record.laidOut request time (record.shownFields .defaults), ?_, ?_⟩
  · rw [line, scrubbed, scrubbedLine_eq unmarked told]
  · intro name content held visible unbound
    have carries := @carries_laidOut_shownFields record .defaults name content visible unbound
      (.of_lookup distinct held) request time
    refine ⟨carries.lookup_eq, fun text same hashed => ?_⟩
    have named : ¬ScrubRules.defaults.isSensitive name = true :=
      Bool.eq_false_iff.mp (ScrubRules.isSensitive_of_isHashed hashed)
    rw [carries.lookup_eq, same, ScrubRules.field_str, if_neg named, if_pos hashed]

/-- A record that two handlers share, with an address, a value that looks like a digest and a
request that is null. -/
def sharedRecord : Record where
  created := 0
  severity := .info
  logger := "tenant_ratelimit.x"
  message := "shared"
  fields :=
    [("Email", .str "a@b.example"), ("request_id", .null), ("token", .str "[REDACTED]"),
     ("caller", .obj [("user_id", .str "8254c329a92850f6")])]

/-- Its line after four passes is its line without any, and tells each digest of one digesting. -/
theorem sharedRecord_line :
    (sharedRecord.fields.map Prod.fst).Nodup ∧
      (afterAll (some "r-1") sharedRecord [.scrub, .attach, .scrub, .attach]).jsonLine .defaults
          true (some "r-1") = sharedRecord.jsonLine .defaults true (some "r-1") ∧
      ∃ members, (afterAll (some "r-1") sharedRecord [.scrub, .attach, .scrub, .attach]).jsonLine
            .defaults true (some "r-1") =
          .ok (Json.write (Json.Dialect.line true) (.obj members)) ∧
        members.lookup "Email" = some (.str (hashIdentifier "a@b.example")) ∧
        members.lookup "caller" =
          some (.obj [("user_id", .str (hashIdentifier "8254c329a92850f6"))]) := by
  have distinct : (sharedRecord.fields.map Prod.fst).Nodup := by decide
  obtain ⟨line, shows⟩ := passes_keep_line sharedRecord distinct (some "r-1") true
    [.scrub, .attach, .scrub, .attach]
  obtain ⟨time, told⟩ : ∃ time, Time.logText sharedRecord.created = .ok time :=
    Time.logText_of_calendar (by decide) (by decide)
  obtain ⟨members, written, fields⟩ := shows rfl time told
  refine ⟨distinct, line, members, written, ?_, ?_⟩
  · exact (fields "Email" (.str "a@b.example") rfl (by decide) (by decide)).2 _ rfl (by decide)
  · exact (fields "caller" _ rfl (by decide) (by decide)).1

end Record

end Turnstile.Log
