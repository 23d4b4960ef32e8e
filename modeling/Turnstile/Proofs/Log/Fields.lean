import Turnstile.Log.Record

/-!
# Fields on their way into a log line

A field whose name neither the passes nor the layout treat in a special way reaches the JSON line of
its record as it is. A line is laid out exactly when its time has a text.
-/

namespace Turnstile.Log

/-- The members have the name, and nothing but the value under it. -/
def Carries (members : List (String × Json)) (name : String) (value : Json) : Prop :=
  (name, value) ∈ members ∧ ∀ entry ∈ members, entry.1 = name → entry = (name, value)

namespace Carries

variable {members updates : List (String × Json)} {name other : String} {value : Json}

/-- A member that is carried is the one found under its name. -/
theorem lookup_eq (carries : Carries members name value) : members.lookup name = some value := by
  obtain ⟨present, only⟩ := carries
  induction members with
  | nil => cases present
  | cons entry rest ih =>
    by_cases same : entry.1 = name
    · rw [only entry (List.mem_cons_self ..) same, List.lookup_cons_self]
    · have other : (name == entry.1) = false := beq_false_of_ne (Ne.symm same)
      rw [List.lookup_cons, other]
      refine ih ((List.mem_cons.mp present).resolve_left fun first => ?_) fun entry member =>
        only entry (List.mem_cons_of_mem _ member)
      exact same (first ▸ rfl)

/-- Lists of distinct names carry what is looked up in them. -/
theorem of_lookup (distinct : (members.map Prod.fst).Nodup)
    (found : members.lookup name = some value) : Carries members name value := by
  induction members with
  | nil => cases found
  | cons entry rest ih =>
    obtain ⟨absent, others⟩ := List.nodup_cons.mp distinct
    by_cases same : name = entry.1
    · have first : entry = (name, value) := by
        rw [List.lookup_cons, beq_iff_eq.mpr same] at found
        exact Prod.ext same.symm (Option.some.inj found)
      refine ⟨first ▸ List.mem_cons_self, fun held member named => ?_⟩
      rcases List.mem_cons.mp member with own | later
      · exact own.trans first
      · have listed : entry.1 ∈ rest.map Prod.fst :=
          List.mem_map.mpr ⟨held, later, named.trans same⟩
        exact absurd listed absent
    · rw [List.lookup_cons, beq_false_of_ne same] at found
      obtain ⟨present, only⟩ := ih others found
      refine ⟨List.mem_cons_of_mem _ present, fun held member named => ?_⟩
      rcases List.mem_cons.mp member with own | later
      · exact absurd (named.symm.trans (congrArg Prod.fst own)) same
      · exact only held later named

/-- What keeps the names carries what it makes of the member. -/
theorem map {made : Json} (carries : Carries members name value)
    {change : String × Json → String × Json} (names : ∀ entry, (change entry).1 = entry.1)
    (makes : change (name, value) = (name, made)) : Carries (members.map change) name made := by
  refine ⟨List.mem_map.mpr ⟨_, carries.1, makes⟩, fun entry member same => ?_⟩
  obtain ⟨before, listed, rfl⟩ := List.mem_map.mp member
  rw [carries.2 before listed ((names before).symm.trans same), makes]

/-- What is carried is carried by the members that are kept with it. -/
theorem filter (carries : Carries members name value) {keep : String × Json → Bool}
    (kept : keep (name, value) = true) : Carries (members.filter keep) name value :=
  ⟨List.mem_filter.mpr ⟨carries.1, kept⟩, fun entry member =>
    carries.2 entry (List.mem_filter.mp member).1⟩

/-- A member under another name may be set. -/
theorem setMember_of_ne (carries : Carries members name value) (different : other ≠ name)
    (content : Json) : Carries (Json.setMember members other content) name value := by
  unfold Json.setMember
  split
  · refine carries.map (fun entry => ?_) (if_neg ?_)
    · split
      · rename_i same
        exact (eq_of_beq same).symm
      · rfl
    · exact fun same => different (eq_of_beq same).symm
  · refine ⟨List.mem_append_left _ carries.1, fun entry member same => ?_⟩
    rcases List.mem_append.mp member with old | new
    · exact carries.2 entry old same
    · obtain rfl := List.mem_singleton.mp new
      exact absurd same different

/-- A member that is set is carried. -/
theorem setMember_self (members : List (String × Json)) (name : String) (value : Json) :
    Carries (Json.setMember members name value) name value := by
  unfold Json.setMember
  split
  · rename_i present
    obtain ⟨entry, member, same⟩ := List.any_eq_true.mp present
    refine ⟨List.mem_map.mpr ⟨entry, member, if_pos same⟩, fun changed listed named => ?_⟩
    obtain ⟨before, _, rfl⟩ := List.mem_map.mp listed
    split at named
    · rw [if_pos ‹_›]
    · exact absurd (beq_iff_eq.mpr named) ‹_›
  · rename_i absent
    refine ⟨List.mem_append_right _ (List.mem_singleton_self _), fun entry member named => ?_⟩
    rcases List.mem_append.mp member with old | new
    · have present : (members.any fun held => held.1 == name) = true :=
        List.any_eq_true.mpr ⟨entry, old, beq_iff_eq.mpr named⟩
      exact absurd present absent
    · exact List.mem_singleton.mp new

/-- A member that updates carry is carried after them. -/
theorem setMembers (carries : Carries updates name value) (members : List (String × Json)) :
    Carries (Json.setMembers members updates) name value := by
  obtain ⟨present, only⟩ := carries
  -- Along the updates the member is either carried already or still to come.
  suffices reached : ∀ members : List (String × Json),
      (Carries members name value ∨ (name, value) ∈ updates) →
        Carries (Json.setMembers members updates) name value from reached members (.inr present)
  clear present members
  induction updates with
  | nil =>
    intro members known
    exact known.resolve_right List.not_mem_nil
  | cons update rest ih =>
    intro members known
    refine ih (fun entry member => only entry (List.mem_cons_of_mem _ member)) _ ?_
    by_cases same : update.1 = name
    · obtain rfl := only update (List.mem_cons_self ..) same
      exact .inl (setMember_self ..)
    · rcases known with already | coming
      · exact .inl (already.setMember_of_ne same _)
      · refine .inr ((List.mem_cons.mp coming).resolve_left fun first => ?_)
        exact same (first ▸ rfl)

/-- What is carried is carried when a member of another name is dropped. -/
theorem dropMember (carries : Carries members name value) (different : other ≠ name) :
    Carries (Json.dropMember members other) name value :=
  carries.filter (bne_iff_ne.mpr different.symm)

end Carries

/-! ## Passes and layout -/

/-- A field of the name is shown, and scrubbing leaves a text in it. -/
structure IsOpenName (rules : ScrubRules) (name : String) : Prop where
  visible : isVisible name = true
  notSecret : rules.isSensitive name = false
  legible : rules.isHashed name = false
  unmarked : scrubbedMark ≠ name

/-- Neither the passes nor the layout of a line treat a field of the name in a special way. -/
structure IsPlainName (rules : ScrubRules) (name : String) : Prop
    extends IsOpenName rules name where
  unbound : requestField ≠ name
  untraced : "exc_info" ≠ name

namespace Record

variable {record : Record} {name text : String} {request : Option String}

/-- Attaching a request leaves the time. -/
theorem created_attachRequest : (record.attachRequest request).created = record.created := by
  unfold attachRequest
  split
  · split <;> rfl
  · rfl

/-- Scrubbing leaves the time. -/
theorem created_scrub (rules : ScrubRules) : (record.scrub rules).created = record.created := by
  unfold scrub
  split <;> rfl

/-- The pass that attaches an identifier leaves other fields. -/
theorem carries_attachRequest {value : Json} (different : requestField ≠ name)
    (carries : Carries record.fields name value) :
    Carries (record.attachRequest request).fields name value := by
  unfold attachRequest
  split
  · split
    · exact carries.setMember_of_ne different _
    · exact carries
  · exact carries.setMember_of_ne different _

/-- The members that every line begins with, at the text of its time. -/
def header (record : Record) (time : String) : List (String × Json) :=
  [("timestamp", .str time), ("level", .str (Text.lower record.severity.name)),
   ("logger", .str record.logger), ("message", .str record.message)]

/-- Members that show a request: the one that they name, else the one at hand, if any. -/
def identified (request : Option String) (members : List (String × Json)) :
    List (String × Json) :=
  let own := (members.lookup requestField).filter Json.truthy
  match own.or ((request.map Json.str).filter Json.truthy) with
  | some value => Json.setMember members requestField value
  | none => Json.dropMember members requestField

/-- The members of the line of a record that shows the fields, at the text of its time. -/
def laidOut (record : Record) (request : Option String) (time : String)
    (shown : List (String × Json)) : List (String × Json) :=
  let members := identified request (Json.setMembers (record.header time) shown)
  match record.trace with
  | some trace => Json.setMember members "exc_info" (.str trace)
  | none => members

/-- A line is laid out at the text of its time from the fields that it shows. -/
theorem members_eq (rules : ScrubRules) (request : Option String) (record : Record) :
    record.members rules request =
      ((Time.logText record.created).mapError Time.TimeError.failure).map fun time =>
        record.laidOut request time
          (if record.isScrubbed then record.visible else record.visible.map rules.scrubMember) :=
  rfl

/-- The layout leaves what is shown under a name that it does not use itself. -/
theorem carries_laidOut {time : String} {shown : List (String × Json)} {value : Json}
    (unbound : requestField ≠ name) (untraced : "exc_info" ≠ name)
    (carries : Carries shown name value) :
    Carries (record.laidOut request time shown) name value := by
  have merged := carries.setMembers (record.header time)
  have members : Carries (identified request (Json.setMembers (record.header time) shown))
      name value := by
    simp only [identified]
    split
    · exact merged.setMember_of_ne unbound _
    · exact merged.dropMember unbound
  unfold laidOut
  cases record.trace with
  | none => exact members
  | some trace => exact members.setMember_of_ne untraced _

section Scrubbing

variable {rules : ScrubRules}

/-- What scrubbing makes of a text. -/
theorem scrubMember_str (rules : ScrubRules) (name text : String) :
    rules.scrubMember (name, .str text) =
      if rules.isSensitive name then (name, redacted)
      else if rules.isHashed name then (name, .str (hashIdentifier text))
      else (name, .str text) := rfl

/-- Scrubbing keeps names. -/
theorem fst_scrubMember (entry : String × Json) : (rules.scrubMember entry).1 = entry.1 := by
  obtain ⟨name, content⟩ := entry
  cases content with
  | str text =>
    rw [scrubMember_str]
    split
    · rfl
    · split <;> rfl
  | _ =>
    show (ite _ _ _ : String × Json).1 = name
    split <;> rfl

/-- The pass that scrubs the shown fields keeps names. -/
theorem fst_scrubVisible (rules : ScrubRules) (entry : String × Json) :
    (if isVisible entry.1 then rules.scrubMember entry else entry).1 = entry.1 := by
  split
  · exact fst_scrubMember entry
  · rfl

section Open

variable (shown : IsOpenName rules name)
include shown

/-- A text under an open name is not scrubbed. -/
theorem scrubMember_of_open : rules.scrubMember (name, .str text) = (name, .str text) := by
  rw [scrubMember_str, shown.notSecret, shown.legible]
  rfl

/-- The pass that scrubs leaves texts under open names. -/
theorem carries_scrub (carries : Carries record.fields name (.str text)) :
    Carries (record.scrub rules).fields name (.str text) := by
  unfold scrub
  split
  · exact carries
  · refine (carries.map (fst_scrubVisible rules) ?_).setMember_of_ne shown.unmarked _
    rw [if_pos shown.visible, scrubMember_of_open shown]

/-- What a line shows of a record carries texts under open names. -/
theorem carries_shown (carries : Carries record.fields name (.str text)) :
    Carries (if record.isScrubbed then record.visible else record.visible.map rules.scrubMember)
      name (.str text) := by
  have visible : Carries record.visible name (.str text) := carries.filter shown.visible
  split
  · exact visible
  · exact visible.map fst_scrubMember (scrubMember_of_open shown)

end Open

/-- A text under a plain name stands in the line as it is. -/
theorem carries_members {members : List (String × Json)} (plain : IsPlainName rules name)
    (carries : Carries record.fields name (.str text))
    (made : record.members rules request = .ok members) : Carries members name (.str text) := by
  rw [members_eq] at made
  cases time : (Time.logText record.created).mapError Time.TimeError.failure with
  | error failure =>
    rw [time] at made
    cases made
  | ok written =>
    rw [time] at made
    obtain rfl := Except.ok.inj made
    apply carries_laidOut plain.unbound plain.untraced
    exact carries_shown plain.toIsOpenName carries

end Scrubbing

/-- A text under a plain name is in the record as the handler writes it. -/
theorem carries_handled {members : List (String × Json)}
    (plain : IsPlainName ScrubRules.defaults name)
    (carries : Carries record.fields name (.str text))
    (made : record.handled request = .ok members) : Carries members name (.str text) :=
  carries_members plain
    (carries_scrub plain.toIsOpenName (carries_attachRequest plain.unbound carries)) made

/-! ## The request of a record -/

end Record

/-- The event names no request itself. -/
def Event.IsUnclaimed (event : Event) : Prop := event.fields.lookup requestField = none

namespace Record

variable {record : Record} {request : Option String}

/-- The field of the request is open under the rules in force. -/
theorem isOpenName_requestField : IsOpenName ScrubRules.defaults requestField := by
  constructor <;> decide +kernel

/-- A record that names no request gets the one at hand. -/
theorem carries_attachRequest_self (unnamed : record.fields.lookup requestField = none)
    (id : String) :
    Carries (record.attachRequest (some id)).fields requestField (.str id) := by
  unfold attachRequest
  rw [unnamed]
  exact Carries.setMember_self ..

/-- A record that names a request keeps it. -/
theorem carries_attachRequest_own {id : String}
    (carries : Carries record.fields requestField (.str id)) :
    Carries (record.attachRequest request).fields requestField (.str id) := by
  unfold attachRequest
  rw [carries.lookup_eq]
  exact carries

/-- A request that the passes leave on a record is in the record as the handler writes it. -/
theorem carries_handled_request {members : List (String × Json)} {id : String} (given : id ≠ "")
    (carries : Carries (record.attachRequest request).fields requestField (.str id))
    (made : record.handled request = .ok members) : Carries members requestField (.str id) := by
  unfold handled at made
  have scrubbed := carries_scrub isOpenName_requestField carries
  generalize (record.attachRequest request).scrub ScrubRules.defaults = passed at made scrubbed
  rw [members_eq] at made
  cases time : (Time.logText passed.created).mapError Time.TimeError.failure with
  | error failure =>
    rw [time] at made
    cases made
  | ok written =>
    rw [time] at made
    obtain rfl := Except.ok.inj made
    have shown := (carries_shown isOpenName_requestField scrubbed).setMembers
      (passed.header written)
    have truthy : Json.truthy (.str id) = true := by simp [Json.truthy, given]
    unfold laidOut identified
    simp only [shown.lookup_eq, Option.filter_some_pos truthy, Option.some_or]
    have identified := Carries.setMember_self (Json.setMembers (passed.header written)
      (if passed.isScrubbed then passed.visible
        else passed.visible.map ScrubRules.defaults.scrubMember)) requestField (.str id)
    cases passed.trace with
    | none => exact identified
    | some trace => exact identified.setMember_of_ne (by decide) _

/-- The handler writes a record exactly when its time has a text; otherwise it fails for the
time. -/
theorem handled_of_error {error : Time.TimeError}
    (untold : Time.logText record.created = .error error) :
    record.handled request = .error error.failure := by
  unfold handled Record.members
  rw [created_scrub, created_attachRequest, untold]
  rfl

/-- Where the time has a text, a record is written. -/
theorem exists_handled_of_ok {time : String} (told : Time.logText record.created = .ok time) :
    ∃ members, record.handled request = .ok members := by
  unfold handled Record.members
  rw [created_scrub, created_attachRequest, told]
  exact ⟨_, rfl⟩

end Record

end Turnstile.Log
