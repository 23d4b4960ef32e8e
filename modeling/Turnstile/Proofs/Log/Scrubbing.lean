import Mathlib.Logic.Relation
import Turnstile.Proofs.Log.Fields
import Turnstile.Proofs.Time.Calendar

/-!
# What scrubbing hides and what it leaves

A secret is replaced whole, so no line of a scrubbed record depends on it. Everything else keeps its
place: what stands under no secret, and is no text directly under a hashed name, shows at the path
at which it stood, a leaf as it is and a container with the same parts.
-/

namespace Turnstile

/-! ## Paths -/

namespace Json

/-- What a part of a value stands under. -/
inductive Label where
  | name (text : String)
  | place (index : Nat)
deriving DecidableEq, Repr

/-- The part of a value under a label. -/
def part? : Json → Label → Option Json
  | .obj members, .name text => members.lookup text
  | .arr items, .place index => items[index]?
  | _, _ => none

/-- The value at the end of a path. -/
def at? : Json → List Label → Option Json
  | value, [] => some value
  | value, label :: rest => (value.part? label).bind fun part => at? part rest

/-- The value is a text. -/
def isText : Json → Bool
  | .str _ => true
  | _ => false

end Json

namespace Log

open Json (Label)

/-! ## Scrubbed values -/

namespace ScrubRules

variable (rules : ScrubRules)

/-- The items of an array are scrubbed one by one. -/
theorem scrubItems_eq_map (items : List Json) : rules.scrubItems items = items.map rules.value := by
  induction items with
  | nil => rfl
  | cons item rest ih => rw [scrubItems, ih, List.map_cons]

/-- A member keeps its name, and its value is scrubbed under that name. -/
theorem scrubMember_eq (entry : String × Json) :
    rules.scrubMember entry = (entry.1, rules.field entry.1 entry.2) :=
  Prod.ext (Record.fst_scrubMember entry) rfl

/-- What is neither a secret nor a text to digest is scrubbed as it would be without its name. -/
theorem field_of_legible {name : String} (disclosed : rules.isSensitive name = false)
    {content : Json} (legible : ¬(rules.isHashed name = true ∧ content.isText = true)) :
    rules.field name content = rules.value content := by
  have named : ¬rules.isSensitive name = true := Bool.not_eq_true _ ▸ disclosed
  cases content with
  | str text =>
    have plain : ¬rules.isHashed name = true := fun hashed => legible ⟨hashed, rfl⟩
    rw [field, Record.scrubMember_str, if_neg named, if_neg plain]
    rfl
  | _ => exact congrArg Prod.snd (if_neg named)

/-- A value scrubbed under what it stands under. -/
def under : Label → Json → Json
  | .name text => rules.field text
  | .place _ => rules.value

/-- What stands under the label is a secret. -/
def isSecret : Label → Bool
  | .name text => rules.isSensitive text
  | .place _ => false

/-- A text that stands under the label is digested. -/
def isDigested : Label → Bool
  | .name text => rules.isHashed text
  | .place _ => false

/-- What stands under a name among scrubbed members is what stood there, scrubbed. -/
theorem lookup_scrubMembers (members : List (String × Json)) (name : String) :
    (rules.scrubMembers members).lookup name = (members.lookup name).map (rules.field name) := by
  induction members with
  | nil => rfl
  | cons entry rest ih =>
    rw [scrubMembers, scrubMember_eq, List.lookup_cons, List.lookup_cons, ih]
    by_cases same : name = entry.1
    · simp [same]
    · simp [beq_false_of_ne same]

/-- A value under a label is digested, or scrubbed as it would be without the label. -/
theorem under_of_legible {label : Label} (disclosed : rules.isSecret label = false) {content : Json}
    (legible : ¬(rules.isDigested label = true ∧ content.isText = true)) :
    rules.under label content = rules.value content := by
  cases label with
  | name text => exact rules.field_of_legible disclosed legible
  | place index => rfl

/-- A text stays a text under any label that is no secret's. -/
theorem isText_under {label : Label} (disclosed : rules.isSecret label = false) {content : Json}
    (text : content.isText = true) : (rules.under label content).isText = true := by
  by_cases digested : rules.isDigested label = true
  · cases label with
    | place index => cases digested
    | name name =>
      cases content with
      | str text =>
        have named : ¬rules.isSensitive name = true := Bool.not_eq_true _ ▸ disclosed
        have hashed : rules.isHashed name = true := digested
        rw [under, field, Record.scrubMember_str, if_neg named, if_pos hashed]
        rfl
      | _ => cases text
  · rw [rules.under_of_legible disclosed fun both => digested both.1]
    cases content with
    | str text => rfl
    | _ => cases text

/-- The parts of a scrubbed value are its parts, each scrubbed under what it stands under. -/
theorem part?_value (content : Json) (label : Label) :
    (rules.value content).part? label = (content.part? label).map (rules.under label) := by
  cases content with
  | arr items =>
    cases label with
    | name text => rfl
    | place index =>
      show (rules.scrubItems items)[index]? = items[index]?.map rules.value
      rw [scrubItems_eq_map, List.getElem?_map]
  | obj members =>
    cases label with
    | place index => rfl
    | name text =>
      exact rules.lookup_scrubMembers members text
  | _ => cases label <;> rfl

/-- A text has no parts. -/
theorem part?_of_isText {content : Json} (text : content.isText = true) (label : Label) :
    content.part? label = none := by
  cases content with
  | str text => cases label <;> rfl
  | _ => cases text

/-- A part of what is scrubbed under an open label is the part scrubbed under the next label. -/
theorem part?_under {label : Label} (disclosed : rules.isSecret label = false) (content : Json)
    (next : Label) :
    (rules.under label content).part? next = (content.part? next).map (rules.under next) := by
  by_cases text : content.isText = true
  · rw [part?_of_isText (rules.isText_under disclosed text), part?_of_isText text]
    rfl
  · rw [rules.under_of_legible disclosed fun both => text both.2]
    exact rules.part?_value content next

/-- At the end of a path without secrets stands what stood there, scrubbed under the last label. -/
theorem at?_under {label : Label} {path : List Label}
    (disclosed : ∀ passed ∈ label :: path, rules.isSecret passed = false) (content : Json) :
    (rules.under label content).at? path =
      (content.at? path).map (rules.under (path.getLastD label)) := by
  induction path generalizing label content with
  | nil => rfl
  | cons next rest ih =>
    have first : rules.isSecret label = false := disclosed label List.mem_cons_self
    rw [Json.at?, Json.at?, rules.part?_under first]
    cases content.part? next with
    | none => rfl
    | some part =>
      have others : ∀ passed ∈ next :: rest, rules.isSecret passed = false :=
        fun passed member => disclosed passed (List.mem_cons_of_mem _ member)
      rw [List.getLastD_cons]
      exact ih others part

/-- The rules leave the value at the end of the path: it stands under no secret, and is no text
directly under a hashed name. -/
structure Leaves (path : List Label) (content : Json) : Prop where
  disclosed : ∀ label ∈ path, rules.isSecret label = false
  legible : ∀ label ∈ path.getLast?, ¬(rules.isDigested label = true ∧ content.isText = true)

variable {rules}

end ScrubRules

/-! ## Scrubbed records -/

namespace Record

variable {record : Record} {rules : ScrubRules}

/-- The fields that the line of a scrubbed record shows. -/
def shownFields (rules : ScrubRules) (record : Record) : List (String × Json) :=
  (record.fields.map rules.scrubMember).filter fun entry => isVisible entry.1

/-- A pass that scrubs a record marks it. -/
theorem isScrubbed_scrub (unmarked : record.isScrubbed = false) :
    (record.scrub rules).isScrubbed = true := by
  rw [scrub, if_neg (Bool.not_eq_true _ ▸ unmarked), isScrubbed]
  rw [(Carries.setMember_self _ scrubbedMark (.bool true)).lookup_eq]
  rfl

/-- A member that is not shown may be set. -/
theorem filter_setMember {name : String} (hidden : isVisible name = false) (content : Json)
    (members : List (String × Json)) :
    (Json.setMember members name content).filter (fun entry => isVisible entry.1) =
      members.filter fun entry => isVisible entry.1 := by
  unfold Json.setMember
  split
  · rw [List.filter_map]
    have names : ((fun entry : String × Json => isVisible entry.1) ∘ fun entry =>
        if entry.1 == name then (name, content) else entry) =
        fun entry => isVisible entry.1 := by
      funext entry
      by_cases same : entry.1 == name
      · show isVisible (ite _ _ _ : String × Json).1 = isVisible entry.1
        rw [if_pos same, eq_of_beq same]
      · show isVisible (ite _ _ _ : String × Json).1 = isVisible entry.1
        rw [if_neg same]
    rw [names]
    refine (List.map_congr_left fun entry member => ?_).trans (List.map_id _)
    have shown : isVisible entry.1 = true := (List.mem_filter.mp member).2
    have other : ¬(entry.1 == name) = true := fun same => by
      rw [eq_of_beq same, hidden] at shown
      cases shown
    rw [if_neg other, id]
  · rw [List.filter_append, List.filter_cons_of_neg (by simp [hidden]), List.filter_nil,
      List.append_nil]

/-- The pass that scrubs leaves the fields that the line shows. -/
theorem visible_scrub (unmarked : record.isScrubbed = false) :
    (record.scrub rules).visible = record.shownFields rules := by
  rw [scrub, if_neg (Bool.not_eq_true _ ▸ unmarked), visible, shownFields]
  rw [filter_setMember (by decide), List.filter_map, List.filter_map]
  have names (change : String × Json → String × Json)
      (keeps : ∀ entry, (change entry).1 = entry.1) :
      ((fun entry : String × Json => isVisible entry.1) ∘ change) =
        fun entry => isVisible entry.1 := by
    funext entry
    exact congrArg isVisible (keeps entry)
  rw [names rules.scrubMember Record.fst_scrubMember, names _ fun entry => ?_]
  · refine List.map_congr_left fun entry member => ?_
    have shown : isVisible entry.1 = true := (List.mem_filter.mp member).2
    rw [if_pos shown]
  · split
    · exact Record.fst_scrubMember entry
    · rfl

/-- The line of a scrubbed record is laid out from its scrubbed fields, whatever the layout would
scrub itself. -/
theorem members_scrub (unmarked : record.isScrubbed = false) (own : ScrubRules)
    (request : Option String) :
    (record.scrub rules).members own request =
      ((Time.logText record.created).mapError Time.TimeError.failure).map fun time =>
        record.laidOut request time (record.shownFields rules) := by
  rw [members_eq, created_scrub, if_pos (isScrubbed_scrub unmarked), visible_scrub unmarked]
  have rest : record.scrub rules = { record with fields := (record.scrub rules).fields } := by
    unfold scrub
    split <;> rfl
  rw [rest]
  rfl

/-- A record without a mark is not scrubbed. -/
theorem isScrubbed_of_unmarked (unmarked : record.fields.lookup scrubbedMark = none) :
    record.isScrubbed = false := by
  rw [isScrubbed, unmarked]
  rfl

/-- A field that is shown under its own name is laid out as it is scrubbed. -/
theorem carries_laidOut_shownFields {name : String} {content : Json}
    (visible : isVisible name = true)
    (unbound : name ≠ requestField) (carries : Carries record.fields name content)
    (request : Option String) (time : String) :
    Carries (record.laidOut request time (record.shownFields rules)) name
      (rules.field name content) := by
  have untraced : "exc_info" ≠ name := by
    rintro rfl
    exact absurd visible (by decide)
  apply carries_laidOut unbound.symm untraced
  have scrubbed := carries.map fst_scrubMember (rules.scrubMember_eq (name, content))
  exact scrubbed.filter visible

/-- The line of a record that the pass has scrubbed. -/
def scrubbedLine (asciiOnly : Bool) (request : Option String) (record : Record) :
    Except Failure String :=
  (record.scrub .defaults).jsonLine .defaults asciiOnly request

end Record

end Log

end Turnstile
