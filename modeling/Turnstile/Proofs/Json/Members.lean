import Mathlib.Data.List.Nodup
import Turnstile.Json.Value

/-!
# Setting members

The members of an object are set in place or at the end, so that what is set last under a name is
what stands there, and where it stands is decided by the first setting. What changes members one by
one and keeps their names may be done before or after.
-/

namespace Turnstile.Json

variable {members updates : List (String × Json)} {name other : String} {value content : Json}

/-- No member has the name. -/
def Lacks (members : List (String × Json)) (name : String) : Prop :=
  members.any (·.1 == name) = false

/-- A name that is lacked is not found. -/
theorem Lacks.lookup_eq (lacks : Lacks members name) : members.lookup name = none := by
  rw [List.lookup_eq_none_iff]
  intro entry member
  have different : ¬(entry.1 == name) = true := List.any_eq_false.mp lacks entry member
  rw [bne_iff_ne]
  exact fun same => different (beq_iff_eq.mpr same.symm)

/-- A name that is not found is lacked. -/
theorem lacks_of_lookup (absent : members.lookup name = none) : Lacks members name := by
  rw [Lacks, List.any_eq_false]
  intro entry member same
  have different := List.lookup_eq_none_iff.mp absent entry member
  exact bne_iff_ne.mp different (beq_iff_eq.mp same).symm

/-- Members that are kept lack what was lacked. -/
theorem lacks_filter (lacks : Lacks members name) (keep : String × Json → Bool) :
    Lacks (members.filter keep) name := by
  rw [Lacks, List.any_eq_false] at lacks ⊢
  exact fun entry member => lacks entry (List.mem_filter.mp member).1

section Changing

variable {change : String × Json → String × Json} (keeps : ∀ entry, (change entry).1 = entry.1)
include keeps

/-- What keeps names keeps which names there are. -/
theorem any_map_change : (members.map change).any (·.1 == name) = members.any (·.1 == name) := by
  rw [List.any_map]
  congr 1
  funext entry
  exact congrArg (· == name) (keeps entry)

/-- A member that is looked up among changed ones is the change of the one looked up before. -/
theorem lookup_map_change : (members.map change).lookup name =
    (members.lookup name).map fun found => (change (name, found)).2 := by
  induction members with
  | nil => rfl
  | cons entry rest ih =>
    rw [List.map_cons, List.lookup_cons, List.lookup_cons, ih, keeps]
    by_cases same : name = entry.1
    · rw [same, beq_self_eq_true]
      rfl
    · rw [beq_false_of_ne same]

/-- A member may be set before the members are changed one by one, or its change afterwards. -/
theorem map_setMember : (setMember members name value).map change =
    setMember (members.map change) name (change (name, value)).2 := by
  have changed : change (name, value) = (name, (change (name, value)).2) :=
    Prod.ext (keeps (name, value)) rfl
  unfold setMember
  rw [any_map_change keeps]
  split
  · rw [List.map_map, List.map_map]
    refine List.map_congr_left fun entry _ => ?_
    simp only [Function.comp_apply, keeps]
    split
    · exact changed
    · rfl
  · rw [List.map_append, List.map_singleton, changed]

/-- Members may be set before all are changed one by one, or their changes afterwards. -/
theorem map_setMembers : (setMembers members updates).map change =
    setMembers (members.map change) (updates.map change) := by
  induction updates generalizing members with
  | nil => rfl
  | cons update rest ih =>
    have first := @map_setMember members update.1 update.2 change keeps
    have named : (change update).1 = update.1 := keeps update
    simp only [setMembers, List.foldl_cons, List.map_cons] at ih ⊢
    rw [ih, first, named]

end Changing

/-- Put a value in place of what stands under a name. -/
def replaced (name : String) (value : Json) (entry : String × Json) : String × Json :=
  if entry.1 == name then (name, value) else entry

/-- Replacing a value leaves the name. -/
theorem fst_replaced (entry : String × Json) : (replaced name value entry).1 = entry.1 := by
  unfold replaced
  split
  · rename_i same
    exact (eq_of_beq same).symm
  · rfl

/-- A member that is there is set in its place. -/
theorem setMember_of_any (present : members.any (·.1 == name) = true) :
    setMember members name value = members.map (replaced name value) := if_pos present

/-- A member that is not there is set at the end. -/
theorem setMember_of_lacks (lacks : Lacks members name) :
    setMember members name value = members ++ [(name, value)] :=
  if_neg (Bool.eq_false_iff.mp lacks)

/-- Nothing is put in place of what is not there. -/
theorem map_replaced_of_lacks (lacks : Lacks members name) :
    members.map (replaced name value) = members := by
  refine (List.map_congr_left fun entry member => ?_).trans (List.map_id members)
  exact if_neg (List.any_eq_false.mp lacks entry member)

/-- A member that is set is there. -/
theorem any_setMember : (setMember members name value).any (·.1 == other) =
    (members.any (·.1 == other) || name == other) := by
  cases present : members.any (·.1 == name) with
  | true =>
    rw [setMember_of_any present, any_map_change fst_replaced]
    cases same : name == other with
    | false => rw [Bool.or_false]
    | true => rw [← eq_of_beq same, present, Bool.true_or]
  | false => rw [setMember_of_lacks present, List.any_append, List.any_cons, List.any_nil,
      Bool.or_false]

/-- Members that are set are there. -/
theorem any_setMembers : (setMembers members updates).any (·.1 == name) =
    (members.any (·.1 == name) || updates.any (·.1 == name)) := by
  induction updates generalizing members with
  | nil => rw [List.any_nil, Bool.or_false, setMembers, List.foldl_nil]
  | cons update rest ih =>
    simp only [setMembers, List.foldl_cons] at ih ⊢
    rw [ih, any_setMember, List.any_cons, Bool.or_assoc]

/-- Members lack what they and those set over them lacked. -/
theorem lacks_setMembers (lacks : Lacks members name) (others : Lacks updates name) :
    Lacks (setMembers members updates) name := by
  rw [Lacks, any_setMembers, lacks, others, Bool.false_or]

/-- A member under another name stays what it is. -/
theorem lookup_setMember_of_ne (different : other ≠ name) :
    (setMember members name value).lookup other = members.lookup other := by
  have apart : (other == name) = false := beq_false_of_ne different
  cases held : members.any (·.1 == name) with
  | false =>
    rw [setMember_of_lacks held, List.lookup_append, List.lookup_cons, apart, List.lookup_nil,
      Option.or_none]
  | true =>
    have kept (found : Json) : (replaced name value (other, found)).2 = found :=
      congrArg Prod.snd (if_neg (Bool.eq_false_iff.mp apart))
    rw [setMember_of_any held, lookup_map_change fst_replaced]
    simp only [kept, Option.map_id']

/-- Of two values set under a name the second stays. -/
theorem setMember_setMember :
    setMember (setMember members name value) name content = setMember members name content := by
  have present : (setMember members name value).any (·.1 == name) = true := by
    rw [any_setMember, beq_self_eq_true, Bool.or_true]
  rw [setMember_of_any present, map_setMember fst_replaced]
  have last : (replaced name content (name, value)).2 = content :=
    congrArg Prod.snd (if_pos (beq_self_eq_true name))
  rw [last]
  cases held : members.any (·.1 == name) with
  | false => rw [map_replaced_of_lacks held]
  | true =>
    have still : (members.map (replaced name content)).any (·.1 == name) = true :=
      (any_map_change fst_replaced).trans held
    rw [setMember_of_any still, setMember_of_any held, List.map_map]
    refine List.map_congr_left fun entry _ => ?_
    simp only [Function.comp_apply, replaced]
    split
    · exact if_pos (beq_self_eq_true name)
    · rfl

/-- A member that is set and dropped is gone. -/
theorem dropMember_setMember :
    dropMember (setMember members name value) name = dropMember members name := by
  unfold dropMember
  cases held : members.any (·.1 == name) with
  | false =>
    rw [setMember_of_lacks held, List.filter_append, List.filter_cons_of_neg (by simp),
      List.filter_nil, List.append_nil]
  | true =>
    rw [setMember_of_any held, List.filter_map]
    have names : (fun entry : String × Json => entry.1 != name) ∘ replaced name value =
        fun entry => entry.1 != name := by
      funext entry
      exact congrArg (· != name) (fst_replaced entry)
    rw [names]
    refine (List.map_congr_left fun entry member => ?_).trans (List.map_id _)
    have different := bne_iff_ne.mp (List.mem_filter.mp member).2
    exact if_neg fun same => different (eq_of_beq same)

/-- Setting a member among updates sets it after them, if the members do not have it before. -/
theorem setMembers_setMember (lacks : Lacks members name) :
    setMembers members (setMember updates name value) =
      setMember (setMembers members updates) name value := by
  cases held : updates.any (·.1 == name) with
  | false => rw [setMember_of_lacks held, setMembers, List.foldl_append]; rfl
  | true =>
    have present : (setMembers members updates).any (·.1 == name) = true := by
      rw [any_setMembers, held, Bool.or_true]
    rw [setMember_of_any held, setMember_of_any present, map_setMembers fst_replaced,
      map_replaced_of_lacks lacks]

/-- What keeps members by their names may be done before or after one of them is set. -/
theorem filter_setMember_of_kept {keep : String → Bool} (kept : keep name = true) :
    (setMember members name value).filter (fun entry => keep entry.1) =
      setMember (members.filter fun entry => keep entry.1) name value := by
  have names : (fun entry : String × Json => keep entry.1) ∘ replaced name value =
      fun entry => keep entry.1 := by
    funext entry
    exact congrArg keep (fst_replaced entry)
  cases held : members.any (·.1 == name) with
  | false =>
    have last : [(name, value)].filter (fun entry => keep entry.1) = [(name, value)] :=
      List.filter_cons_of_pos (p := fun entry : String × Json => keep entry.1) kept
    rw [setMember_of_lacks held, setMember_of_lacks (lacks_filter held _), List.filter_append, last]
  | true =>
    obtain ⟨entry, member, same⟩ := List.any_eq_true.mp held
    have kept : keep entry.1 = true := by rw [eq_of_beq same, kept]
    have still : (members.filter fun entry => keep entry.1).any (·.1 == name) = true :=
      List.any_eq_true.mpr ⟨entry, List.mem_filter.mpr ⟨member, kept⟩, same⟩
    rw [setMember_of_any held, setMember_of_any still, List.filter_map, names]

/-- Setting a member keeps names distinct. -/
theorem nodup_setMember (distinct : (members.map Prod.fst).Nodup) :
    ((setMember members name value).map Prod.fst).Nodup := by
  cases held : members.any (·.1 == name) with
  | false =>
    rw [setMember_of_lacks held, List.map_append, List.map_singleton, List.nodup_append]
    refine ⟨distinct, List.nodup_singleton _, fun listed member own alone => ?_⟩
    obtain ⟨entry, found, rfl⟩ := List.mem_map.mp member
    rw [List.mem_singleton.mp alone]
    exact fun same => List.any_eq_false.mp held entry found (beq_iff_eq.mpr same)
  | true =>
    have names : Prod.fst ∘ replaced name value = Prod.fst := by
      funext entry
      exact fst_replaced entry
    rw [setMember_of_any held, List.map_map, names]
    exact distinct

end Turnstile.Json
