import Turnstile.Proofs.Limiter.Refinement
import Turnstile.Proofs.Number.Nearest
import Turnstile.Proofs.Policy.Resolution
import Turnstile.Proofs.Store.Server

/-!
# The server and the memory decide alike

The same visits are told the same on the store in memory and on the server, though one scores its
entries by whole numbers and drops a key at its deadline, and the other scores by binary64 numbers
and drops a key after it. Both hold the same entries with the same deadlines; where only one of
them has dropped a key, everything under it lies outside the window.
-/

namespace Turnstile.Limiter

open Number Store Time

/-! ## Entries on the server -/

/-- Entries as the server scores them. -/
def scored (rows : List (String × Int)) : Table Binary64 :=
  ⟨rows.map fun row => (row.1, Binary64.ofInt row.2)⟩

/-- A bucket as the server holds it. -/
def toSlot (bucket : Bucket) : Slot := ⟨.scored (scored bucket.scores.rows), bucket.deadline⟩

section Scored

variable (rows : List (String × Int))

/-- Scored rows are empty when the rows are. -/
@[simp] theorem scored_isEmpty : (scored rows).isEmpty = rows.isEmpty := List.isEmpty_map ..

/-- There are as many scored rows as rows. -/
@[simp] theorem scored_size : (scored rows).size = rows.length := List.length_map ..

/-- Dropping an entry from scored rows drops its row. -/
theorem scored_drop (entry : String) :
    (scored rows).drop entry = scored (rows.filter (·.1 != entry)) := by
  simp only [scored, Table.drop, List.filter_map]
  rfl

/-- Putting an entry among scored rows puts its row last. -/
theorem scored_put (entry : String) (score : Int) :
    (scored rows).put entry (Binary64.ofInt score) =
      scored (rows.filter (·.1 != entry) ++ [(entry, score)]) := by
  rw [Table.put, scored_drop]
  simp only [scored, List.map_append, List.map_cons, List.map_nil]

/-- A member is found on the server exactly when it is found among the entries. -/
theorem scored_get? (member : String) :
    (scored rows).get? member = (rows.lookup member).map Binary64.ofInt := by
  induction rows with
  | nil => rfl
  | cons row rest ih =>
    obtain ⟨name, score⟩ := row
    simp only [scored, Table.get?, List.map_cons, List.lookup_cons] at ih ⊢
    split
    · rfl
    · exact ih

/-- Scores that binary64 numbers tell apart are above a bound exactly when the whole ones are. -/
theorem above_scored {bound : Int} (small : bound.natAbs ≤ twoTo 53)
    (exact : ∀ row ∈ rows, row.2.natAbs ≤ twoTo 53) :
    Server.above bound (scored rows) = scored (rows.filter (bound < ·.2)) := by
  simp only [Server.above, scored, Table.keep, List.filter_map]
  congr 2
  refine List.filter_congr fun row member => ?_
  have order := Binary64.ofInt_le_ofInt (exact row member) small
  show (!(Binary64.ofInt row.2).le (Binary64.ofInt bound)) = decide (bound < row.2)
  rw [order, ← decide_not]
  exact decide_eq_decide.mpr Int.not_le

/-- An empty bucket disappears from either store. -/
theorem map_settled (deadline : Option Seconds) :
    (Bucket.settled ⟨⟨rows⟩, deadline⟩).map toSlot =
      if (scored rows).isEmpty then none else some ⟨.scored (scored rows), deadline⟩ := by
  rw [scored_isEmpty, Bucket.settled]
  show (if rows.isEmpty then none else some _ : Option Bucket).map toSlot = _
  split <;> rfl

end Scored

/-- A bucket whose deadline has not come in memory is not over on the server. -/
theorem isOver_of_isLive {bucket : Bucket} {clock : Seconds}
    (live : bucket.isLive clock = true) : Server.isOver clock bucket.deadline = false := by
  unfold Bucket.isLive at live
  cases due : bucket.deadline with
  | none => rfl
  | some deadline =>
    rw [due] at live
    have ahead : deadline.le clock = false := Bool.not_eq_true' _ ▸ live
    show deadline.lt clock = false
    simp only [Seconds.le, Fraction.le, decide_eq_false_iff_not] at ahead
    simp only [Seconds.lt, Fraction.lt, decide_eq_false_iff_not]
    omega

/-! ## The two stores side by side -/

/-- A call finds the server with its clock at a reading. -/
instance : Surrounded Remote Seconds where
  enter clock remote := { remote with server := remote.server.setClock clock }

namespace Visit

/-- Scores of the instant and of the bound are exact. -/
def IsExact (visit : Visit Seconds) : Prop :=
  visit.now.natAbs ≤ twoTo 53 ∧ visit.bound.natAbs ≤ twoTo 53

end Visit

/-- An earlier visit to the key set the deadline of a bucket, and nothing in it is later. -/
def IsDated (past : List (Visit Seconds)) (key : String) (bucket : Bucket) : Prop :=
  ∃ made ∈ past, ∃ seconds, made.key = key ∧ made.limit.Outlasts made.around ∧
    made.limit.ttl = .ok seconds ∧ bucket.deadline = some (made.around.later seconds) ∧
    ∀ row ∈ bucket.scores.rows, row.2 ≤ made.now ∧ row.2.natAbs ≤ twoTo 53

/-- What is dated by some visits is dated by one more. -/
theorem IsDated.append {past : List (Visit Seconds)} {key : String} {bucket : Bucket}
    (dated : IsDated past key bucket) (visit : Visit Seconds) :
    IsDated (past ++ [visit]) key bucket := by
  obtain ⟨made, listed, rest⟩ := dated
  exact ⟨made, List.mem_append_left _ listed, rest⟩

/-- A part of what a bucket holds is dated as the whole. -/
theorem IsDated.sublist {past : List (Visit Seconds)} {key : String} {bucket : Bucket}
    (dated : IsDated past key bucket) {rows : List (String × Int)}
    (part : rows.Sublist bucket.scores.rows) : IsDated past key ⟨⟨rows⟩, bucket.deadline⟩ := by
  obtain ⟨made, listed, seconds, same, outlasts, lifetime, due, old⟩ := dated
  exact ⟨made, listed, seconds, same, outlasts, lifetime, due,
    fun row member => old row (part.subset member)⟩

/-- The relation between the store in memory and the server: both hold the same entries until the
same deadlines, and each deadline was set by an earlier visit. -/
structure Twins (past : List (Visit Seconds)) (memory : Memory) (server : Server) : Prop where
  slots : ∀ key, server.slots.get? key = (memory.held.get? key).map toSlot
  dated : ∀ key bucket, memory.held.get? key = some bucket → IsDated past key bucket

namespace Twins

variable {past : List (Visit Seconds)} {memory next : Memory} {server served : Server}
  {visit : Visit Seconds}

/-- Two stores without keys. -/
theorem empty (clock : Seconds) : Twins [] (Memory.empty clock) (Server.empty clock) where
  slots _ := rfl
  dated _ _ held := nomatch held

/-- A visit keeps the relation when it keeps it under its own key, and leaves the others alone. -/
theorem attend (twins : Twins past memory server)
    (memoryFrame : ∀ key, key ≠ visit.key → next.held.get? key = memory.held.get? key)
    (serverFrame : ∀ key, key ≠ visit.key → served.slots.get? key = server.slots.get? key)
    (slot : served.slots.get? visit.key = (next.held.get? visit.key).map toSlot)
    (dated : ∀ bucket, next.held.get? visit.key = some bucket →
      IsDated (past ++ [visit]) visit.key bucket) :
    Twins (past ++ [visit]) next served := by
  refine ⟨fun key => ?_, fun key bucket held => ?_⟩
  · by_cases same : key = visit.key
    · rw [same]
      exact slot
    · rw [memoryFrame key same, serverFrame key same]
      exact twins.slots key
  · by_cases same : key = visit.key
    · subst same
      exact dated bucket held
    · rw [memoryFrame key same] at held
      exact (twins.dated key bucket held).append visit

/-- Both stores take an entry back from a bucket that is not past its deadline. -/
theorem removed (twins : Twins past memory server) {key : String} {bucket : Bucket}
    (held : memory.held.get? key = some bucket) (live : bucket.isLive memory.clock = true)
    (entry : String) :
    Twins past (memory.remove key entry)
      (server.settle key ((scored bucket.scores.rows).drop entry) bucket.deadline) := by
  have found : memory.find? key = some bucket :=
    (memory.find?_eq_some_iff key).mpr ⟨held, live⟩
  refine ⟨fun other => ?_, fun other left present => ?_⟩
  · rw [Memory.remove_get?, Server.settle_get?, found, Option.bind_some, scored_drop]
    by_cases same : other = key
    · rw [if_pos same, if_pos same, ← map_settled]
      rfl
    · rw [if_neg same, if_neg same]
      exact twins.slots other
  · rw [Memory.remove_get?, found, Option.bind_some] at present
    by_cases same : other = key
    · rw [if_pos same] at present
      unfold Bucket.settled at present
      split at present
      · cases present
      · obtain rfl := Option.some.inj present
        rw [same]
        exact (twins.dated key bucket held).sublist List.filter_sublist
    · rw [if_neg same] at present
      exact twins.dated other left present

section Reading

variable (twins : Twins past memory server) (follows : visit.Follows past)
include twins follows

/-- Whether past its deadline or not, a bucket shows a visit its entries above the bound. -/
theorem counted_of_held {bucket : Bucket} (held : memory.held.get? visit.key = some bucket) :
    visit.counted memory = bucket.scores.rows.filter (visit.bound < ·.2) := by
  obtain ⟨made, listed, seconds, same, outlasts, lifetime, due, old⟩ :=
    twins.dated visit.key bucket held
  obtain ⟨⟨rows⟩, deadline⟩ := bucket
  obtain rfl : deadline = some (made.around.later seconds) := due
  rw [Visit.counted_eq_shown, held]
  exact Mirrors.shown_refreshed outlasts lifetime (follows made listed) same.symm
    fun row member => (old row member).1

/-- What a visit counts is not later than the visit, and scored exactly. -/
theorem old_of_counted : ∀ row ∈ visit.counted memory,
    row.2 ≤ visit.now ∧ row.2.natAbs ≤ twoTo 53 := by
  intro row member
  cases held : memory.held.get? visit.key with
  | none =>
    rw [Visit.counted_eq_shown, held] at member
    cases member
  | some bucket =>
    rw [twins.counted_of_held follows held] at member
    obtain ⟨made, listed, _, _, _, _, _, old⟩ := twins.dated visit.key bucket held
    obtain ⟨early, small⟩ := old row (List.mem_filter.mp member).1
    exact ⟨early.trans (follows made listed).order, small⟩

/-- The server finds the entries that the visit counts in memory, and keeps of them what the
memory keeps. -/
theorem reads (exact : visit.IsExact) : ∃ members deadline,
    (server.setClock visit.around).members visit.key = .ok (members, deadline) ∧
      Server.isOver visit.around deadline = false ∧
      Server.above visit.bound members = scored (visit.counted memory) ∧
      (if (scored (visit.counted memory)).isEmpty then none
        else some ⟨.scored (scored (visit.counted memory)), deadline⟩) =
        (((visit.before memory).find? visit.key).bind fun bucket =>
          (bucket.above visit.bound).settled).map toSlot := by
  have slot : (server.setClock visit.around).slots.get? visit.key = _ := twins.slots visit.key
  have seen : (visit.before memory).find? visit.key =
      (memory.held.get? visit.key).filter (·.isLive visit.around) := rfl
  have nothing : Server.above visit.bound {} = scored [] := rfl
  rw [seen]
  cases held : memory.held.get? visit.key with
  | none =>
    have gone : (server.setClock visit.around).slot? visit.key = none := by
      rw [Server.slot?, slot, held]
      rfl
    have counted : visit.counted memory = [] := by
      rw [Visit.counted_eq_shown, held]
      rfl
    rw [counted]
    exact ⟨{}, none, Server.members_of_none gone, rfl, nothing, rfl⟩
  | some bucket =>
    have counted := twins.counted_of_held follows held
    obtain ⟨_, _, _, _, _, _, _, old⟩ := twins.dated visit.key bucket held
    have unseen (dead : bucket.isLive visit.around = false) : visit.counted memory = [] := by
      rw [Visit.counted_eq_shown, held, Bucket.shown_some, dead]
      rfl
    rw [held] at slot
    rw [Option.filter_some]
    cases passed : Server.isOver visit.around bucket.deadline with
    | true =>
      have dead : bucket.isLive visit.around = false := by
        by_contra live
        rw [isOver_of_isLive (Bool.not_eq_false _ ▸ live)] at passed
        cases passed
      rw [unseen dead, dead]
      exact ⟨{}, none, Server.members_of_none (Server.slot?_of_isOver slot passed), rfl, nothing,
        rfl⟩
    | false =>
      refine ⟨scored bucket.scores.rows, bucket.deadline, Server.members_of_get? slot passed,
        passed, ?_, ?_⟩
      · rw [counted]
        exact above_scored _ exact.2 fun row member => (old row member).2
      · cases live : bucket.isLive visit.around with
        | true =>
          rw [counted, ← map_settled]
          rfl
        | false =>
          rw [unseen live]
          rfl

end Reading

section Steps

variable {store : Local} {remote : Remote}

/-- A visit is told the same on both stores, and keeps the relation. -/
def IsAlike (past : List (Visit Seconds)) (visit : Visit Seconds) (store : Local)
    (remote : Remote) : Prop :=
  (visit.serve remote).1 = (visit.serve store).1 ∧
    (visit.serve store).2.interference = store.interference ∧
    (visit.serve remote).2.interference = remote.interference ∧
    Twins (past ++ [visit]) (visit.serve store).2.memory (visit.serve remote).2.server

variable (twins : Twins past store.memory remote.server) (calm : store.interference.IsQuiet)
  (quiet : remote.interference.IsQuiet)
include twins calm quiet

/-- A reset is told the same, and both stores forget the key. -/
theorem reset (request : visit.request = .reset) : IsAlike past visit store remote := by
  obtain ⟨left, ⟨leaves, kept⟩, answered⟩ :=
    @Remote.answer_delete_of_quiet (visit.ready remote) quiet visit.key
  have served : visit.serve remote = (.ok none, left) := by
    rw [visit.serve_reset remote request]
    simp only [Backend.answer] at answered ⊢
    rw [answered]
    rfl
  rw [IsAlike, served, visit.serve_of_reset calm request]
  refine ⟨rfl, rfl, kept, twins.attend (fun key different => ?_) (fun key different => ?_) ?_
    fun bucket held => ?_⟩
  · rw [Memory.delete_get?, if_neg different]
    rfl
  · rw [leaves]
    show (remote.server.slots.drop visit.key).get? key = _
    rw [Table.get?_drop, if_neg different]
  · rw [leaves, Memory.delete_get?, if_pos rfl]
    exact Table.get?_drop_self ..
  · rw [Memory.delete_get?, if_pos rfl] at held
    cases held

variable (follows : visit.Follows past) (exact : visit.IsExact)
include follows exact

/-- A look is told the same count, and both stores keep what it counted. -/
theorem status (request : visit.request = .status) : IsAlike past visit store remote := by
  obtain ⟨members, deadline, found, lasts, above, kept⟩ := twins.reads follows exact
  obtain ⟨left, ⟨leaves, calls⟩, answered⟩ :=
    @Remote.answer_inspect_of_quiet (visit.ready remote) quiet visit.key members deadline found
      lasts visit.bound
  rw [above] at leaves answered
  have served : visit.serve remote =
      (.ok (some (Verdict.ofLook visit.limit visit.now (visit.counted store.memory).length)),
        left) := by
    rw [visit.serve_status remote request]
    simp only [Backend.answer, Visit.bound] at answered ⊢
    rw [answered, scored_size]
    rfl
  have slot (key : String) := (visit.before store.memory).inspect_get? visit.key key visit.bound
  rw [IsAlike, served, visit.serve_of_status calm request]
  refine ⟨rfl, rfl, calls, twins.attend (fun key different => ?_) (fun key different => ?_) ?_
    fun bucket held => ?_⟩
  · rw [slot, if_neg different]
    rfl
  · rw [leaves, Server.settle_get?, if_neg different]
    rfl
  · rw [leaves, Server.settle_get?, if_pos rfl, slot, if_pos rfl]
    exact kept
  · rw [slot, if_pos rfl] at held
    obtain ⟨old, present, settled⟩ := Option.bind_eq_some_iff.mp held
    have dated := twins.dated visit.key old
      ((Memory.find?_eq_some_iff _ _).mp present).1
    unfold Bucket.settled at settled
    split at settled
    · cases settled
    · obtain rfl := Option.some.inj settled
      exact (dated.sublist List.filter_sublist).append visit

section Check

variable {seconds : Int} (outlasts : visit.limit.Outlasts visit.around)
  (lifetime : visit.limit.ttl = .ok seconds)
include outlasts lifetime

omit twins calm quiet follows exact in
/-- A deadline that a visit sets has not come at the visit. -/
theorem lasts_at_once : (visit.around.later seconds).le visit.around = false := by
  have positive := visit.limit.window_pos
  refine outlasts.not_le lifetime (Seconds.KeepsStep.refl visit.around 0) ?_
  rw [abs_zero]
  exact positive

omit calm in
/-- The batch of a check is answered with the count of its window, and keeps the relation. -/
theorem recorded : ∃ left : Remote, left.interference = remote.interference ∧
    left.server.clock = visit.around ∧
    Twins (past ++ [visit]) (visit.recorded seconds store.memory) left.server ∧
    Backend.answer (recordCall visit.limit visit.identifier visit.entry visit.now seconds)
        (visit.ready remote) =
      ⟨.ok (.number (visit.counted store.memory).length), [], left⟩ := by
  obtain ⟨members, deadline, found, lasts, above, _⟩ := twins.reads follows exact
  obtain ⟨server, left, ⟨leaves, calls⟩, clock, slots, answered⟩ :=
    @Remote.answer_record_of_quiet (visit.ready remote) quiet visit.key members deadline found
      lasts visit.bound visit.entry visit.now seconds
  rw [above, scored_size] at answered
  subst leaves
  have held := (visit.before store.memory).record_get? visit.key visit.key visit.entry visit.bound
    visit.now seconds
  rw [if_pos rfl] at held
  refine ⟨left, calls, clock, twins.attend (fun key different => ?_) (fun key different => ?_) ?_
    fun bucket present => ?_, answered⟩
  · rw [Memory.record_get?, if_neg different]
    rfl
  · rw [slots, if_neg different]
    rfl
  · rw [slots, if_pos rfl, held, above, scored_put]
    rfl
  · rw [held] at present
    obtain rfl := Option.some.inj present
    refine ⟨visit, List.mem_append_right _ (List.mem_singleton_self _), seconds, rfl, outlasts,
      lifetime, rfl, fun row member => ?_⟩
    rcases List.mem_append.mp member with counted | own
    · exact twins.old_of_counted follows row (List.mem_filter.mp counted).1
    · obtain rfl := List.mem_singleton.mp own
      exact ⟨le_rfl, exact.1⟩

/-- A check is told the same count; both stores keep its entry, or both take it back. -/
theorem check (request : visit.request = .check) : IsAlike past visit store remote := by
  obtain ⟨left, calls, clock, kept, answered⟩ :=
    twins.recorded quiet follows exact outlasts lifetime
  cases room : Verdict.admits visit.limit (visit.counted store.memory).length with
  | true =>
    have served : visit.serve remote =
        (.ok (some (Verdict.ofAttempt visit.limit visit.now (visit.counted store.memory).length)),
          left) := by
      rw [visit.serve_check remote request, Visit.attempt,
        entered_of_room lifetime (congrArg Step.outcome answered) room, answered]
      rfl
    rw [IsAlike, served, visit.serve_of_room calm request lifetime room]
    exact ⟨rfl, rfl, calls, kept⟩
  | false =>
    have held := (visit.before store.memory).record_get? visit.key visit.key visit.entry
      visit.bound visit.now seconds
    rw [if_pos rfl] at held
    generalize bucketEq : Bucket.mk _ _ = bucket at held
    have live : bucket.isLive visit.around = true := by
      rw [← bucketEq]
      show (!(visit.around.later seconds).le visit.around) = true
      rw [lasts_at_once outlasts lifetime, Bool.not_false]
    have slot := kept.slots visit.key
    rw [held] at slot
    have ahead : Server.isOver left.server.clock bucket.deadline = false := by
      rw [clock]
      exact isOver_of_isLive live
    obtain ⟨last, ⟨leaves, others⟩, removed⟩ := @Remote.answer_remove_of_quiet left
      (calls ▸ quiet) visit.key _ _ (Server.members_of_get? slot ahead) visit.entry
    have served : visit.serve remote =
        (.ok (some (Verdict.ofAttempt visit.limit visit.now (visit.counted store.memory).length)),
          last) := by
      rw [visit.serve_check remote request, Visit.attempt,
        entered_of_full lifetime (congrArg Step.outcome answered) room
          ((congrArg (fun step => Backend.answer _ step.state) answered).trans removed)]
      rfl
    rw [IsAlike, served, visit.serve_of_full calm request lifetime room]
    refine ⟨rfl, rfl, others.trans calls, ?_⟩
    dsimp only
    have still : bucket.isLive (visit.recorded seconds store.memory).clock = true := by
      rw [Memory.record_clock]
      exact live
    have taken := kept.removed held still visit.entry
    rw [leaves]
    exact taken

end Check

/-- A visit is told the same on both stores, and keeps the relation. -/
theorem serve (outlasts : visit.request = .check → visit.limit.Outlasts visit.around) :
    IsAlike past visit store remote := by
  cases request : visit.request with
  | check =>
    obtain ⟨seconds, lifetime, _⟩ := outlasts request
    exact twins.check calm quiet follows exact (outlasts request) lifetime request
  | status => exact twins.status calm quiet follows exact request
  | reset => exact twins.reset calm quiet request

end Steps

end Twins

namespace Course

/-- The callers of visits in turn are told the same on both stores. -/
theorem told_alike (visits : List (Visit Seconds)) {course : Course Local Seconds}
    {other : Course Remote Seconds} {past : List (Visit Seconds)}
    (twins : Twins past course.store.memory other.store.server)
    (calm : course.store.interference.IsQuiet) (quiet : other.store.interference.IsQuiet)
    (same : other.told = course.told) (follows : ∀ visit ∈ visits, visit.Follows past)
    (inTurn : visits.Pairwise Visit.Precedes) (exact : ∀ visit ∈ visits, visit.IsExact)
    (outlasts : ∀ visit ∈ visits, visit.request = .check →
      visit.limit.Outlasts visit.around) :
    (other.run visits).told = (course.run visits).told := by
  induction visits generalizing course other past with
  | nil => exact same
  | cons visit rest ih =>
    obtain ⟨before, turns⟩ := List.pairwise_cons.mp inTurn
    obtain ⟨told, calmer, quieter, kept⟩ := twins.serve calm quiet
      (follows visit (List.mem_cons_self ..)) (exact visit (List.mem_cons_self ..))
      (outlasts visit (List.mem_cons_self ..))
    have alike : (other.attend visit).told = (course.attend visit).told := by
      have heads : other.past.map (·.told) = course.past.map (·.told) := same
      simp only [Course.told, attend, List.map_append, heads, List.map_cons, List.map_nil, told]
    exact @ih (course.attend visit) (other.attend visit) _ kept (calmer ▸ calm) (quieter ▸ quiet)
      alike
      (fun later member => Visit.follows_append_iff.mpr
        ⟨follows later (List.mem_cons_of_mem _ member), before later member⟩)
      turns (fun later member => exact later (List.mem_cons_of_mem _ member))
      fun later member => outlasts later (List.mem_cons_of_mem _ member)

end Course

/-- The server before the first visit: without keys, and with no request touched. -/
def vacantServer (clock : Seconds) : Remote where
  server := Server.empty clock

/-- Callers are told the same by the server and by the store in memory, in any number of visits
with exact scores, when each check is made under a limit whose lifetime outlasts its window at that
reading of the clock. On clocks that tell milliseconds every lifetime does, of any window that has
exact scores. -/
theorem backends_decide_alike (batching : Batching) (start : Seconds) :
    (∀ visits : List (Visit Seconds), visits.Pairwise Visit.Precedes →
      (∀ visit ∈ visits, visit.IsExact ∧
        (visit.request = .check → visit.limit.Outlasts visit.around)) →
      ((Course.start (vacantServer start)).run visits).told =
        ((Course.start (vacantStore batching start)).run visits).told) ∧
    ∀ (limit : Limit) (reading : Seconds), limit.window ≤ twoTo 53 → reading.TellsMilliseconds →
      limit.Outlasts reading := by
  refine ⟨fun visits inTurn fair => ?_, fun limit reading small fine =>
    Limit.outlasts_of_tellsMilliseconds small fine⟩
  exact Course.told_alike visits (Twins.empty start) (fun _ => rfl) (fun _ => rfl) rfl
    (fun _ _ _ member => nomatch member) inTurn (fun visit member => (fair visit member).1)
    fun visit member => (fair visit member).2

section Deadline

/-- The clock in binary64 at a whole number of seconds. -/
def evenSeconds (count : Int) : Seconds := .binary (Binary64.ofInt count)

/-- A look at the exact deadline of a check. -/
def deadlineVisits : List (Visit Seconds) :=
  [opener .onePerSecond (evenSeconds 0), ⟨.status, .onePerSecond, "a", 1000, 0, evenSeconds 61⟩]

/-- The instant of an even reading is its count of seconds. -/
theorem instant_evenSeconds {count : Int} (small : count.natAbs ≤ twoTo 53) :
    (evenSeconds count).instant = count := by
  obtain ⟨-, value⟩ := Binary64.ofInt_toRat small
  rw [evenSeconds, Seconds.instant_binary, value]

/-- The memory has dropped the key, the server has not, and neither counts anything. -/
theorem decided_alike_at_deadline :
    ((Course.start (vacantServer (evenSeconds 0))).run deadlineVisits).told =
      [.ok (some ⟨true, 0, 1000, 1⟩), .ok (some ⟨true, 1, 2000, 0⟩)] := by
  have fine : (evenSeconds 0).TellsMilliseconds := by
    obtain ⟨finite, value⟩ := Binary64.ofInt_toRat (show (0 : Int).natAbs ≤ twoTo 53 by decide)
    refine ⟨finite, ?_⟩
    rw [value]
    norm_num
  have outlasts : Limit.onePerSecond.Outlasts (evenSeconds 0) :=
    (backends_decide_alike .locked (evenSeconds 0)).2 _ _ (by decide) fine
  have inTurn : deadlineVisits.Pairwise Visit.Precedes := by
    refine List.pairwise_pair.mpr ⟨by decide, ?_, fun _ => rfl, fun _ checked => nomatch checked⟩
    show Seconds.KeepsStep (evenSeconds 0) (evenSeconds 61) (1000 - 0)
    rw [Seconds.KeepsStep, instant_evenSeconds (by decide), instant_evenSeconds (by decide)]
    norm_num
  have told := (backends_decide_alike .locked (evenSeconds 0)).1 deadlineVisits inTurn ?_
  · rw [told]
    rfl
  · simp only [deadlineVisits, List.mem_cons, List.not_mem_nil, or_false]
    rintro visit (rfl | rfl)
    · exact ⟨⟨by decide, by decide⟩, fun _ => outlasts⟩
    · exact ⟨⟨by decide, by decide⟩, fun checked => nomatch checked⟩

end Deadline

section Departure

/-- Attempts of a window of just over an hour. -/
def hourly : Limit := { Limit.onePerSecond with window := 3602000, window_pos := by decide }

/-- A clock that counts to the last second that binary64 can tell from the next. -/
def lastOddSecond : Seconds := .binary (.finite false 9007199254740991 0)

/-- An hour and a minute later, where only every other second is a reading. -/
def roundedSecond : Seconds := .binary (.finite false 4503599627372326 1)

/-- A check, and a look at the last millisecond of its window. -/
def roundedVisits : List (Visit Seconds) :=
  [⟨.check, hourly, "a", 0, 1, lastOddSecond⟩, ⟨.status, hourly, "a", 3601999, 0, roundedSecond⟩]

/-- The last odd second that binary64 tells. -/
theorem instant_lastOddSecond : lastOddSecond.instant = 9007199254740991 := by
  have value : lastOddSecond.value = ⟨9007199254740991, 1⟩ := by decide +kernel
  rw [Seconds.instant, value]
  norm_num

/-- The second to which the deadline is rounded. -/
theorem instant_roundedSecond : roundedSecond.instant = 9007199254744652 := by
  have value : roundedSecond.value = ⟨9007199254744652, 1⟩ := by decide +kernel
  rw [Seconds.instant, value]
  norm_num

/-- Where the clock's own arithmetic rounds the deadline down to the reading of a look that should
still count the check, the memory has dropped the key and the server has not. -/
theorem backends_part_at_rounded_deadline :
    roundedVisits.Pairwise Visit.Precedes ∧
      (∀ visit ∈ roundedVisits, visit.IsExact ∧ visit.limit.window ≤ twoTo 53) ∧
      ((Course.start (vacantServer lastOddSecond)).run roundedVisits).told =
        [.ok (some ⟨true, 0, 3602000, 1⟩), .ok (some ⟨false, 0, 7203999, 1⟩)] ∧
      ((Course.start (vacantStore .locked lastOddSecond)).run roundedVisits).told =
        [.ok (some ⟨true, 0, 3602000, 1⟩), .ok (some ⟨true, 1, 7203999, 0⟩)] := by
  refine ⟨?_, ?_, by rfl, by rfl⟩
  · refine List.pairwise_pair.mpr ⟨by decide, ?_, fun _ => rfl, fun _ checked => nomatch checked⟩
    show Seconds.KeepsStep lastOddSecond roundedSecond (3601999 - 0)
    rw [Seconds.KeepsStep, instant_lastOddSecond, instant_roundedSecond]
    norm_num
  · simp only [roundedVisits, List.mem_cons, List.not_mem_nil, or_false]
    rintro visit (rfl | rfl)
    · exact ⟨⟨by decide, by decide⟩, by decide⟩
    · exact ⟨⟨by decide, by decide⟩, by decide⟩

end Departure

end Turnstile.Limiter
