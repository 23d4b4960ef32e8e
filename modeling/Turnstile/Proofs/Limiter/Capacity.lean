import Turnstile.Proofs.Limiter.Refinement
import Turnstile.Proofs.Limiter.Steady
import Turnstile.Proofs.Store.Capacity

/-!
# No key outgrows its capacity

Whatever the clocks read, forward or back, before a call or in the middle of one, a key that is
held between calls has a deadline and at least one entry, and no more entries than the capacity. An
attempt may bring one more for a moment: it is counted before it is put in, so that one which finds
the capacity reached is taken out again, and nothing that is dropped meanwhile adds to the count.
-/

namespace Turnstile.Limiter

open Store Time

/-! ## Calls that keep keys within their capacity -/

section Calls

variable {capacity : String → Int} {limit : Limit} {identifier : String} {store : Unsteady}
  (faultless : store.IsFaultless) (within : store.memory.IsWithin capacity)
  (own : capacity (limit.key identifier) = limit.capacity)

/-- The count that a call sees is within the capacity. -/
def IsCountWithin (limit : Limit) (seen : Except Failure Int) : Prop :=
  ∃ count : Nat, seen = .ok count ∧ (count : Int) ≤ limit.capacity

include own in
/-- What a call counts under its key is within the capacity. -/
theorem length_le_capacity (within : store.memory.IsWithin capacity)
    {counted : List (String × Int)}
    (held : counted.Sublist (store.memory.rows (limit.key identifier))) :
    (counted.length : Int) ≤ limit.capacity := by
  have positive := limit.capacity_pos
  have rows := within.length_rows (limit.key identifier) (by omega)
  have fewer := held.length_le
  omega

include faultless within own

/-- An attempt keeps every key within its capacity, and counts no more, unless it has no lifetime
for its key. -/
theorem entered_within (entry : String) (now : Int) :
    (entered limit identifier entry now store).2.memory.IsWithin capacity ∧
      ((∃ failure, limit.ttl = .error failure ∧
          (entered limit identifier entry now store).1 = .error failure) ∨
        IsCountWithin limit (entered limit identifier entry now store).1) := by
  cases lifetime : limit.ttl with
  | error failure =>
    rw [entered_of_ttl_error lifetime]
    exact ⟨within, .inl ⟨failure, rfl, rfl⟩⟩
  | ok seconds =>
    obtain ⟨counted, others, left, answered, calm, held, fewer, slot, frame⟩ :=
      Unsteady.record_of_faultless faultless (limit.key identifier) entry (now - limit.window) now
        seconds
    have batch : Backend.answer (recordCall limit identifier entry now seconds) store =
      ⟨.ok (.number counted.length), [], left⟩ := answered
    have small := length_le_capacity own within held
    cases room : Verdict.admits limit counted.length with
    | true =>
      rw [entered_of_room lifetime (congrArg Step.outcome batch) room, batch]
      refine ⟨within.change _ frame fun bucket present => ?_, .inr ⟨_, rfl, small⟩⟩
      obtain ⟨dated, rows⟩ := slot bucket present
      have below := Verdict.admits_eq_true_iff.mp room
      have size : bucket.scores.size = others.length + 1 := by
        rw [Table.size, rows, List.length_append, List.length_singleton]
      exact ⟨dated, by omega, by omega⟩
    | false =>
      have removed := Unsteady.command_of_faultless calm (.remove (limit.key identifier) entry)
      rw [entered_of_full lifetime (congrArg Step.outcome batch) room
        ((congrArg (fun step => Backend.answer _ (Step.state step)) batch).trans removed)]
      have few : (others.length : Int) ≤ capacity (limit.key identifier) := by omega
      rw [← left.here_held] at slot frame
      exact ⟨within.takeBack frame slot few, .inr ⟨_, rfl, small⟩⟩

/-- A look keeps every key within its capacity, and counts no more. -/
theorem looked_within (now : Int) :
    (looked limit identifier now store).2.memory.IsWithin capacity ∧
      IsCountWithin limit (looked limit identifier now store).1 := by
  obtain ⟨counted, held, answered⟩ :=
    Unsteady.inspect_of_faultless faultless (limit.key identifier) (now - limit.window)
  have look : Backend.answer (.inspect (limit.key identifier) (now - limit.window)) store = _ :=
    answered
  rw [looked, look]
  let purged := store.next (.purge (limit.key identifier) (now - limit.window))
  have kept : purged.memory.IsWithin capacity := within.here.purge _ _
  exact ⟨kept.here.count _, _, rfl, length_le_capacity own within held⟩

end Calls

/-! ## Visits -/

/-- A verdict within the capacity: it is a denial exactly when the count seen is the capacity. -/
structure IsVerdictWithin (limit : Limit) (seen : Except Failure Int) (verdict : Verdict) :
    Prop where
  nonnegative : 0 ≤ verdict.totalHits
  bounded : verdict.totalHits ≤ limit.capacity
  remaining : verdict.remaining = limit.capacity - verdict.totalHits
  denied : verdict.allowed = false ↔ seen = .ok limit.capacity

section Verdicts

variable {limit : Limit} (now : Int) {count : Nat} (small : (count : Int) ≤ limit.capacity)

include small in
/-- A count within the capacity is denied exactly when it is the capacity. -/
theorem admits_eq_false_iff_full : Verdict.admits limit count = false ↔
    (Except.ok (count : Int) : Except Failure Int) = .ok limit.capacity := by
  rw [Verdict.admits_eq_false_iff, Except.ok.injEq]
  omega

include small in
/-- The verdict of an attempt is within the limit. -/
theorem isVerdictWithin_ofAttempt :
    IsVerdictWithin limit (.ok count) (.ofAttempt limit now count) := by
  -- An admitted attempt counts itself, and there was room for it.
  have counted : 0 ≤ (Verdict.ofAttempt limit now count).totalHits ∧
      (Verdict.ofAttempt limit now count).totalHits ≤ limit.capacity := by
    simp only [Verdict.ofAttempt]
    split
    · rename_i room
      have below := Verdict.admits_eq_true_iff.mp room
      omega
    · omega
  have remaining : (Verdict.ofAttempt limit now count).remaining =
      max 0 (limit.capacity - (Verdict.ofAttempt limit now count).totalHits) := by
    simp only [Verdict.ofAttempt]
    rw [Int.sub_sub]
  exact ⟨counted.1, counted.2, by omega, admits_eq_false_iff_full small⟩

include small in
/-- The verdict of a look is within the limit. -/
theorem isVerdictWithin_ofLook : IsVerdictWithin limit (.ok count) (.ofLook limit now count) where
  nonnegative := Int.natCast_nonneg count
  bounded := small
  remaining := by
    simp only [Verdict.ofLook]
    omega
  denied := admits_eq_false_iff_full small

/-- An attempt that has no lifetime for its key is told of one hit. -/
theorem isVerdictWithin_ofOutage (failure : Failure) :
    IsVerdictWithin limit (.error failure) (.ofOutage limit now 1) where
  nonnegative := Int.one_nonneg
  bounded := limit.capacity_pos
  remaining := rfl
  denied := by simp [Verdict.ofOutage]

end Verdicts

section Visits

variable {limitOf : String → Limit} {visit : Visit (List Occasion)} {store : Unsteady}

/-- No command of the visit fails, and its limit is the one of its key. -/
structure Visit.IsFair (limitOf : String → Limit) (visit : Visit (List Occasion)) : Prop where
  faultless : ∀ occasion ∈ visit.around, occasion.failure = none
  limit : visit.limit = limitOf visit.key

variable (fair : visit.IsFair limitOf)
  (within : store.memory.IsWithin fun key => (limitOf key).capacity)
include fair within

/-- A visit keeps every key within its capacity. -/
theorem Visit.IsFair.serve_within :
    (visit.serve store).2.memory.IsWithin fun key => (limitOf key).capacity := by
  have faultless : (visit.ready store).IsFaultless := fair.faultless
  have kept : (visit.ready store).memory.IsWithin fun key => (limitOf key).capacity := within
  have own : (limitOf (visit.limit.key visit.identifier)).capacity = visit.limit.capacity :=
    congrArg Limit.capacity fair.limit.symm
  cases request : visit.request with
  | check =>
    rw [visit.serve_check store request]
    exact (entered_within faultless kept own visit.entry visit.now).1
  | status =>
    rw [visit.serve_status store request]
    exact (looked_within faultless kept own visit.now).1
  | reset =>
    have deleted : Backend.answer (.delete visit.key) (visit.ready store) = _ :=
      Unsteady.command_of_faultless faultless (.delete visit.key)
    rw [visit.serve_reset store request, deleted]
    exact kept.here.delete visit.key

/-- A check or a look is told a verdict within the capacity. -/
theorem Visit.IsFair.told_within (request : visit.request ≠ .reset) :
    ∃ verdict, (visit.serve store).1 = .ok (some verdict) ∧
      IsVerdictWithin visit.limit (visit.seen store) verdict := by
  have faultless : (visit.ready store).IsFaultless := fair.faultless
  have kept : (visit.ready store).memory.IsWithin fun key => (limitOf key).capacity := within
  have own : (limitOf (visit.limit.key visit.identifier)).capacity = visit.limit.capacity :=
    congrArg Limit.capacity fair.limit.symm
  cases asked : visit.request with
  | check =>
    rw [visit.serve_check store asked, Visit.seen, if_pos asked]
    obtain ⟨failure, lifetime, came⟩ | ⟨count, came, small⟩ :=
      (entered_within faultless kept own visit.entry visit.now).2
    · have covering : covered (Verdict.ofOutage visit.limit visit.now 1)
          ((Except.error failure : Except Failure Int).map
            (Verdict.ofAttempt visit.limit visit.now)) = .ok (.ofOutage visit.limit visit.now 1) :=
        if_neg (Bool.eq_false_iff.mp (isInterruption_of_ttl lifetime))
      rw [came, covering]
      exact ⟨_, rfl, isVerdictWithin_ofOutage visit.now failure⟩
    · rw [came]
      exact ⟨_, rfl, isVerdictWithin_ofAttempt visit.now small⟩
  | status =>
    have different : visit.request ≠ .check := by simp [asked]
    have told : (visit.serve store).1 = (covered (Verdict.ofOutage visit.limit visit.now 0)
        ((looked visit.limit visit.identifier visit.now (visit.ready store)).1.map
          (Verdict.ofLook visit.limit visit.now))).map some :=
      congrArg Prod.fst (visit.serve_status store asked)
    obtain ⟨count, came, small⟩ := (looked_within faultless kept own visit.now).2
    rw [told, Visit.seen, if_neg different, came]
    exact ⟨_, rfl, isVerdictWithin_ofLook visit.now small⟩
  | reset => exact absurd asked request

end Visits

/-! ## Whole runs -/

/-- A check of the key that was told it is admitted. -/
def Visited.IsAdmitted {ω : Type} (key : String) (visited : Visited ω) : Prop :=
  visited.visit.request = .check ∧ visited.visit.key = key ∧
    ∃ verdict, visited.told = .ok (some verdict) ∧ verdict.allowed = true

/-- A visit that admits is admitted. -/
theorem Visited.isAdmitted_of_admits {key : String} {visited : Visited (List Occasion)}
    (admits : visited.admits key = true) : visited.IsAdmitted key := by
  simp only [Visited.admits, Bool.and_eq_true, decide_eq_true_eq] at admits
  obtain ⟨⟨request, same⟩, allowed⟩ := admits
  refine ⟨request, same, ?_⟩
  split at allowed
  · rename_i verdict told
    exact ⟨verdict, told, allowed⟩
  · cases allowed

/-- What is held between visits: every key has a deadline and between one entry and its capacity, no
two of one name, and each is scored by the instant of a check of the key that was admitted. -/
structure IsKept {ω : Type} (limitOf : String → Limit) (past : List (Visited ω))
    (held : Table Bucket) : Prop where
  filled : ∀ key bucket, held.get? key = some bucket → 1 ≤ bucket.scores.size
  bounded : ∀ key bucket, held.get? key = some bucket →
    (bucket.scores.size : Int) ≤ (limitOf key).capacity
  dated : ∀ key bucket, held.get? key = some bucket → bucket.deadline.isSome = true
  distinct : ∀ key bucket, held.get? key = some bucket →
    (bucket.scores.rows.map Prod.fst).Nodup
  earned : ∀ key bucket, held.get? key = some bucket → ∀ row ∈ bucket.scores.rows,
    ∃ visited ∈ past, visited.IsAdmitted key ∧ row.2 = visited.visit.now

/-- What is said of a run and of one more visit: every key is kept within its capacity, and a check
or a look is told a verdict within it. -/
def IsCapped {σ ω : Type} [Backend σ] [Surrounded σ ω] (limitOf : String → Limit)
    (course : Course σ ω) (held : Table Bucket) (visit : Visit ω) : Prop :=
  IsKept limitOf course.past held ∧
    (visit.request ≠ .reset → ∃ verdict, (visit.serve course.store).1 = .ok (some verdict) ∧
      IsVerdictWithin visit.limit (visit.seen course.store) verdict)

/-- Runs on an unsteady store whose commands do not fail. -/
theorem isCapped_unsteady (limitOf : String → Limit) (start : Seconds)
    (visits : List (Visit (List Occasion))) (visit : Visit (List Occasion))
    (fair : ∀ made ∈ visits ++ [visit], made.IsFair limitOf) :
    let course : Course Unsteady _ := (Course.start ⟨Memory.empty start, []⟩).run visits
    IsCapped limitOf course course.store.memory.held visit := by
  intro course
  have within : course.store.memory.IsWithin fun key => (limitOf key).capacity :=
    Course.run_induction visits (Memory.IsWithin.empty start) fun course made member kept =>
      (fair made (List.mem_append_left _ member)).serve_within kept
  have earned : course.IsEarned := Course.isEarned_run start fun made member occasion met failure
    fails => by
      rw [(fair made (List.mem_append_left _ member)).faultless occasion met] at fails
      cases fails
  have last := fair visit (List.mem_append_right _ (List.mem_singleton_self _))
  refine ⟨⟨fun key bucket held => (within key bucket held).filled,
    fun key bucket held => (within key bucket held).bounded,
    fun key bucket held => (within key bucket held).dated, fun key bucket held => ?_,
    fun key bucket held row member => ?_⟩, last.told_within within⟩
  · have rows : course.store.memory.rows key = bucket.scores.rows := by
      rw [Memory.rows, held, Bucket.rowsOf_some]
    rw [← rows]
    exact earned.distinct key
  · have rows : course.store.memory.rows key = bucket.scores.rows := by
      rw [Memory.rows, held, Bucket.rowsOf_some]
    obtain ⟨visited, standing, rfl⟩ := earned.owned key row (rows ▸ member)
    obtain ⟨recent, admits⟩ := List.mem_filter.mp standing
    exact ⟨visited, (List.rtakeWhile_suffix _ _).subset recent,
      Visited.isAdmitted_of_admits admits, rfl⟩

/-- Runs on the local store, which refuses nothing. -/
theorem isCapped_local (limitOf : String → Limit) (start : Seconds) (batching : Batching)
    (visits : List (Visit Seconds)) (visit : Visit Seconds)
    (fair : ∀ made ∈ visits ++ [visit], made.limit = limitOf made.key) :
    let course : Course Local Seconds := (Course.start (vacantStore batching start)).run visits
    IsCapped limitOf course course.store.memory.held visit := by
  intro course
  let unsteady : Course Unsteady (List Occasion) := Course.start ⟨Memory.empty start, []⟩
  have begun : IsSteady (vacantStore batching start) unsteady.store := ⟨fun _ => rfl, rfl, rfl, rfl⟩
  obtain ⟨steady, past⟩ :=
    @Course.run_steady visits (Course.start (vacantStore batching start)) unsteady begun rfl
  have moved : visits.map Visit.steady ++ [visit.steady] =
      (visits ++ [visit]).map Visit.steady := by
    rw [List.map_append]
    rfl
  obtain ⟨kept, told⟩ := isCapped_unsteady limitOf start (visits.map Visit.steady) visit.steady
    fun made member => by
      rw [moved] at member
      obtain ⟨other, listed, rfl⟩ := List.mem_map.mp member
      refine ⟨fun occasion met => ?_, fair other listed⟩
      obtain rfl := List.mem_singleton.mp met
      rfl
  have held : (unsteady.run (visits.map Visit.steady)).store.memory.held =
    course.store.memory.held := steady.held
  obtain ⟨same, -⟩ := visit.serve_moved IsSteady.mimics (steady.enter visit.around)
  have seen := visit.seen_moved IsSteady.mimics (steady.enter visit.around)
  refine ⟨?_, fun request => ?_⟩
  · rw [← held]
    refine ⟨kept.filled, kept.bounded, kept.dated, kept.distinct,
      fun key bucket present row member => ?_⟩
    obtain ⟨visited, listed, admitted, scored⟩ := kept.earned key bucket present row member
    obtain ⟨original, among, rfl⟩ := List.mem_map.mp (past ▸ listed)
    exact ⟨original, among, admitted, scored⟩
  · obtain ⟨verdict, answered, capped⟩ := told request
    refine ⟨verdict, same.symm.trans answered, ?_⟩
    rw [← show visit.steady.seen _ = visit.seen course.store from seen]
    exact capped

/-- On a store in memory that was empty, with one limit for each key and whatever the clocks read,
every key held between calls has a deadline and between one entry and its capacity, of different
names and scored by admitted checks of the key; and every check and every look is told a verdict
within the capacity, a denial exactly when the count it saw is the capacity. The first part lets the
store's clock move at every command, the second at every call. -/
theorem capacity_kept_on_any_clock (limitOf : String → Limit) (start : Seconds) :
    (∀ (visits : List (Visit (List Occasion))) (visit : Visit (List Occasion)),
      (∀ made ∈ visits ++ [visit], made.IsFair limitOf) →
      let course : Course Unsteady _ := (Course.start ⟨Memory.empty start, []⟩).run visits
      IsCapped limitOf course course.store.memory.held visit) ∧
    ∀ (batching : Batching) (visits : List (Visit Seconds)) (visit : Visit Seconds),
      (∀ made ∈ visits ++ [visit], made.limit = limitOf made.key) →
      let course : Course Local _ := (Course.start (vacantStore batching start)).run visits
      IsCapped limitOf course course.store.memory.held visit :=
  ⟨isCapped_unsteady limitOf start, isCapped_local limitOf start⟩

section Backward

/-- A check, and one before it by both clocks, in the middle of which the key lapses: of its
commands the last alone finds the store's clock a minute and more ahead. -/
def backwardVisits : List (Visit (List Occasion)) :=
  [checkAt 5000 1 [⟨.whole 100, none⟩],
   checkAt 10 2 (List.replicate 4 ⟨.whole 3, none⟩ ++ [⟨.whole 70, none⟩])]

/-- The second check counts the first, which lies ahead of it, and is denied; its removal finds the
key lapsed. -/
theorem backwardVisits_capped :
    let course : Course Unsteady _ :=
      (Course.start ⟨Memory.empty (.whole 0), []⟩).run backwardVisits
    IsCapped (fun _ => .onePerSecond) course course.store.memory.held (checkAt 20 3 []) ∧
      course.told = [.ok (some ⟨true, 0, 6000, 1⟩), .ok (some ⟨false, 0, 1010, 1⟩)] ∧
      course.store.memory.held.get? "k:a" = none := by
  have fair : ∀ made ∈ backwardVisits ++ [checkAt 20 3 []],
      made.IsFair fun _ => .onePerSecond := by
    intro made member
    simp only [backwardVisits, List.cons_append, List.nil_append, List.mem_cons, List.not_mem_nil,
      or_false] at member
    rcases member with rfl | rfl | rfl <;> exact ⟨by simp [checkAt], rfl⟩
  exact ⟨(capacity_kept_on_any_clock (fun _ => .onePerSecond) (.whole 0)).1 backwardVisits
    (checkAt 20 3 []) fair, by rfl, by rfl⟩

end Backward

end Turnstile.Limiter
