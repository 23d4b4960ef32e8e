import Mathlib.Data.List.DropRight
import Turnstile.Proofs.Limiter.Visit
import Turnstile.Proofs.Policy.Lifetime
import Turnstile.Proofs.Store.Unsteady

/-!
# Denials are earned

Whatever the clocks read and whichever commands fail, every entry held belongs to a check that was
told it is admitted since the key was last reset. A denial counts such entries only, so it needs
as many admitted checks in its window as the capacity. The invariant is ownership: the one way in
which an attempt leaves its entry behind without the store serving it to the end is a failure, and
a failure is answered with an admission.
-/

namespace Turnstile.Limiter

open Store Time

/-- The only entry that an attempt's batch inserts is its own. -/
theorem eq_of_add_mem_recordCall {limit : Limit} {identifier entry : String} {now seconds : Int}
    {key name : String} {score : Int}
    (member : .add key name score ∈ (recordCall limit identifier entry now seconds).commands) :
    key = limit.key identifier ∧ name = entry ∧ score = now := by
  simpa [recordCall, Call.commands, Call.parts?] using member

/-- An attempt came to no denial: it was admitted, or ended by an ordinary failure. -/
def IsUndenied (limit : Limit) : Except Failure Int → Prop
  | .ok count => Verdict.admits limit count = true
  | .error failure => failure.isInterruption = false

section Attempt

variable {store : Unsteady} {owner : String → String × Int → Prop}

/-- Left by an attempt, the store is owned if the attempt's own entry is. -/
def LeavesOwn (limit : Limit) (identifier entry : String) (now : Int)
    (owner : String → String × Int → Prop) (left : Unsteady) : Prop :=
  owner (limit.key identifier) (entry, now) → left.memory.Owned owner

/-- A batch leaves nothing new but its own entry. -/
theorem recordCall_leavesOwn (limit : Limit) (identifier entry : String) (now : Int)
    (held : store.memory.Owned owner) (ordinary : store.IsOrdinary) (seconds : Int) :
    LeavesOwn limit identifier entry now owner
      (Unsteady.answer (recordCall limit identifier entry now seconds) store).state := by
  intro own
  refine (Unsteady.answer_survives held ordinary _ fun key name score member => ?_).owned
  obtain ⟨rfl, rfl, rfl⟩ := eq_of_add_mem_recordCall member
  exact own

/-- An attempt either comes to no denial and leaves nothing new but its own entry, or it is denied
by a count of distinct owned entries in its window and leaves nothing new. -/
theorem entered_owned (limit : Limit) (identifier entry : String) (now : Int)
    (held : store.memory.Owned owner) (ordinary : store.IsOrdinary) :
    let came := entered limit identifier entry now store
    (IsUndenied limit came.1 ∧ LeavesOwn limit identifier entry now owner came.2) ∨
    (∃ counted : List (String × Int), came.1 = .ok counted.length ∧
      Verdict.admits limit counted.length = false ∧ (counted.map Prod.fst).Nodup ∧
      ∀ row ∈ counted, owner (limit.key identifier) row ∧ now - limit.window < row.2) ∧
      came.2.memory.Owned owner := by
  intro came
  cases lifetime : limit.ttl with
  | error failure =>
    rw [show came = _ from entered_of_ttl_error lifetime]
    exact .inl ⟨isInterruption_of_ttl lifetime, fun _ => held⟩
  | ok seconds =>
    have own := recordCall_leavesOwn limit identifier entry now held ordinary seconds
    have wider : store.memory.Owned fun key row =>
        owner key row ∨ key = limit.key identifier ∧ row.1 = entry := held.mono fun _ _ => .inl
    have batch := Unsteady.answer_survives wider ordinary
      (recordCall limit identifier entry now seconds) ?_
    · cases answered :
          (Unsteady.answer (recordCall limit identifier entry now seconds) store).outcome with
      | error failure =>
        rw [show came = _ from entered_of_error lifetime answered]
        exact .inl ⟨batch.mild failure answered, own⟩
      | ok reply =>
        obtain ⟨counted, rfl, distinct, inside⟩ := Unsteady.record_counts held answered
        cases room : Verdict.admits limit counted.length with
        | true =>
          rw [show came = _ from entered_of_room lifetime answered room]
          exact .inl ⟨room, own⟩
        | false =>
          obtain served | ⟨failure, mild, failed⟩ :=
            Unsteady.command_cases batch.ordinary (.remove (limit.key identifier) entry)
          · rw [show came = _ from entered_of_full lifetime answered room served]
            exact .inr ⟨⟨counted, rfl, room, distinct, inside⟩,
              (Unsteady.here_owned batch.owned).remove⟩
          · rw [show came = _ from entered_of_full lifetime answered room failed]
            exact .inl ⟨mild, fun admitted => Unsteady.here_owned (own admitted)⟩
    · intro key name score member
      obtain ⟨rfl, rfl, rfl⟩ := eq_of_add_mem_recordCall member
      exact .inr ⟨rfl, rfl⟩

end Attempt

/-! ## Standing checks -/

namespace Visited

/-- A check of the key that was told it is admitted. -/
def admits (key : String) (visited : Visited (List Occasion)) : Bool :=
  visited.visit.request = .check && visited.visit.key = key &&
    match visited.told with
    | .ok (some verdict) => verdict.allowed
    | _ => false

/-- A reset of the key whose command was carried out. -/
def clears (key : String) (visited : Visited (List Occasion)) : Bool :=
  visited.visit.request = .reset && visited.visit.key = key &&
    (visited.visit.around.head?.bind (·.failure)).isNone

/-- The entry that a check inserts. -/
def row (visited : Visited (List Occasion)) : String × Int :=
  (visited.visit.entry, visited.visit.now)

end Visited

/-- A call finds an unsteady store with the occasions ahead that it is to meet. -/
instance : Surrounded Unsteady (List Occasion) where
  enter ahead store := { store with ahead }

/-- A visit whose commands do not end by an interruption. -/
def Visit.IsOrdinary (visit : Visit (List Occasion)) : Prop :=
  ∀ occasion ∈ visit.around, occasion.IsOrdinary

namespace Course

variable {course : Course Unsteady (List Occasion)} {visit : Visit (List Occasion)} {key : String}
  {row : String × Int}

/-- The admitted checks of a key since it was last reset. -/
def standing (course : Course Unsteady (List Occasion)) (key : String) :
    List (Visited (List Occasion)) :=
  (course.past.rtakeWhile (!·.clears key)).filter (·.admits key)

/-- The entry under the key is that of a standing check. -/
def Stands (course : Course Unsteady (List Occasion)) (key : String) (row : String × Int) : Prop :=
  ∃ visited ∈ course.standing key, row = visited.row

/-- Every entry held is that of a standing check, and no key holds two of one name. -/
def IsEarned (course : Course Unsteady (List Occasion)) : Prop :=
  course.store.memory.Owned course.Stands

/-- The visit and what its caller is told. -/
abbrev visited (course : Course Unsteady (List Occasion)) (visit : Visit (List Occasion)) :
    Visited (List Occasion) := ⟨visit, (visit.serve course.store).1⟩

/-- A visit empties the standing checks of the key that it clears, and joins those of the key
that admits it. -/
theorem standing_attend : (course.attend visit).standing key =
    if (course.visited visit).clears key then []
    else if (course.visited visit).admits key then course.standing key ++ [course.visited visit]
    else course.standing key := by
  simp only [standing, attend]
  rw [List.rtakeWhile_concat]
  cases cleared : (course.visited visit).clears key with
  | true => simp
  | false => cases admitted : (course.visited visit).admits key <;> simp [admitted]

/-- What stands keeps standing when a visit clears nothing. -/
theorem Stands.attend (stands : course.Stands key row)
    (idle : (course.visited visit).clears key = false) : (course.attend visit).Stands key row := by
  obtain ⟨visited, member, same⟩ := stands
  refine ⟨visited, ?_, same⟩
  rw [standing_attend, idle, if_neg Bool.false_ne_true]
  split
  · exact List.mem_append_left _ member
  · exact member

/-- A visit that is no reset clears nothing. -/
theorem clears_eq_false (request : visit.request ≠ .reset) (key : String) :
    (course.visited visit).clears key = false := by
  simp [Visited.clears, request]

/-- The verdict on an attempt that came to no denial is an admission. -/
theorem exists_allowed_of_undenied {limit : Limit} (now : Int) {came : Except Failure Int}
    (undenied : IsUndenied limit came) : ∃ verdict,
      (covered (Verdict.ofOutage limit now 1) (came.map (Verdict.ofAttempt limit now))).map some =
        .ok (some verdict) ∧ verdict.allowed = true := by
  cases came with
  | ok count => exact ⟨Verdict.ofAttempt limit now count, rfl, undenied⟩
  | error failure =>
    refine ⟨Verdict.ofOutage limit now 1, ?_, rfl⟩
    simp only [Except.map, covered]
    rw [if_neg (by rw [undenied]; exact Bool.false_ne_true)]

/-- A check leaves every entry earned: it leaves its own only when it is told it is admitted. -/
theorem IsEarned.check (earned : course.IsEarned) (request : visit.request = .check)
    (ordinary : visit.IsOrdinary) : (course.attend visit).IsEarned := by
  have kept : (visit.ready course.store).memory.Owned (course.attend visit).Stands :=
    earned.mono fun key row stands => stands.attend (clears_eq_false (by simp [request]) key)
  have served := visit.serve_check course.store request
  have left : (course.attend visit).store = (visit.attempt course.store).2 :=
    congrArg Prod.snd served
  unfold IsEarned
  rw [left]
  obtain ⟨undenied, held⟩ | ⟨_, held⟩ :=
    entered_owned visit.limit visit.identifier visit.entry visit.now kept ordinary
  · obtain ⟨verdict, told, allowed⟩ := exists_allowed_of_undenied visit.now undenied
    have admitted : (course.visited visit).admits visit.key = true := by
      simp [Visited.admits, request, congrArg Prod.fst served, told, allowed]
    refine held ⟨course.visited visit, ?_, rfl⟩
    rw [standing_attend, clears_eq_false (by simp [request]), if_neg Bool.false_ne_true]
    rw [show (course.visited visit).admits (visit.limit.key visit.identifier) = true from admitted]
    exact List.mem_append_right _ (List.mem_singleton_self _)
  · exact held

/-- A look leaves every entry earned. -/
theorem IsEarned.status (earned : course.IsEarned) (request : visit.request = .status)
    (ordinary : visit.IsOrdinary) : (course.attend visit).IsEarned := by
  have kept : (visit.ready course.store).memory.Owned (course.attend visit).Stands :=
    earned.mono fun key row stands => stands.attend (clears_eq_false (by simp [request]) key)
  have left : (course.attend visit).store =
      (Unsteady.answer (.inspect visit.key (visit.now - visit.limit.window))
        (visit.ready course.store)).state :=
    congrArg Prod.snd (visit.serve_status course.store request)
  unfold IsEarned
  rw [left]
  refine (Unsteady.answer_survives kept ordinary _ fun key entry score member => ?_).owned
  simp [Call.commands, Call.parts?] at member

/-- A reset leaves every entry earned: it drops the entries of its key, or fails and keeps the
checks that stand. -/
theorem IsEarned.reset (earned : course.IsEarned) (request : visit.request = .reset) :
    (course.attend visit).IsEarned := by
  have held : (visit.ready course.store).here.Owned course.Stands := Unsteady.here_owned earned
  have left : (course.attend visit).store =
      (Unsteady.command (.delete visit.key) (visit.ready course.store)).state :=
    congrArg Prod.snd (visit.serve_reset course.store request)
  unfold IsEarned
  rw [left, Unsteady.command]
  cases refused : (visit.ready course.store).refusal? with
  | some failure =>
    have idle (key : String) : (course.visited visit).clears key = false := by
      simp only [Visited.clears]
      rw [show visit.around.head?.bind (·.failure) = _ from refused]
      exact Bool.and_false _
    exact held.mono fun key row stands => stands.attend (idle key)
  | none =>
    have rows := (visit.ready course.store).here.delete_rows visit.key
    have fewer : ((visit.ready course.store).here.delete visit.key).Owned course.Stands :=
      held.of_taken rows (List.nil_sublist _)
    simp only [Memory.run]
    refine ⟨fewer.distinct, fun key row member => ?_⟩
    have other : visit.key ≠ key := by
      rintro rfl
      rw [rows, if_pos rfl] at member
      cases member
    refine (fewer.owned key row member).attend ?_
    simp [Visited.clears, other]

/-- Every visit leaves every entry earned. -/
theorem IsEarned.attend (earned : course.IsEarned) (ordinary : visit.IsOrdinary) :
    (course.attend visit).IsEarned := by
  cases request : visit.request with
  | check => exact earned.check request ordinary
  | status => exact earned.status request ordinary
  | reset => exact earned.reset request

/-- Every entry held is earned after any visits to a store that was empty. -/
theorem isEarned_run (clock : Seconds) {visits : List (Visit (List Occasion))}
    (ordinary : ∀ visit ∈ visits, visit.IsOrdinary) :
    ((start ⟨Memory.empty clock, []⟩).run visits : Course Unsteady _).IsEarned :=
  run_induction visits (Memory.Owned.empty clock)
    fun _ visit member earned => earned.attend (ordinary visit member)

end Course

/-- A check is denied only when as many standing checks of its key as the capacity lie in its
window, and every entry held is that of a standing check, after any visits to a store that was
empty. -/
theorem denied_only_when_full (clock : Seconds) (visits : List (Visit (List Occasion)))
    (visit : Visit (List Occasion)) (ordinary : ∀ made ∈ visits ++ [visit], made.IsOrdinary) :
    let course : Course Unsteady _ := (Course.start ⟨Memory.empty clock, []⟩).run visits
    (∀ verdict, visit.request = .check → (visit.serve course.store).1 = .ok (some verdict) →
      verdict.allowed = false →
      visit.limit.capacity ≤ ((course.standing visit.key).filter fun visited =>
        visit.now - visit.limit.window < visited.visit.now).length) ∧
    ∀ key, ∀ row ∈ course.store.memory.rows key,
      ∃ visited ∈ course.standing key, row = visited.row := by
  intro course
  have earned : course.IsEarned := Course.isEarned_run clock fun made member =>
    ordinary made (List.mem_append_left _ member)
  refine ⟨fun verdict request told denied => ?_, fun key row member => earned.owned key row member⟩
  have mild := ordinary visit (List.mem_append_right _ (List.mem_singleton_self _))
  rw [visit.serve_check course.store request] at told
  have held : (visit.ready course.store).memory.Owned course.Stands := earned
  obtain ⟨undenied, _⟩ | ⟨⟨counted, came, full, distinct, inside⟩, _⟩ :=
    entered_owned visit.limit visit.identifier visit.entry visit.now held mild
  · obtain ⟨other, also, allowed⟩ := Course.exists_allowed_of_undenied visit.now undenied
    obtain rfl := Option.some.inj (Except.ok.inj (told.symm.trans also))
    rw [denied] at allowed
    cases allowed
  · have enough : counted.length ≤ ((course.standing visit.key).filter fun visited =>
        visit.now - visit.limit.window < visited.visit.now).length := by
      refine Memory.length_le_of_owned Visited.row distinct fun row member => ?_
      obtain ⟨⟨visited, standing, rfl⟩, late⟩ := inside row member
      exact ⟨visited, List.mem_filter.mpr ⟨standing, decide_eq_true late⟩, rfl⟩
    have capacity := Verdict.admits_eq_false_iff.mp full
    omega

/-- A check under that limit whose commands meet the occasions. -/
def checkAt (now : Int) (serial : Nat) (occasions : List Occasion) : Visit (List Occasion) :=
  ⟨.check, .onePerSecond, "a", now, serial, occasions⟩

/-- Four commands are carried out, and the one after them is lost. -/
def lostRemoval : List Occasion :=
  List.replicate 4 ⟨.whole 3, none⟩ ++ [⟨.whole 2, some (.ofKind .runtime "lost")⟩]

/-- A check whose removal was lost was told it is admitted, and stands with the one before it when
a third is denied. -/
theorem denied_after_lost_removal :
    let visits := [checkAt 0 1 [], checkAt 5 2 lostRemoval]
    let course : Course Unsteady _ := (Course.start ⟨Memory.empty (.whole 0), []⟩).run visits
    (∀ made ∈ visits ++ [checkAt 10 3 []], made.IsOrdinary) ∧
    ((checkAt 10 3 []).serve course.store).1 = .ok (some ⟨false, 0, 1010, 2⟩) ∧
    1 ≤ ((course.standing (checkAt 10 3 []).key).filter fun visited =>
      10 - 1000 < visited.visit.now).length := by
  have ordinary : ∀ made ∈ [checkAt 0 1 [], checkAt 5 2 lostRemoval] ++ [checkAt 10 3 []],
      made.IsOrdinary := by
    intro made member occasion met failure fails
    simp only [List.cons_append, List.nil_append, List.mem_cons, List.not_mem_nil,
      or_false] at member
    rcases member with rfl | rfl | rfl
    · cases met
    · simp only [checkAt, lostRemoval, List.mem_append, List.mem_replicate,
        List.mem_singleton] at met
      obtain ⟨_, rfl⟩ | rfl := met
      · cases fails
      · obtain rfl := Option.some.inj fails
        rfl
    · cases met
  have sound := denied_only_when_full (.whole 0) _ (checkAt 10 3 []) ordinary
  exact ⟨ordinary, rfl, Int.ofNat_le.mp (sound.1 ⟨false, 0, 1010, 2⟩ rfl rfl rfl)⟩

end Turnstile.Limiter
