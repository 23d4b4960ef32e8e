import Turnstile.Proofs.Limiter.Calm

/-!
# One key on its own

What the visits to a key are told, and what they leave under it, depends on their requests and on
the readings of the two clocks alone. Visits to other keys do not matter, and neither do the names
of entries, as long as no two checks share one.
-/

namespace Turnstile.Limiter

open Store Time

/-- A visit to a key, the name of its entry aside. -/
structure Asked where
  request : Request
  now : Int
  clock : Seconds
deriving DecidableEq

/-- What a key holds, the names of its entries aside. -/
structure Holding where
  scores : List Int
  deadline : Option Seconds
deriving DecidableEq

namespace Holding

/-- What a bucket holds. -/
def ofBucket (bucket : Bucket) : Holding := ⟨bucket.scores.rows.map Prod.snd, bucket.deadline⟩

/-- The deadline has not come. -/
def isLive (clock : Seconds) (holding : Holding) : Bool :=
  match holding.deadline with
  | some deadline => !deadline.le clock
  | none => true

/-- What is held unless that is nothing. -/
def settled (holding : Holding) : Option Holding :=
  if holding.scores.isEmpty then none else some holding

/-- The scores above a bound that a call at a reading of the clock finds. -/
def shown (clock : Seconds) (bound : Int) (holding : Option Holding) : List Int :=
  (((holding.filter (·.isLive clock)).map (·.scores)).getD []).filter (bound < ·)

section Steps

variable (limit : Limit) (asked : Asked) (holding : Option Holding)

/-- The scores in the window of a visit. -/
def window : List Int := shown asked.clock (asked.now - limit.window) holding

/-- What a visit is told. -/
def answer : Option Verdict :=
  match asked.request with
  | .check => some (match limit.ttl with
    | .ok _ => .ofAttempt limit asked.now (window limit asked holding).length
    | .error _ => .ofOutage limit asked.now 1)
  | .status => some (.ofLook limit asked.now (window limit asked holding).length)
  | .reset => none

/-- What an attempt leaves whose key lapses at a deadline: its entry if there was room; else what
was found, unless the deadline has come at once. -/
def attempted (deadline : Seconds) : Option Holding :=
  let found := window limit asked holding
  let entered : Holding := ⟨found ++ [asked.now], some deadline⟩
  if Verdict.admits limit found.length then some entered
  else if entered.isLive asked.clock then settled ⟨found, some deadline⟩ else none

/-- What a visit leaves. -/
def next : Option Holding :=
  match asked.request with
  | .check =>
    match limit.ttl with
    | .ok seconds => attempted limit asked holding (asked.clock.later seconds)
    | .error _ => holding
  | .status => (holding.filter (·.isLive asked.clock)).bind fun live =>
    settled ⟨window limit asked holding, live.deadline⟩
  | .reset => none

end Steps

/-- What visits in turn are told. -/
def answers (limit : Limit) : Option Holding → List Asked → List (Option Verdict)
  | _, [] => []
  | holding, asked :: rest =>
    answer limit asked holding :: answers limit (next limit asked holding) rest

/-- What visits in turn leave. -/
def after (limit : Limit) (holding : Option Holding) (visits : List Asked) : Option Holding :=
  visits.foldl (fun left asked => next limit asked left) holding

/-- Requests in two parts are answered in two parts. -/
theorem answers_append (limit : Limit) (holding : Option Holding) (first second : List Asked) :
    answers limit holding (first ++ second) =
      answers limit holding first ++ answers limit (after limit holding first) second := by
  induction first generalizing holding with
  | nil => rfl
  | cons asked rest ih => rw [List.cons_append, answers, ih, answers, List.cons_append]; rfl

/-- Requests in two parts leave what the second leaves of the first. -/
theorem after_append (limit : Limit) (holding : Option Holding) (first second : List Asked) :
    after limit holding (first ++ second) = after limit (after limit holding first) second :=
  List.foldl_append ..

/-! ## The store holds it -/

/-- An empty bucket is dropped with what it holds. -/
theorem map_settled (bucket : Bucket) :
    bucket.settled.map ofBucket = (ofBucket bucket).settled := by
  have empty : (ofBucket bucket).scores.isEmpty = bucket.scores.isEmpty := List.isEmpty_map ..
  rw [Bucket.settled, settled, empty]
  split <;> rfl

/-- A live bucket is a live holding. -/
theorem filter_map (clock : Seconds) (slot : Option Bucket) :
    (slot.map ofBucket).filter (·.isLive clock) =
      (slot.filter (·.isLive clock)).map ofBucket := by
  cases slot with
  | none => rfl
  | some bucket =>
    rw [Option.map_some, Option.filter_some, Option.filter_some]
    show (if bucket.isLive clock then _ else _) = _
    split <;> rfl

/-- What is shown of a holding is what is shown of its bucket. -/
theorem shown_map (clock : Seconds) (bound : Int) (slot : Option Bucket) :
    shown clock bound (slot.map ofBucket) = (Bucket.shown clock bound slot).map Prod.snd := by
  rw [shown, filter_map, Bucket.shown]
  cases slot.filter (·.isLive clock) with
  | none => rfl
  | some bucket => exact List.filter_map ..

end Holding

/-- What the store holds under a key, the names of entries aside. -/
def holding (memory : Memory) (key : String) : Option Holding :=
  (memory.held.get? key).map Holding.ofBucket

namespace Visit

variable (visit : Visit Seconds) {store : Local}

/-- The visit, the name of its entry aside. -/
def asked : Asked := ⟨visit.request, visit.now, visit.around⟩

/-- What a visit counts is in the window of what its key holds. -/
theorem window_eq (memory : Memory) :
    Holding.window visit.limit visit.asked (holding memory visit.key) =
      (visit.counted memory).map Prod.snd := by
  rw [counted_eq_shown, holding, Holding.window, Holding.shown_map]
  rfl

/-- The window of a holding is as long as what the visit counts. -/
theorem length_window (memory : Memory) :
    (Holding.window visit.limit visit.asked (holding memory visit.key)).length =
      (visit.counted memory).length := by
  rw [window_eq, List.length_map]

/-- The entry of a check bears a name that is not in use under its key. -/
def IsFresh (memory : Memory) : Prop :=
  visit.request = .check → ∀ row ∈ memory.rows visit.key, row.1 ≠ visit.entry

/-- How a visit leaves a store: what its key holds is the next thing, other keys hold what they
held, the clock has moved on, and a check may have added its entry. -/
structure Leaves (before after : Memory) : Prop where
  clock : after.clock = visit.around
  holding : Limiter.holding after visit.key =
    Holding.next visit.limit visit.asked (Limiter.holding before visit.key)
  frame : ∀ key, key ≠ visit.key → after.held.get? key = before.held.get? key
  names : ∀ row ∈ after.rows visit.key,
    row ∈ before.rows visit.key ∨ visit.request = .check ∧ row.1 = visit.entry

section Leaving

variable (memory : Memory)

/-- A look leaves what it counts. -/
theorem leaves_status (request : visit.request = .status) : visit.Leaves memory
    (((visit.before memory).purge visit.key visit.bound).2.count visit.key).2 := by
  have slot (key : String) := (visit.before memory).inspect_get? visit.key key visit.bound
  refine ⟨?_, ?_, fun key different => ?_, fun row member => .inl ?_⟩
  · rw [Memory.count_clock, Memory.purge_clock]
    rfl
  · have window := visit.window_eq memory
    have found : (visit.before memory).find? visit.key =
        (memory.held.get? visit.key).filter (·.isLive visit.around) := rfl
    have counted : visit.counted memory =
        (Bucket.rowsOf ((visit.before memory).find? visit.key)).filter (visit.bound < ·.2) := rfl
    rw [Holding.next]
    simp only [asked, request] at window ⊢
    rw [window, holding, slot, if_pos rfl, holding, Holding.filter_map, ← found, counted]
    cases (visit.before memory).find? visit.key with
    | none => rfl
    | some bucket => exact Holding.map_settled _
  · rw [slot, if_neg different]
    rfl
  · rw [Memory.rows, slot, if_pos rfl, Memory.rowsOf_bind_above] at member
    exact ((visit.before memory).recent_sublist_rows visit.key visit.bound).subset member

/-- A reset leaves nothing. -/
theorem leaves_reset (request : visit.request = .reset) :
    visit.Leaves memory ((visit.before memory).delete visit.key) := by
  have slot (key : String) := (visit.before memory).delete_get? visit.key key
  refine ⟨rfl, ?_, fun key different => ?_, fun row member => ?_⟩
  · rw [Holding.next, holding, slot, if_pos rfl]
    simp only [asked, request]
    rfl
  · rw [slot, if_neg different]
    rfl
  · rw [Memory.rows, slot, if_pos rfl] at member
    cases member

section Check

variable {memory} (fresh : visit.IsFresh memory) (request : visit.request = .check)
  {seconds : Int} (lifetime : visit.limit.ttl = .ok seconds)
include fresh request

/-- What the batch of a check leaves under its key. -/
theorem recorded_of_fresh (seconds : Int) :
    (visit.recorded seconds memory).held.get? visit.key =
      some ⟨⟨visit.counted memory ++ [(visit.entry, visit.now)]⟩,
        some (visit.around.later seconds)⟩ := by
  have named : ∀ row ∈ (visit.before memory).rows visit.key, row.1 ≠ visit.entry := fresh request
  exact Memory.record_get?_of_fresh visit.bound visit.now seconds named

include lifetime

/-- A check that finds room leaves its entry. -/
theorem leaves_room (room : Verdict.admits visit.limit (visit.counted memory).length = true) :
    visit.Leaves memory (visit.recorded seconds memory) := by
  have slot := visit.recorded_of_fresh fresh request seconds
  have window := visit.window_eq memory
  have length := visit.length_window memory
  refine ⟨?_, ?_, fun key different => ?_, fun row member => ?_⟩
  · exact Memory.record_clock ..
  · rw [Holding.next]
    simp only [asked, request, lifetime, Holding.attempted] at window length ⊢
    rw [length, if_pos room, window, holding, slot]
    simp only [Option.map_some, Holding.ofBucket, List.map_append, List.map_cons, List.map_nil]
  · rw [Memory.record_get?, if_neg different]
    rfl
  · rw [Memory.rows, slot, Bucket.rowsOf_some] at member
    rcases List.mem_append.mp member with counted | own
    · exact .inl (((visit.before memory).recent_sublist_rows visit.key visit.bound).subset counted)
    · obtain rfl := List.mem_singleton.mp own
      exact .inr ⟨request, rfl⟩

/-- A check that finds the window full takes its entry back. -/
theorem leaves_full (full : Verdict.admits visit.limit (visit.counted memory).length = false) :
    visit.Leaves memory ((visit.recorded seconds memory).remove visit.key visit.entry) := by
  have window := visit.window_eq memory
  have length := visit.length_window memory
  have clock : (visit.recorded seconds memory).clock = visit.around := Memory.record_clock ..
  have named : ∀ row ∈ (visit.before memory).rows visit.key, row.1 ≠ visit.entry := fresh request
  have left : ((visit.recorded seconds memory).remove visit.key visit.entry).held.get? visit.key =
      if (visit.around.later seconds).le visit.around then none
      else Bucket.settled ⟨⟨visit.counted memory⟩, some (visit.around.later seconds)⟩ :=
    Memory.remove_record_get?_of_fresh visit.bound visit.now seconds named
  refine ⟨?_, ?_, fun key different => ?_, fun row member => ?_⟩
  · rw [Memory.remove_clock, clock]
  · rw [Holding.next]
    simp only [asked, request, lifetime, Holding.attempted] at window length ⊢
    rw [length, if_neg (Bool.eq_false_iff.mp full), window, holding, left]
    cases due : (visit.around.later seconds).le visit.around with
    | true => simp [Holding.isLive, due]
    | false =>
      simp only [Holding.isLive, due, Bool.false_eq_true, if_false, Bool.not_false, if_true]
      exact Holding.map_settled _
  · rw [Memory.remove_get?, if_neg different, Memory.record_get?, if_neg different]
    rfl
  · rw [Memory.rows, left] at member
    split at member
    · cases member
    · rw [Bucket.rowsOf_settled] at member
      exact .inl (((visit.before memory).recent_sublist_rows visit.key visit.bound).subset member)

end Check

end Leaving

/-- A visit with a fresh name to a store that refuses nothing is told what follows from what its
key holds, and leaves the store as that has it. -/
theorem serve_of_fresh (quiet : store.interference.IsQuiet) (fresh : visit.IsFresh store.memory) :
    (visit.serve store).1 =
        .ok (Holding.answer visit.limit visit.asked (holding store.memory visit.key)) ∧
      (visit.serve store).2.interference = store.interference ∧
      visit.Leaves store.memory (visit.serve store).2.memory := by
  have length := visit.length_window store.memory
  cases request : visit.request with
  | status =>
    rw [visit.serve_of_status quiet request, Holding.answer, length]
    simp only [asked, request, true_and]
    exact visit.leaves_status store.memory request
  | reset =>
    rw [visit.serve_of_reset quiet request, Holding.answer]
    simp only [asked, request, true_and]
    exact visit.leaves_reset store.memory request
  | check =>
    cases lifetime : visit.limit.ttl with
    | error failure =>
      have served : visit.serve store =
          (.ok (some (.ofOutage visit.limit visit.now 1)), visit.ready store) := by
        rw [visit.serve_check store request, attempt, entered_of_ttl_error lifetime]
        simp only [Except.map, covered, isInterruption_of_ttl lifetime]
        rfl
      rw [served, Holding.answer]
      simp only [asked, request, lifetime, true_and]
      refine ⟨rfl, rfl, ?_, fun _ _ => rfl, fun row member => .inl member⟩
      rw [Holding.next]
      simp only [asked, request, lifetime]
      rfl
    | ok seconds =>
      have told : Holding.answer visit.limit visit.asked (holding store.memory visit.key) =
          some (.ofAttempt visit.limit visit.now (visit.counted store.memory).length) := by
        rw [Holding.answer, length]
        simp only [asked, request, lifetime]
      rw [told]
      cases room : Verdict.admits visit.limit (visit.counted store.memory).length with
      | true =>
        rw [visit.serve_of_room quiet request lifetime room]
        exact ⟨rfl, rfl, visit.leaves_room fresh request lifetime room⟩
      | false =>
        have left := visit.leaves_full fresh request lifetime room
        rw [visit.serve_of_full quiet request lifetime room]
        simp only [true_and]
        exact left

end Visit

end Turnstile.Limiter
