import Turnstile.Proofs.Limiter.Solitary
import Turnstile.Proofs.Policy.Lifetime

/-!
# Attempts under one key

Attempts under one key are admitted or denied by what came before them alone: an attempt counts
the admitted ones among the latest that it reaches, which are those in its window since the key
last lapsed. A history lists the attempts with the latest first, as that is the end it grows at
and the end an attempt looks at.
-/

namespace Turnstile.Limiter

open Store Time

/-- A check, as the world has it: the readings of the two clocks and the number that its entry
takes. -/
structure Attempt where
  now : Int
  clock : Seconds
  serial : Nat
deriving DecidableEq

namespace Attempt

variable (attempt : Attempt)

/-- The name of its entry. -/
def entry : String := entryId attempt.now attempt.serial

/-- The attempt as a visit under a limit. -/
def visit (limit : Limit) (identifier : String) : Visit Seconds :=
  ⟨.check, limit, identifier, attempt.now, attempt.serial, attempt.clock⟩

/-- An attempt comes before another: neither clock goes back, and they have entries of their
own. -/
structure Precedes (first second : Attempt) : Prop where
  now : first.now ≤ second.now
  clock : first.clock.instant ≤ second.clock.instant
  fresh : first.entry ≠ second.entry

end Attempt

/-! ## Histories -/

/-- How many of the latest attempts a call finds that has a bound and a reading of the clock: none
before one after which the key lapsed, and none that is at the bound. -/
def reach (seconds : Int) : Seconds → Int → List Attempt → Nat
  | _, _, [] => 0
  | clock, bound, last :: older =>
    if (last.clock.later seconds).le clock ∨ last.now ≤ bound then 0
    else reach seconds last.clock bound older + 1

/-- Whether an attempt is admitted after a history whose verdicts are known: while the admitted
ones that it reaches are below the capacity, and always if keys have no lifetime. -/
def verdict (limit : Limit) (attempt : Attempt) (history : List Attempt) (known : List Bool) :
    Bool :=
  match limit.ttl with
  | .ok seconds => Verdict.admits limit
    ((known.take (reach seconds attempt.clock (attempt.now - limit.window) history)).count true)
  | .error _ => true

/-- Whether each attempt of a history is admitted. -/
def verdicts (limit : Limit) : List Attempt → List Bool
  | [] => []
  | attempt :: older => verdict limit attempt older (verdicts limit older) :: verdicts limit older

/-- There is one verdict for each attempt. -/
@[simp] theorem length_verdicts (limit : Limit) (history : List Attempt) :
    (verdicts limit history).length = history.length := by
  induction history with
  | nil => rfl
  | cons attempt older ih => rw [verdicts, List.length_cons, ih, List.length_cons]

/-- The attempts that are reached are above the bound. -/
theorem lt_now_of_mem_take_reach {seconds : Int} {clock : Seconds} {bound : Int}
    {history : List Attempt} {attempt : Attempt}
    (member : attempt ∈ history.take (reach seconds clock bound history)) :
    bound < attempt.now := by
  induction history generalizing clock with
  | nil => cases member
  | cons last older ih =>
    rw [reach] at member
    split at member
    · cases member
    · rename_i found
      rw [List.take_succ_cons] at member
      rcases List.mem_cons.mp member with rfl | earlier
      · exact not_le.mp fun low => found (.inr low)
      · exact ih earlier

/-! ## What the key holds -/

/-- What the key holds after a history: any later call finds the admitted ones among those that
it reaches, and every score is that of an attempt. -/
structure Holds (limit : Limit) (seconds : Int) (history : List Attempt)
    (holding : Option Holding) : Prop where
  shown : ∀ clock bound, (∀ made ∈ history, made.clock.instant ≤ clock.instant ∧
      made.now - limit.window ≤ bound) →
    (Holding.shown clock bound holding).length =
      ((verdicts limit history).take (reach seconds clock bound history)).count true
  scores : ∀ held ∈ holding, ∀ score ∈ held.scores, ∃ made ∈ history, score = made.now

/-- A vacant key holds what no history leaves. -/
theorem Holds.vacant (limit : Limit) (seconds : Int) : Holds limit seconds [] none where
  shown _ _ _ := rfl
  scores _ held := nomatch held

section Holding

variable {limit : Limit} {seconds : Int} {history : List Attempt} {holding : Option Holding}

/-- What is held with a deadline is shown until then. -/
theorem shown_some (clock : Seconds) (bound : Int) (scores : List Int) (deadline : Seconds) :
    Holding.shown clock bound (some ⟨scores, some deadline⟩) =
      if deadline.le clock then [] else scores.filter (bound < ·) := by
  rw [Holding.shown, Option.filter_some]
  by_cases due : deadline.le clock = true <;> simp [Holding.isLive, due]

/-- Nothing held and no scores held are shown alike. -/
theorem shown_settled (clock : Seconds) (bound : Int) (held : Holding) :
    Holding.shown clock bound held.settled = Holding.shown clock bound (some held) := by
  rw [Holding.settled]
  split
  · rename_i nothing
    simp only [Holding.shown, Option.filter_some]
    split <;> simp [List.isEmpty_iff.mp nothing]
  · rfl

/-- A later call finds what an attempt found, and its own entry if it was admitted, unless the
deadline of the attempt has come. -/
theorem shown_attempted (limit : Limit) (asked : Asked) (holding : Option Holding)
    {deadline clock : Seconds} (bound : Int) (order : asked.clock.instant ≤ clock.instant) :
    let found := Holding.window limit asked holding
    Holding.shown clock bound (Holding.attempted limit asked holding deadline) =
      if deadline.le clock then []
      else (if Verdict.admits limit found.length then found ++ [asked.now] else found).filter
        (bound < ·) := by
  intro found
  simp only [Holding.attempted]
  split
  · exact shown_some ..
  · cases due : deadline.le asked.clock with
    | true =>
      have gone : deadline.le clock = true :=
        (Seconds.le_iff_instant ..).mpr (((Seconds.le_iff_instant ..).mp due).trans order)
      simp only [Holding.isLive, due, gone, Bool.not_true, Bool.false_eq_true, if_false, if_true]
      rfl
    | false =>
      simp only [Holding.isLive, due, Bool.not_false, if_true]
      rw [shown_settled, shown_some]

/-- A score that a call finds is held. -/
theorem exists_of_mem_shown {clock : Seconds} {bound score : Int}
    (member : score ∈ Holding.shown clock bound holding) :
    ∃ held ∈ holding, score ∈ held.scores := by
  rw [Holding.shown] at member
  obtain ⟨known, -⟩ := List.mem_filter.mp member
  cases live : holding.filter (·.isLive clock) with
  | none =>
    rw [live] at known
    cases known
  | some held =>
    rw [live] at known
    exact ⟨held, (Option.filter_eq_some_iff.mp live).1, known⟩

/-- A score that an attempt leaves was held before or is its own. -/
theorem mem_of_attempted {asked : Asked} {deadline : Seconds} {held : Holding} {score : Int}
    (left : held ∈ Holding.attempted limit asked holding deadline) (member : score ∈ held.scores) :
    score = asked.now ∨ ∃ before ∈ holding, score ∈ before.scores := by
  unfold Holding.attempted Holding.settled at left
  simp only [Option.mem_def] at left
  split at left
  · obtain rfl := Option.some.inj left
    rcases List.mem_append.mp member with within | own
    · exact .inr (exists_of_mem_shown within)
    · exact .inl (List.mem_singleton.mp own)
  · split at left
    · split at left
      · cases left
      · obtain rfl := Option.some.inj left
        exact .inr (exists_of_mem_shown member)
    · cases left

/-- Of what a call finds, another finds what is above its own bound. -/
theorem filter_shown {bound higher : Int} (order : bound ≤ higher) (clock : Seconds)
    (holding : Option Holding) : (Holding.shown clock bound holding).filter (higher < ·) =
      Holding.shown clock higher holding := by
  rw [Holding.shown, Holding.shown, List.filter_filter]
  refine List.filter_congr fun score _ => ?_
  rw [← Bool.decide_and, decide_eq_decide]
  omega

/-- One more attempt under a key that holds what the history left. -/
theorem Holds.attempt (holds : Holds limit seconds history holding)
    (lifetime : limit.ttl = .ok seconds) (attempt : Attempt)
    (follows : ∀ made ∈ history, made.Precedes attempt) :
    Holds limit seconds (attempt :: history) (Holding.attempted limit
      ⟨.check, attempt.now, attempt.clock⟩ holding (attempt.clock.later seconds)) where
  shown clock bound later := by
    obtain ⟨order, above⟩ := later attempt (List.mem_cons_self ..)
    have nearest (higher : Int) (above : attempt.now - limit.window ≤ higher) :
        (Holding.shown attempt.clock higher holding).length =
          ((verdicts limit history).take (reach seconds attempt.clock higher history)).count
            true := by
      refine holds.shown attempt.clock higher fun made member => ⟨(follows made member).clock, ?_⟩
      have order := (follows made member).now
      omega
    have found := nearest _ le_rfl
    have among := filter_shown above attempt.clock holding
    rw [shown_attempted limit ⟨.check, attempt.now, attempt.clock⟩ holding bound order, reach,
      verdicts]
    simp only [verdict, lifetime, Holding.window, found]
    by_cases due : (attempt.clock.later seconds).le clock = true
    · simp [due]
    by_cases low : attempt.now ≤ bound
    · -- Every score is that of an attempt before this one.
      have none : Holding.shown attempt.clock bound holding = [] := by
        refine List.eq_nil_iff_forall_not_mem.mpr fun score member => ?_
        have higher := of_decide_eq_true (List.mem_filter.mp member).2
        obtain ⟨held, kept, within⟩ := exists_of_mem_shown member
        obtain ⟨made, earlier, rfl⟩ := holds.scores held kept score within
        have before := (follows made earlier).now
        omega
      rw [if_neg due]
      simp only [low, or_true, if_true, List.take_zero, List.count_nil]
      split <;> simp [among, none, low]
    · have higher : bound < attempt.now := not_le.mp low
      rw [if_neg due, if_neg (not_or.mpr ⟨due, low⟩), List.take_succ_cons, List.count_cons]
      split
      · rename_i room
        simp [among, higher, nearest bound above, room]
      · rename_i full
        simp [among, nearest bound above, full]
  scores held left score member := by
    rcases mem_of_attempted left member with own | ⟨before, kept, within⟩
    · exact ⟨attempt, List.mem_cons_self .., own⟩
    · obtain ⟨made, earlier, same⟩ := holds.scores before kept score within
      exact ⟨made, List.mem_cons_of_mem _ earlier, same⟩

end Holding

/-! ## Attempts in turn -/

/-- The caller was told that it is admitted. -/
def Visited.isAdmitted {ω : Type} (visited : Visited ω) : Bool :=
  match visited.told with
  | .ok (some verdict) => verdict.allowed
  | _ => false

/-- How a course of attempts stands after a history. -/
structure Traces (limit : Limit) (identifier : String) (history : List Attempt)
    (course : Course Local Seconds) : Prop where
  quiet : course.store.interference.IsQuiet
  admitted : course.past.map (·.isAdmitted) = (verdicts limit history).reverse
  names : ∀ row ∈ course.store.memory.rows (limit.key identifier),
    ∃ made ∈ history, row.1 = made.entry
  holds : ∀ seconds, limit.ttl = .ok seconds →
    Holds limit seconds history (holding course.store.memory (limit.key identifier))

section Course

variable {limit : Limit} {identifier : String} {history : List Attempt}
  {course : Course Local Seconds}

/-- A vacant key has no history. -/
theorem Traces.start {store : Local} (quiet : store.interference.IsQuiet)
    (vacant : store.memory.held.get? (limit.key identifier) = none) :
    Traces limit identifier [] (Course.start store) where
  quiet := quiet
  admitted := rfl
  names row member := by
    rw [Memory.rows] at member
    simp only [Course.start, vacant] at member
    cases member
  holds seconds _ := by
    simp only [Course.start, holding, vacant, Option.map_none]
    exact Holds.vacant limit seconds

variable (traces : Traces limit identifier history course)
include traces

section Attend

variable {attempt : Attempt} (follows : ∀ made ∈ history, made.Precedes attempt)
include follows

/-- What the caller of one more attempt is told. -/
theorem Traces.isAdmitted :
    Visited.isAdmitted ⟨attempt.visit limit identifier, .ok (Holding.answer limit
      (attempt.visit limit identifier).asked (holding course.store.memory
        (limit.key identifier)))⟩ = verdict limit attempt history (verdicts limit history) := by
  simp only [Visited.isAdmitted, Holding.answer, Visit.asked, Attempt.visit, verdict]
  cases lifetime : limit.ttl with
  | error failure => rfl
  | ok seconds =>
    have found := (traces.holds seconds lifetime).shown attempt.clock (attempt.now - limit.window)
      fun made earlier => ⟨(follows made earlier).clock, by
        have order := (follows made earlier).now
        omega⟩
    simp only [Verdict.ofAttempt, Holding.window, found]

/-- One more attempt is admitted or denied as its history has it. -/
theorem Traces.attend : Traces limit identifier (attempt :: history)
    (course.attend (attempt.visit limit identifier)) := by
  have fresh : (attempt.visit limit identifier).IsFresh course.store.memory := by
    intro _ row member
    obtain ⟨made, earlier, named⟩ := traces.names row member
    rw [named]
    exact (follows made earlier).fresh
  obtain ⟨told, calm, leaves⟩ := Visit.serve_of_fresh _ traces.quiet fresh
  constructor
  case quiet => exact calm ▸ traces.quiet
  case admitted =>
    rw [Course.attend, List.map_append, traces.admitted, verdicts, List.reverse_cons, told,
      List.map_singleton]
    exact congrArg (_ ++ [·]) (traces.isAdmitted follows)
  case names =>
    intro row member
    rcases leaves.names row member with before | ⟨_, own⟩
    · obtain ⟨made, earlier, named⟩ := traces.names row before
      exact ⟨made, List.mem_cons_of_mem _ earlier, named⟩
    · exact ⟨attempt, List.mem_cons_self .., own⟩
  case holds =>
    intro seconds lifetime
    have left := leaves.holding
    simp only [Holding.next, Visit.asked, Attempt.visit, lifetime] at left
    have next := (traces.holds seconds lifetime).attempt lifetime attempt follows
    exact left ▸ next

end Attend

/-- Attempts in turn are admitted or denied as their history has it. -/
theorem Traces.run (attempts : List Attempt)
    (follows : ∀ attempt ∈ attempts, ∀ made ∈ history, made.Precedes attempt)
    (inTurn : attempts.Pairwise Attempt.Precedes) :
    Traces limit identifier (attempts.reverse ++ history)
      (course.run (attempts.map (·.visit limit identifier))) := by
  induction attempts generalizing history course with
  | nil => exact traces
  | cons attempt rest ih =>
    obtain ⟨before, turns⟩ := List.pairwise_cons.mp inTurn
    have later : ∀ other ∈ rest, ∀ made ∈ attempt :: history, made.Precedes other := by
      intro other member made earlier
      rcases List.mem_cons.mp earlier with rfl | older
      · exact before other member
      · exact follows other (List.mem_cons_of_mem _ member) made older
    rw [List.reverse_cons, List.append_assoc]
    exact ih (traces.attend (follows attempt (List.mem_cons_self ..))) later turns

end Course

end Turnstile.Limiter
