import Mathlib.Data.Finset.Card
import Turnstile.Proofs.Limiter.Attempts
import Turnstile.Proofs.Limiter.Entry
import Turnstile.Proofs.Limiter.Refinement
import Turnstile.Proofs.Number.Order

/-!
# The limiter admits as many attempts as any that keeps to the limit

Whatever attempts are chosen so that each window that ends at a chosen one holds at most the
capacity of them, as many are admitted at least, after every one of the attempts. A shorter window
and a greater capacity do not lower the number either. Both are the same argument: where the
limiter denies an attempt that is otherwise chosen, it has admitted more among the latest, and the
attempts before those are left to the same argument. The second needs deadlines in order, and so
lifetimes that are finite numbers of seconds.
-/

namespace Turnstile.Limiter

open Store Time

/-! ## Regaining -/

/-- Whenever an element is marked in the first list alone, the second has more marks than the
first among the next ones. -/
inductive Regains : List Bool → List Bool → Prop
  | nil : Regains [] []
  | cons {mark other : Bool} {first second : List Bool} (rest : Regains first second)
      (regained : mark = true → other = false →
        ∃ span, (first.take span).count true < (second.take span).count true) :
      Regains (mark :: first) (other :: second)

/-- The second list has as many marks as the first in all that is left of the lists after any
number of elements. -/
theorem Regains.count_drop_le {first second : List Bool} (regains : Regains first second)
    (number : Nat) : (first.drop number).count true ≤ (second.drop number).count true := by
  induction regains generalizing number with
  | nil => exact le_rfl
  | @cons mark other first second rest regained ih =>
    cases number with
    | succ number => exact ih number
    | zero =>
      have all := ih 0
      simp only [List.drop_zero, List.count_cons] at all ⊢
      cases mark with
      | false => simpa using all.trans (Nat.le_add_right ..)
      | true =>
        cases other with
        | true => simpa using all
        | false =>
          -- Up to the span the second list is ahead; after it, the lists are shorter.
          obtain ⟨span, ahead⟩ := regained rfl rfl
          have after := ih span
          have split := congrArg (List.count true) (List.take_append_drop span first)
          have splitToo := congrArg (List.count true) (List.take_append_drop span second)
          rw [List.count_append] at split splitToo
          simp only [beq_self_eq_true, if_true, Bool.false_beq]
          omega

/-- A history that regains another admits at least as many attempts. -/
theorem Regains.count_le {first second : List Bool} (regains : Regains first second) :
    first.count true ≤ second.count true := regains.count_drop_le 0

/-! ## Any choice that keeps to the limit -/

/-- Each window that ends at a chosen attempt holds at most the capacity of chosen ones. -/
def KeepsTo (limit : Limit) (chosen : Finset Attempt) : Prop :=
  ∀ last ∈ chosen, ((chosen.filter fun attempt =>
    last.now - limit.window < attempt.now ∧ attempt.now ≤ last.now).card : Int) ≤ limit.capacity

section Chosen

variable {limit : Limit} {chosen : Finset Attempt}

/-- The marks count the chosen attempts. -/
theorem count_marks (history : List Attempt) :
    (history.map fun made => decide (made ∈ chosen)).count true =
      history.countP fun made => decide (made ∈ chosen) := by
  rw [List.count, List.countP_map]
  exact List.countP_congr fun made _ => by simp

/-- Among the attempts that a chosen one reaches, and itself, there are at most as many chosen as
the capacity. -/
theorem KeepsTo.count_le (keeps : KeepsTo limit chosen) {attempt : Attempt}
    {reached : List Attempt} (member : attempt ∈ chosen) (distinct : (attempt :: reached).Nodup)
    (near : ∀ made ∈ reached, attempt.now - limit.window < made.now ∧ made.now ≤ attempt.now) :
    ((reached.map fun made => decide (made ∈ chosen)).count true : Int) + 1 ≤ limit.capacity := by
  have window := limit.window_pos
  have among : ((attempt :: reached).filter fun made => decide (made ∈ chosen)).toFinset ⊆
      chosen.filter fun made =>
        attempt.now - limit.window < made.now ∧ made.now ≤ attempt.now := by
    intro made present
    obtain ⟨listed, picked⟩ := List.mem_filter.mp (List.mem_toFinset.mp present)
    refine Finset.mem_filter.mpr ⟨of_decide_eq_true picked, ?_⟩
    rcases List.mem_cons.mp listed with rfl | earlier
    · constructor <;> omega
    · exact near made earlier
  have card := Finset.card_le_card among
  have own : decide (attempt ∈ chosen) = true := decide_eq_true member
  rw [List.toFinset_card_of_nodup (distinct.filter _), ← List.countP_eq_length_filter,
    List.countP_cons, own, if_pos rfl, ← count_marks] at card
  have bound := keeps attempt member
  omega

/-- The verdicts regain what any choice that keeps to the limit has before them. -/
theorem KeepsTo.regains (keeps : KeepsTo limit chosen) {history : List Attempt}
    (inTurn : history.Pairwise fun last made => made.Precedes last) :
    Regains (history.map fun made => decide (made ∈ chosen)) (verdicts limit history) := by
  induction history with
  | nil => exact .nil
  | cons attempt older ih =>
    obtain ⟨before, turns⟩ := List.pairwise_cons.mp inTurn
    refine .cons (ih turns) fun picked denied => ?_
    rw [verdict] at denied
    cases lifetime : limit.ttl with
    | error failure => simp [lifetime] at denied
    | ok seconds =>
      simp only [lifetime] at denied
      have full := Verdict.admits_eq_false_iff.mp denied
      have distinct : (attempt :: older).Nodup := by
        refine inTurn.imp fun precedes same => ?_
        exact precedes.fresh (congrArg Attempt.entry same).symm
      refine ⟨reach seconds attempt.clock (attempt.now - limit.window) older, ?_⟩
      have few := keeps.count_le (of_decide_eq_true picked)
        (distinct.sublist (List.cons_sublist_cons.mpr (List.take_sublist
          (reach seconds attempt.clock (attempt.now - limit.window) older) older)))
        fun made reached =>
          ⟨lt_now_of_mem_take_reach reached, (before made (List.mem_of_mem_take reached)).now⟩
      rw [← List.map_take]
      omega

end Chosen

/-! ## A greater limit -/

/-- A key written at the reading is given a deadline that is a number of seconds. -/
def Dates (limit : Limit) (clock : Seconds) : Prop :=
  ∃ seconds, limit.ttl = .ok seconds ∧ (clock.later seconds).isFinite = true

section Greater

variable {limit other : Limit} (shorter : other.window ≤ limit.window)
  (roomier : limit.capacity ≤ other.capacity)

/-- The shorter window has the shorter lifetime. -/
theorem ttl_mono {limit other : Limit} (shorter : other.window ≤ limit.window)
    {seconds fewer : Int} (lifetime : limit.ttl = .ok seconds) (lesser : other.ttl = .ok fewer) :
    fewer ≤ seconds := by
  rw [Limit.ttl_eq_ok_iff, Limit.ttl?, Option.map_eq_some_iff] at lifetime lesser
  obtain ⟨count, counted, rfl⟩ := lifetime
  obtain ⟨less, countedToo, rfl⟩ := lesser
  obtain ⟨found, same, order⟩ := ceilSeconds?_mono other.window_pos.le shorter counted
  obtain rfl := Option.some.inj (countedToo.symm.trans same)
  omega

/-- A shorter lifetime and a higher bound reach no further. -/
theorem reach_mono {seconds fewer bound higher : Int} (lifetimes : fewer ≤ seconds)
    (bounds : bound ≤ higher) {history : List Attempt} (finite : ∀ made ∈ history,
      (made.clock.later fewer).isFinite = true ∧ (made.clock.later seconds).isFinite = true)
    (clock : Seconds) : reach fewer clock higher history ≤ reach seconds clock bound history := by
  induction history generalizing clock with
  | nil => exact le_rfl
  | cons last older ih =>
    obtain ⟨own, earlier⟩ := List.forall_mem_cons.mp finite
    rw [reach, reach]
    split
    · exact Nat.zero_le _
    · rename_i found
      have foundToo : ¬((last.clock.later seconds).le clock = true ∨ last.now ≤ bound) := by
        rintro (gone | low)
        · have deadlines := Seconds.later_mono lifetimes own.1 own.2
          have due := (Seconds.le_iff_instant ..).mp gone
          exact found (.inl ((Seconds.le_iff_instant ..).mpr (deadlines.trans due)))
        · exact found (.inr (low.trans bounds))
      rw [if_neg foundToo]
      exact Nat.succ_le_succ (ih earlier last.clock)

include shorter roomier

/-- The verdicts under the greater limit regain what those under the other have before them. -/
theorem regains_of_greater {history : List Attempt}
    (dated : ∀ made ∈ history, Dates limit made.clock ∧ Dates other made.clock) :
    Regains (verdicts limit history) (verdicts other history) := by
  induction history with
  | nil => exact .nil
  | cons attempt older ih =>
    obtain ⟨⟨⟨seconds, lifetime, -⟩, ⟨fewer, lesser, -⟩⟩, earlier⟩ := List.forall_mem_cons.mp dated
    refine .cons (ih earlier) fun admitted denied => ?_
    simp only [verdict, lifetime, lesser] at admitted denied
    have room := Verdict.admits_eq_true_iff.mp admitted
    have full := Verdict.admits_eq_false_iff.mp denied
    have finite : ∀ made ∈ older, (made.clock.later fewer).isFinite = true ∧
        (made.clock.later seconds).isFinite = true := by
      intro made member
      obtain ⟨⟨found, same, long⟩, ⟨foundToo, sameToo, short⟩⟩ := earlier made member
      obtain rfl := Except.ok.inj (lifetime.symm.trans same)
      obtain rfl := Except.ok.inj (lesser.symm.trans sameToo)
      exact ⟨short, long⟩
    have spans := reach_mono (ttl_mono shorter lifetime lesser)
      (show attempt.now - limit.window ≤ attempt.now - other.window by omega) finite attempt.clock
    have within := (List.take_sublist_take_left (l := verdicts limit older) spans).count_le true
    refine ⟨reach fewer attempt.clock (attempt.now - other.window) older, ?_⟩
    omega

end Greater

/-! ## Without a lifetime -/

/-- An attempt reaches all those that were made at its instant, if the clock stands before their
deadline. -/
theorem reach_eq_length {seconds now bound : Int} {clock : Seconds} (above : bound < now)
    (ahead : (clock.later seconds).le clock = false) {history : List Attempt}
    (still : ∀ made ∈ history, made.now = now ∧ made.clock = clock) :
    reach seconds clock bound history = history.length := by
  induction history with
  | nil => rfl
  | cons last older ih =>
    obtain ⟨⟨rfl, rfl⟩, earlier⟩ := List.forall_mem_cons.mp still
    rw [reach, if_neg (by simp [ahead, above]), ih earlier, List.length_cons]

/-- Of attempts at one instant no more than the capacity are admitted. -/
theorem count_verdicts_le {limit : Limit} {seconds now : Int} {clock : Seconds}
    (lifetime : limit.ttl = .ok seconds) (ahead : (clock.later seconds).le clock = false)
    {history : List Attempt} (still : ∀ made ∈ history, made.now = now ∧ made.clock = clock) :
    ((verdicts limit history).count true : Int) ≤ limit.capacity := by
  have window := limit.window_pos
  have capacity := limit.capacity_pos
  induction history with
  | nil =>
    show (0 : Int) ≤ limit.capacity
    omega
  | cons attempt older ih =>
    obtain ⟨⟨rfl, rfl⟩, earlier⟩ := List.forall_mem_cons.mp still
    have few := ih earlier
    have all := reach_eq_length (show attempt.now - limit.window < attempt.now by omega) ahead
      earlier
    have taken : (verdicts limit older).take older.length = verdicts limit older :=
      List.take_of_length_le (length_verdicts limit older).le
    simp only [verdicts, verdict, lifetime, all, taken, List.count_cons]
    cases room : Verdict.admits limit ((verdicts limit older).count true) with
    | true =>
      have below := Verdict.admits_eq_true_iff.mp room
      simp only [beq_self_eq_true, if_true]
      omega
    | false => simpa using few

/-- Without a lifetime all are admitted. -/
theorem count_verdicts_of_error {limit : Limit} {failure : Failure}
    (endless : limit.ttl = .error failure) (history : List Attempt) :
    (verdicts limit history).count true = history.length := by
  induction history with
  | nil => rfl
  | cons attempt older ih => simp [verdicts, verdict, endless, ih]

/-- A lifetime is longer than nothing. -/
theorem ttl_pos {limit : Limit} {seconds : Int} (lifetime : limit.ttl = .ok seconds) :
    0 < seconds := by
  rw [Limit.ttl_eq_ok_iff, Limit.ttl?, Option.map_eq_some_iff] at lifetime
  obtain ⟨count, counted, rfl⟩ := lifetime
  obtain ⟨least, found, order⟩ := ceilSeconds?_mono le_rfl limit.window_pos.le counted
  have zero : ceilSeconds? 0 = some 0 := by decide +kernel
  obtain rfl := Option.some.inj (zero.symm.trans found)
  omega

/-! ## Runs on a store -/

/-- How many of the first attempts are admitted when attempts are made in turn on a store. -/
def admittedBy (limit : Limit) (identifier : String) (store : Local) (attempts : List Attempt)
    (first : Nat) : Nat :=
  (((Course.start store).run (attempts.map (·.visit limit identifier))).past.take first).countP
    (·.isAdmitted)

section Run

variable {limit : Limit} {identifier : String} {store : Local}

/-- Verdicts of later attempts are those without the earlier ones. -/
theorem drop_verdicts (limit : Limit) (history : List Attempt) (number : Nat) :
    (verdicts limit history).drop number = verdicts limit (history.drop number) := by
  induction history generalizing number with
  | nil => rw [verdicts, List.drop_nil, List.drop_nil, verdicts]
  | cons attempt older ih =>
    cases number with
    | zero => rfl
    | succ number => exact ih number

/-- From a vacant key on, the admitted ones are those of the history. -/
theorem admittedBy_eq_count (quiet : store.interference.IsQuiet)
    (vacant : store.memory.held.get? (limit.key identifier) = none) {attempts : List Attempt}
    (inTurn : attempts.Pairwise Attempt.Precedes) (first : Nat) :
    admittedBy limit identifier store attempts first =
      (verdicts limit (attempts.take first).reverse).count true := by
  have traces := (Traces.start quiet vacant).run attempts (fun _ _ _ member => nomatch member)
    inTurn
  have told := traces.admitted
  rw [List.append_nil] at told
  have marks (past : List (Visited Seconds)) :
      past.countP (·.isAdmitted) = (past.map (·.isAdmitted)).count true := by
    rw [List.count, List.countP_map]
    exact List.countP_congr fun visited _ => by simp
  rw [admittedBy, marks, List.map_take, told, List.take_reverse, List.count_reverse,
    drop_verdicts, length_verdicts, List.length_reverse, List.reverse_take]

end Run

/-- Attempts at the start of the epoch, while the clock stands. -/
def salvo (number : Nat) : List Attempt :=
  (List.range number).map fun serial => ⟨0, .whole 0, serial⟩

/-- A salvo has its number of attempts. -/
theorem length_salvo (number : Nat) : (salvo number).length = number := by
  rw [salvo, List.length_map, List.length_range]

/-- The attempts of a salvo are in turn, if they are few. -/
theorem pairwise_salvo {number : Nat} (few : number ≤ 16 ^ 12) :
    (salvo number).Pairwise Attempt.Precedes := by
  rw [salvo, List.pairwise_map]
  refine List.pairwise_lt_range.imp_of_mem fun {serial next} _ late order => ?_
  have small := List.mem_range.mp late
  have near : next < serial + 16 ^ 12 := by omega
  exact ⟨le_rfl, le_rfl, entryId_ne_of_lt order near⟩

section Run

variable {limit other : Limit} {identifier : String} {store : Local}
  (quiet : store.interference.IsQuiet)
  (vacant : store.memory.held.get? (limit.key identifier) = none)
include quiet vacant

/-- As many are admitted as by any choice that keeps to the limit. -/
theorem KeepsTo.card_le {attempts : List Attempt} (inTurn : attempts.Pairwise Attempt.Precedes)
    {first : Nat} {chosen : Finset Attempt} (keeps : KeepsTo limit chosen)
    (among : chosen ⊆ (attempts.take first).toFinset) :
    chosen.card ≤ admittedBy limit identifier store attempts first := by
  have taken := inTurn.sublist (List.take_sublist first attempts)
  have listed : chosen ⊆ ((attempts.take first).reverse.filter fun made =>
      decide (made ∈ chosen)).toFinset := by
    intro made member
    refine List.mem_toFinset.mpr (List.mem_filter.mpr ⟨?_, decide_eq_true member⟩)
    exact List.mem_reverse.mpr (List.mem_toFinset.mp (among member))
  calc
    chosen.card ≤ _ := (Finset.card_le_card listed).trans (List.toFinset_card_le _)
    _ = ((attempts.take first).reverse.map fun made => decide (made ∈ chosen)).count true := by
      rw [count_marks, List.countP_eq_length_filter]
    _ ≤ (verdicts limit (attempts.take first).reverse).count true :=
      (keeps.regains (List.pairwise_reverse.mpr taken)).count_le
    _ = _ := (admittedBy_eq_count quiet vacant inTurn first).symm

variable (vacantToo : store.memory.held.get? (other.key identifier) = none)
include vacantToo

/-- A shorter window and a greater capacity admit as many, when all deadlines are numbers. -/
theorem admittedBy_mono (shorter : other.window ≤ limit.window)
    (roomier : limit.capacity ≤ other.capacity) {attempts : List Attempt}
    (inTurn : attempts.Pairwise Attempt.Precedes)
    (dated : ∀ attempt ∈ attempts, Dates limit attempt.clock ∧ Dates other attempt.clock)
    (first : Nat) : admittedBy limit identifier store attempts first ≤
      admittedBy other identifier store attempts first := by
  rw [admittedBy_eq_count quiet vacant inTurn, admittedBy_eq_count quiet vacantToo inTurn]
  refine (regains_of_greater shorter roomier fun made member => dated made ?_).count_le
  exact List.mem_of_mem_take (List.mem_reverse.mp member)

/-- A limit without a lifetime admits more attempts at one instant than one with it. -/
theorem admittedBy_salvo_lt {failure : Failure} {seconds : Int}
    (endless : limit.ttl = .error failure) (lifetime : other.ttl = .ok seconds)
    (few : other.capacity < 16 ^ 12) :
    admittedBy other identifier store (salvo (other.capacity.toNat + 1))
        (other.capacity.toNat + 1) <
      admittedBy limit identifier store (salvo (other.capacity.toNat + 1))
        (other.capacity.toNat + 1) := by
  have inTurn := pairwise_salvo (show other.capacity.toNat + 1 ≤ 16 ^ 12 by omega)
  have still : ∀ made ∈ (salvo (other.capacity.toNat + 1)).reverse,
      made.now = 0 ∧ made.clock = .whole 0 := by
    intro made member
    obtain ⟨serial, -, rfl⟩ := List.mem_map.mp (List.mem_reverse.mp member)
    exact ⟨rfl, rfl⟩
  have ahead : ((Seconds.whole 0).later seconds).le (.whole 0) = false := by
    have positive := ttl_pos lifetime
    rw [Seconds.later_whole, Seconds.whole_le_whole, decide_eq_false_iff_not]
    omega
  have most := count_verdicts_le lifetime ahead still
  have all : (salvo (other.capacity.toNat + 1)).take (other.capacity.toNat + 1) =
      salvo (other.capacity.toNat + 1) := List.take_of_length_le (length_salvo _).le
  rw [admittedBy_eq_count quiet vacant inTurn, admittedBy_eq_count quiet vacantToo inTurn, all,
    count_verdicts_of_error endless, List.length_reverse, length_salvo]
  omega

end Run

/-- As many attempts are admitted by the limiter as by any choice that keeps to the limit, after
any number of attempts in turn; and a limit with a shorter window and a greater capacity admits as
many, when the deadlines under both are numbers of seconds. A window too long for a lifetime admits
more than a shorter one, if an instant has names for as many. -/
theorem permissive_and_monotone_when_dated (identifier : String) (store : Local)
    (quiet : store.interference.IsQuiet) :
    (∀ (limit : Limit) (attempts : List Attempt),
      store.memory.held.get? (limit.key identifier) = none →
      attempts.Pairwise Attempt.Precedes → ∀ (first : Nat) (chosen : Finset Attempt),
      chosen ⊆ (attempts.take first).toFinset → KeepsTo limit chosen →
      chosen.card ≤ admittedBy limit identifier store attempts first) ∧
    ∀ limit other : Limit, other.window ≤ limit.window → limit.capacity ≤ other.capacity →
      store.memory.held.get? (limit.key identifier) = none →
      store.memory.held.get? (other.key identifier) = none →
      (∀ attempts : List Attempt, attempts.Pairwise Attempt.Precedes →
        (∀ attempt ∈ attempts, Dates limit attempt.clock ∧ Dates other attempt.clock) →
        ∀ first, admittedBy limit identifier store attempts first ≤
          admittedBy other identifier store attempts first) ∧
      ∀ failure seconds, limit.ttl = .error failure → other.ttl = .ok seconds →
        other.capacity < 16 ^ 12 →
        ∃ attempts : List Attempt, attempts.Pairwise Attempt.Precedes ∧ ∃ first,
          admittedBy other identifier store attempts first <
            admittedBy limit identifier store attempts first := by
  refine ⟨fun limit attempts vacant inTurn first chosen among keeps =>
      keeps.card_le quiet vacant inTurn among,
    fun limit other shorter roomier vacant vacantToo => ⟨fun attempts inTurn dated first =>
      admittedBy_mono quiet vacant vacantToo shorter roomier inTurn dated first,
      fun failure seconds endless lifetime few => ?_⟩⟩
  exact ⟨salvo (other.capacity.toNat + 1), pairwise_salvo (by omega), _,
    admittedBy_salvo_lt quiet vacant vacantToo endless lifetime few⟩

/-- Two attempts in five seconds. -/
def twoInFive : Limit where
  window := 5000
  capacity := 2
  keySpace := "k"
  window_pos := by omega
  capacity_pos := by omega
  keySpace_ne := Limit.onePerSecond.keySpace_ne

/-- Seven attempts in twelve milliseconds. -/
def sevenAtOnce : Limit :=
  { twoInFive with window := 12, capacity := 7, window_pos := by omega, capacity_pos := by omega }

/-- A window whose length in seconds is beyond the finite binary64 numbers. -/
def endlessLimit : Limit :=
  { Limit.onePerSecond with window := 10 ^ 400, window_pos := Int.pow_pos (by omega) }

/-- The endless window has no lifetime. -/
theorem endlessLimit_ttl : endlessLimit.ttl = .error Limit.beyondBinary64 := by
  have none : endlessLimit.ttl? = none := by decide +kernel
  rw [Limit.ttl, none]

/-- Attempts close to one another, and some after a window. -/
def scattered : List Attempt :=
  [⟨0, .whole 0, 1⟩, ⟨10, .whole 0, 2⟩, ⟨20, .whole 0, 3⟩, ⟨5000, .whole 5, 4⟩,
    ⟨5015, .whole 5, 5⟩]

/-- All the scattered attempts but the third. -/
def fourChosen : Finset Attempt := (scattered.eraseIdx 2).toFinset

/-- The scattered attempts are in turn. -/
theorem pairwise_scattered : scattered.Pairwise Attempt.Precedes := by
  have clocks : scattered.Pairwise fun first second =>
      first.now ≤ second.now ∧ first.clock.le second.clock = true ∧ first.entry ≠ second.entry := by
    decide +kernel
  exact clocks.imp fun ⟨order, clock, fresh⟩ => ⟨order, (Seconds.le_iff_instant ..).mp clock, fresh⟩

/-- Four of the scattered attempts keep to two in five seconds, so that four are admitted and no
fewer with a shorter window and a greater capacity. A second admits fewer than the endless
window. -/
theorem scattered_admit_four :
    (fourChosen.card = 4 ∧
      4 ≤ admittedBy twoInFive "a" (vacantStore .locked (.whole 0)) scattered 5) ∧
    admittedBy twoInFive "a" (vacantStore .locked (.whole 0)) scattered 4 ≤
      admittedBy sevenAtOnce "a" (vacantStore .locked (.whole 0)) scattered 4 ∧
    ∃ attempts : List Attempt, attempts.Pairwise Attempt.Precedes ∧ ∃ first,
      admittedBy .onePerSecond "a" (vacantStore .locked (.whole 0)) attempts first <
        admittedBy endlessLimit "a" (vacantStore .locked (.whole 0)) attempts first := by
  have keeps : KeepsTo twoInFive fourChosen := by
    unfold KeepsTo
    decide +kernel
  have dated : ∀ attempt ∈ scattered, Dates twoInFive attempt.clock ∧
      Dates sevenAtOnce attempt.clock := by
    have whole : ∀ attempt ∈ scattered, attempt.clock = .whole 0 ∨ attempt.clock = .whole 5 := by
      decide
    intro attempt member
    have finite (seconds : Int) : (attempt.clock.later seconds).isFinite = true := by
      rcases whole attempt member with same | same <;> rw [same] <;> rfl
    exact ⟨⟨65, (Limit.ttl_eq_ok_iff _ _).mpr (by decide +kernel), finite 65⟩,
      ⟨61, (Limit.ttl_eq_ok_iff _ _).mpr (by decide +kernel), finite 61⟩⟩
  have lifetime : Limit.onePerSecond.ttl = .ok 61 :=
    (Limit.ttl_eq_ok_iff _ _).mpr (by decide +kernel)
  have four : fourChosen.card = 4 := by decide +kernel
  obtain ⟨most, more⟩ := permissive_and_monotone_when_dated "a" (vacantStore .locked (.whole 0))
    fun _ => rfl
  refine ⟨⟨four, four ▸ ?_⟩, ?_, ?_⟩
  · exact most twoInFive scattered rfl pairwise_scattered 5 fourChosen (by decide +kernel) keeps
  · exact (more twoInFive sevenAtOnce (by decide) (by decide) rfl rfl).1 scattered
      pairwise_scattered dated 4
  · exact (more endlessLimit .onePerSecond (by decide +kernel) (by decide) rfl rfl).2 _ 61
      endlessLimit_ttl lifetime (by decide)

/-- Of two attempts at one instant a limit of one admits both in a window that is too long for a
lifetime, and one in a second. -/
theorem fewer_admitted_in_shorter_window :
    Limit.onePerSecond.window ≤ endlessLimit.window ∧
      endlessLimit.capacity ≤ Limit.onePerSecond.capacity ∧
      (salvo 2).Pairwise Attempt.Precedes ∧
      admittedBy .onePerSecond "a" (vacantStore .locked (.whole 0)) (salvo 2) 2 = 1 ∧
      admittedBy endlessLimit "a" (vacantStore .locked (.whole 0)) (salvo 2) 2 = 2 := by
  exact ⟨by decide +kernel, by decide, pairwise_salvo (by decide), by decide +kernel,
    by decide +kernel⟩

end Turnstile.Limiter
