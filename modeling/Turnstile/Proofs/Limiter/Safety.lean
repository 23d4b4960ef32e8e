import Turnstile.Proofs.Limiter.Overshoot
import Turnstile.Proofs.Store.Keeping

/-!
# No window admits more than the capacity

Clocks that are apart by a skew, calls that fail half way and removals that come late or never do
not let more checks than the capacity count in any span of a window less the skew, as long as
lifetimes outlast the window. The invariant looks ahead: at every call that may still come before
an admitted check is a window less the skew old, the entry of that check is found. Without such a
lifetime as many checks as the capacity and one more are admitted in one window.
-/

namespace Turnstile.Limiter

open Store Time
open Limit (unroundedLimit)

namespace Move

/-- A batch at these readings of both clocks may come after the moves. -/
def Allows (skew : Int) (past : List Move) (now : Int) (clock : Seconds) : Prop :=
  ∀ made ∈ past, made.clock.instant ≤ clock.instant ∧ ∀ earlier, made.now? = some earlier →
    earlier - skew ≤ now ∧ Seconds.KeepsStep made.clock clock (now - earlier)

/-- What one more move allows is what the others and it allow. -/
theorem allows_append_iff {skew : Int} {past : List Move} {last : Move} {now : Int}
    {clock : Seconds} : Allows skew (past ++ [last]) now clock ↔
      Allows skew past now clock ∧ Allows skew [last] now clock := List.forall_mem_append

/-- A batch that comes after the moves is allowed by them. -/
theorem allows_of_precedes {skew : Int} {past : List Move} {move : Move} {now : Int}
    (batch : move.now? = some now) (follows : ∀ made ∈ past, made.Precedes skew move) :
    Allows skew past now move.clock := fun made member =>
  ⟨(follows made member).clock, fun earlier before =>
    (follows made member).near earlier now before batch⟩

end Move

/-- A list mapped to something that an element and its successor share. -/
theorem map_set_eq_map {α β : Type} {list : List α} {place : Nat} {element next : α} {image : α → β}
    (found : list[place]? = some element) (same : image next = image element) :
    (list.set place next).map image = list.map image := by
  obtain ⟨inside, rfl⟩ := List.getElem?_eq_some_iff.mp found
  have mapped : place < (list.map image).length := inside.trans_eq (List.length_map image).symm
  have shown : image list[place] = (list.map image)[place] := (List.getElem_map image).symm
  rw [List.map_set, same, shown, List.set_getElem_self]

/-- Whether a check lies in a span and counts shows in its mark. -/
theorem Traffic.admittedIn_eq_map (traffic : Traffic) (start span : Int) :
    traffic.admittedIn start span =
      (traffic.sent.map fun sent => (sent.counts, sent.task.now)).countP fun mark =>
        mark.1 && decide (start ≤ mark.2) && decide (mark.2 < start + span) := by
  rw [List.countP_map]
  rfl

/-- One of the moves sent the batch of the check. -/
def Sent.IsMadeBy (limit : Limit) (identifier : String) (past : List Move) (sent : Sent) : Prop :=
  ∃ move ∈ past, ∃ now serial, move.act = .attempt now serial ∧
    sent.IsOf limit identifier (entryId now serial) now

/-- What is made by some moves is made by one more. -/
theorem Sent.IsMadeBy.later {limit : Limit} {identifier : String} {past : List Move} {sent : Sent}
    (isMade : sent.IsMadeBy limit identifier past) (move : Move) :
    sent.IsMadeBy limit identifier (past ++ [move]) := by
  obtain ⟨made, earlier, rest⟩ := isMade
  exact ⟨made, List.mem_append_left _ earlier, rest⟩

/-- The batch of an attempt spares an entry of another name above its bound, until the deadline
that it sets. -/
theorem recordCall_spares {limit : Limit} {identifier own entry : String} {now score seconds : Int}
    {clock reading : Seconds} (below : now - limit.window < score) (strange : own ≠ entry)
    (beyond : (clock.later seconds).le reading = false) :
    ∀ command ∈ (recordCall limit identifier own now seconds).commands,
      Memory.Spares (limit.key identifier) entry score clock reading command := by
  intro command part
  simp only [recordCall, Call.commands, Call.parts?, List.mem_cons, List.not_mem_nil,
    or_false] at part
  rcases part with rfl | rfl | rfl | rfl
  · exact ⟨rfl, below⟩
  · exact rfl
  · exact ⟨rfl, strange⟩
  · exact ⟨rfl, beyond⟩

/-- What holds of traffic at all times: checks are those that were made, under names of their own;
the entry of one that counts is found by every batch that may still come before it is a window
less the skew old; and no span of a window less the skew holds more than the capacity of them. -/
structure Guarded (limit : Limit) (identifier : String) (skew : Int) (past : List Move)
    (traffic : Traffic) : Prop where
  made : ∀ sent ∈ traffic.sent, sent.IsMadeBy limit identifier past
  distinct : (traffic.sent.map (·.task.entry)).Nodup
  kept : ∀ sent ∈ traffic.sent, sent.counts = true → ∀ now clock,
    Move.Allows skew past now clock → now < sent.task.now + (limit.window - skew) →
    traffic.memory.Keeps (limit.key identifier) sent.task.entry sent.task.now clock
  bounded : ∀ start, (traffic.admittedIn start (limit.window - skew) : Int) ≤ limit.capacity

namespace Guarded

variable {limit : Limit} {identifier : String} {skew : Int} {past : List Move}
  {traffic : Traffic} {move : Move}

/-- Traffic that has yet to begin is guarded. -/
theorem start (memory : Memory) : Guarded limit identifier skew [] ⟨[], memory⟩ where
  made _ member := nomatch member
  distinct := List.nodup_nil
  kept _ member := nomatch member
  bounded _ := by
    have capacity := limit.capacity_pos
    show (0 : Int) ≤ limit.capacity
    omega

variable (guarded : Guarded limit identifier skew past traffic)
include guarded

/-- A turn of a check between its moves does not touch the entries of checks that count. -/
theorem kept_by_turn {sent : Sent} (member : sent ∈ traffic.sent) {other : Sent}
    (listed : other ∈ traffic.sent) (counts : other.counts = true) {later : Int} {clock : Seconds}
    (allowed : Move.Allows skew (past ++ [move]) later clock)
    (young : later < other.task.now + (limit.window - skew)) :
    (sent.turn ⟨traffic.memory.setClock move.clock, move.fate⟩).2.memory.Keeps
      (limit.key identifier) other.task.entry other.task.now clock := by
  obtain ⟨before, after⟩ := Move.allows_append_iff.mp allowed
  have order := (after move (List.mem_singleton_self _)).1
  have keeps := (guarded.kept other listed counts later clock before young).setClock move.clock
  obtain ⟨made, earlier, now, serial, act, isOf⟩ := guarded.made sent member
  obtain ⟨_, _, same | ⟨removes, same⟩⟩ :=
    turn_settled isOf ⟨traffic.memory.setClock move.clock, move.fate⟩
  · rw [same]
    exact keeps
  · rw [same]
    refine keeps.meet order move.fate fun command part => ?_
    simp only [Call.commands, Call.parts?, List.mem_singleton] at part
    obtain rfl := part
    -- Were it the check's own entry, the check would be the one that does not count.
    refine ⟨rfl, fun named => ?_⟩
    have one := List.inj_on_of_nodup_map guarded.distinct member listed (isOf.entry_eq.trans named)
    rw [one, counts] at removes
    cases removes

/-- A removal keeps traffic guarded. -/
theorem rollback {place : Nat} (act : move.act = .rollback place) :
    Guarded limit identifier skew (past ++ [move]) (traffic.step limit identifier move) := by
  cases found : traffic.sent[place]? with
  | none =>
    simp only [Traffic.step, act, found]
    exact ⟨fun sent member => (guarded.made sent member).later move, guarded.distinct,
      fun sent member counts now clock allowed =>
        guarded.kept sent member counts now clock (Move.allows_append_iff.mp allowed).1,
      guarded.bounded⟩
  | some sent =>
    have member : sent ∈ traffic.sent := List.mem_of_getElem? found
    have kept {other : Sent} (listed : other ∈ traffic.sent) (counts : other.counts = true)
        {later : Int} {clock : Seconds} (allowed : Move.Allows skew (past ++ [move]) later clock)
        (young : later < other.task.now + (limit.window - skew)) :=
      guarded.kept_by_turn member listed counts allowed young
    obtain ⟨made, listed, now, serial, attempt, isOf⟩ := guarded.made sent member
    have turned := turn_settled isOf ⟨traffic.memory.setClock move.clock, move.fate⟩
    simp only [Traffic.step, act, found]
    generalize sent.turn ⟨traffic.memory.setClock move.clock, move.fate⟩ = came at turned kept ⊢
    obtain ⟨next, left⟩ := came
    obtain ⟨ofNext, counted, _⟩ := turned
    simp only at ofNext counted kept ⊢
    have entry : next.task.entry = sent.task.entry := ofNext.entry_eq.trans isOf.entry_eq.symm
    have instant : next.task.now = sent.task.now := ofNext.now_eq.trans isOf.now_eq.symm
    constructor
    case made =>
      intro other present
      rcases List.mem_or_eq_of_mem_set present with old | rfl
      · exact (guarded.made other old).later move
      · exact Sent.IsMadeBy.later ⟨made, listed, now, serial, attempt, ofNext⟩ move
    case distinct =>
      rw [map_set_eq_map found entry]
      exact guarded.distinct
    case kept =>
      intro other present counts later clock allowed young
      rcases List.mem_or_eq_of_mem_set present with old | rfl
      · exact kept old counts allowed young
      · rw [entry, instant]
        rw [counted] at counts
        rw [instant] at young
        exact kept member counts allowed young
    case bounded =>
      intro start
      have before := guarded.bounded start
      rw [Traffic.admittedIn_eq_map] at before ⊢
      rw [map_set_eq_map found (by rw [counted, instant])]
      exact before

variable (follows : ∀ made ∈ past, made.Precedes skew move)
include follows

/-- A batch comes at most the skew before a check that was made, and its entry has another name
than one that the batch inserts. -/
theorem of_sent {sent : Sent} (member : sent ∈ traffic.sent) :
    (∀ now, move.now? = some now → sent.task.now - skew ≤ now) ∧
      move.entry? ≠ some sent.task.entry := by
  obtain ⟨made, earlier, now, serial, act, isOf⟩ := guarded.made sent member
  have batch : made.now? = some now := by rw [Move.now?, act]
  have entry : made.entry? = some (entryId now serial) := by rw [Move.entry?, act]
  rw [isOf.now_eq, isOf.entry_eq]
  exact ⟨fun later own => ((follows made earlier).near now later batch own).1,
    (follows made earlier).fresh _ entry⟩

/-- A batch neither purges the entry of a check that counts, nor drops its key, before the entry
is a window less the skew old. -/
theorem kept_by_batch {now : Int} (batch : move.now? = some now) (small : skew < limit.window)
    {sent : Sent} (member : sent ∈ traffic.sent) (counts : sent.counts = true)
    {later : Int} {clock : Seconds} (allowed : Move.Allows skew (past ++ [move]) later clock)
    (young : later < sent.task.now + (limit.window - skew)) (fate : Fate) {call : Call}
    (spare : now - limit.window < sent.task.now → |later - now| < limit.window →
      Seconds.KeepsStep move.clock clock (later - now) →
      ∀ command ∈ call.commands, Memory.Spares (limit.key identifier) sent.task.entry
        sent.task.now move.clock clock command) :
    ((traffic.memory.setClock move.clock).meet fate call).2.Keeps (limit.key identifier)
      sent.task.entry sent.task.now clock := by
  obtain ⟨before, after⟩ := Move.allows_append_iff.mp allowed
  obtain ⟨order, near⟩ := after move (List.mem_singleton_self _)
  obtain ⟨back, step⟩ := near now batch
  have since := (guarded.of_sent follows member).1 now batch
  have keeps := guarded.kept sent member counts later clock before young
  refine (keeps.setClock move.clock).meet order fate (spare (by omega) ?_ step)
  rw [abs_lt]
  constructor <;> omega

/-- A look keeps traffic guarded. -/
theorem look (small : skew < limit.window) {now : Int} (act : move.act = .look now) :
    Guarded limit identifier skew (past ++ [move]) (traffic.step limit identifier move) := by
  have batch : move.now? = some now := by rw [Move.now?, act]
  have came : traffic.step limit identifier move = ⟨traffic.sent,
      ((traffic.memory.setClock move.clock).meet move.fate
        (.inspect (limit.key identifier) (now - limit.window))).2⟩ := by
    simp only [Traffic.step, act, status_store]
    rfl
  rw [came]
  refine ⟨fun sent member => (guarded.made sent member).later move, guarded.distinct,
    fun sent member counts later clock allowed young => ?_, guarded.bounded⟩
  refine guarded.kept_by_batch follows batch small member counts allowed young move.fate ?_
  intro below _ _ command part
  simp only [Call.commands, Call.parts?, List.mem_cons, List.not_mem_nil, or_false] at part
  rcases part with rfl | rfl
  · exact ⟨rfl, below⟩
  · exact rfl

/-- The checks that count in a span are among the entries that a check in the span counts. -/
theorem admittedIn_le_recent (nonnegative : 0 ≤ skew) {now start : Int}
    (batch : move.now? = some now) (late : now < start + (limit.window - skew)) :
    traffic.admittedIn start (limit.window - skew) ≤
      ((traffic.memory.setClock move.clock).recent (limit.key identifier)
        (now - limit.window)).length := by
  rw [Traffic.admittedIn, List.countP_eq_length_filter, ← List.length_map (·.task.entry)]
  refine Memory.length_le_recent (guarded.distinct.sublist (List.filter_sublist.map _)) ?_
  intro name member
  obtain ⟨sent, listed, rfl⟩ := List.mem_map.mp member
  obtain ⟨present, inside⟩ := List.mem_filter.mp listed
  simp only [Bool.and_eq_true, decide_eq_true_eq] at inside
  obtain ⟨⟨counts, after⟩, before⟩ := inside
  refine ⟨sent.task.now, by omega, ?_⟩
  exact guarded.kept sent present counts now move.clock
    (Move.allows_of_precedes batch follows) (by omega)

/-- The attempt of a check keeps traffic guarded, when the deadline that it sets outlasts the
window. -/
theorem attempt (nonnegative : 0 ≤ skew) (small : skew < limit.window) {now : Int} {serial : Nat}
    (act : move.act = .attempt now serial) (outlasts : limit.Outlasts move.clock) :
    Guarded limit identifier skew (past ++ [move]) (traffic.step limit identifier move) := by
  have lasting := outlasts
  obtain ⟨seconds, lifetime, _⟩ := outlasts
  have batch : move.now? = some now := by rw [Move.now?, act]
  have inserts : move.entry? = some (entryId now serial) := by rw [Move.entry?, act]
  have turned := turn_whole identifier now serial lifetime
    ⟨traffic.memory.setClock move.clock, move.fate⟩
  simp only [Traffic.step, act]
  generalize Sent.turn ⟨Task.whole limit identifier now serial, true⟩
    ⟨traffic.memory.setClock move.clock, move.fate⟩ = came at turned ⊢
  obtain ⟨new, left⟩ := came
  obtain ⟨memory, isOf, admitted⟩ := turned
  simp only at memory isOf admitted ⊢
  have strange (sent : Sent) (member : sent ∈ traffic.sent) :
      entryId now serial ≠ sent.task.entry := fun same =>
    (guarded.of_sent follows member).2 (same ▸ inserts)
  constructor
  case made =>
    intro sent member
    rcases List.mem_append.mp member with old | last
    · exact (guarded.made sent old).later move
    · obtain rfl := List.mem_singleton.mp last
      exact ⟨move, List.mem_append_right _ (List.mem_singleton_self _), now, serial, act, isOf⟩
  case distinct =>
    rw [List.map_append, List.nodup_append]
    refine ⟨guarded.distinct, List.nodup_singleton _, fun name member last final same => ?_⟩
    obtain ⟨sent, old, rfl⟩ := List.mem_map.mp member
    obtain rfl := List.mem_singleton.mp final
    exact strange sent old (same.trans isOf.entry_eq).symm
  case kept =>
    intro sent member counts later clock allowed young
    rw [memory]
    rcases List.mem_append.mp member with old | last
    · refine guarded.kept_by_batch follows batch small old counts allowed young move.fate ?_
      intro below near step
      exact recordCall_spares below (strange sent old) (lasting.not_le lifetime step near)
    · -- The attempt counts, so its batch was carried out and set the deadline.
      obtain rfl := List.mem_singleton.mp last
      rw [isOf.now_eq] at young ⊢
      rw [isOf.entry_eq]
      obtain ⟨order, near⟩ := (Move.allows_append_iff.mp allowed).2 move
        (List.mem_singleton_self _)
      obtain ⟨back, step⟩ := near now batch
      simp only [(admitted.mp counts).1, recordCall, Memory.meet, Memory.run]
      refine Memory.keeps_record (lasting.not_le lifetime step ?_)
      rw [abs_lt]
      constructor <;> omega
  case bounded =>
    intro start
    have before := guarded.bounded start
    simp only [Traffic.admittedIn, List.countP_append, List.countP_cons,
      List.countP_nil] at before ⊢
    split
    · -- All that count in a span around the attempt are among the entries that it was told of.
      rename_i inside
      simp only [Bool.and_eq_true, decide_eq_true_eq, isOf.now_eq] at inside
      obtain ⟨⟨counts, _⟩, late⟩ := inside
      have fewer := guarded.admittedIn_le_recent follows nonnegative batch late
      have room := Verdict.admits_eq_true_iff.mp (admitted.mp counts).2
      rw [Traffic.admittedIn] at fewer
      omega
    · omega

/-- A move keeps traffic guarded. -/
theorem step (nonnegative : 0 ≤ skew) (small : skew < limit.window)
    (outlasts : ∀ now serial, move.act = .attempt now serial → limit.Outlasts move.clock) :
    Guarded limit identifier skew (past ++ [move]) (traffic.step limit identifier move) := by
  cases act : move.act with
  | attempt now serial =>
    exact guarded.attempt follows nonnegative small act (outlasts now serial act)
  | look now => exact guarded.look follows small act
  | rollback place => exact guarded.rollback act

omit follows in
/-- Moves in turn keep traffic guarded. -/
theorem run (nonnegative : 0 ≤ skew) (small : skew < limit.window) (moves : List Move)
    (follows : ∀ move ∈ moves, ∀ made ∈ past, made.Precedes skew move)
    (inTurn : moves.Pairwise (Move.Precedes skew))
    (outlasts : ∀ move ∈ moves, ∀ now serial, move.act = .attempt now serial →
      limit.Outlasts move.clock) :
    Guarded limit identifier skew (past ++ moves) (Traffic.run limit identifier traffic moves) := by
  induction moves generalizing past traffic with
  | nil =>
    rw [List.append_nil]
    exact guarded
  | cons move rest ih =>
    obtain ⟨before, turns⟩ := List.pairwise_cons.mp inTurn
    have next := guarded.step (follows move (List.mem_cons_self ..)) nonnegative small
      (outlasts move (List.mem_cons_self ..))
    have later : ∀ other ∈ rest, ∀ made ∈ past ++ [move], made.Precedes skew other := by
      intro other member made present
      rcases List.mem_append.mp present with earlier | last
      · exact follows other (List.mem_cons_of_mem _ member) made earlier
      · obtain rfl := List.mem_singleton.mp last
        exact before other member
    have ended := ih next later turns fun other member =>
      outlasts other (List.mem_cons_of_mem _ member)
    rw [List.append_assoc] at ended
    exact ended

end Guarded

/-- However the clocks of the callers are apart and whatever calls fail, no span of a window less
the skew admits more than the capacity, when each attempt sets a deadline that outlasts the window
at that reading of the clock. At any reading where it does not, as many attempts as the capacity
and one more are admitted in one window, if an instant has names for as many. -/
theorem window_bounded_exactly_when_outlasting (limit : Limit) (identifier : String) :
    (∀ (memory : Memory) (skew : Int) (moves : List Move), 0 ≤ skew → skew < limit.window →
      moves.Pairwise (Move.Precedes skew) →
      (∀ move ∈ moves, ∀ now serial, move.act = .attempt now serial →
        limit.Outlasts move.clock) →
      ∀ start, ((Traffic.run limit identifier ⟨[], memory⟩ moves).admittedIn start
        (limit.window - skew) : Int) ≤ limit.capacity) ∧
    ∀ reading, ¬limit.Outlasts reading → limit.capacity < 16 ^ 12 →
      ∃ moves last, (∀ move ∈ moves, move.clock = reading) ∧
        (∀ move ∈ moves ++ [last], move.fate = .served) ∧
        (moves ++ [last]).Pairwise (Move.Precedes 0) ∧
        ∀ start, limit.capacity < ((Traffic.run limit identifier ⟨[], Memory.empty start⟩
          (moves ++ [last])).admittedIn 0 limit.window : Int) := by
  refine ⟨fun memory skew moves nonnegative small inTurn outlasts => ?_,
    fun reading short few => ?_⟩
  · have guarded := (@Guarded.start limit identifier skew memory).run nonnegative small moves
      (fun _ _ _ member => nomatch member) inTurn outlasts
    exact guarded.bounded
  · obtain ⟨clock, step, gone⟩ := limit.exists_reading_of_not_outlasts short
    refine ⟨volley reading limit.capacity.toNat, straggler limit clock, fun move member => ?_,
      fun move member => ?_, pairwise_overshoot few step,
      fun start => admittedIn_overshoot limit identifier start gone⟩
    · obtain ⟨serial, _, rfl⟩ := List.mem_map.mp member
      rfl
    · rcases List.mem_append.mp member with early | last
      · obtain ⟨serial, _, rfl⟩ := List.mem_map.mp early
        rfl
      · obtain rfl := List.mem_singleton.mp last
        rfl

/-- Moves on a store whose clock stands still come in turn when the limiter's clock goes back by the
skew at most and entries have names of their own. -/
theorem Move.precedes_of_clock_eq {skew : Int} {first second : Move}
    (clock : first.clock = second.clock)
    (near : ∀ earlier ∈ first.now?, ∀ later ∈ second.now?, earlier - skew ≤ later)
    (fresh : ∀ entry ∈ first.entry?, second.entry? ≠ some entry) : first.Precedes skew second where
  clock := clock ▸ le_rfl
  near earlier later before after :=
    ⟨near earlier before later after, clock ▸ Seconds.KeepsStep.refl _ _⟩
  fresh := fresh

/-- A caller whose clock is behind is denied, a look is cut off, a batch is lost after its
insertion, and the removal comes late. -/
def unsteadyMoves : List Move :=
  [⟨.attempt 100 1, .whole 0, .served⟩, ⟨.attempt 0 2, .whole 0, .served⟩,
    ⟨.look 50, .whole 0, .cut 1 (.ofKind .serverTimeout "")⟩,
    ⟨.attempt 60 3, .whole 0, .cut 3 (.ofKind .serverTimeout "")⟩,
    ⟨.rollback 1, .whole 0, .served⟩, ⟨.attempt 999 4, .whole 0, .served⟩]

/-- With one attempt a second allowed and clocks a tenth of a second apart, those moves admit one
attempt in nine tenths of a second. -/
theorem unsteadyMoves_admit_one :
    (Traffic.run .onePerSecond "a" ⟨[], Memory.empty (.whole 0)⟩
      unsteadyMoves).admittedIn 100 900 = 1 ∧
    ((Traffic.run .onePerSecond "a"
      ⟨[], Memory.empty (.whole 0)⟩ unsteadyMoves).admittedIn 100 (1000 - 100) : Int) ≤ 1 := by
  have still : ∀ move ∈ unsteadyMoves, move.clock = .whole 0 := by
    simp [unsteadyMoves]
  have apart : unsteadyMoves.Pairwise fun first second =>
      (∀ earlier ∈ first.now?, ∀ later ∈ second.now?, earlier - 100 ≤ later) ∧
        ∀ entry ∈ first.entry?, second.entry? ≠ some entry := by
    decide +kernel
  have inTurn : unsteadyMoves.Pairwise (Move.Precedes 100) :=
    apart.imp_of_mem fun first second ⟨near, fresh⟩ =>
      Move.precedes_of_clock_eq ((still _ first).trans (still _ second).symm) near fresh
  have outlasts : ∀ move ∈ unsteadyMoves, ∀ now serial, move.act = .attempt now serial →
      Limit.onePerSecond.Outlasts move.clock := by
    intro move member _ _ _
    rw [still move member]
    exact Limit.onePerSecond_outlasts 0
  have bounded := (window_bounded_exactly_when_outlasting .onePerSecond "a").1
    (Memory.empty (.whole 0)) 100 unsteadyMoves (by decide) (by decide) inTurn outlasts 100
  exact ⟨by decide +kernel, bounded⟩

/-- Two attempts of a limit of one are admitted in one window of more than half a million years,
whose length in seconds is no binary64 number. -/
theorem capacity_exceeded_beyond_binary64 :
    [Move.served 0 0 (.whole 0), .served 17592186044416000 1 (.whole 17592186044476)].Pairwise
        (Move.Precedes 0) ∧
      unroundedLimit.capacity < ((Traffic.run unroundedLimit "a" ⟨[], Memory.empty (.whole 0)⟩
        [.served 0 0 (.whole 0),
          .served 17592186044416000 1 (.whole 17592186044476)]).admittedIn 0
            unroundedLimit.window : Int) := by
  obtain ⟨step, gone⟩ := Limit.unroundedLimit_due
  exact ⟨pairwise_overshoot (by decide +kernel) step,
    admittedIn_overshoot unroundedLimit "a" (.whole 0) gone⟩

end Turnstile.Limiter
