import Turnstile.Proofs.Limiter.Calm
import Turnstile.Proofs.Policy.Lifetime

/-!
# The limiter keeps the ledger

On a store that refuses nothing, with clocks that keep step and lifetimes that outlast the
window, every caller is told what the ledger says. The relation between the store and the ledger
is one of observation: at any visit that may follow, the window that the store shows is the window
of the ledger. Lifetimes, purges and removals are invisible in it. Without such a lifetime two
visits suffice to tell the store and the ledger apart.
-/

namespace Turnstile.Limiter

open Store Time
open Limit (unroundedLimit)

namespace Visit

/-- What is assumed of any two visits in turn: neither clock goes back, the store's clock keeps
step, a key keeps its limit, and checks of a key have entries of their own. -/
structure Precedes (first second : Visit Seconds) : Prop where
  order : first.now ≤ second.now
  step : Seconds.KeepsStep first.around second.around (second.now - first.now)
  limit : first.key = second.key → first.limit = second.limit
  fresh : first.request = .check → second.request = .check → first.key = second.key →
    first.entry ≠ second.entry

/-- A visit may follow those before it. -/
def Follows (past : List (Visit Seconds)) (visit : Visit Seconds) : Prop :=
  ∀ made ∈ past, made.Precedes visit

/-- A visit follows one more when it follows the others and comes after that one. -/
theorem follows_append_iff {past : List (Visit Seconds)} {last visit : Visit Seconds} :
    visit.Follows (past ++ [last]) ↔ visit.Follows past ∧ last.Precedes visit := by
  simp [Follows, or_imp, forall_and]

variable {first second : Visit Seconds}

/-- What an earlier visit to the key does not count, a later one does not count either. -/
theorem Precedes.bound_le (precedes : first.Precedes second) (same : second.key = first.key) :
    first.bound ≤ second.bound := by
  have order := precedes.order
  have limit := precedes.limit same.symm
  unfold bound
  rw [limit]
  omega

end Visit

/-- An entry found above an earlier bound too is found above the later one. -/
theorem filter_filter_bound {bound later : Int} (order : bound ≤ later) (instants : List Int) :
    (instants.filter (bound < ·)).filter (later < ·) = instants.filter (later < ·) := by
  rw [List.filter_filter]
  refine List.filter_congr fun instant _ => ?_
  by_cases late : later < instant
  · have early : bound < instant := by omega
    simp [late, early]
  · simp [late]

/-- The instants above a bound are those of the rows above it. -/
theorem map_filter_bound (bound : Int) (rows : List (String × Int)) :
    (rows.filter (bound < ·.2)).map Prod.snd = (rows.map Prod.snd).filter (bound < ·) := by
  rw [List.filter_map]
  rfl

/-- The relation between a store and a ledger after some visits: at any visit that may follow, the
store shows the window of the ledger, and no more than the capacity is in it. No instant of the
ledger is later than all visits, and every entry held is one of a check. -/
structure Mirrors (past : List (Visit Seconds)) (memory : Memory) (ledger : Ledger) : Prop where
  window : ∀ visit : Visit Seconds, visit.Follows past →
    (visit.counted memory).map Prod.snd = ledger.window visit
  fits : ∀ visit : Visit Seconds, visit.Follows past →
    ((ledger.window visit).length : Int) ≤ visit.limit.capacity
  made : ∀ key, ∀ instant ∈ ledger key, ∃ visit ∈ past, instant ≤ visit.now
  names : ∀ key, ∀ row ∈ memory.rows key, ∃ visit ∈ past, visit.request = .check ∧
    visit.key = key ∧ row.1 = visit.entry

namespace Mirrors

variable {past : List (Visit Seconds)} {memory next : Memory} {ledger : Ledger}
  {visit : Visit Seconds}

/-- An empty store mirrors the empty ledger. -/
theorem empty (clock : Seconds) : Mirrors [] (Memory.empty clock) Ledger.empty where
  window _ _ := rfl
  fits visit _ := by
    have capacity := visit.limit.capacity_pos
    have none : (Ledger.empty.window visit).length = 0 := rfl
    omega
  made _ _ member := nomatch member
  names _ _ member := nomatch member

/-- A visit keeps the relation when it keeps it under its own key, and leaves the others alone. -/
theorem attend (mirrors : Mirrors past memory ledger)
    (frame : ∀ key, key ≠ visit.key → next.held.get? key = memory.held.get? key)
    (window : ∀ later : Visit Seconds, later.Follows past → visit.Precedes later →
      later.key = visit.key →
      (Bucket.shown later.around later.bound (next.held.get? visit.key)).map Prod.snd =
        (ledger.next visit).window later)
    (fits : ∀ later : Visit Seconds, later.Follows past → visit.Precedes later →
      later.key = visit.key →
      (((ledger.next visit).window later).length : Int) ≤ later.limit.capacity)
    (names : ∀ row ∈ next.rows visit.key, row ∈ memory.rows visit.key ∨
      visit.request = .check ∧ row.1 = visit.entry) :
    Mirrors (past ++ [visit]) next (ledger.next visit) := by
  have others (key : String) (different : key ≠ visit.key) : ledger.next visit key = ledger key :=
    if_neg different
  refine ⟨fun later follows => ?_, fun later follows => ?_, fun key instant member => ?_,
    fun key row member => ?_⟩
  · obtain ⟨before, precedes⟩ := Visit.follows_append_iff.mp follows
    by_cases same : later.key = visit.key
    · rw [Visit.counted_eq_shown, same]
      exact window later before precedes same
    · have shown := mirrors.window later before
      rw [Ledger.window, others later.key same]
      rw [Visit.counted_eq_shown] at shown ⊢
      rw [frame later.key same]
      exact shown
  · obtain ⟨before, precedes⟩ := Visit.follows_append_iff.mp follows
    by_cases same : later.key = visit.key
    · exact fits later before precedes same
    · rw [Ledger.window, others later.key same]
      exact mirrors.fits later before
  · rcases Ledger.of_mem_next member with old | rfl
    · obtain ⟨made, listed, early⟩ := mirrors.made key instant old
      exact ⟨made, List.mem_append_left _ listed, early⟩
    · exact ⟨visit, List.mem_append_right _ (List.mem_singleton_self _), le_rfl⟩
  · have old : row ∈ memory.rows key → ∃ made ∈ past ++ [visit], made.request = .check ∧
        made.key = key ∧ row.1 = made.entry := by
      intro present
      obtain ⟨made, listed, shape⟩ := mirrors.names key row present
      exact ⟨made, List.mem_append_left _ listed, shape⟩
    by_cases same : key = visit.key
    · subst same
      rcases names row member with present | ⟨request, named⟩
      · exact old present
      · exact ⟨visit, List.mem_append_right _ (List.mem_singleton_self _), request, rfl, named⟩
    · rw [Memory.rows, frame key same] at member
      exact old member

/-- The store counts as many entries as the ledger. -/
theorem counted_length (mirrors : Mirrors past memory ledger) (follows : visit.Follows past) :
    (visit.counted memory).length = (ledger.window visit).length := by
  rw [← mirrors.window visit follows, List.length_map]

/-- What the ledger does not show at a visit it does not show later. -/
theorem window_later {later : Visit Seconds} (precedes : visit.Precedes later)
    (same : later.key = visit.key) :
    ledger.window later = (ledger.window visit).filter (later.bound < ·) := by
  rw [Ledger.window, Ledger.window, filter_filter_bound (precedes.bound_le same), same]

/-- A visit that leaves the ledger's key alone leaves no more than the capacity in any window. -/
theorem fits_of_eq (mirrors : Mirrors past memory ledger)
    (kept : ledger.next visit visit.key = ledger visit.key) {later : Visit Seconds}
    (before : later.Follows past) (same : later.key = visit.key) :
    (((ledger.next visit).window later).length : Int) ≤ later.limit.capacity := by
  have fits := mirrors.fits later before
  rw [Ledger.window, same] at fits ⊢
  rw [kept]
  exact fits

/-- A look keeps the relation. -/
theorem status (mirrors : Mirrors past memory ledger) (follows : visit.Follows past)
    (request : visit.request = .status) :
    Mirrors (past ++ [visit])
      (((visit.before memory).purge visit.key visit.bound).2.count visit.key).2
      (ledger.next visit) := by
  have slot (key : String) := (visit.before memory).inspect_get? visit.key key visit.bound
  have kept : ledger.next visit visit.key = ledger visit.key := by simp [Ledger.next, request]
  refine mirrors.attend (fun key different => ?_) (fun later before precedes same => ?_)
    (fun later before _ same => mirrors.fits_of_eq kept before same) (fun row member => ?_)
  · rw [slot, if_neg different]
    rfl
  · have windows : (ledger.next visit).window later = ledger.window later := by
      rw [Ledger.window, Ledger.window, same, kept]
    rw [slot, if_pos rfl, windows]
    have now := mirrors.window visit follows
    have after := mirrors.window later before
    rw [Visit.counted_eq_shown, same] at after
    cases found : (visit.before memory).find? visit.key with
    | none =>
      rw [Visit.counted, Memory.recent, Memory.entries, found] at now
      rw [window_later precedes same, ← now]
      rfl
    | some bucket =>
      have held : memory.held.get? visit.key = some bucket :=
        ((Memory.find?_eq_some_iff _ _).mp found).1
      rw [held] at after
      rw [Option.bind_some, Bucket.shown_settled, Bucket.shown_above _ (precedes.bound_le same)]
      exact after
  · left
    rw [Memory.rows, slot, if_pos rfl, Memory.rowsOf_bind_above] at member
    exact ((visit.before memory).recent_sublist_rows visit.key visit.bound).subset member

/-- A reset keeps the relation. -/
theorem reset (mirrors : Mirrors past memory ledger) (request : visit.request = .reset) :
    Mirrors (past ++ [visit]) ((visit.before memory).delete visit.key) (ledger.next visit) := by
  have slot (key : String) := (visit.before memory).delete_get? visit.key key
  have emptied : ledger.next visit visit.key = [] := by simp [Ledger.next, request]
  refine mirrors.attend (fun key different => ?_) (fun later _ _ same => ?_)
    (fun later _ _ same => ?_) (fun row member => ?_)
  · rw [slot, if_neg different]
    rfl
  · rw [slot, if_pos rfl, Ledger.window, same, emptied]
    rfl
  · have capacity := later.limit.capacity_pos
    rw [Ledger.window, same, emptied, List.filter_nil, List.length_nil]
    omega
  · rw [Memory.rows, slot, if_pos rfl] at member
    cases member

section Check

variable {seconds : Int}

/-- No entry that a visit counts is later than the visit. -/
theorem le_now_of_counted (mirrors : Mirrors past memory ledger) (follows : visit.Follows past) :
    ∀ row ∈ visit.counted memory, row.2 ≤ visit.now := by
  intro row member
  have listed : row.2 ∈ ledger.window visit := by
    rw [← mirrors.window visit follows]
    exact List.mem_map_of_mem member
  obtain ⟨made, earlier, order⟩ := mirrors.made visit.key row.2 (List.mem_filter.mp listed).1
  exact order.trans (follows made earlier).order

/-- No entry that a check counts bears the name of the check's own. -/
theorem filter_counted (mirrors : Mirrors past memory ledger) (follows : visit.Follows past)
    (request : visit.request = .check) :
    (visit.counted memory).filter (·.1 != visit.entry) = visit.counted memory := by
  refine List.filter_eq_self.mpr fun row member => bne_iff_ne.mpr ?_
  have held := ((visit.before memory).recent_sublist_rows visit.key visit.bound).subset member
  obtain ⟨made, earlier, checked, same, named⟩ := mirrors.names visit.key row held
  rw [named]
  exact (follows made earlier).fresh checked request same

/-- A deadline set by a visit hides nothing that a later visit counts. -/
theorem shown_refreshed {later : Visit Seconds} (outlasts : visit.limit.Outlasts visit.around)
    (lifetime : visit.limit.ttl = .ok seconds) (precedes : visit.Precedes later)
    (same : later.key = visit.key) {rows : List (String × Int)}
    (old : ∀ row ∈ rows, row.2 ≤ visit.now) :
    Bucket.shown later.around later.bound
        (some ⟨⟨rows⟩, some (visit.around.later seconds)⟩) =
      rows.filter (later.bound < ·.2) := by
  rw [Bucket.shown_some]
  split
  · rfl
  · rename_i lapsed
    symm
    refine List.filter_eq_nil_iff.mpr fun row member late => lapsed ?_
    have early := old row member
    have order := precedes.order
    have limit := precedes.limit same.symm
    have late := of_decide_eq_true late
    have near : |later.now - visit.now| < visit.limit.window := by
      rw [abs_of_nonneg (by omega), limit]
      unfold Visit.bound at late
      omega
    have live := outlasts.not_le lifetime precedes.step near
    simp only [Bucket.isLive, live, Bool.not_false]

variable (mirrors : Mirrors past memory ledger) (follows : visit.Follows past)
  (request : visit.request = .check) (outlasts : visit.limit.Outlasts visit.around)
  (lifetime : visit.limit.ttl = .ok seconds)
include mirrors follows request

/-- What a check's batch leaves under its key. -/
theorem recorded_get? (seconds : Int) : (visit.recorded seconds memory).held.get? visit.key =
    some ⟨⟨visit.counted memory ++ [(visit.entry, visit.now)]⟩,
      some (visit.around.later seconds)⟩ := by
  have slot := (visit.before memory).record_get? visit.key visit.key visit.entry visit.bound
    visit.now seconds
  rw [if_pos rfl, mirrors.filter_counted follows request] at slot
  exact slot

include outlasts lifetime

/-- A check that finds room keeps the relation with its entry. -/
theorem room (room : ledger.admits visit = true) :
    Mirrors (past ++ [visit]) (visit.recorded seconds memory) (ledger.next visit) := by
  have slot := mirrors.recorded_get? follows request seconds
  have grown : ledger.next visit visit.key = ledger visit.key ++ [visit.now] := by
    simp [Ledger.next, request, room]
  have old : ∀ row ∈ visit.counted memory ++ [(visit.entry, visit.now)], row.2 ≤ visit.now := by
    intro row member
    rcases List.mem_append.mp member with counted | own
    · exact mirrors.le_now_of_counted follows row counted
    · obtain rfl := List.mem_singleton.mp own
      exact le_rfl
  have windows (later : Visit Seconds) (precedes : visit.Precedes later)
      (same : later.key = visit.key) : (ledger.next visit).window later =
        (ledger.window visit ++ [visit.now]).filter (later.bound < ·) := by
    rw [List.filter_append, ← window_later precedes same, Ledger.window, Ledger.window, same,
      grown, List.filter_append]
  refine mirrors.attend (fun key different => ?_) (fun later _ precedes same => ?_)
    (fun later _ precedes same => ?_) (fun row member => ?_)
  · rw [Memory.record_get?, if_neg different]
    rfl
  · rw [slot, shown_refreshed outlasts lifetime precedes same old, map_filter_bound,
      List.map_append, mirrors.window visit follows, windows later precedes same]
    rfl
  · have below := of_decide_eq_true room
    have fewer := List.length_filter_le (later.bound < ·) (ledger.window visit ++ [visit.now])
    have limit := precedes.limit same.symm
    rw [List.length_append, List.length_singleton] at fewer
    rw [windows later precedes same, ← limit]
    omega
  · rw [Memory.rows, slot, Bucket.rowsOf_some] at member
    rcases List.mem_append.mp member with counted | own
    · exact .inl (((visit.before memory).recent_sublist_rows visit.key visit.bound).subset counted)
    · obtain rfl := List.mem_singleton.mp own
      exact .inr ⟨request, rfl⟩

/-- What a check leaves under its key once its entry is taken back. -/
theorem removed_get? :
    ((visit.recorded seconds memory).remove visit.key visit.entry).held.get? visit.key =
      Bucket.settled ⟨⟨visit.counted memory⟩, some (visit.around.later seconds)⟩ := by
  have slot := mirrors.recorded_get? follows request seconds
  have positive := visit.limit.window_pos
  have live := outlasts.not_le lifetime (Seconds.KeepsStep.refl visit.around 0)
    (by rw [abs_zero]; exact positive)
  have clock : (visit.recorded seconds memory).clock = visit.around :=
    Memory.record_clock ..
  have found : (visit.recorded seconds memory).find? visit.key = some _ :=
    ((visit.recorded seconds memory).find?_eq_some_iff visit.key).mpr
      ⟨slot, by simp only [Bucket.isLive, clock, live, Bool.not_false]⟩
  rw [Memory.remove_get?, if_pos rfl, found, Option.bind_some, Bucket.without, Table.drop,
    List.filter_append, mirrors.filter_counted follows request, List.filter_cons,
    if_neg (by simp), List.filter_nil, List.append_nil]

/-- A check that finds the window full keeps the relation without its entry. -/
theorem full (full : ledger.admits visit = false) :
    Mirrors (past ++ [visit]) ((visit.recorded seconds memory).remove visit.key visit.entry)
      (ledger.next visit) := by
  have slot := mirrors.removed_get? follows request outlasts lifetime
  have kept : ledger.next visit visit.key = ledger visit.key := by
    simp [Ledger.next, request, full]
  refine mirrors.attend (fun key different => ?_) (fun later _ precedes same => ?_)
    (fun later before _ same => mirrors.fits_of_eq kept before same) (fun row member => ?_)
  · rw [Memory.remove_get?, if_neg different, Memory.record_get?, if_neg different]
    rfl
  · have windows : (ledger.next visit).window later = ledger.window later := by
      rw [Ledger.window, Ledger.window, same, kept]
    rw [slot, Bucket.shown_settled, shown_refreshed outlasts lifetime precedes same
      (mirrors.le_now_of_counted follows), map_filter_bound, mirrors.window visit follows,
      windows, window_later precedes same]
  · rw [Memory.rows, slot, Bucket.rowsOf_settled] at member
    exact .inl (((visit.before memory).recent_sublist_rows visit.key visit.bound).subset member)

end Check

/-- The verdict on an attempt is the answer of the ledger. -/
theorem ofAttempt_eq (mirrors : Mirrors past memory ledger) (follows : visit.Follows past)
    (request : visit.request = .check) :
    some (Verdict.ofAttempt visit.limit visit.now (visit.counted memory).length) =
      ledger.answer visit := by
  have fits := mirrors.fits visit follows
  rw [mirrors.counted_length follows]
  simp only [Ledger.answer, request, Verdict.ofAttempt, Verdict.endOf, Option.some.injEq]
  cases room : Verdict.admits visit.limit (ledger.window visit).length with
  | true =>
    have below := Verdict.admits_eq_true_iff.mp room
    have admitted : ledger.admits visit = true := room
    simp only [admitted, if_true, Verdict.mk.injEq, true_and, and_true]
    omega
  | false =>
    have above := Verdict.admits_eq_false_iff.mp room
    have refused : ledger.admits visit = false := room
    simp only [refused, Bool.false_eq_true, if_false, Verdict.mk.injEq, true_and]
    omega

/-- The verdict on a look is the answer of the ledger. -/
theorem ofLook_eq (mirrors : Mirrors past memory ledger) (follows : visit.Follows past)
    (request : visit.request = .status) :
    some (Verdict.ofLook visit.limit visit.now (visit.counted memory).length) =
      ledger.answer visit := by
  have fits := mirrors.fits visit follows
  rw [mirrors.counted_length follows]
  simp only [Ledger.answer, request, Verdict.ofLook, Verdict.endOf, Option.some.injEq,
    Verdict.mk.injEq, and_true]
  exact ⟨rfl, by omega⟩

/-- A visit is told what the ledger answers, and keeps the relation. -/
theorem serve {store : Local} (quiet : store.interference.IsQuiet)
    (mirrors : Mirrors past store.memory ledger) (follows : visit.Follows past)
    (outlasts : visit.request = .check → visit.limit.Outlasts visit.around) :
    (visit.serve store).1 = .ok (ledger.answer visit) ∧
      (visit.serve store).2.interference = store.interference ∧
      Mirrors (past ++ [visit]) (visit.serve store).2.memory (ledger.next visit) := by
  cases request : visit.request with
  | status =>
    rw [visit.serve_of_status quiet request, mirrors.ofLook_eq follows request]
    exact ⟨rfl, rfl, mirrors.status follows request⟩
  | reset =>
    rw [visit.serve_of_reset quiet request, Ledger.answer, request]
    exact ⟨rfl, rfl, mirrors.reset request⟩
  | check =>
    have lasting := outlasts request
    obtain ⟨seconds, lifetime, _⟩ := outlasts request
    have same : Verdict.admits visit.limit (visit.counted store.memory).length =
        ledger.admits visit := by
      rw [mirrors.counted_length follows]
      rfl
    cases room : ledger.admits visit with
    | true =>
      have kept := mirrors.room follows request lasting lifetime room
      rw [visit.serve_of_room quiet request lifetime (same.trans room),
        mirrors.ofAttempt_eq follows request]
      simp only [true_and]
      exact kept
    | false =>
      have kept := mirrors.full follows request lasting lifetime room
      rw [visit.serve_of_full quiet request lifetime (same.trans room),
        mirrors.ofAttempt_eq follows request]
      simp only [true_and]
      exact kept

end Mirrors

namespace Course

/-- What the callers were told so far. -/
def told {σ ω : Type} (course : Course σ ω) : List (Except Failure (Option Verdict)) :=
  course.past.map (·.told)

/-- The callers of visits in turn are told what the ledger answers. -/
theorem told_run (visits : List (Visit Seconds)) {course : Course Local Seconds}
    {past : List (Visit Seconds)} {ledger : Ledger}
    (quiet : course.store.interference.IsQuiet)
    (mirrors : Mirrors past course.store.memory ledger)
    (follows : ∀ visit ∈ visits, visit.Follows past)
    (inTurn : visits.Pairwise Visit.Precedes)
    (outlasts : ∀ visit ∈ visits, visit.request = .check →
      visit.limit.Outlasts visit.around) :
    (course.run visits).told = course.told ++ (ledger.answers visits).map .ok := by
  induction visits generalizing course past ledger with
  | nil => exact (List.append_nil _).symm
  | cons visit rest ih =>
    obtain ⟨before, turns⟩ := List.pairwise_cons.mp inTurn
    obtain ⟨told, calm, mirrored⟩ := mirrors.serve quiet (follows visit (List.mem_cons_self ..))
      (outlasts visit (List.mem_cons_self ..))
    have later : ∀ other ∈ rest, other.Follows (past ++ [visit]) := fun other member =>
      Visit.follows_append_iff.mpr
        ⟨follows other (List.mem_cons_of_mem _ member), before other member⟩
    have others := @ih (course.attend visit) _ _ (calm ▸ quiet) mirrored later turns
      fun other member => outlasts other (List.mem_cons_of_mem _ member)
    rw [show course.run (visit :: rest) = (course.attend visit).run rest from rfl, others]
    simp [Course.told, attend, told, Ledger.answers]

end Course

/-! ## Lifetimes that are too short -/

section Departure

variable (limit : Limit) (reading clock : Seconds)

/-- A check at the start of the epoch. -/
def opener : Visit Seconds := ⟨.check, limit, "a", 0, 0, reading⟩

/-- A look at the last instant at which the check still counts. -/
def lastLook : Visit Seconds := ⟨.status, limit, "a", limit.window - 1, 0, clock⟩

/-- The check and the look come in turn when the clock keeps step. -/
theorem pairwise_departure (step : Seconds.KeepsStep reading clock (limit.window - 1)) :
    [opener limit reading, lastLook limit clock].Pairwise Visit.Precedes := by
  have positive := limit.window_pos
  refine List.pairwise_pair.mpr ⟨?_, ?_, fun _ => rfl, fun _ checked => nomatch checked⟩
  · show (0 : Int) ≤ limit.window - 1
    omega
  · show Seconds.KeepsStep reading clock (limit.window - 1 - 0)
    rw [Int.sub_zero]
    exact step

/-- The ledger shows the check to the look. -/
theorem window_departure :
    (Ledger.empty.next (opener limit reading)).window (lastLook limit clock) = [0] := by
  have capacity := limit.capacity_pos
  have room : Ledger.empty.admits (opener limit reading) = true :=
    decide_eq_true (show (0 : Int) < limit.capacity by omega)
  have key : (lastLook limit clock).key = (opener limit reading).key := rfl
  have held : Ledger.empty.next (opener limit reading) (lastLook limit clock).key = [0] := by
    rw [Ledger.next, if_pos key]
    show (if Ledger.empty.admits (opener limit reading) then [] ++ [(0 : Int)] else []) = [0]
    rw [if_pos room, List.nil_append]
  have counts : (lastLook limit clock).bound < 0 := by
    show limit.window - 1 - limit.window < 0
    omega
  rw [Ledger.window, held, List.filter_cons, if_pos (decide_eq_true counts), List.filter_nil]

variable {limit reading clock} {store : Local} (quiet : store.interference.IsQuiet)
  (vacant : ∀ key, store.memory.held.get? key = none)
include quiet vacant

/-- A store whose clock has reached the deadline of the check, or that never held its key, shows
nothing to the look. -/
theorem counted_departure
    (gone : ∀ seconds, limit.ttl = .ok seconds → (reading.later seconds).le clock = true) :
    ((opener limit reading).serve store).2.interference = store.interference ∧
      (lastLook limit clock).counted ((opener limit reading).serve store).2.memory = [] := by
  have key : (lastLook limit clock).key = (opener limit reading).key := rfl
  cases lifetime : limit.ttl with
  | error failure =>
    have served : ((opener limit reading).serve store).2 = (opener limit reading).ready store := by
      rw [Visit.serve_check _ _ rfl]
      exact congrArg Prod.snd (entered_of_ttl_error lifetime)
    rw [served]
    refine ⟨rfl, ?_⟩
    rw [Visit.counted_eq_shown]
    show Bucket.shown clock _ (store.memory.held.get? _) = []
    rw [vacant, Bucket.shown_none]
  | ok seconds =>
    have none : (opener limit reading).counted store.memory = [] := by
      rw [Visit.counted_eq_shown, vacant, Bucket.shown_none]
    have room :
        Verdict.admits limit ((opener limit reading).counted store.memory).length = true := by
      have capacity := limit.capacity_pos
      rw [none, Verdict.admits_eq_true_iff, List.length_nil]
      omega
    have served := congrArg Prod.snd
      ((opener limit reading).serve_of_room quiet rfl lifetime room)
    rw [served]
    refine ⟨rfl, ?_⟩
    rw [Visit.counted_eq_shown, key, Memory.record_get?, if_pos rfl]
    exact Bucket.shown_of_le rfl (gone seconds lifetime) _

/-- The callers of the check and the look are not told what the ledger answers. -/
theorem told_departure
    (gone : ∀ seconds, limit.ttl = .ok seconds → (reading.later seconds).le clock = true) :
    ((Course.start store).run [opener limit reading, lastLook limit clock]).told ≠
      (Ledger.empty.answers [opener limit reading, lastLook limit clock]).map .ok := by
  obtain ⟨kept, unseen⟩ := counted_departure quiet vacant gone
  have look := congrArg Prod.fst ((lastLook limit clock).serve_of_status (kept ▸ quiet) rfl)
  intro same
  have second : ((lastLook limit clock).serve ((opener limit reading).serve store).2).1 =
      .ok ((Ledger.empty.next (opener limit reading)).answer (lastLook limit clock)) :=
    Option.some.inj (congrArg (fun told => told[1]?) same)
  rw [look, unseen] at second
  have hits := congrArg Verdict.totalHits (Option.some.inj (Except.ok.inj second))
  rw [window_departure] at hits
  cases hits

end Departure

/-- The local store before the first visit: without keys, and refusing nothing. -/
def vacantStore (batching : Batching) (clock : Seconds) : Local where
  memory := Memory.empty clock
  batching := batching

/-- Callers are told what the ledger answers, in any number of visits to a store that was empty,
when each check is made under a limit whose lifetime outlasts its window at that reading of the
clock. Under any other limit and reading, a check and a look already part from the ledger. -/
theorem ledger_kept_exactly_when_outlasting (batching : Batching) (start : Seconds) :
    (∀ visits : List (Visit Seconds), visits.Pairwise Visit.Precedes →
      (∀ visit ∈ visits, visit.request = .check → visit.limit.Outlasts visit.around) →
      ((Course.start (vacantStore batching start)).run visits).told =
        (Ledger.empty.answers visits).map .ok) ∧
    ∀ (limit : Limit) (reading : Seconds), ¬limit.Outlasts reading →
      ∃ visits : List (Visit Seconds), visits.Pairwise Visit.Precedes ∧
        (∀ visit ∈ visits, visit.limit = limit ∧
          (visit.request = .check → visit.around = reading)) ∧
        ((Course.start (vacantStore batching start)).run visits).told ≠
          (Ledger.empty.answers visits).map .ok := by
  have quiet : (vacantStore batching start).interference.IsQuiet := fun _ => rfl
  refine ⟨fun visits inTurn outlasts => ?_, fun limit reading short => ?_⟩
  · exact Course.told_run visits quiet (Mirrors.empty start) (fun _ _ _ member => nomatch member)
      inTurn outlasts
  · obtain ⟨clock, step, gone⟩ := limit.exists_reading_of_not_outlasts short
    refine ⟨[opener limit reading, lastLook limit clock],
      pairwise_departure limit reading clock step, fun visit member => ?_,
      told_departure quiet (fun _ => rfl) gone⟩
    simp only [List.mem_cons, List.not_mem_nil, or_false] at member
    rcases member with rfl | rfl
    · exact ⟨rfl, fun _ => rfl⟩
    · exact ⟨rfl, fun checked => nomatch checked⟩

/-- One attempt a second, at whole milliseconds and with the store's clock at zero. -/
def visitAt (request : Request) (now : Int) (serial : Nat) : Visit Seconds :=
  ⟨request, .onePerSecond, "a", now, serial, .whole 0⟩

/-- A visit comes before another that is later and has an entry of its own. -/
theorem visitAt_precedes {request other : Request} {now later : Int} {serial next : Nat}
    (order : now ≤ later)
    (fresh : request = .check → other = .check → entryId now serial ≠ entryId later next) :
    (visitAt request now serial).Precedes (visitAt other later next) where
  order := order
  step := Seconds.KeepsStep.refl _ _
  limit _ := rfl
  fresh checked also _ := fresh checked also

/-- A second check is denied, a look says so, and after a reset a third is admitted, as the ledger
has it. -/
theorem ledger_kept_by_attempts_a_second :
    ((Course.start (vacantStore .separate (.whole 0))).run
      [visitAt .check 0 1, visitAt .check 5 2, visitAt .status 5 0, visitAt .reset 6 0,
        visitAt .check 6 3]).told =
      [.ok (some ⟨true, 0, 1000, 1⟩), .ok (some ⟨false, 0, 1005, 1⟩),
        .ok (some ⟨false, 0, 1005, 1⟩), .ok none, .ok (some ⟨true, 0, 1006, 1⟩)] := by
  refine ((ledger_kept_exactly_when_outlasting .separate (.whole 0)).1 _ ?_ ?_).trans rfl
  · simp only [List.pairwise_cons, List.mem_cons, List.not_mem_nil, or_false, forall_eq_or_imp,
      forall_eq, false_imp_iff, implies_true, List.Pairwise.nil, and_true]
    refine ⟨⟨?_, ?_, ?_, ?_⟩, ⟨?_, ?_, ?_⟩, ⟨?_, ?_⟩, ?_⟩ <;>
      exact visitAt_precedes (by decide) (by decide +kernel)
  · simp only [List.mem_cons, List.not_mem_nil, or_false]
    rintro visit (rfl | rfl | rfl | rfl | rfl) _ <;> exact Limit.onePerSecond_outlasts 0

/-- Under the limit whose window is no binary64 number of seconds, the deadline of a check comes
with the last look that should still count it. -/
theorem ledger_lost_beyond_binary64 :
    [opener unroundedLimit (.whole 0), lastLook unroundedLimit (.whole 17592186044476)].Pairwise
        Visit.Precedes ∧
      ((Course.start (vacantStore .locked (.whole 0))).run
        [opener unroundedLimit (.whole 0),
          lastLook unroundedLimit (.whole 17592186044476)]).told ≠
        (Ledger.empty.answers [opener unroundedLimit (.whole 0),
          lastLook unroundedLimit (.whole 17592186044476)]).map .ok := by
  obtain ⟨step, gone⟩ := Limit.unroundedLimit_due
  exact ⟨pairwise_departure _ _ _ step, told_departure (fun _ => rfl) (fun _ => rfl) gone⟩

end Turnstile.Limiter
