import Turnstile.Proofs.Limiter.Entry
import Turnstile.Proofs.Limiter.Traffic

/-!
# More than the capacity in one window

With a lifetime that does not outlast the window, attempts as many as the capacity are forgotten
while they still count: they are made at one instant, and one more, at the last instant of their
window, finds their key past its deadline and is admitted too.
-/

namespace Turnstile.Limiter

open Store Time

section Overshoot

variable {limit : Limit} {identifier : String} {traffic : Traffic} {reading clock : Seconds}

/-- An attempt that the store carries out. -/
def Move.served (now : Int) (serial : Nat) (clock : Seconds) : Move :=
  ⟨.attempt now serial, clock, .served⟩

/-- Attempts at the start of the epoch, at one reading of the clock. -/
def volley (reading : Seconds) (number : Nat) : List Move :=
  (List.range number).map fun serial => .served 0 serial reading

/-- An attempt at the last instant at which the volley still counts. -/
def straggler (limit : Limit) (clock : Seconds) : Move :=
  .served (limit.window - 1) limit.capacity.toNat clock

/-- An attempt comes after another when the limiter's clock and the store's keep step and their
serial numbers are apart. -/
theorem Move.served_precedes {now later : Int} {serial next : Nat} (order : now ≤ later)
    (step : Seconds.KeepsStep reading clock (later - now)) (bound : next < 16 ^ 12)
    (apart : serial < next) :
    (Move.served now serial reading).Precedes 0 (Move.served later next clock) where
  clock := step.1
  near earlier last first second := by
    obtain rfl := Option.some.inj first
    obtain rfl := Option.some.inj second
    exact ⟨by omega, step⟩
  fresh entry first second := by
    have same : entryId now serial = entryId later next :=
      Option.some.inj (first.trans second.symm)
    have serials := serial_eq_of_entryId_eq (apart.trans bound) bound same
    omega

/-- A volley and its straggler come in turn when the clock keeps step. -/
theorem pairwise_overshoot (few : limit.capacity < 16 ^ 12)
    (step : Seconds.KeepsStep reading clock (limit.window - 1)) :
    (volley reading limit.capacity.toNat ++ [straggler limit clock]).Pairwise
      (Move.Precedes 0) := by
  have window := limit.window_pos
  have bound : limit.capacity.toNat < 16 ^ 12 := by omega
  rw [List.pairwise_append]
  refine ⟨?_, List.pairwise_singleton _ _, fun move member last final => ?_⟩
  · rw [volley, List.pairwise_map]
    refine List.pairwise_lt_range.imp_of_mem fun first second apart => ?_
    have early := List.mem_range.mp second
    exact Move.served_precedes le_rfl (Seconds.KeepsStep.refl _ _) (early.trans bound) apart
  · obtain ⟨serial, early, rfl⟩ := List.mem_map.mp member
    obtain rfl := List.mem_singleton.mp final
    refine Move.served_precedes (by omega) ?_ bound (List.mem_range.mp early)
    rw [Int.sub_zero]
    exact step

/-- An attempt that finds room is one more in any span around it, and leaves its record; without a
lifetime it leaves the store alone. -/
theorem step_served (limit : Limit) (identifier : String) (traffic : Traffic) (clock : Seconds)
    (serial : Nat) (now start span : Int) (early : start ≤ now) (late : now < start + span)
    (room : ∀ seconds, limit.ttl = .ok seconds → Verdict.admits limit
      ((traffic.memory.setClock clock).recent (limit.key identifier)
        (now - limit.window)).length = true) :
    let next := traffic.step limit identifier (.served now serial clock)
    next.admittedIn start span = traffic.admittedIn start span + 1 ∧
      ((∃ failure, limit.ttl = .error failure ∧ next.memory = traffic.memory.setClock clock) ∨
        ∃ seconds, limit.ttl = .ok seconds ∧ next.memory =
          ((traffic.memory.setClock clock).record (limit.key identifier) (now - limit.window)
            (entryId now serial) now seconds).2) := by
  have grown (sent : Sent) (counts : sent.counts = true) (made : sent.task.now = now)
      (memory : Memory) : Traffic.admittedIn start span ⟨traffic.sent ++ [sent], memory⟩ =
        traffic.admittedIn start span + 1 := by
    simp only [Traffic.admittedIn, List.countP_append, List.countP_cons, List.countP_nil, counts,
      made, early, late, decide_true, Bool.and_self, if_true, Nat.zero_add]
  simp only [Traffic.step, Move.served]
  cases lifetime : limit.ttl with
  | error failure =>
    obtain ⟨same, counts, made⟩ := turn_whole_of_ttl_error identifier now serial lifetime
      ⟨traffic.memory.setClock clock, .served⟩
    refine ⟨grown _ counts made _, .inl ⟨failure, rfl, ?_⟩⟩
    rw [same]
  | ok seconds =>
    obtain ⟨memory, isOf, counts⟩ := turn_whole identifier now serial lifetime
      ⟨traffic.memory.setClock clock, .served⟩
    have counted := counts.mpr ⟨rfl, room seconds lifetime⟩
    refine ⟨grown _ counted isOf.now_eq _, .inr ⟨seconds, rfl, ?_⟩⟩
    rw [memory]
    simp only [recordCall, Memory.meet, Memory.run]

/-- What a volley leaves: all its checks count, each has an entry at most, and the key is due at
the deadline that they set. -/
structure Volleyed (limit : Limit) (identifier : String) (reading : Seconds) (number : Nat)
    (traffic : Traffic) : Prop where
  admitted : traffic.admittedIn 0 limit.window = number
  fewer : (traffic.memory.rows (limit.key identifier)).length ≤ number
  due : ∀ bucket seconds, traffic.memory.held.get? (limit.key identifier) = some bucket →
    limit.ttl = .ok seconds → bucket.deadline = some (reading.later seconds)

/-- One more attempt of a volley that has yet to use the capacity. -/
theorem Volleyed.step {number : Nat} (volleyed : Volleyed limit identifier reading number traffic)
    (left : number < limit.capacity) (serial : Nat) :
    Volleyed limit identifier reading (number + 1)
      (traffic.step limit identifier (.served 0 serial reading)) := by
  have window := limit.window_pos
  have few := ((traffic.memory.setClock reading).recent_sublist_rows (limit.key identifier)
    (0 - limit.window)).length_le.trans volleyed.fewer
  have room : Verdict.admits limit ((traffic.memory.setClock reading).recent (limit.key identifier)
      (0 - limit.window)).length = true := Verdict.admits_eq_true_iff.mpr (by omega)
  obtain ⟨one, ⟨failure, failed, memory⟩ | ⟨seconds, lifetime, memory⟩⟩ :=
    step_served limit identifier traffic reading serial 0 0 limit.window le_rfl (by omega)
      fun _ _ => room
  · refine ⟨one.trans (congrArg (· + 1) volleyed.admitted), ?_, fun bucket seconds _ lifetime => ?_⟩
    · rw [memory]
      exact volleyed.fewer.trans (Nat.le_succ _)
    · cases failed.symm.trans lifetime
  · refine ⟨one.trans (congrArg (· + 1) volleyed.admitted), ?_, fun bucket other held same => ?_⟩
    · have others := List.length_filter_le (·.1 != entryId 0 serial)
        ((traffic.memory.setClock reading).recent (limit.key identifier) (0 - limit.window))
      rw [memory, Memory.record_rows, if_pos rfl, List.length_append, List.length_singleton]
      omega
    · rw [memory, Memory.record_get?, if_pos rfl] at held
      obtain rfl := Option.some.inj held
      obtain rfl := Except.ok.inj (lifetime.symm.trans same)
      rfl

/-- A volley of no more than the capacity on a store without keys. -/
theorem volleyed_run (limit : Limit) (identifier : String) (reading start : Seconds) (number : Nat)
    (few : number ≤ limit.capacity) :
    Volleyed limit identifier reading number
      (Traffic.run limit identifier ⟨[], Memory.empty start⟩ (volley reading number)) := by
  induction number with
  | zero => exact ⟨rfl, Nat.le_refl 0, fun _ _ held => nomatch held⟩
  | succ number ih =>
    have before := ih (by omega)
    have grown : volley reading (number + 1) =
        volley reading number ++ [.served 0 number reading] := by
      rw [volley, List.range_succ, List.map_append]
      rfl
    rw [grown, Traffic.run_concat]
    exact before.step (by omega) number

/-- As many attempts as the capacity and one more are admitted in one window, when the clock has
reached the deadline of the first ones by the last. -/
theorem admittedIn_overshoot (limit : Limit) (identifier : String) (start : Seconds)
    (gone : ∀ seconds, limit.ttl = .ok seconds → (reading.later seconds).le clock = true) :
    limit.capacity < ((Traffic.run limit identifier ⟨[], Memory.empty start⟩
      (volley reading limit.capacity.toNat ++ [straggler limit clock])).admittedIn 0
        limit.window : Int) := by
  have window := limit.window_pos
  have capacity := limit.capacity_pos
  have volleyed := volleyed_run limit identifier reading start limit.capacity.toNat (by omega)
  rw [Traffic.run_concat]
  generalize Traffic.run limit identifier ⟨[], Memory.empty start⟩
    (volley reading limit.capacity.toNat) = traffic at volleyed ⊢
  have none (seconds : Int) (lifetime : limit.ttl = .ok seconds) :
      (traffic.memory.setClock clock).recent (limit.key identifier)
        (limit.window - 1 - limit.window) = [] := by
    rw [Memory.recent_eq_shown, Memory.setClock_get?]
    cases held : traffic.memory.held.get? (limit.key identifier) with
    | none => rfl
    | some bucket =>
      exact Bucket.shown_of_le (volleyed.due bucket seconds held lifetime) (gone seconds lifetime) _
  have served := (step_served limit identifier traffic clock limit.capacity.toNat
    (limit.window - 1) 0 limit.window (by omega) (by omega) fun seconds lifetime => by
      rw [none seconds lifetime, Verdict.admits_eq_true_iff, List.length_nil]
      omega).1
  rw [straggler, served, volleyed.admitted]
  omega

end Overshoot

end Turnstile.Limiter
