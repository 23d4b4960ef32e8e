import Turnstile.Policy.Basic
import Turnstile.Proofs.Time.Reading

/-!
# Lifetimes of keys

A key is given a lifetime in whole seconds whenever an attempt is recorded under it. The lifetime
outlasts a reading when the deadline computed from that reading lies beyond every reading that the
clock can show while an entry written then still counts. On a clock of whole seconds this says
that the lifetime without its minute covers the window; the limits in force by default have it.
-/

namespace Turnstile.Limit

open Time

/-- The deadline of a key written at the reading comes after the clock of every call that still
counts the entry: less than a window later, and up to a minute ahead. -/
def Outlasts (limit : Limit) (reading : Seconds) : Prop :=
  ∃ seconds, limit.ttl = .ok seconds ∧
    reading.instant + ((limit.window : ℚ) - 1) / 1000 + 60 < (reading.later seconds).instant

/-- A lifetime in seconds is the one that the limit computes. -/
theorem ttl_eq_ok_iff (limit : Limit) (seconds : Int) :
    limit.ttl = .ok seconds ↔ limit.ttl? = some seconds := by
  unfold ttl
  cases limit.ttl? with
  | none => simp
  | some found => simp

/-- On whole seconds a key outlasts its window exactly when its lifetime, less the minute, covers
the window. -/
theorem outlasts_whole_iff (limit : Limit) (count : Int) :
    limit.Outlasts (.whole count) ↔
      ∃ seconds, limit.ttl = .ok seconds ∧ limit.window ≤ 1000 * (seconds - 60) := by
  have covers (seconds : Int) :
      (Seconds.whole count).instant + ((limit.window : ℚ) - 1) / 1000 + 60 <
        ((Seconds.whole count).later seconds).instant ↔
      limit.window ≤ 1000 * (seconds - 60) := by
    rw [Seconds.later_whole, Seconds.instant_whole, Seconds.instant_whole, Int.cast_add,
      ← Int.lt_add_one_iff, ← Int.cast_lt (R := ℚ)]
    push_cast
    constructor <;> intro bound <;> linarith
  exact exists_congr fun seconds => and_congr_right fun _ => covers seconds

/-- A key written at one call is not past its deadline at another less than a window away. -/
theorem Outlasts.not_le {limit : Limit} {written read : Seconds} {seconds span : Int}
    (outlasts : limit.Outlasts written) (lifetime : limit.ttl = .ok seconds)
    (step : Seconds.KeepsStep written read span) (near : |span| < limit.window) :
    ((written.later seconds).le read) = false := by
  obtain ⟨found, computed, beyond⟩ := outlasts
  have same : found = seconds := Except.ok.inj (computed.symm.trans lifetime)
  rw [same] at beyond
  have short : |(span : ℚ)| ≤ limit.window - 1 := by
    have whole : |span| ≤ limit.window - 1 := by omega
    exact_mod_cast whole
  rw [Seconds.le_eq_false_iff]
  have ahead := step.2
  linarith

/-- The clock reads later than the last deadline that is too early, and keeps step all the same. -/
theorem exists_reading_of_not_outlasts (limit : Limit) {reading : Seconds}
    (short : ¬limit.Outlasts reading) : ∃ clock : Seconds,
      Seconds.KeepsStep reading clock (limit.window - 1) ∧
        ∀ seconds, limit.ttl = .ok seconds → (reading.later seconds).le clock = true := by
  have positive := limit.window_pos
  cases lifetime : limit.ttl with
  | error failure => exact ⟨reading, Seconds.KeepsStep.refl _ _, fun _ same => nomatch same⟩
  | ok seconds =>
    have early : (reading.later seconds).instant ≤
        reading.instant + ((limit.window : ℚ) - 1) / 1000 + 60 := by
      by_contra late
      exact short ⟨seconds, lifetime, not_le.mp late⟩
    have span : |((limit.window - 1 : Int) : ℚ)| = (limit.window : ℚ) - 1 := by
      rw [abs_of_nonneg]
      · push_cast
        rfl
      · exact_mod_cast (show (0 : Int) ≤ limit.window - 1 by omega)
    by_cases order : reading.instant ≤ (reading.later seconds).instant
    · refine ⟨reading.later seconds, ⟨order, ?_⟩, fun other same => ?_⟩
      · rw [span]
        linarith
      · obtain rfl := Except.ok.inj same
        exact (Seconds.le_iff_instant _ _).mpr le_rfl
    · refine ⟨reading, Seconds.KeepsStep.refl _ _, fun other same => ?_⟩
      obtain rfl := Except.ok.inj same
      exact (Seconds.le_iff_instant _ _).mpr (le_of_lt (not_le.mp order))

/-- Every limit in force by default outlasts its window on whole seconds. -/
theorem defaultLimit_outlasts (scope : Scope) (count : Int) :
    scope.defaultLimit.Outlasts (.whole count) := by
  rw [outlasts_whole_iff]
  simp only [ttl_eq_ok_iff]
  cases scope
  case invitationTenant => exact ⟨86460, by decide, by decide⟩
  case invitationEmail => exact ⟨86460, by decide, by decide⟩
  all_goals exact ⟨3660, by decide, by decide⟩

/-- One attempt a second. -/
def onePerSecond : Limit := ⟨1000, 1, "k", by decide, by decide, by decide⟩

/-- A key under a limit per second outlasts its window at every whole reading. -/
theorem onePerSecond_outlasts (count : Int) : onePerSecond.Outlasts (.whole count) :=
  (outlasts_whole_iff _ count).mpr ⟨61, (ttl_eq_ok_iff _ 61).mpr (by decide +kernel), by decide⟩

/-- A window of more than half a million years whose length in seconds is no binary64 number. -/
def unroundedLimit : Limit := ⟨17592186044416001, 1, "k", by decide, by decide, by decide⟩

/-- Under that limit the deadline of a key comes with the last call that should still find its
entry. -/
theorem unroundedLimit_due :
    Seconds.KeepsStep (.whole 0) (.whole 17592186044476) (unroundedLimit.window - 1) ∧
      ∀ seconds, unroundedLimit.ttl = .ok seconds →
        ((Seconds.whole 0).later seconds).le (.whole 17592186044476) = true := by
  refine ⟨⟨?_, ?_⟩, fun seconds same => ?_⟩
  · rw [Seconds.instant_whole, Seconds.instant_whole]
    norm_num
  · rw [Seconds.instant_whole, Seconds.instant_whole]
    norm_num [unroundedLimit]
  · have lifetime : unroundedLimit.ttl = .ok 17592186044476 :=
      (ttl_eq_ok_iff _ _).mpr (by decide +kernel)
    obtain rfl := Except.ok.inj (lifetime.symm.trans same)
    rw [Seconds.later_whole, Seconds.whole_le_whole]
    decide

end Turnstile.Limit
