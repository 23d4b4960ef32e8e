import Turnstile.Proofs.Guard.Charging
import Turnstile.Proofs.Limiter.Rollback
import Turnstile.Proofs.Policy.Resolution

/-!
# Spans in whole seconds

Lifetimes of keys and waiting times are spans of milliseconds, rounded up to seconds through one
binary64 quotient. Up to the longest span this is the ceiling of exact arithmetic: a lifetime
exceeds the window by one minute and less than a second more, and a wait is the least that reaches
the end of the window.
-/

namespace Turnstile

open Limiter Number Store Time

/-! ## The ceiling of a quotient -/

/-- Up to the longest span the rounded quotient has the ceiling of the exact one. -/
theorem Time.ceil_seconds? {milliseconds : Int} (small : milliseconds.natAbs ≤ longestSpan) :
    ∃ quotient, seconds? milliseconds = some quotient ∧ quotient.isFinite = true ∧
      ⌈quotient.toRat⌉ = ⌈(milliseconds : ℚ) / 1000⌉ := by
  have counted := ceilSeconds?_eq_ceilDiv small
  have exactly : ceilDiv milliseconds 1000 = ⌈(milliseconds : ℚ) / 1000⌉ :=
    Binary64.ceilDiv_eq_ceil milliseconds 1000
  unfold ceilSeconds? at counted
  cases found : seconds? milliseconds with
  | none =>
    rw [found] at counted
    cases counted
  | some quotient =>
    rw [found, Option.bind_some] at counted
    have finite : quotient.isFinite = true := by
      cases quotient with
      | finite => rfl
      | infinite => cases counted
      | nan => cases counted
    rw [Binary64.ceil?_eq_ceil finite] at counted
    exact ⟨quotient, rfl, finite, (Option.some.inj counted).trans exactly⟩

/-! ## Lifetimes -/

namespace Time.Seconds

/-- The reading is a whole number, or a finite binary64 number of a size at which neighbours lie
less than a minute apart. -/
def TellsMinutes : Seconds → Prop
  | .whole _ => True
  | .binary count => count.isFinite = true ∧ |count.toRat| ≤ 2 ^ (58 : Int)

end Time.Seconds

namespace Limit

variable {limit : Limit} (small : limit.window ≤ longestSpan)
include small

/-- The lifetime of a key is its window and a minute, rounded up to seconds. -/
theorem exists_ttl_of_window_le : ∃ seconds, limit.ttl = .ok seconds ∧
    limit.window + 60000 ≤ 1000 * seconds ∧ 1000 * seconds < limit.window + 61000 := by
  obtain ⟨least, most⟩ := ceilDiv_thousand_bounds limit.window
  exact ⟨_, ttl_of_window_le small, by omega, by omega⟩

/-- On a clock that tells minutes the deadline of a key comes later than a window from now. -/
theorem window_lt_later {reading : Seconds} (fine : reading.TellsMinutes) {seconds : Int}
    (lifetime : limit.ttl = .ok seconds) :
    reading.instant + (limit.window : ℚ) / 1000 < (reading.later seconds).instant := by
  have positive := limit.window_pos
  obtain ⟨found, computed, least, most⟩ := exists_ttl_of_window_le small
  obtain rfl := Except.ok.inj (computed.symm.trans lifetime)
  have cover : (limit.window : ℚ) + 60000 ≤ 1000 * found := by exact_mod_cast least
  cases reading with
  | whole count =>
    rw [Seconds.later_whole, Seconds.instant_whole, Seconds.instant_whole]
    push_cast
    linarith
  | binary count =>
    obtain ⟨finite, size⟩ := fine
    have nonnegative : 0 ≤ found := by omega
    have span : longestSpan + 61000 ≤ 1000 * twoTo 53 := by decide
    have few : found < (twoTo 53 : Nat) := by omega
    have below : |count.toRat + found| < 2 ^ (59 : Int) := by
      have lower : (0 : ℚ) ≤ found := by exact_mod_cast nonnegative
      have upper : (found : ℚ) < (twoTo 53 : Nat) := by exact_mod_cast few
      obtain ⟨under, above⟩ := abs_le.mp size
      rw [cast_twoTo] at upper
      norm_num at under above upper
      rw [abs_lt]
      norm_num
      constructor <;> linarith
    have error := Seconds.later_binary_error finite (by omega) (by decide) (by decide) below
    have unit : (2 : ℚ) ^ ((59 : Int) - 54) = 32 := by norm_num
    obtain ⟨under, _⟩ := abs_le.mp error
    rw [unit] at under
    rw [Seconds.instant_binary]
    linarith

/-- For a window after an attempt the deadline of its key hides no entry. -/
theorem windowOf_recordedIn {seconds : Int} (lifetime : limit.ttl = .ok seconds) {memory : Memory}
    (fine : memory.clock.TellsMinutes) {reading : Seconds}
    (near : reading.instant ≤ memory.clock.instant + (limit.window : ℚ) / 1000)
    (identifier entry : String) (now later : Int) :
    let recorded := recordedIn limit identifier entry now seconds memory
    windowOf limit identifier later (recorded.setClock reading) =
      (recorded.rows (limit.key identifier)).filter (later - limit.window < ·.2) := by
  intro recorded
  have beyond : (memory.clock.later seconds).le reading = false := by
    rw [Seconds.le_eq_false_iff]
    exact near.trans_lt (window_lt_later small fine lifetime)
  have held : (recorded.setClock reading).held.get? (limit.key identifier) =
      some ⟨⟨recorded.rows (limit.key identifier)⟩, some (memory.clock.later seconds)⟩ := by
    have left := memory.record_get? (limit.key identifier) (limit.key identifier) entry
      (now - limit.window) now seconds
    rw [if_pos rfl] at left
    simp only [recorded, recordedIn, Memory.setClock_get?, Memory.rows, left, Bucket.rowsOf_some]
  rw [windowOf, held, Bucket.shown_some, if_pos]
  simp only [Bucket.isLive, Memory.setClock, beyond, Bool.not_false]

end Limit

/-! ## Waits -/

/-- Up to the longest span the wait is the least that reaches the end of the window. -/
theorem retryAfter_isLeast {resetTime now : Int}
    (small : (resetTime - now).natAbs ≤ longestSpan) :
    ∃ wait, retryAfter resetTime now = .ok wait ∧
      IsLeast {seconds : Int | 0 ≤ seconds ∧ resetTime ≤ now + 1000 * seconds} wait := by
  obtain ⟨least, most⟩ := ceilDiv_thousand_bounds (resetTime - now)
  refine ⟨_, retryAfter_of_natAbs_le small, ⟨le_max_left .., ?_⟩, fun seconds covers => ?_⟩
  · omega
  · obtain ⟨nonnegative, reaches⟩ := covers
    omega

/-- Up to the longest span rounding up through binary64 is exact, for spans of either sign. So the
lifetime of a key exceeds the window by a minute and less than a second more: on a clock of whole
seconds it outlasts every call that still counts an entry, even one that finds the clock a minute
ahead, and on any clock that tells minutes no entry is hidden by the deadline for a whole window
after the attempt that set it. And a wait is the least count of seconds, not negative, that reaches
the end of the window. -/
theorem whole_seconds_exact :
    (∀ milliseconds : Int, milliseconds.natAbs ≤ longestSpan →
        ∃ quotient, seconds? milliseconds = some quotient ∧ quotient.isFinite = true ∧
          ⌈quotient.toRat⌉ = ⌈(milliseconds : ℚ) / 1000⌉) ∧
      (∀ limit : Limit, limit.window ≤ longestSpan →
        ∃ seconds, limit.ttl = .ok seconds ∧
          limit.window + 60000 ≤ 1000 * seconds ∧ 1000 * seconds < limit.window + 61000 ∧
          (∀ count, limit.Outlasts (.whole count)) ∧
          ∀ (memory : Memory) (identifier entry : String) (now : Int),
            memory.clock.TellsMinutes →
            let recorded := recordedIn limit identifier entry now seconds memory
            ∀ reading : Seconds,
              reading.instant ≤ memory.clock.instant + (limit.window : ℚ) / 1000 →
              ∀ later, windowOf limit identifier later (recorded.setClock reading) =
                (recorded.rows (limit.key identifier)).filter (later - limit.window < ·.2)) ∧
      ∀ resetTime now : Int, (resetTime - now).natAbs ≤ longestSpan →
        ∃ wait, retryAfter resetTime now = .ok wait ∧
          IsLeast {seconds : Int | 0 ≤ seconds ∧ resetTime ≤ now + 1000 * seconds} wait := by
  refine ⟨fun milliseconds small => ceil_seconds? small, fun limit small => ?_,
    fun resetTime now small => retryAfter_isLeast small⟩
  obtain ⟨seconds, lifetime, least, most⟩ := limit.exists_ttl_of_window_le small
  refine ⟨seconds, lifetime, least, most, fun count => ?_, ?_⟩
  · exact (limit.outlasts_whole_iff count).mpr ⟨seconds, lifetime, by omega⟩
  · exact fun memory identifier entry now fine reading near later =>
      limit.windowOf_recordedIn small lifetime fine near identifier entry now later

/-- Spans that are no whole number of seconds are rounded up, and an entry is found again a window
after its attempt. -/
theorem odd_spans_rounded_up :
    let recorded := recordedIn Limit.onePerSecond "a" "e" 0 61 ⟨.whole 0, {}⟩
    (∃ quotient, seconds? (-1001) = some quotient ∧ ⌈quotient.toRat⌉ = -1) ∧
      Limit.onePerSecond.ttl = .ok 61 ∧
      windowOf Limit.onePerSecond "a" 999 (recorded.setClock (.whole 1)) = [("e", 0)] ∧
      retryAfter 1501 500 = .ok 2 := by
  obtain ⟨ceilings, lifetimes, waits⟩ := whole_seconds_exact
  obtain ⟨quotient, found, -, ceiling⟩ := ceilings (-1001) (by decide)
  obtain ⟨seconds, lifetime, least, most, -, shown⟩ := lifetimes Limit.onePerSecond (by decide)
  obtain ⟨wait, told, ⟨-, reaches⟩, lowest⟩ := waits 1501 500 (by decide)
  have minute : seconds = 61 := by
    simp only [Limit.onePerSecond] at least most
    omega
  have two : wait = 2 := by
    have above : wait ≤ 2 := lowest ⟨by decide, by decide⟩
    omega
  subst minute two
  refine ⟨⟨quotient, found, ?_⟩, lifetime, ?_, told⟩
  · rw [ceiling]
    norm_num
  · rw [shown ⟨.whole 0, {}⟩ "a" "e" 0 trivial (.whole 1) (by norm_num [Limit.onePerSecond])]
    decide +kernel

end Turnstile
