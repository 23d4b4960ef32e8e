import Turnstile.Proofs.Time.Ceiling
import Turnstile.Proofs.Time.Dates

/-!
# Instants that have a text

Every instant of the years 1 to 9999 has a moment, and with it every text: the detour through
binary64 seconds and whole microseconds moves it by less than sixteen microseconds, never into
another year.
-/

namespace Turnstile.Time

open Number

/-- The first instant of the year 1. -/
def earliest : Int := -62135596800000

/-- The last instant of the year 9999. -/
def latest : Int := 253402300799999

/-- The days of the years 1 to 9999 have dates in them. -/
theorem ofDays_year_bounds {days : Int} (lower : -719162 ≤ days) (upper : days ≤ 2932896) :
    1 ≤ (Date.ofDays days).year ∧ (Date.ofDays days).year ≤ 9999 := by
  have first : daysBeforeYear 1 = 0 := by decide
  have last : daysBeforeYear 10000 = 3652059 := by decide
  constructor
  · by_contra early
    have before := Date.year_ofDays_lt_iff.mp (not_le.mp early)
    omega
  · have within : (Date.ofDays days).year < 10000 := Date.year_ofDays_lt_iff.mpr (by omega)
    omega

/-- Rounding a quotient of either sign moves it by half a unit at most. -/
theorem roundSigned_error (numerator : Int) {denominator : Nat} (positive : 0 < denominator) :
    |(roundSigned numerator denominator : ℚ) - numerator / denominator| ≤ 1 / 2 := by
  have error := Binary64.roundHalfEven_error numerator.natAbs positive
  have size : ((numerator.natAbs : Nat) : ℚ) = |(numerator : ℚ)| := by
    rw [← Int.cast_natCast, Int.natCast_natAbs, Int.cast_abs]
  rw [size] at error
  unfold roundSigned
  by_cases negative : numerator < 0
  · have sign : (numerator : ℚ) < 0 := by exact_mod_cast negative
    rw [abs_of_neg sign] at error
    simp only [if_pos negative]
    rw [← abs_neg] at error
    push_cast
    have same : -((roundHalfEven numerator.natAbs denominator : ℚ) -
        -(numerator : ℚ) / denominator) =
        -(roundHalfEven numerator.natAbs denominator : ℚ) - numerator / denominator := by ring
    rw [same] at error
    exact error
  · have sign : (0 : ℚ) ≤ numerator := by exact_mod_cast Int.not_lt.mp negative
    rw [abs_of_nonneg sign] at error
    simp only [if_neg negative]
    push_cast
    exact error

/-- Seconds are rounded to microseconds by half of one at most. -/
theorem roundToMicroseconds_error {seconds : Binary64} (finite : seconds.isFinite = true) :
    ∃ micros, roundToMicroseconds seconds = some micros ∧
      |(micros : ℚ) - 1000000 * seconds.toRat| ≤ 1 / 2 := by
  obtain ⟨fraction, found, positive, value⟩ := Binary64.exists_fraction finite
  have rounded := roundSigned_error (fraction.numerator * 1000000) positive
  have scaled : ((fraction.numerator * 1000000 : Int) : ℚ) / fraction.denominator =
      1000000 * fraction.toRat := by
    rw [Fraction.toRat]
    push_cast
    ring
  rw [scaled, value] at rounded
  exact ⟨_, by rw [roundToMicroseconds, found]; rfl, rounded⟩

/-- Rounded seconds stand for their instant when they fit a clock of sixty-four bits, as they do up
to two trillion. -/
theorem microseconds_of_abs_le {milliseconds micros : Int}
    (counted : (seconds? milliseconds).bind roundToMicroseconds = some micros)
    (short : |(micros : ℚ)| ≤ 2 * 10 ^ 18) : microseconds milliseconds = .ok micros := by
  have bounds : -(2 * 10 ^ 18 : Int) ≤ micros ∧ micros ≤ 2 * 10 ^ 18 := by
    obtain ⟨under, above⟩ := abs_le.mp short
    exact ⟨by exact_mod_cast under, by exact_mod_cast above⟩
  have fits : fitsWord 63 (micros.fdiv 1000000) = true := by
    have word : (twoTo 63 : Int) = 9223372036854775808 := by decide
    rw [Int.fdiv_eq_ediv_of_nonneg _ (by decide), fitsWord, word]
    simp only [Bool.and_eq_true, decide_eq_true_eq]
    omega
  unfold microseconds
  rw [counted]
  simp only [fits, if_true]

/-- An instant whose seconds lie below a power of two in size is kept to within half a unit of
their last place and half a microsecond. -/
theorem microseconds_error {milliseconds : Int} {exponent : Int} (normal : -1021 ≤ exponent)
    (room : exponent ≤ 40) (below : |(milliseconds : ℚ) / 1000| < 2 ^ exponent) :
    ∃ micros, microseconds milliseconds = .ok micros ∧
      |(micros : ℚ) - 1000 * milliseconds| ≤ 1000000 * 2 ^ (exponent - 54) + 1 / 2 := by
  have value : (⟨milliseconds, 1000⟩ : Fraction).toRat = milliseconds / 1000 := rfl
  obtain ⟨finite, error⟩ := Binary64.nearest_error ⟨milliseconds, 1000⟩ (Nat.succ_pos 999)
    normal (by omega) below
  obtain ⟨micros, rounded, half⟩ := roundToMicroseconds_error finite
  rw [value] at error
  have near : |(micros : ℚ) - 1000 * milliseconds| ≤ 1000000 * 2 ^ (exponent - 54) + 1 / 2 := by
    obtain ⟨under, above⟩ := abs_le.mp error
    obtain ⟨least, most⟩ := abs_le.mp half
    rw [abs_le]
    constructor <;> linarith
  have short : |(micros : ℚ)| ≤ 2 * 10 ^ 18 := by
    have size : |(milliseconds : ℚ) / 1000| < 2 ^ (40 : Int) :=
      below.trans_le (zpow_le_zpow_right₀ one_le_two room)
    have unit : (2 : ℚ) ^ (exponent - 54) ≤ 2 ^ (-14 : Int) :=
      zpow_le_zpow_right₀ one_le_two (by omega)
    obtain ⟨under, above⟩ := abs_lt.mp size
    obtain ⟨least, most⟩ := abs_le.mp near
    norm_num at under above unit
    rw [abs_le]
    constructor <;> linarith
  have counted : (seconds? milliseconds).bind roundToMicroseconds = some micros := by
    rw [seconds?, divide?_of_isFinite finite, Option.bind_some, rounded]
  exact ⟨micros, microseconds_of_abs_le counted short, near⟩

/-- An instant of the calendar is kept to within sixteen microseconds. -/
theorem microseconds_of_calendar {milliseconds : Int} (lower : earliest < milliseconds)
    (upper : milliseconds ≤ latest) : ∃ micros, microseconds milliseconds = .ok micros ∧
      |micros - 1000 * milliseconds| < 16 := by
  have lowerRat : (-62135596800000 : ℚ) < milliseconds := by exact_mod_cast lower
  have upperRat : (milliseconds : ℚ) ≤ 253402300799999 := by exact_mod_cast upper
  have below : |(milliseconds : ℚ) / 1000| < 2 ^ (38 : Int) := by
    rw [abs_lt]
    norm_num
    constructor <;> linarith
  obtain ⟨micros, told, error⟩ := microseconds_error (by decide) (by decide) below
  have near : |(micros : ℚ) - 1000 * milliseconds| < 16 := error.trans_lt (by norm_num)
  exact ⟨micros, told, by exact_mod_cast near⟩

/-- The instant lies so near to the epoch that binary64 seconds keep it to less than half a
microsecond. -/
def IsNear (milliseconds : Int) : Prop := milliseconds.natAbs < 1000 * twoTo 33

/-- An instant near the epoch is kept exactly. -/
theorem microseconds_of_isNear {milliseconds : Int} (near : IsNear milliseconds) :
    microseconds milliseconds = .ok (1000 * milliseconds) := by
  have below : |(milliseconds : ℚ) / 1000| < 2 ^ (33 : Int) := by
    have bound : |milliseconds| < 8589934592000 := by
      have power : 1000 * twoTo 33 = 8589934592000 := by decide
      unfold IsNear at near
      rw [Int.abs_eq_natAbs]
      omega
    have size : |(milliseconds : ℚ)| < 8589934592000 := by exact_mod_cast bound
    rw [abs_div, div_lt_iff₀ (by norm_num)]
    norm_num
    exact size
  obtain ⟨micros, told, error⟩ := microseconds_error (by decide) (by decide) below
  have within : |(micros : ℚ) - 1000 * milliseconds| < 1 := error.trans_lt (by norm_num)
  have close : |micros - 1000 * milliseconds| < 1 := by exact_mod_cast within
  have same : micros = 1000 * milliseconds := by
    obtain ⟨least, most⟩ := abs_lt.mp close
    omega
  rw [told, same]

/-- Every instant of the calendar has a moment. -/
theorem moment_of_calendar {milliseconds : Int} (lower : earliest ≤ milliseconds)
    (upper : milliseconds ≤ latest) : ∃ found, moment milliseconds = .ok found := by
  by_cases first : milliseconds = earliest
  · exact ⟨⟨⟨1, 1, 1⟩, 0, 0, 0, 0⟩, by rw [first]; decide +kernel⟩
  · obtain ⟨micros, counted, close⟩ := microseconds_of_calendar (by omega) upper
    obtain ⟨least, most⟩ := abs_lt.mp close
    have days : -719162 ≤ (micros.fdiv 1000000).fdiv 86400 ∧
        (micros.fdiv 1000000).fdiv 86400 ≤ 2932896 := by
      unfold earliest at lower first
      unfold latest at upper
      rw [Int.fdiv_eq_ediv_of_nonneg _ (by decide), Int.fdiv_eq_ediv_of_nonneg _ (by decide)]
      omega
    obtain ⟨after, before⟩ := ofDays_year_bounds days.1 days.2
    refine ⟨Moment.ofMicroseconds micros, ?_⟩
    have inside : ¬((Moment.ofMicroseconds micros).date.year < 1 ∨
        9999 < (Moment.ofMicroseconds micros).date.year) := by
      show ¬((Date.ofDays _).year < 1 ∨ 9999 < (Date.ofDays _).year)
      omega
    simp only [moment, counted, bind, Except.bind]
    rw [if_neg inside]

/-- Every instant of the calendar has a text in headers. -/
theorem resetText_of_calendar {milliseconds : Int} (lower : earliest ≤ milliseconds)
    (upper : milliseconds ≤ latest) : ∃ text, resetText milliseconds = .ok text := by
  obtain ⟨found, shown⟩ := moment_of_calendar lower upper
  exact ⟨_, by rw [resetText, shown]; rfl⟩

/-- Every instant of the calendar has a text in answers. -/
theorem statusText_of_calendar {milliseconds : Int} (lower : earliest ≤ milliseconds)
    (upper : milliseconds ≤ latest) : ∃ text, statusText milliseconds = .ok text := by
  obtain ⟨found, shown⟩ := moment_of_calendar lower upper
  exact ⟨_, by rw [statusText, shown]; rfl⟩

/-- Every instant of the calendar has a text in structured log lines. -/
theorem logText_of_calendar {milliseconds : Int} (lower : earliest ≤ milliseconds)
    (upper : milliseconds ≤ latest) : ∃ text, logText milliseconds = .ok text := by
  obtain ⟨found, shown⟩ := moment_of_calendar lower upper
  exact ⟨_, by rw [logText, shown]; rfl⟩

end Turnstile.Time
