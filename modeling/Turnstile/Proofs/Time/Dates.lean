import Mathlib.Tactic.IntervalCases
import Turnstile.Time.Calendar

/-!
# The Gregorian calendar

Dates by the rules of the calendar: the lengths of months, and leap years every fourth year but for
three in four centuries. The date that is computed for a count of days is one of these, and lies
that many days after 1970-01-01.
-/

namespace Turnstile.Time

/-- The year has a twenty-ninth of February. -/
def isLeap (year : Int) : Bool := year % 4 = 0 && (year % 100 ≠ 0 || year % 400 = 0)

/-- The count of days of a month. -/
def monthLength (year : Int) (month : Nat) : Nat :=
  if month = 2 then if isLeap year then 29 else 28
  else if month ∈ [4, 6, 9, 11] then 30
  else 31

/-- The days of a year before a month. -/
def daysBeforeMonth (year : Int) (month : Nat) : Nat :=
  ((List.range' 1 (month - 1)).map (monthLength year)).sum

/-- The days before a year, counted from the first of the year 1. -/
def daysBeforeYear (year : Int) : Int :=
  365 * (year - 1) + (year - 1) / 4 - (year - 1) / 100 + (year - 1) / 400

/-- A year is a day longer when it is a leap year. -/
theorem daysBeforeYear_succ (year : Int) :
    daysBeforeYear (year + 1) = daysBeforeYear year + if isLeap year then 366 else 365 := by
  unfold daysBeforeYear isLeap
  simp only [Bool.and_eq_true, Bool.or_eq_true, decide_eq_true_eq]
  split <;> omega

/-! ## Days of an era -/

/-- The place of a day in an era of four hundred years from March on: its century, the span of four
years in that, the year in that, and the day of the year. Only the fourth year of a span has a day
more, and at the end of a century only that of the fourth century. -/
structure LiesIn (dayOfEra century quad year rest : Nat) : Prop where
  century_le : century ≤ 3
  quad_le : quad ≤ 24
  year_le : year ≤ 3
  rest_le : rest ≤ 365
  adds_up : dayOfEra = 36524 * century + 1461 * quad + 365 * year + rest
  leap : rest = 365 → year = 3 ∧ (quad = 24 → century = 3)

/-- Every day of an era has a place. -/
theorem exists_liesIn {dayOfEra : Nat} (inside : dayOfEra ≤ 146096) :
    ∃ century quad year rest, LiesIn dayOfEra century quad year rest := by
  obtain ⟨century, centuries, begun, short⟩ : ∃ century, century ≤ 3 ∧
      36524 * century ≤ dayOfEra ∧ (dayOfEra < 36524 * (century + 1) ∨ century = 3) :=
    ⟨min (dayOfEra / 36524) 3, by omega, by omega, by omega⟩
  obtain ⟨quad, left, parted, few⟩ : ∃ quad left,
      dayOfEra = 36524 * century + 1461 * quad + left ∧ left ≤ 1460 :=
    ⟨(dayOfEra - 36524 * century) / 1461, (dayOfEra - 36524 * century) % 1461, by omega, by omega⟩
  obtain ⟨year, rest, years, same, days, last⟩ : ∃ year rest, year ≤ 3 ∧
      left = 365 * year + rest ∧ rest ≤ 365 ∧ (rest = 365 → year = 3) :=
    ⟨min (left / 365) 3, left - 365 * min (left / 365) 3, by omega, by omega, by omega, by omega⟩
  exact ⟨century, quad, year, rest, centuries, by omega, years, days, by omega, by omega⟩

/-- The year of an era is computed from the day. -/
theorem LiesIn.year_eq {dayOfEra century quad year rest : Nat}
    (lies : LiesIn dayOfEra century quad year rest) :
    (dayOfEra - dayOfEra / 1460 + dayOfEra / 36524 - dayOfEra / 146096) / 365 =
      100 * century + 4 * quad + year := by
  obtain ⟨centuries, quads, years, days, same, last⟩ := lies
  -- The last day of the era counts as the first of a fifth century, which the last term takes back.
  have hundreds : dayOfEra / 36524 = century + dayOfEra / 146096 := by
    have full : 1461 * quad + 365 * year + rest = 36524 → century = 3 := by omega
    rcases Nat.lt_or_ge dayOfEra 146096 with inside | ending
    · have fewer : 1461 * quad + 365 * year + rest < 36524 := by omega
      have none : dayOfEra / 146096 = 0 := by omega
      omega
    · omega
  -- Toward the end of a span the count of spans runs ahead by one.
  generalize aheadEq : (24 * century + quad + 365 * year + rest) / 1460 = ahead
  have spans : dayOfEra / 1460 = 25 * century + quad + ahead := by omega
  have single : ahead ≤ 1 := by omega
  have late : ahead = 1 → year = 3 ∧ 1 ≤ rest := by omega
  have ending : rest = 365 → ahead = 1 := by omega
  omega

/-- Later years begin later. -/
theorem daysBeforeYear_mono {year later : Int} (order : year ≤ later) :
    daysBeforeYear year ≤ daysBeforeYear later := by
  unfold daysBeforeYear
  omega

/-- The days before the year after one of an era are those of whole eras and of its years so far. -/
theorem daysBeforeYear_add_one (era : Int) {yearOfEra : Nat} (few : yearOfEra < 400) :
    daysBeforeYear (yearOfEra + era * 400 + 1) =
      era * 146097 + (365 * yearOfEra + yearOfEra / 4 - yearOfEra / 100 : Nat) := by
  have fours : (yearOfEra + era * 400 + 1 - 1) / 4 = 100 * era + (yearOfEra / 4 : Nat) := by omega
  have hundreds : (yearOfEra + era * 400 + 1 - 1) / 100 = 4 * era + (yearOfEra / 100 : Nat) := by
    omega
  have eras : (yearOfEra + era * 400 + 1 - 1) / 400 = era := by omega
  rw [daysBeforeYear, fours, hundreds, eras]
  omega

namespace Date

/-- The month is one of twelve, and the day is one of the month. -/
def isValid (date : Date) : Bool :=
  1 ≤ date.month && date.month ≤ 12 && 1 ≤ date.day &&
    date.day ≤ monthLength date.year date.month

/-- The days from 1970-01-01 to a date: those of the years, the months and the days before it. -/
def number (date : Date) : Int :=
  daysBeforeYear date.year + daysBeforeMonth date.year date.month + (date.day - 1) - 719162

/-- The date of a day of a year that begins on the first of March. -/
def ofMarch (year : Int) (dayOfYear : Nat) : Date :=
  let monthFromMarch := (5 * dayOfYear + 2) / 153
  let month := if monthFromMarch < 10 then monthFromMarch + 3 else monthFromMarch - 9
  ⟨if month ≤ 2 then year + 1 else year, month, dayOfYear - (153 * monthFromMarch + 2) / 5 + 1⟩

/-- The date of a count of days is that of a day of a year that begins on the first of March; the
last day of such a year is a twenty-ninth of February. -/
theorem exists_ofMarch (days : Int) : ∃ year dayOfYear, ofDays days = ofMarch year dayOfYear ∧
    days + 719468 = daysBeforeYear (year + 1) + dayOfYear ∧ dayOfYear ≤ 365 ∧
      (dayOfYear = 365 → isLeap (year + 1) = true) := by
  unfold ofDays
  simp only
  rw [Int.fdiv_eq_ediv_of_nonneg _ (by decide : (0 : Int) ≤ 146097)]
  generalize eraEq : (days + 719468) / 146097 = era
  generalize dayEq : (days + 719468 - era * 146097).toNat = dayOfEra
  have inside : dayOfEra ≤ 146096 := by omega
  have day : days + 719468 = 146097 * era + dayOfEra := by omega
  obtain ⟨century, quad, year, rest, lies⟩ := exists_liesIn inside
  rw [lies.year_eq]
  obtain ⟨_, quads, years, few, same, last⟩ := lies
  generalize yearEq : 100 * century + 4 * quad + year = yearOfEra
  have fours : yearOfEra / 4 = 25 * century + quad := by omega
  have hundreds : yearOfEra / 100 = century := by omega
  have own : dayOfEra - (365 * yearOfEra + yearOfEra / 4 - yearOfEra / 100) = rest := by
    rw [fours, hundreds]
    omega
  rw [own]
  refine ⟨yearOfEra + era * 400, rest, rfl, ?_, few, fun leap => ?_⟩
  · rw [daysBeforeYear_add_one era (by omega), fours, hundreds]
    omega
  · obtain ⟨fourth, ending⟩ := last leap
    simp only [isLeap, Bool.and_eq_true, Bool.or_eq_true, decide_eq_true_eq]
    omega

/-- The months before those that follow February have that many days. -/
theorem daysBeforeMonth_add_three (year : Int) {month : Nat} (inYear : month < 10) :
    daysBeforeMonth year (month + 3) =
      (153 * month + 2) / 5 + if isLeap year then 60 else 59 := by
  interval_cases month <;> simp [daysBeforeMonth, monthLength, List.range'] <;> split <;> rfl

/-- A day of a year from March on lies as many days after the day before that year. -/
theorem number_ofMarch (year : Int) {dayOfYear : Nat} (few : dayOfYear ≤ 365) :
    (ofMarch year dayOfYear).number = daysBeforeYear (year + 1) + dayOfYear - 719468 := by
  unfold ofMarch number
  simp only
  generalize monthEq : (5 * dayOfYear + 2) / 153 = monthFromMarch
  by_cases sameYear : monthFromMarch < 10
  · have late : ¬monthFromMarch + 3 ≤ 2 := by omega
    rw [if_pos sameYear, if_neg late, daysBeforeMonth_add_three year sameYear,
      daysBeforeYear_succ year]
    split <;> omega
  · have winter : monthFromMarch = 10 ∨ monthFromMarch = 11 := by omega
    rcases winter with rfl | rfl
    · have month : (if 10 < 10 then 10 + 3 else 10 - 9) = 1 := rfl
      have none : daysBeforeMonth (year + 1) 1 = 0 := rfl
      rw [month, if_pos (by decide), none]
      omega
    · have month : (if 11 < 10 then 11 + 3 else 11 - 9) = 2 := rfl
      have january : daysBeforeMonth (year + 1) 2 = 31 := rfl
      rw [month, if_pos (by decide), january]
      omega

/-- A day of a year from March on is a date, if the next February has room for it. -/
theorem isValid_ofMarch (year : Int) {dayOfYear : Nat} (few : dayOfYear ≤ 365)
    (leap : dayOfYear = 365 → isLeap (year + 1) = true) :
    (ofMarch year dayOfYear).isValid = true := by
  unfold ofMarch isValid
  simp only
  generalize monthEq : (5 * dayOfYear + 2) / 153 = monthFromMarch
  have months : monthFromMarch < 12 := by omega
  interval_cases monthFromMarch
  -- February comes last; the other months are never shorter than their days need.
  case «11» =>
    cases long : isLeap (year + 1) with
    | true =>
      simp [monthLength, long]
      omega
    | false =>
      have short : dayOfYear ≠ 365 := fun ending => by
        rw [leap ending] at long
        cases long
      simp [monthLength, long]
      omega
  all_goals
    simp [monthLength]
    omega

/-- The date of a count of days is one of the calendar. -/
theorem isValid_ofDays (days : Int) : (ofDays days).isValid = true := by
  obtain ⟨year, dayOfYear, same, _, few, leap⟩ := exists_ofMarch days
  rw [same]
  exact isValid_ofMarch year few leap

/-- The date of a count of days lies that many days after 1970-01-01. -/
theorem number_ofDays (days : Int) : (ofDays days).number = days := by
  obtain ⟨year, dayOfYear, same, counted, few, _⟩ := exists_ofMarch days
  rw [same, number_ofMarch year few]
  omega

/-- The count of days is computed from its date again. -/
theorem toDays_ofDays (days : Int) : (ofDays days).toDays = days := by
  obtain ⟨year, dayOfYear, same, counted, few, _⟩ := exists_ofMarch days
  have place : ((year - year / 400 * 400).toNat : Int) + year / 400 * 400 = year := by omega
  have start := @daysBeforeYear_add_one (year / 400) (year - year / 400 * 400).toNat (by omega)
  rw [place] at start
  rw [same, ofMarch, toDays]
  simp only
  generalize monthEq : (5 * dayOfYear + 2) / 153 = monthFromMarch
  by_cases sameYear : monthFromMarch < 10
  · have late : ¬monthFromMarch + 3 ≤ 2 := by omega
    have later : 2 < monthFromMarch + 3 := by omega
    rw [if_pos sameYear, if_neg late, if_neg late, if_pos later,
      Int.fdiv_eq_ediv_of_nonneg _ (by decide)]
    omega
  · have early : monthFromMarch - 9 ≤ 2 := by omega
    have earlier : ¬2 < monthFromMarch - 9 := by omega
    rw [if_neg sameYear, if_pos early, if_pos early, if_neg earlier,
      Int.fdiv_eq_ediv_of_nonneg _ (by decide), Int.add_sub_cancel]
    omega

/-- The date of a count of days lies before a year when the count is below that of its first. -/
theorem year_ofDays_lt_iff {days year : Int} :
    (ofDays days).year < year ↔ days < daysBeforeYear year - 719162 := by
  obtain ⟨march, dayOfYear, same, counted, few, _⟩ := exists_ofMarch days
  have inYear : daysBeforeYear (ofDays days).year - 719162 ≤ days ∧
      days < daysBeforeYear ((ofDays days).year + 1) - 719162 := by
    have current := daysBeforeYear_succ march
    have following := daysBeforeYear_succ (march + 1)
    rw [same, ofMarch]
    simp only
    by_cases sameYear : (5 * dayOfYear + 2) / 153 < 10
    · rw [if_pos sameYear, if_neg (by omega)]
      split at current <;> omega
    · rw [if_neg sameYear, if_pos (by omega)]
      split at following <;> omega
  constructor
  · intro earlier
    have order := daysBeforeYear_mono (show (ofDays days).year + 1 ≤ year by omega)
    omega
  · intro early
    by_contra late
    have order := daysBeforeYear_mono (not_lt.mp late)
    omega

end Date

end Turnstile.Time
