import Turnstile.Proofs.Time.Calendar

/-!
# Texts of instants read back

A reader of the texts of instants: numbers of fixed widths, each followed by its mark, that make a
date of the calendar and a time of day. Instants near the epoch are read back from their texts as
they were.
-/

namespace Turnstile.Time

open Number

/-! ## Numbers of fixed widths -/

/-- A number with leading zeros has as many digits as its width and is read from them. -/
theorem padded_spec {width number : Nat} (positive : 0 < width) (small : number < 10 ^ width) :
    (padded width number).toList.length = width ∧
      (padded width number).toList.all Char.isDigit = true ∧
      Nat.ofDigitChars 10 (padded width number).toList 0 = number := by
  have digits : (toString number).toList = Nat.toDigits 10 number := by
    rw [Nat.toString_eq_ofList_toDigits, String.toList_ofList]
  have short : (Nat.toDigits 10 number).length ≤ width :=
    (Nat.length_toDigits_le_iff (by decide) positive).mpr small
  have size : (toString number).length = (Nat.toDigits 10 number).length := by
    rw [← digits, String.length_toList]
  have written : (padded width number).toList =
      List.replicate (width - (Nat.toDigits 10 number).length) '0' ++ Nat.toDigits 10 number := by
    rw [padded, String.toList_append, String.toList_ofList, digits, size]
  rw [written]
  refine ⟨?_, ?_, ?_⟩
  · rw [List.length_append, List.length_replicate]
    omega
  · rw [List.all_append, Bool.and_eq_true]
    refine ⟨List.all_eq_true.mpr fun c listed => ?_, List.all_eq_true.mpr fun c listed => ?_⟩
    · rw [List.eq_of_mem_replicate listed]
      decide
    · exact Nat.isDigit_of_mem_toDigits (by decide) (by decide) listed
  · rw [Nat.ofDigitChars_append, Nat.ofDigitChars_replicate_zero, Nat.mul_zero,
      Nat.ofDigitChars_ten_toDigits]

/-- Read numbers of fixed widths, each followed by its mark, to the end of the text. -/
def readNumbers? : List (Nat × Char) → List Char → Option (List Nat)
  | [], text => if text.isEmpty then some [] else none
  | field :: rest, text =>
    let digits := text.take field.1
    let after := text.drop field.1
    if digits.length = field.1 ∧ digits.all Char.isDigit = true ∧ after.head? = some field.2 then
      (readNumbers? rest after.tail).map (Nat.ofDigitChars 10 digits 0 :: ·)
    else none

/-- Numbers with leading zeros up to their widths, each before its mark. -/
def writtenNumbers (entries : List ((Nat × Char) × Nat)) : List Char :=
  entries.flatMap fun entry => (padded entry.1.1 entry.2).toList ++ [entry.1.2]

/-- Numbers that fit their widths are read back. -/
theorem readNumbers?_writtenNumbers {entries : List ((Nat × Char) × Nat)}
    (fits : ∀ entry ∈ entries, 0 < entry.1.1 ∧ entry.2 < 10 ^ entry.1.1) :
    readNumbers? (entries.map Prod.fst) (writtenNumbers entries) = some (entries.map Prod.snd) := by
  induction entries with
  | nil => rfl
  | cons entry rest ih =>
    obtain ⟨⟨positive, small⟩, others⟩ := List.forall_mem_cons.mp fits
    obtain ⟨length, digits, value⟩ := padded_spec positive small
    have text : writtenNumbers (entry :: rest) =
        (padded entry.1.1 entry.2).toList ++ entry.1.2 :: writtenNumbers rest := by
      simp [writtenNumbers]
    generalize (padded entry.1.1 entry.2).toList = own at length digits value text
    rw [text, List.map_cons, List.map_cons, readNumbers?]
    simp only [List.take_left' length, List.drop_left' length, List.head?_cons, List.tail_cons]
    rw [if_pos ⟨length, digits, trivial⟩, ih others, value]
    rfl

/-! ## Moments -/

namespace Moment

/-- The date is one of the calendar with a year of at most four digits, and the time is one of a
day. -/
structure IsProper (found : Moment) : Prop where
  valid : found.date.isValid = true
  year_pos : 1 ≤ found.date.year
  year_le : found.date.year ≤ 9999
  hour_lt : found.hour < 24
  minute_lt : found.minute < 60
  second_lt : found.second < 60
  microsecond_lt : found.microsecond < 1000000

/-- The seconds of a moment since 1970-01-01. -/
def seconds (found : Moment) : Int :=
  ((found.date.number * 24 + found.hour) * 60 + found.minute) * 60 + found.second

/-- The numbers of a date and a time of day to the second, and the widths and marks that they are
written with; the last mark is given. -/
def entries (found : Moment) (mark : Char) : List ((Nat × Char) × Nat) :=
  [((4, '-'), found.date.year.toNat), ((2, '-'), found.date.month), ((2, 'T'), found.date.day),
    ((2, ':'), found.hour), ((2, ':'), found.minute), ((2, mark), found.second)]

/-- Microseconds of the epoch are split into a moment that adds up to them. -/
theorem seconds_ofMicroseconds (micros : Int) :
    1000000 * (ofMicroseconds micros).seconds + (ofMicroseconds micros).microsecond = micros := by
  unfold seconds ofMicroseconds
  simp only [Date.number_ofDays]
  rw [Int.fdiv_eq_ediv_of_nonneg _ (by decide), Int.fdiv_eq_ediv_of_nonneg _ (by decide)]
  omega

/-- Microseconds of the years 1 to 9999 are split into a proper moment. -/
theorem isProper_ofMicroseconds {micros : Int}
    (calendar : ¬((ofMicroseconds micros).date.year < 1 ∨
      9999 < (ofMicroseconds micros).date.year)) : (ofMicroseconds micros).IsProper where
  valid := Date.isValid_ofDays _
  year_pos := by omega
  year_le := by omega
  hour_lt := by
    unfold ofMicroseconds
    simp only
    rw [Int.fdiv_eq_ediv_of_nonneg _ (by decide), Int.fdiv_eq_ediv_of_nonneg _ (by decide)]
    omega
  minute_lt := Nat.mod_lt _ (by decide)
  second_lt := Nat.mod_lt _ (by decide)
  microsecond_lt := by
    unfold ofMicroseconds
    simp only
    rw [Int.fdiv_eq_ediv_of_nonneg _ (by decide)]
    omega

/-- The text of a moment to the second, and the mark after it. -/
theorem toList_toSecondText (found : Moment) (mark : Char) :
    (found.toSecondText "T").toList ++ [mark] = writtenNumbers (found.entries mark) := by
  simp [toSecondText, afterYear, entries, writtenNumbers]

instance (found : Moment) : Decidable found.IsProper :=
  decidable_of_iff (found.date.isValid = true ∧ 1 ≤ found.date.year ∧ found.date.year ≤ 9999 ∧
      found.hour < 24 ∧ found.minute < 60 ∧ found.second < 60 ∧ found.microsecond < 1000000)
    ⟨fun ⟨valid, year, years, hour, minute, second, rest⟩ =>
      ⟨valid, year, years, hour, minute, second, rest⟩,
    fun ⟨valid, year, years, hour, minute, second, rest⟩ =>
      ⟨valid, year, years, hour, minute, second, rest⟩⟩

/-- The numbers of a proper moment fit the widths that they are written with. -/
theorem IsProper.fits {found : Moment} (proper : found.IsProper) (mark : Char) :
    ∀ entry ∈ found.entries mark, 0 < entry.1.1 ∧ entry.2 < 10 ^ entry.1.1 := by
  obtain ⟨valid, year, years, hour, minute, second, -⟩ := proper
  simp only [Date.isValid, Bool.and_eq_true, decide_eq_true_eq] at valid
  have month : monthLength found.date.year found.date.month ≤ 31 := by
    unfold monthLength
    split <;> split <;> omega
  simp only [entries, List.forall_mem_cons]
  norm_num
  omega

end Moment

/-! ## Texts -/

/-- The widths and marks of a text of universal time with so many decimals. -/
def layout (places : Nat) : List (Nat × Char) :=
  [(4, '-'), (2, '-'), (2, 'T'), (2, ':'), (2, ':')] ++
    if places = 0 then [(2, 'Z')] else [(2, '.'), (places, 'Z')]

/-- Read a text of universal time with so many decimals, in microseconds of the epoch. -/
def readInstant? (places : Nat) (text : String) : Option Int :=
  match readNumbers? (layout places) text.toList with
  | some (year :: month :: day :: hour :: minute :: second :: decimals) =>
    let found : Moment :=
      ⟨⟨year, month, day⟩, hour, minute, second, decimals.headD 0 * 10 ^ (6 - places)⟩
    if found.IsProper then some (1000000 * found.seconds + found.microsecond) else none
  | _ => none

section Reading

variable {found : Moment} (proper : found.IsProper) {text : String}
include proper

/-- A moment is read back when the numbers of its text are. -/
theorem readInstant?_of_readNumbers? {places : Nat} {decimals : List Nat}
    (numbers : readNumbers? (layout places) text.toList =
      some ((found.entries 'Z').map Prod.snd ++ decimals))
    (micros : decimals.headD 0 * 10 ^ (6 - places) = found.microsecond) :
    readInstant? places text = some (1000000 * found.seconds + found.microsecond) := by
  have year : (found.date.year.toNat : Int) = found.date.year :=
    Int.toNat_of_nonneg (by linarith [proper.year_pos])
  unfold readInstant?
  rw [numbers]
  simp only [Moment.entries, List.map_cons, List.map_nil, List.cons_append, List.nil_append, year,
    micros]
  exact if_pos proper

/-- A text to the second is read back. -/
theorem readInstant?_of_second (whole : found.microsecond = 0)
    (written : text.toList = (found.toSecondText "T").toList ++ ['Z']) :
    readInstant? 0 text = some (1000000 * found.seconds + found.microsecond) := by
  have widths : layout 0 = (found.entries 'Z').map Prod.fst := rfl
  refine @readInstant?_of_readNumbers? _ proper _ 0 [] ?_ whole.symm
  rw [widths, written, Moment.toList_toSecondText, List.append_nil]
  exact readNumbers?_writtenNumbers (proper.fits 'Z')

/-- A text with decimals that stand for the microseconds is read back. -/
theorem readInstant?_of_decimals {places decimals : Nat} (positive : 0 < places)
    (fits : decimals < 10 ^ places)
    (micros : decimals * 10 ^ (6 - places) = found.microsecond)
    (written : text.toList =
      (found.toSecondText "T").toList ++ ['.'] ++ (padded places decimals).toList ++ ['Z']) :
    readInstant? places text = some (1000000 * found.seconds + found.microsecond) := by
  let entries := found.entries '.' ++ [((places, 'Z'), decimals)]
  have widths : layout places = entries.map Prod.fst := by
    rw [layout, if_neg positive.ne']
    rfl
  have letters : text.toList = writtenNumbers entries := by
    rw [written, Moment.toList_toSecondText]
    simp [entries, writtenNumbers]
  refine @readInstant?_of_readNumbers? _ proper _ places [decimals] ?_ micros
  rw [widths, letters, readNumbers?_writtenNumbers]
  · rfl
  · refine List.forall_mem_append.mpr ⟨proper.fits '.', ?_⟩
    exact List.forall_mem_singleton.mpr ⟨positive, fits⟩

end Reading

/-! ## Instants -/

section Instants

variable {milliseconds : Int} (near : IsNear milliseconds)
include near

/-- An instant near the epoch has a proper moment that adds up to it. -/
theorem exists_moment_of_isNear : ∃ found, moment milliseconds = .ok found ∧
    found.IsProper ∧ 1000000 * found.seconds + found.microsecond = 1000 * milliseconds := by
  have inside : earliest ≤ milliseconds ∧ milliseconds ≤ latest := by
    have power : 1000 * twoTo 33 = 8589934592000 := by decide
    unfold IsNear at near
    unfold earliest latest
    omega
  obtain ⟨found, told⟩ := moment_of_calendar inside.1 inside.2
  have split := told
  simp only [moment, microseconds_of_isNear near, bind, Except.bind] at split
  split at split
  · cases split
  · rename_i calendar
    obtain rfl := Except.ok.inj split
    exact ⟨_, told, Moment.isProper_ofMicroseconds calendar, Moment.seconds_ofMicroseconds _⟩

/-- The status text of an instant near the epoch has six decimals or none and is read back. -/
theorem readInstant?_statusText : ∃ text, statusText milliseconds = .ok text ∧
    ∃ places ∈ [0, 6], readInstant? places text = some (1000 * milliseconds) := by
  obtain ⟨found, told, proper, same⟩ := exists_moment_of_isNear near
  refine ⟨_, by rw [statusText, told]; rfl, ?_⟩
  rw [← same]
  by_cases whole : found.microsecond = 0
  · refine ⟨0, by decide, readInstant?_of_second proper whole ?_⟩
    simp [Moment.fraction, whole]
  · refine ⟨6, by decide, readInstant?_of_decimals proper (by decide) proper.microsecond_lt
      (Nat.mul_one _) ?_⟩
    simp [Moment.fraction, whole]

/-- The reset text of an instant near the epoch has three decimals and is read back. -/
theorem readInstant?_resetText : ∃ text, resetText milliseconds = .ok text ∧
    readInstant? 3 text = some (1000 * milliseconds) := by
  obtain ⟨found, told, proper, same⟩ := exists_moment_of_isNear near
  refine ⟨_, by rw [resetText, told]; rfl, ?_⟩
  have whole : found.microsecond / 1000 * 10 ^ (6 - 3) = found.microsecond := by omega
  have few : found.microsecond / 1000 < 10 ^ 3 := by
    have bound := proper.microsecond_lt
    omega
  rw [← same]
  refine readInstant?_of_decimals proper (by decide) few whole ?_
  simp

end Instants

example : readInstant? 3 "1969-12-31T23:59:59.999Z" = some (-1000) := by decide +kernel

example : readInstant? 3 "1900-02-29T00:00:00.000Z" = none := by decide +kernel

end Turnstile.Time
