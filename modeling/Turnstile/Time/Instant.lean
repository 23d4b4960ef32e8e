import Turnstile.Number.Binary64
import Turnstile.Time.Calendar

/-!
# Instants

An instant is given in whole milliseconds of the epoch. It is shown by way of seconds as a
binary64 number: the quotient by a thousand is rounded once, then rounded to microseconds, and
each text keeps the places it needs. An instant outside the years 1 to 9999 has no text.
-/

namespace Turnstile.Time

open Number

/-- Why an instant has no text. -/
inductive TimeError where
  /-- The instant lies in a year outside 1 to 9999. -/
  | outOfCalendar (year : Int)
  /-- The seconds do not fit the range of a clock of sixty-four bits. -/
  | outOfRange
  /-- The seconds are beyond the finite binary64 numbers. -/
  | beyondBinary64
deriving DecidableEq, Repr

/-- Milliseconds as binary64 seconds; `none` beyond the finite numbers. -/
def seconds? (milliseconds : Int) : Option Binary64 := Binary64.divide? milliseconds 1000

/-- Binary64 seconds rounded to whole microseconds, a tie going to the even neighbour. -/
def roundToMicroseconds (seconds : Binary64) : Option Int := do
  let value ← seconds.toFraction?
  some (roundSigned (value.numerator * 1000000) value.denominator)

/-- The microseconds that stand for an instant. -/
def microseconds (milliseconds : Int) : Except TimeError Int :=
  match (seconds? milliseconds).bind roundToMicroseconds with
  | none => .error .beyondBinary64
  | some micros =>
    let seconds := micros.fdiv 1000000
    if fitsWord 63 seconds then .ok micros else .error .outOfRange

/-- The least count of whole seconds that covers a span of milliseconds, through one binary64
quotient; `none` beyond the finite numbers. -/
def ceilSeconds? (milliseconds : Int) : Option Int :=
  (seconds? milliseconds).bind Binary64.ceil?

/-- A moment split into its date and the parts of its day. -/
structure Moment where
  date : Date
  hour : Nat
  minute : Nat
  second : Nat
  microsecond : Nat
deriving DecidableEq, Repr, Inhabited

/-- Split microseconds of the epoch. -/
def Moment.ofMicroseconds (micros : Int) : Moment :=
  let seconds := micros.fdiv 1000000
  let days := seconds.fdiv 86400
  let rest := (seconds - days * 86400).toNat
  ⟨Date.ofDays days, rest / 3600, rest / 60 % 60, rest % 60,
    (micros - seconds * 1000000).toNat⟩

/-- The moment of an instant within the calendar. -/
def moment (milliseconds : Int) : Except TimeError Moment := do
  let micros ← microseconds milliseconds
  let found := Moment.ofMicroseconds micros
  if found.date.year < 1 ∨ 9999 < found.date.year then
    .error (.outOfCalendar found.date.year)
  else .ok found

/-- A number with leading zeros up to a width. -/
def padded (width number : Nat) : String :=
  let digits := toString number
  String.ofList (List.replicate (width - digits.length) '0') ++ digits

/-- The date after its year and the time of day to the second, with the given mark between. -/
def Moment.afterYear (found : Moment) (mark : String) : String :=
  "-" ++ padded 2 found.date.month ++ "-" ++ padded 2 found.date.day ++ mark ++
    padded 2 found.hour ++ ":" ++ padded 2 found.minute ++ ":" ++ padded 2 found.second

/-- The date, its year in four digits, and the time of day to the second. -/
def Moment.toSecondText (found : Moment) (mark : String) : String :=
  padded 4 found.date.year.toNat ++ found.afterYear mark

/-- The fraction of a second in six digits, left out when it is zero. -/
def Moment.fraction (found : Moment) : String :=
  if found.microsecond = 0 then "" else "." ++ padded 6 found.microsecond

/-- The reset text: three fractional digits, the rest cut off, in universal time. -/
def resetText (milliseconds : Int) : Except TimeError String := do
  let found ← moment milliseconds
  return found.toSecondText "T" ++ "." ++ padded 3 (found.microsecond / 1000) ++ "Z"

/-- The text of an instant in a status answer. -/
def statusText (milliseconds : Int) : Except TimeError String := do
  let found ← moment milliseconds
  return found.toSecondText "T" ++ found.fraction ++ "Z"

/-- The text of an instant in a structured log line. -/
def logText (milliseconds : Int) : Except TimeError String := do
  let found ← moment milliseconds
  return found.toSecondText "T" ++ found.fraction ++ "+00:00"

/-- The years that a plain log line can show, counted from 1900 in thirty-two bits. -/
def isPlainYear (year : Int) : Bool := fitsWord 31 (year - 1900)

/-- The text of an instant in a plain log line. The year has as many digits as it needs. The date
and time come from the whole seconds below; the three digits after the comma are cut from the
rounded binary64 remainder, so a last digit may come out one too low. -/
def plainText (milliseconds : Int) : Except TimeError String := do
  let some seconds := seconds? milliseconds | .error .beyondBinary64
  let some whole := seconds.truncate? | .error .outOfRange
  let some floor := (seconds.toFraction?).map fun value =>
      value.numerator.fdiv value.denominator | .error .outOfRange
  if !fitsWord 63 floor then .error .outOfRange
  let found := Moment.ofMicroseconds (floor * 1000000)
  if !isPlainYear found.date.year then .error (.outOfCalendar found.date.year)
  let rest := (seconds.sub (Binary64.ofInt whole)).mul (Binary64.ofInt 1000)
  let places := (rest.truncate?).getD 0
  let digits := if places < 0 then "-" ++ padded 2 places.natAbs else padded 3 places.natAbs
  return toString found.date.year ++ found.afterYear " " ++ "," ++ digits

/-- Wall-clock seconds in binary64 turned into whole milliseconds; the product is rounded, then
cut toward zero. -/
def wallMilliseconds? (seconds : Binary64) : Option Int :=
  (seconds.mul (Binary64.ofInt 1000)).truncate?

end Turnstile.Time
