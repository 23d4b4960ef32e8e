import Turnstile.Caller
import Turnstile.Proofs.Text.Pieces

/-!
# The address of a client

The address that is meant is the first that is left of the first forwarded hop and the real address
header, each without blanks at its ends, of the peer and of a fixed word; it is never empty. The
address in use is that one, except that a real address header made of blanks alone is taken for an
empty address where no hop is forwarded.
-/

namespace Turnstile

/-- The first hop of a list of hops between commas, without blanks at its ends. -/
def firstHop (hops : String) : String :=
  Text.strip (String.ofList (hops.toList.takeWhile (· ≠ ',')))

/-- What may tell the address of a client, the most telling first. -/
def addressSources (headers : Headers) (peer : Option String) : List (Option String) :=
  [(headers.first? "x-forwarded-for").map firstHop, (headers.first? "x-real-ip").map Text.strip,
    peer]

/-- The first address that is told and is not empty, or a fixed word. -/
def toldAddress (headers : Headers) (peer : Option String) : String :=
  ((addressSources headers peer).findSome? Principal.nonEmpty?).getD "unknown"

/-- No hop is forwarded, and the real address header holds blanks alone. -/
def HasBlankAddress (headers : Headers) : Prop :=
  (∀ hops ∈ headers.first? "x-forwarded-for", firstHop hops = "") ∧
    ∃ text ∈ headers.first? "x-real-ip", text ≠ "" ∧ ∀ c ∈ text.toList, Text.isBlank c = true

variable {headers : Headers} {peer : Option String}

/-- A value counts when it is given and not empty. -/
theorem nonEmpty?_eq_some_iff {value : Option String} {text : String} :
    Principal.nonEmpty? value = some text ↔ value = some text ∧ text ≠ "" := by
  rw [Principal.nonEmpty?, Option.filter_eq_some_iff, Bool.not_eq_true', ← Bool.not_eq_true,
    String.isEmpty_iff]

/-- A value does not count when it is missing or empty. -/
theorem nonEmpty?_eq_none_iff {value : Option String} :
    Principal.nonEmpty? value = none ↔ ∀ text ∈ value, text = "" := by
  rw [Option.eq_none_iff_forall_ne_some]
  simp only [ne_eq, nonEmpty?_eq_some_iff, not_and, not_not, Option.mem_def]

/-- The address that is told is never empty. -/
theorem toldAddress_ne_empty : toldAddress headers peer ≠ "" := by
  unfold toldAddress
  cases found : (addressSources headers peer).findSome? Principal.nonEmpty? with
  | none => decide
  | some address =>
    obtain ⟨source, -, kept⟩ := List.exists_of_findSome?_eq_some found
    exact (nonEmpty?_eq_some_iff.mp kept).2

/-- The first piece of a header between commas, without blanks at its ends, is its first hop. -/
theorem strip_headD_splitOnChar (hops : String) :
    Text.strip ((Text.splitOnChar ',' hops).headD "") = firstHop hops := by
  have first := Text.headD_splitAt ',' hops.toList
  unfold firstHop Text.splitOnChar
  rw [← first]
  cases Text.splitAt ',' hops.toList <;> rfl

/-- The address of a client, by what a forwarded hop tells. -/
theorem clientAddress_eq : clientAddress headers peer =
    (Principal.nonEmpty? ((headers.first? "x-forwarded-for").map firstHop)).getD
      (((Principal.nonEmpty? (headers.first? "x-real-ip")).map Text.strip).getD
        ((Principal.nonEmpty? peer).getD "unknown")) := by
  unfold clientAddress
  simp only [strip_headD_splitOnChar]
  cases Principal.nonEmpty? ((headers.first? "x-forwarded-for").map firstHop) with
  | some hop => rfl
  | none => cases Principal.nonEmpty? (headers.first? "x-real-ip") <;> rfl

/-- Without a forwarded hop, what the real address header tells is kept with blanks at its ends or
without them. -/
theorem map_strip_nonEmpty? (shown : ¬HasBlankAddress headers)
    (unforwarded : ∀ hops ∈ headers.first? "x-forwarded-for", firstHop hops = "") :
    (Principal.nonEmpty? (headers.first? "x-real-ip")).map Text.strip =
      Principal.nonEmpty? ((headers.first? "x-real-ip").map Text.strip) := by
  cases held : headers.first? "x-real-ip" with
  | none => rfl
  | some text =>
    by_cases filled : text = ""
    · rw [filled]
      rfl
    · have left : Text.strip text ≠ "" := fun nothing =>
        shown ⟨unforwarded, text, held, filled, Text.strip_eq_empty_iff.mp nothing⟩
      rw [nonEmpty?_eq_some_iff.mpr ⟨rfl, filled⟩, Option.map_some,
        nonEmpty?_eq_some_iff.mpr ⟨rfl, left⟩]

/-- The address of a client is the one that is told, unless that is made of blanks. -/
theorem clientAddress_of_not_hasBlankAddress (shown : ¬HasBlankAddress headers) :
    clientAddress headers peer = toldAddress headers peer := by
  rw [clientAddress_eq, toldAddress, addressSources]
  simp only [List.findSome?_cons, List.findSome?_nil]
  cases hop : Principal.nonEmpty? ((headers.first? "x-forwarded-for").map firstHop) with
  | some address => rfl
  | none =>
    have unforwarded : ∀ hops ∈ headers.first? "x-forwarded-for", firstHop hops = "" := by
      simpa using nonEmpty?_eq_none_iff.mp hop
    rw [map_strip_nonEmpty? shown unforwarded]
    cases Principal.nonEmpty? ((headers.first? "x-real-ip").map Text.strip) with
    | some address => rfl
    | none => cases Principal.nonEmpty? peer <;> rfl

/-- An address header of blanks hides the address. -/
theorem clientAddress_of_hasBlankAddress (blank : HasBlankAddress headers) :
    clientAddress headers peer = "" := by
  obtain ⟨unforwarded, text, held, filled, blanks⟩ := blank
  have hop : Principal.nonEmpty? ((headers.first? "x-forwarded-for").map firstHop) = none := by
    rw [nonEmpty?_eq_none_iff]
    simpa using unforwarded
  rw [clientAddress_eq, hop, nonEmpty?_eq_some_iff.mpr ⟨held, filled⟩]
  exact Text.strip_eq_empty_iff.mpr blanks

end Turnstile
