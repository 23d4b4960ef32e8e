import Turnstile.Proofs.Limiter.Entry
import Turnstile.Proofs.Limiter.Refinement
import Turnstile.Proofs.Limiter.Solitary
import Turnstile.Proofs.Policy.Keys
import Turnstile.Proofs.Policy.Resolution
import Turnstile.Proofs.Quota.Book
import Turnstile.Proofs.Quota.Call
import Turnstile.Proofs.Time.Calendar

/-!
# The store keeps the book

While requests are handled one after the other, the store stands in a relation with the book that
every call on a quota keeps: the call is told what the book has, and leaves what the book becomes.
A request takes a few numbers at one instant; no two requests share one.
-/

namespace Turnstile.Quota

open Limiter Number Store Time

/-! ## Instants of requests -/

/-- What the world decides about a request: the readings of the two clocks, and the first of the
numbers that it takes. -/
structure Instant where
  now : Int
  clock : Seconds
  serial : Nat

/-- The numbers that a request takes at most: one for its identifier and three for its charges. -/
def numbers : Nat := 4

namespace Instant

/-- The store with its clock at the instant, and the numbers of the request at hand. -/
def node (here : Instant) (store : Local) : Node Local :=
  ⟨Surrounded.enter here.clock store, here.serial⟩

/-- What is assumed of any two requests in turn: neither clock goes back, the store's clock keeps
step, and the entries of their checks have different names. -/
structure Precedes (first second : Instant) : Prop where
  order : first.now ≤ second.now
  step : Seconds.KeepsStep first.clock second.clock (second.now - first.now)
  fresh : ∀ i < numbers, ∀ j < numbers,
    entryId first.now (first.serial + i) ≠ entryId second.now (second.serial + j)

/-- Keys written at the instant outlast their windows, and the instant and the ends of all windows
that start there lie in the years 1 to 9999. -/
structure IsTimely (policy : Policy) (here : Instant) : Prop where
  outlasts : ∀ scope, (policy.limitOf scope).Outlasts here.clock
  after : earliest ≤ here.now
  before : ∀ scope, here.now + (policy.limitOf scope).window ≤ latest

variable {policy : Policy} {here : Instant}

/-- A window within the calendar is a small number. -/
theorem window_le_of_calendar (after : earliest ≤ here.now) {scope : Scope}
    (before : here.now + (policy.limitOf scope).window ≤ latest) :
    (policy.limitOf scope).window ≤ twoTo 53 := by
  have span : latest - earliest ≤ twoTo 53 := by decide
  omega

/-- A clock that tells milliseconds lets keys outlast their windows. -/
theorem IsTimely.of_tellsMilliseconds (fine : here.clock.TellsMilliseconds)
    (after : earliest ≤ here.now)
    (before : ∀ scope, here.now + (policy.limitOf scope).window ≤ latest) :
    here.IsTimely policy :=
  ⟨fun scope => Limit.outlasts_of_tellsMilliseconds (window_le_of_calendar after (before scope))
    fine, after, before⟩

variable (timely : here.IsTimely policy) (scope : Scope)
include timely

/-- At a timely instant, no window is longer than binary64 counts. -/
theorem IsTimely.window_le : (policy.limitOf scope).window ≤ twoTo 53 :=
  window_le_of_calendar timely.after (timely.before scope)

/-- The end of a window is an instant of the calendar. -/
theorem IsTimely.earliest_le : earliest ≤ here.now + (policy.limitOf scope).window := by
  have after := timely.after
  have positive := (policy.limitOf scope).window_pos
  omega

end Instant

/-- A visit made while the request of an instant was handled. -/
structure Belongs (policy : Policy) (here : Instant) (made : Visit Seconds) : Prop where
  now : made.now = here.now
  clock : made.around = here.clock
  limit : ∃ scope, made.limit = policy.limitOf scope
  number : made.request = .check → ∃ i < numbers, made.serial = here.serial + i

/-- Visits made for earlier requests, or at the instant of this one with numbers below the next. -/
def MadeBefore (policy : Policy) (done : List Instant) (here : Instant) (serial : Nat)
    (past : List (Visit Seconds)) : Prop :=
  ∀ made ∈ past, (∃ earlier ∈ done, Belongs policy earlier made) ∨
    Belongs policy here made ∧ (made.request = .check → made.serial < serial)

/-! ## What calls do to the book -/

namespace Book

variable (policy : Policy) (now : Int) (request : Limiter.Request) (scope : Scope)
  (identifier : String) (book : Book)

/-- What a call is told. -/
def answer : Option Verdict :=
  match request with
  | .check => some (book.verdict policy now scope identifier)
  | .status => some (book.look policy now scope identifier)
  | .reset => none

/-- What a call makes of the book. -/
def next : Book :=
  match request with
  | .check => book.charged policy now scope identifier
  | .status => book
  | .reset => book.cleared scope identifier

end Book

/-- The node stands as the book says while the request of an instant is handled, earlier requests
being done: the store is calm and shows the clock of the instant, some numbers are left, and the
store mirrors the instants that the book has under every key. -/
structure Stands (policy : Policy) (done : List Instant) (here : Instant) (spare : Nat)
    (book : Book) (node : Node Local) : Prop where
  quiet : node.store.interference.IsQuiet
  clock : node.store.memory.clock = here.clock
  first : here.serial ≤ node.serial
  room : node.serial + spare ≤ here.serial + numbers
  mirrored : ∃ past ledger, Mirrors past node.store.memory ledger ∧
    MadeBefore policy done here node.serial past ∧
    ∀ scope identifier, ledger ((policy.limitOf scope).key identifier) = book scope identifier

/-- An outcome told through an injective function. -/
theorem eq_ok_of_map {α β : Type} {made : α → β} (injective : Function.Injective made)
    {outcome : Except Failure α} {value : α} (told : outcome.map made = .ok (made value)) :
    outcome = .ok value := by
  cases outcome with
  | error failure => cases told
  | ok found => exact congrArg _ (injective (Except.ok.inj told))

namespace Stands

variable {policy : Policy} {done : List Instant} {here : Instant} {spare : Nat} {book : Book}
  {node : Node Local}

/-- Numbers may stay unused. -/
theorem weaken (stands : Stands policy done here spare book node) {fewer : Nat}
    (less : fewer ≤ spare) : Stands policy done here fewer book node := by
  have room := stands.room
  exact ⟨stands.quiet, stands.clock, stands.first, by omega, stands.mirrored⟩

/-- A number is taken. -/
theorem takeSerial (stands : Stands policy done here (spare + 1) book node) :
    Stands policy done here spare book { node with serial := node.serial + 1 } := by
  obtain ⟨past, ledger, mirrors, before, same⟩ := stands.mirrored
  have first := stands.first
  have room := stands.room
  refine ⟨stands.quiet, stands.clock, Nat.le_succ_of_le first, ?_, past, ledger, mirrors, ?_, same⟩
  · show node.serial + 1 + spare ≤ _
    omega
  · intro made listed
    rcases before made listed with earlier | ⟨belongs, numbered⟩
    · exact .inl earlier
    · exact .inr ⟨belongs, fun checked => Nat.lt_succ_of_lt (numbered checked)⟩

section Calls

variable (apart : policy.KeepsApart) (inTurn : ∀ earlier ∈ done, earlier.Precedes here)
  (timely : here.IsTimely policy) (request : Limiter.Request) (scope : Scope)
  (identifier : String)

include apart in
/-- A quota has its key for itself. -/
theorem key_eq_iff {other : Scope} {name : String} :
    (policy.limitOf other).key name = (policy.limitOf scope).key identifier ↔
      other = scope ∧ name = identifier :=
  ⟨apart other scope name identifier, fun same => by rw [same.1, same.2]⟩

include apart in
/-- The ledger after a call on a quota is the book after it. -/
theorem next_eq {ledger : Ledger}
    (same : ∀ scope identifier,
      ledger ((policy.limitOf scope).key identifier) = book scope identifier)
    (other : Scope) (name : String) :
    ledger.next (visit policy request scope identifier here.now node)
        ((policy.limitOf other).key name) =
      book.next policy here.now request scope identifier other name := by
  have admits : ledger.admits (visit policy request scope identifier here.now node) =
      book.admits policy here.now scope identifier := by
    rw [Ledger.admits, Ledger.window, Book.admits, Book.hits, Book.window, ← same]
    rfl
  have key : (visit policy request scope identifier here.now node).key =
      (policy.limitOf scope).key identifier := rfl
  rw [Ledger.next, key]
  by_cases own : other = scope ∧ name = identifier
  · rw [if_pos ((key_eq_iff apart scope identifier).mpr own), admits]
    obtain ⟨rfl, rfl⟩ := own
    cases request with
    | check =>
      simp only [visit, Book.next, Book.charged]
      split <;> simp only [Book.set_self, same]
    | status => exact same other name
    | reset => exact (book.set_self other name []).symm
  · rw [if_neg (mt (key_eq_iff apart scope identifier).mp own), same]
    cases request with
    | check =>
      simp only [Book.next, Book.charged]
      split
      · exact (book.set_of_ne scope identifier _ own).symm
      · rfl
    | status => rfl
    | reset => exact (book.set_of_ne scope identifier _ own).symm

/-- The answer of the ledger to a call on a quota is that of the book. -/
theorem answer_eq {ledger : Ledger}
    (same : ∀ scope identifier,
      ledger ((policy.limitOf scope).key identifier) = book scope identifier) :
    ledger.answer (visit policy request scope identifier here.now node) =
      book.answer policy here.now request scope identifier := by
  have window : ledger.window (visit policy request scope identifier here.now node) =
      book.window policy here.now scope identifier := by
    rw [Ledger.window, Book.window, ← same]
    rfl
  have admits : ledger.admits (visit policy request scope identifier here.now node) =
      book.admits policy here.now scope identifier := by
    rw [Ledger.admits, window, Book.admits, Book.hits]
    rfl
  rw [Ledger.answer, window, admits]
  cases request <;> rfl

include apart inTurn in
/-- A call follows all visits before it, while numbers are left for it. -/
theorem follows {past : List (Visit Seconds)}
    (before : MadeBefore policy done here node.serial past)
    (clock : node.store.memory.clock = here.clock) (first : here.serial ≤ node.serial)
    (room : request = .check → node.serial < here.serial + numbers) :
    (visit policy request scope identifier here.now node).Follows past := by
  have around : (visit policy request scope identifier here.now node).around = here.clock := clock
  intro made listed
  rcases before made listed with ⟨earlier, member, belongs⟩ | ⟨belongs, numbered⟩
  · have precedes := inTurn earlier member
    obtain ⟨other, limit⟩ := belongs.limit
    refine ⟨?_, ?_, fun same => ?_, fun checked also _ => ?_⟩
    · rw [belongs.now]
      exact precedes.order
    · rw [belongs.now, belongs.clock, around]
      exact precedes.step
    · rw [Visit.key, limit] at same
      rw [limit, (apart _ _ _ _ same).1]
      rfl
    · obtain ⟨i, small, number⟩ := belongs.number checked
      have space := room also
      have own : node.serial = here.serial + (node.serial - here.serial) := by omega
      rw [Visit.entry, Visit.entry, belongs.now, number]
      show entryId _ _ ≠ entryId here.now node.serial
      rw [own]
      exact precedes.fresh i small _ (by omega)
  · obtain ⟨other, limit⟩ := belongs.limit
    refine ⟨?_, ?_, fun same => ?_, fun checked also _ => ?_⟩
    · exact Int.le_of_eq belongs.now
    · rw [belongs.clock, around]
      exact Seconds.KeepsStep.refl _ _
    · rw [Visit.key, limit] at same
      rw [limit, (apart _ _ _ _ same).1]
      rfl
    · obtain ⟨i, _, number⟩ := belongs.number checked
      have space := room also
      have below := numbered checked
      have round : numbers ≤ 16 ^ 12 := by decide
      rw [Visit.entry, Visit.entry, belongs.now]
      exact entryId_ne_of_lt below (show node.serial < made.serial + 16 ^ 12 by omega)

include apart inTurn timely

/-- A call is told what the book has, and leaves the store as the book after it. -/
theorem call
    (stands : Stands policy done here (spare + if request = .check then 1 else 0) book node) :
    (call policy request scope identifier here.now node).outcome =
        .ok (book.answer policy here.now request scope identifier) ∧
      Stands policy done here spare (book.next policy here.now request scope identifier)
        (call policy request scope identifier here.now node).state := by
  obtain ⟨past, ledger, mirrors, before, same⟩ := stands.mirrored
  have first := stands.first
  have room := stands.room
  have follows := follows apart inTurn request scope identifier before stands.clock first
    (fun checked => by rw [if_pos checked] at room; omega)
  have lasting : (policy.limitOf scope).Outlasts node.store.memory.clock := by
    rw [stands.clock]
    exact timely.outlasts scope
  obtain ⟨told, touched, after⟩ := mirrors.serve stands.quiet follows fun _ => lasting
  have fresh : (visit policy request scope identifier here.now node).IsFresh
      node.store.memory := by
    intro checked row held
    obtain ⟨made, listed, also, key, named⟩ := mirrors.names _ row held
    rw [named]
    exact (follows made listed).fresh also checked key
  have left := (Visit.serve_of_fresh _ stands.quiet fresh).2.2
  obtain ⟨outcome, state⟩ := call_eq_serve policy request scope identifier here.now node
  refine ⟨outcome.trans (told.trans (congrArg _ (answer_eq request scope identifier same))), ?_⟩
  rw [state]
  refine ⟨?_, ?_, ?_, ?_, _, _, after, ?_, next_eq apart request scope identifier same⟩
  · rw [touched]
    exact stands.quiet
  · exact left.clock.trans stands.clock
  · exact first.trans (Nat.le_add_right ..)
  · show node.serial + _ + spare ≤ _
    omega
  · intro made listed
    show _ ∨ _ ∧ (_ → made.serial < node.serial + _)
    rcases List.mem_append.mp listed with old | own
    · rcases before made old with earlier | ⟨belongs, numbered⟩
      · exact .inl earlier
      · exact .inr ⟨belongs, fun checked => (numbered checked).trans_le (Nat.le_add_right ..)⟩
    · obtain rfl := List.mem_singleton.mp own
      refine .inr ⟨⟨rfl, stands.clock, ⟨scope, rfl⟩, fun checked => ?_⟩, fun checked => ?_⟩
      · have checked : request = .check := checked
        rw [if_pos checked] at room
        exact ⟨node.serial - here.serial, by omega, by show node.serial = _; omega⟩
      · have checked : request = .check := checked
        rw [if_pos checked]
        exact Nat.lt_succ_self _

omit request

/-- A charge is told the verdict of the book, and noted in it. -/
theorem check (stands : Stands policy done here (spare + 1) book node) :
    (Quota.check policy scope identifier here.now node).outcome =
        .ok (book.verdict policy here.now scope identifier) ∧
      Stands policy done here spare (book.charged policy here.now scope identifier)
        (Quota.check policy scope identifier here.now node).state := by
  obtain ⟨outcome, left⟩ := stands.call apart inTurn timely .check scope identifier
  rw [Quota.call, bind_return_outcome] at outcome
  rw [Quota.call, bind_return_state] at left
  exact ⟨eq_ok_of_map (Option.some_injective _) outcome, left⟩

/-- A look is told what the book has, and leaves the book. -/
theorem status (stands : Stands policy done here spare book node) :
    (Quota.status policy scope identifier here.now node).outcome =
        .ok (book.look policy here.now scope identifier) ∧
      Stands policy done here spare book
        (Quota.status policy scope identifier here.now node).state := by
  obtain ⟨outcome, left⟩ := stands.call apart inTurn timely .status scope identifier
  rw [Quota.call, bind_return_outcome] at outcome
  rw [Quota.call, bind_return_state] at left
  exact ⟨eq_ok_of_map (Option.some_injective _) outcome, left⟩

/-- A reset empties the quota in the book. -/
theorem reset (stands : Stands policy done here spare book node) :
    (Quota.reset policy scope identifier node).outcome = .ok () ∧
      Stands policy done here spare (book.cleared scope identifier)
        (Quota.reset policy scope identifier node).state := by
  obtain ⟨outcome, left⟩ := stands.call apart inTurn timely .reset scope identifier
  rw [Quota.call, bind_return_outcome (Quota.reset policy scope identifier) fun _ => none]
    at outcome
  rw [Quota.call, bind_return_state (Quota.reset policy scope identifier) fun _ => none] at left
  exact ⟨eq_ok_of_map (Function.injective_of_subsingleton _) outcome, left⟩

omit timely in
/-- No window of the book holds more than its capacity. -/
theorem hits_le (stands : Stands policy done here spare book node) :
    book.hits policy here.now scope identifier ≤ (policy.limitOf scope).capacity := by
  obtain ⟨past, ledger, mirrors, before, same⟩ := stands.mirrored
  have fits := mirrors.fits _ (follows apart inTurn .status scope identifier before stands.clock
    stands.first fun checked => nomatch checked)
  have window : ledger.window (visit policy .status scope identifier here.now node) =
      book.window policy here.now scope identifier := by
    rw [Ledger.window, Book.window, ← same]
    rfl
  rw [window] at fits
  exact fits

end Calls

end Stands

/-! ## Between requests -/

/-- The store as the requests done have left it: it is calm, and mirrors the book. -/
structure Keeps (policy : Policy) (done : List Instant) (book : Book) (store : Local) : Prop where
  quiet : store.interference.IsQuiet
  mirrored : ∃ past ledger, Mirrors past store.memory ledger ∧
    (∀ made ∈ past, ∃ earlier ∈ done, Belongs policy earlier made) ∧
    ∀ scope identifier, ledger ((policy.limitOf scope).key identifier) = book scope identifier

/-- An empty store keeps the empty book. -/
theorem Keeps.empty (policy : Policy) (batching : Batching) (clock : Seconds) :
    Keeps policy [] Book.empty (vacantStore batching clock) :=
  ⟨fun _ => rfl, [], Ledger.empty, Mirrors.empty clock, (fun _ listed => nomatch listed),
    fun _ _ => rfl⟩

/-- A request arrives: the clock moves on, and its numbers are at hand. -/
theorem Keeps.arrive {policy : Policy} {done : List Instant} {book : Book} {store : Local}
    (keeps : Keeps policy done book store) (here : Instant) :
    Stands policy done here numbers book (here.node store) := by
  obtain ⟨past, ledger, mirrors, before, same⟩ := keeps.mirrored
  have moved : Mirrors past (store.memory.setClock here.clock) ledger :=
    ⟨mirrors.window, mirrors.fits, mirrors.made, mirrors.names⟩
  exact ⟨keeps.quiet, rfl, Nat.le_refl _, Nat.le_refl _, past, ledger, moved,
    fun made listed => .inl (before made listed), same⟩

/-- A request is done. -/
theorem Stands.depart {policy : Policy} {done : List Instant} {here : Instant} {spare : Nat}
    {book : Book} {node : Node Local} (stands : Stands policy done here spare book node) :
    Keeps policy (done ++ [here]) book node.store := by
  obtain ⟨past, ledger, mirrors, before, same⟩ := stands.mirrored
  refine ⟨stands.quiet, past, ledger, mirrors, fun made listed => ?_, same⟩
  rcases before made listed with ⟨earlier, member, belongs⟩ | ⟨belongs, _⟩
  · exact ⟨earlier, List.mem_append_left _ member, belongs⟩
  · exact ⟨here, List.mem_append_right _ (List.mem_singleton_self _), belongs⟩

end Turnstile.Quota
