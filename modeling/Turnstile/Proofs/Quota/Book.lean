import Mathlib.Data.List.Basic
import Turnstile.Limiter.Verdict
import Turnstile.Policy.Basic

/-!
# The book

The reference for the quotas: for each scope and identifier the instants of the charges admitted
since the quota was last emptied, and nothing else. A charge is admitted while fewer of them than
the capacity lie in the window of the scope, so no interval as long as the window ever holds more.
-/

namespace Turnstile.Quota

/-- The instants of the charges admitted to each quota since it was last emptied. -/
abbrev Book := Scope → String → List Int

namespace Book

/-- The book without a charge. -/
def empty : Book := fun _ _ => []

section Charges

variable (policy : Policy) (book : Book) (now : Int) (scope : Scope) (identifier : String)

/-- The instants in the window of a quota. -/
def window : List Int := (book scope identifier).filter (now - (policy.limitOf scope).window < ·)

/-- The count of charges in the window of a quota. -/
def hits : Int := (book.window policy now scope identifier).length

/-- A charge is admitted. -/
def admits : Bool := book.hits policy now scope identifier < (policy.limitOf scope).capacity

/-- What a look at a quota tells. -/
def look : Verdict :=
  let hits := book.hits policy now scope identifier
  ⟨book.admits policy now scope identifier, (policy.limitOf scope).capacity - hits,
    now + (policy.limitOf scope).window, hits⟩

/-- What a charge is told. -/
def verdict : Verdict :=
  let hits := book.hits policy now scope identifier
  let total := if book.admits policy now scope identifier then hits + 1 else hits
  ⟨book.admits policy now scope identifier, (policy.limitOf scope).capacity - total,
    now + (policy.limitOf scope).window, total⟩

/-- The book with other instants for one quota. -/
def set (instants : List Int) : Book := fun other name =>
  if other = scope ∧ name = identifier then instants else book other name

/-- The book after a charge: an admitted one is noted. -/
def charged : Book :=
  if book.admits policy now scope identifier then
    book.set scope identifier (book scope identifier ++ [now])
  else book

/-- The book with a quota emptied. -/
def cleared : Book := book.set scope identifier []

/-- What is set for a quota is what the book has for it. -/
@[simp] theorem set_self (instants : List Int) :
    book.set scope identifier instants scope identifier = instants := if_pos ⟨rfl, rfl⟩

/-- Other quotas keep their instants. -/
theorem set_of_ne (instants : List Int) {other : Scope} {name : String}
    (different : ¬(other = scope ∧ name = identifier)) :
    book.set scope identifier instants other name = book other name := if_neg different

end Charges

/-! ## Charges in turn -/

section Turns

variable (policy : Policy) (now : Int)

/-- All charges in turn are admitted. -/
def admitsAll : List (Scope × String) → Book → Bool
  | [], _ => true
  | (scope, identifier) :: rest, book =>
    book.admits policy now scope identifier &&
      admitsAll rest (book.charged policy now scope identifier)

/-- The book after charges in turn, up to the first that is denied. -/
def chargedAll : List (Scope × String) → Book → Book
  | [], book => book
  | (scope, identifier) :: rest, book =>
    if book.admits policy now scope identifier then
      chargedAll rest (book.charged policy now scope identifier)
    else book

variable {policy now}

/-- Charges in two parts are admitted when the first part is, and then the second. -/
theorem admitsAll_append (first second : List (Scope × String)) (book : Book) :
    admitsAll policy now (first ++ second) book =
      (admitsAll policy now first book &&
        admitsAll policy now second (chargedAll policy now first book)) := by
  induction first generalizing book with
  | nil => rfl
  | cons charge rest ih =>
    obtain ⟨scope, identifier⟩ := charge
    rw [List.cons_append, admitsAll, admitsAll, chargedAll, ih, Bool.and_assoc]
    cases book.admits policy now scope identifier <;> rfl

/-- When the first charges are all admitted, the others follow. -/
theorem chargedAll_append {first : List (Scope × String)} {book : Book}
    (admitted : admitsAll policy now first book = true) (second : List (Scope × String)) :
    chargedAll policy now (first ++ second) book =
      chargedAll policy now second (chargedAll policy now first book) := by
  induction first generalizing book with
  | nil => rfl
  | cons charge rest ih =>
    obtain ⟨scope, identifier⟩ := charge
    obtain ⟨room, others⟩ := Bool.and_eq_true_iff.mp admitted
    rw [List.cons_append, chargedAll, chargedAll, if_pos room, if_pos room, ih others]

/-- When one of the first charges is denied, the others are not made. -/
theorem chargedAll_append_of_denied {first : List (Scope × String)} {book : Book}
    (denied : admitsAll policy now first book = false) (second : List (Scope × String)) :
    chargedAll policy now (first ++ second) book = chargedAll policy now first book := by
  induction first generalizing book with
  | nil => cases denied
  | cons charge rest ih =>
    obtain ⟨scope, identifier⟩ := charge
    rw [List.cons_append, chargedAll, chargedAll]
    cases room : book.admits policy now scope identifier with
    | false => rfl
    | true =>
      rw [admitsAll, room, Bool.true_and] at denied
      exact ih denied

/-- A charge takes nothing out of the book. -/
theorem sublist_charged (book : Book) (scope other : Scope) (identifier name : String) :
    (book other name).Sublist (book.charged policy now scope identifier other name) := by
  unfold charged
  split
  · by_cases same : other = scope ∧ name = identifier
    · obtain ⟨rfl, rfl⟩ := same
      rw [set_self]
      exact List.sublist_append_left ..
    · rw [book.set_of_ne scope identifier _ same]
  · exact List.Sublist.refl _

/-- Charges take no instant out of the book. -/
theorem sublist_chargedAll (charges : List (Scope × String)) (book : Book) (other : Scope)
    (name : String) :
    (book other name).Sublist (chargedAll policy now charges book other name) := by
  induction charges generalizing book with
  | nil => exact List.Sublist.refl _
  | cons charge rest ih =>
    obtain ⟨scope, identifier⟩ := charge
    rw [chargedAll]
    split
    · exact (sublist_charged book scope other identifier name).trans (ih _)
    · exact List.Sublist.refl _

/-- When all charges are admitted, each of them is noted. -/
theorem append_sublist_chargedAll {charges : List (Scope × String)} {book : Book}
    (admitted : admitsAll policy now charges book = true) {scope : Scope} {identifier : String}
    (listed : (scope, identifier) ∈ charges) :
    (book scope identifier ++ [now]).Sublist
      (chargedAll policy now charges book scope identifier) := by
  induction charges generalizing book with
  | nil => cases listed
  | cons charge rest ih =>
    obtain ⟨first, name⟩ := charge
    obtain ⟨room, others⟩ := Bool.and_eq_true_iff.mp admitted
    rw [chargedAll, if_pos room]
    rcases List.mem_cons.mp listed with own | later
    · obtain ⟨rfl, rfl⟩ := Prod.mk.inj own
      have noted : book.charged policy now scope identifier scope identifier =
          book scope identifier ++ [now] := by
        rw [charged, if_pos room, set_self]
      have kept := @sublist_chargedAll policy now rest
        (book.charged policy now scope identifier) scope identifier
      rwa [noted] at kept
    · have before := @sublist_charged policy now book first scope name identifier
      exact (before.append (List.Sublist.refl [now])).trans (ih others later)

/-- The instants of an interval among some. -/
def between (start span : Int) (instants : List Int) : List Int :=
  instants.filter fun instant => start ≤ instant ∧ instant < start + span

/-- Nothing in the book is later than an instant, and no interval as long as a window holds more
charges than its scope admits. -/
structure IsBounded (policy : Policy) (now : Int) (book : Book) : Prop where
  past : ∀ scope identifier, ∀ instant ∈ book scope identifier, instant ≤ now
  bounded : ∀ scope identifier start,
    ((between start (policy.limitOf scope).window (book scope identifier)).length : Int) ≤
      (policy.limitOf scope).capacity

/-- The empty book is bounded. -/
theorem IsBounded.empty (policy : Policy) (now : Int) : IsBounded policy now Book.empty where
  past _ _ _ member := nomatch member
  bounded scope _ _ := by
    have capacity := (policy.limitOf scope).capacity_pos
    show (0 : Int) ≤ _
    omega

/-- Time passes. -/
theorem IsBounded.later {book : Book} {next : Int} (bounded : IsBounded policy now book)
    (order : now ≤ next) : IsBounded policy next book where
  past scope identifier instant member :=
    Int.le_trans (bounded.past scope identifier instant member) order
  bounded := bounded.bounded

/-- Emptying a quota keeps the bound. -/
theorem IsBounded.cleared {book : Book} (bounded : IsBounded policy now book) (scope : Scope)
    (identifier : String) : IsBounded policy now (book.cleared scope identifier) where
  past other name instant member := by
    unfold Book.cleared set at member
    split at member
    · cases member
    · exact bounded.past other name instant member
  bounded other name start := by
    unfold Book.cleared set
    split
    · exact (IsBounded.empty policy now).bounded other name start
    · exact bounded.bounded other name start

/-- An admitted charge keeps the bound: what an interval around it holds is in its window. -/
theorem IsBounded.charged {book : Book} (bounded : IsBounded policy now book) (scope : Scope)
    (identifier : String) : IsBounded policy now (book.charged policy now scope identifier) := by
  unfold Book.charged
  split
  · rename_i room
    refine ⟨fun other name instant member => ?_, fun other name start => ?_⟩
    · unfold set at member
      split at member
      · rcases List.mem_append.mp member with old | own
        · exact bounded.past scope identifier instant old
        · exact Int.le_of_eq (List.mem_singleton.mp own)
      · exact bounded.past other name instant member
    · unfold set
      split
      · rename_i same
        obtain ⟨rfl, rfl⟩ := same
        have before := bounded.bounded other name start
        rw [between, List.filter_append, List.length_append]
        by_cases inside : start ≤ now ∧ now < start + (policy.limitOf other).window
        · have fewer : (between start (policy.limitOf other).window (book other name)).length ≤
              (book.window policy now other name).length := by
            refine (List.monotone_filter_right _ fun instant counts => ?_).length_le
            have later := (of_decide_eq_true counts).1
            exact decide_eq_true (by omega)
          have below : book.hits policy now other name < _ := of_decide_eq_true room
          have own : (List.filter (fun instant => decide (start ≤ instant ∧
              instant < start + (policy.limitOf other).window)) [now]).length ≤ 1 :=
            List.length_filter_le ..
          unfold hits at below
          unfold between at fewer
          omega
        · have none : List.filter (fun instant => decide (start ≤ instant ∧
              instant < start + (policy.limitOf other).window)) [now] = [] := by
            rw [List.filter_cons, if_neg (by simpa using inside), List.filter_nil]
          rw [none, List.length_nil, Nat.add_zero]
          exact before
      · exact bounded.bounded other name start
  · exact bounded

/-- Charges keep a book bounded. -/
theorem IsBounded.chargedAll (charges : List (Scope × String)) {book : Book}
    (bounded : IsBounded policy now book) :
    IsBounded policy now (Book.chargedAll policy now charges book) := by
  induction charges generalizing book with
  | nil => exact bounded
  | cons charge rest ih =>
    obtain ⟨scope, identifier⟩ := charge
    rw [Book.chargedAll]
    split
    · exact ih (bounded.charged scope identifier)
    · exact bounded

end Turns

end Book

end Turnstile.Quota
