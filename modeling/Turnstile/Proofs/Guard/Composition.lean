import Turnstile.Proofs.Guard.Trying
import Turnstile.Proofs.Limiter.Rollback
import Turnstile.Proofs.Policy.Keys

/-!
# What the guard spends

On a store in memory an operation charges the scopes that apply in turn. Each charge that is granted
leaves one entry under its own key; the first that finds its window full leaves there what was in
the window, and no other key is touched. A scope whose window is too long for a lifetime is granted
whatever its key holds, and leaves it so.
-/

namespace Turnstile

open Limiter Quota Store Time

/-! ## One trial -/

namespace Trial

/-- The key that it counts under. -/
def key {σ : Type} (trial : Trial σ) : String := trial.limit.key trial.identifier

section Memory

variable (trial : Trial Local)

/-- The entries that it finds in its window. -/
def counted : List (String × Int) :=
  trial.found.store.memory.recent trial.key (trial.now - trial.limit.window)

/-- The memory once its attempt is recorded. -/
def recorded (seconds : Int) : Memory :=
  (trial.found.store.memory.record trial.key (trial.now - trial.limit.window) trial.entry trial.now
    seconds).2

variable (quiet : trial.found.store.interference.IsQuiet)
include quiet

/-- An attempt is told what it counts; it stays recorded if there was room. -/
theorem ended_of_lifetime {seconds : Int} (lifetime : trial.limit.ttl = .ok seconds) :
    trial.ended = (.ok trial.counted.length, { trial.found.store with
      memory := if Verdict.admits trial.limit trial.counted.length then trial.recorded seconds
        else (trial.recorded seconds).remove trial.key trial.entry }) :=
  entered_of_lifetime trial.limit trial.identifier trial.entry trial.now quiet lifetime

/-- An attempt leaves what other keys hold, and its own without a lifetime. -/
theorem left_get? {other : String}
    (untouched : trial.key = other → ∃ failure, trial.limit.ttl = .error failure) :
    trial.left.store.memory.held.get? other = trial.found.store.memory.held.get? other := by
  cases lifetime : trial.limit.ttl with
  | error failure => rw [left, ended, entered_of_ttl_error lifetime]
  | ok seconds =>
    have different : other ≠ trial.key := by
      intro same
      obtain ⟨failure, none⟩ := untouched same.symm
      rw [lifetime] at none
      cases none
    exact entered_get?_of_ne trial.limit trial.identifier trial.entry trial.now quiet different

/-- An attempt changes nothing of the store but what is held. -/
theorem left_store : trial.left.store = { trial.found.store with
    memory := ⟨trial.found.store.memory.clock, trial.left.store.memory.held⟩ } := by
  have clock : trial.left.store.memory.clock = trial.found.store.memory.clock ∧
      trial.left.store = { trial.found.store with memory := trial.left.store.memory } := by
    cases lifetime : trial.limit.ttl with
    | error failure =>
      rw [left, ended, entered_of_ttl_error lifetime]
      exact ⟨rfl, rfl⟩
    | ok seconds =>
      rw [left, trial.ended_of_lifetime quiet lifetime]
      refine ⟨?_, rfl⟩
      simp only
      split
      · exact Memory.record_clock ..
      · rw [Memory.remove_clock]
        exact Memory.record_clock ..
  rw [← clock.1]
  exact clock.2

/-- A trial leaves a store that refuses nothing. -/
theorem left_isQuiet : trial.left.store.interference.IsQuiet := by
  rw [trial.left_store quiet]
  exact quiet

/-- With a lifetime for its key an attempt is answered by its count. -/
theorem verdict_of_lifetime {seconds : Int} (lifetime : trial.limit.ttl = .ok seconds) :
    trial.verdict = .ofAttempt trial.limit trial.now trial.counted.length := by
  rw [verdict, trial.ended_of_lifetime quiet lifetime]
  rfl

section Fresh

variable (unused : ∀ row ∈ trial.found.store.memory.rows trial.key, row.1 ≠ trial.entry)
  {seconds : Int} (lifetime : trial.limit.ttl = .ok seconds)
include unused lifetime

/-- An attempt that finds room leaves its entry after those of its window. -/
theorem left_of_room (room : Verdict.admits trial.limit trial.counted.length = true) :
    trial.left.store.memory.held.get? trial.key =
      some ⟨⟨trial.counted ++ [(trial.entry, trial.now)]⟩,
        some (trial.found.store.memory.clock.later seconds)⟩ :=
  entered_get?_of_room trial.limit trial.identifier trial.entry trial.now quiet unused lifetime room

/-- An attempt that finds its window full leaves what was in it, unless its deadline has come at
once. -/
theorem left_of_full (full : Verdict.admits trial.limit trial.counted.length = false)
    (lasts : (trial.found.store.memory.clock.later seconds).le trial.found.store.memory.clock =
      false) :
    trial.left.store.memory.held.get? trial.key =
      some ⟨⟨trial.counted⟩, some (trial.found.store.memory.clock.later seconds)⟩ := by
  have kept := entered_get?_of_full trial.limit trial.identifier trial.entry trial.now quiet unused
    lifetime full
  rw [lasts, if_neg Bool.false_ne_true] at kept
  exact kept

end Fresh

end Memory

end Trial

/-! ## Charges in turn -/

namespace Policy

variable (policy : Policy) (now : Int)

/-- The key of a charge. -/
def keyOf (charge : Scope × String) : String := (policy.limitOf charge.1).key charge.2

/-- The entries in the window of a charge. -/
def window (memory : Memory) (charge : Scope × String) : List (String × Int) :=
  memory.recent (policy.keyOf charge) (now - (policy.limitOf charge.1).window)

/-- What describes a charge to its caller. -/
def admissionOf (memory : Memory) (charge : Scope × String) : Admission :=
  ⟨charge.1, policy.limitOf charge.1,
    .ofAttempt (policy.limitOf charge.1) now (policy.window now memory charge).length⟩

/-- The key of a charge has a lifetime. -/
def HasLifetime (charge : Scope × String) : Prop :=
  ∃ seconds, (policy.limitOf charge.1).ttl = .ok seconds

/-- The key of a charge holds these entries, for the lifetime of its limit from a reading of the
clock on. -/
def Holds (clock : Seconds) (memory : Memory) (charge : Scope × String)
    (entries : List (String × Int)) : Prop :=
  ∃ seconds, (policy.limitOf charge.1).ttl = .ok seconds ∧
    memory.held.get? (policy.keyOf charge) = some ⟨⟨entries⟩, some (clock.later seconds)⟩

/-- No entry under the keys of the charges bears a name that an attempt among them may take. -/
def IsFreshFor (charges : List (Scope × String)) (node : Node Local) : Prop :=
  ∀ charge ∈ charges, ∀ index < charges.length,
    ∀ row ∈ node.store.memory.rows (policy.keyOf charge),
      row.1 ≠ entryId now (node.serial + index)

instance (charges : List (Scope × String)) (node : Node Local) :
    Decidable (policy.IsFreshFor now charges node) :=
  inferInstanceAs (Decidable (∀ _ ∈ _, ∀ _ < _, ∀ _ ∈ _, _))

/-- The granted charges, and one that is refused after them, lead from one node to another: the key
of each granted one gains an entry of the instant, that of the refused one keeps those of its
window, and nothing else changes but the number at hand. -/
structure Spends (granted : List (Scope × String)) (refused : Option (Scope × String))
    (node left : Node Local) : Prop where
  gained : ∀ index charge, granted[index]? = some charge →
    policy.Holds node.store.memory.clock left.store.memory charge
      (policy.window now node.store.memory charge ++ [(entryId now (node.serial + index), now)])
  kept : ∀ charge ∈ refused, policy.Holds node.store.memory.clock left.store.memory charge
    (policy.window now node.store.memory charge)
  others : ∀ key, (∀ charge ∈ granted ++ refused.toList, policy.keyOf charge ≠ key) →
    left.store.memory.held.get? key = node.store.memory.held.get? key
  store : left.store = { node.store with
    memory := ⟨node.store.memory.clock, left.store.memory.held⟩ }
  serial : left.serial = node.serial + granted.length + refused.toList.length

end Policy

section Turns

variable (policy : Policy) (now : Int)

/-- Trials change nothing of the store but what is held. -/
theorem leftBy_store (charges : List (Scope × String)) {node : Node Local}
    (quiet : node.store.interference.IsQuiet) :
    let left := leftBy node (trials policy now charges node)
    left.store = { node.store with
      memory := ⟨node.store.memory.clock, left.store.memory.held⟩ } := by
  let kept (found : Node Local) : Prop := found.store = { node.store with
    memory := ⟨node.store.memory.clock, found.store.memory.held⟩ }
  have holds : kept node := rfl
  apply leftBy_induction holds
  intro charge _ found same
  let trial : Trial Local := ⟨charge.1, charge.2, policy.limitOf charge.1, now, found⟩
  have still : trial.found.store.interference.IsQuiet := by
    rw [show trial.found.store = _ from same]
    exact quiet
  show trial.left.store = _
  rw [trial.left_store still, show trial.found.store = _ from same]

/-- Trials take one number each. -/
theorem leftBy_serial (charges : List (Scope × String)) (node : Node Local) :
    (leftBy node (trials policy now charges node)).serial =
      node.serial + (trials policy now charges node).length := by
  induction charges generalizing node with
  | nil => rfl
  | cons charge rest ih =>
    simp only [trials, leftBy_cons, List.length_cons]
    split
    · rw [ih]
      simp only [Trial.left]
      omega
    · rfl

/-- Trials leave the keys that none of them counts under, and those without a lifetime. -/
theorem leftBy_get? {charges : List (Scope × String)} {node : Node Local} {key : String}
    (quiet : node.store.interference.IsQuiet)
    (untouched : ∀ charge ∈ charges, policy.keyOf charge = key → ¬policy.HasLifetime charge) :
    (leftBy node (trials policy now charges node)).store.memory.held.get? key =
      node.store.memory.held.get? key := by
  let kept (found : Node Local) : Prop := found.store.interference.IsQuiet ∧
    found.store.memory.held.get? key = node.store.memory.held.get? key
  have holds : kept node := ⟨quiet, rfl⟩
  have left : kept (leftBy node (trials policy now charges node)) := by
    apply leftBy_induction holds
    intro charge member found same
    obtain ⟨still, held⟩ := same
    let trial : Trial Local := ⟨charge.1, charge.2, policy.limitOf charge.1, now, found⟩
    have unheld : trial.key = key → ∃ failure, trial.limit.ttl = .error failure := by
      intro own
      cases lifetime : trial.limit.ttl with
      | error failure => exact ⟨failure, rfl⟩
      | ok seconds => exact absurd ⟨seconds, lifetime⟩ (untouched charge member own)
    exact ⟨trial.left_isQuiet still, (trial.left_get? still unheld).trans held⟩
  exact left.2

end Turns

/-! ## Charges that are granted -/

namespace Policy

variable {policy : Policy} {now : Int}

/-- Numbers that are fresh for charges are fresh for the first of them. -/
theorem IsFreshFor.of_prefix {first charges : List (Scope × String)} {node : Node Local}
    (fresh : policy.IsFreshFor now charges node) (start : first <+: charges) :
    policy.IsFreshFor now first node := fun charge member index below =>
  fresh charge (start.subset member) index (below.trans_le start.length_le)

/-- A node that others' charges lead to: what the key of a charge holds is as it was, and numbers
have been taken. -/
structure IsSameFor (policy : Policy) (charge : Scope × String) (count : Nat)
    (node found : Node Local) : Prop where
  quiet : found.store.interference.IsQuiet
  clock : found.store.memory.clock = node.store.memory.clock
  held : found.store.memory.held.get? (policy.keyOf charge) =
    node.store.memory.held.get? (policy.keyOf charge)
  serial : found.serial = node.serial + count

namespace IsSameFor

variable {charge : Scope × String} {count : Nat} {node found : Node Local}
  (same : policy.IsSameFor charge count node found)
include same

/-- Charges of other quotas leave a window. -/
theorem window : policy.window now found.store.memory charge =
    policy.window now node.store.memory charge :=
  Memory.recent_eq_of_get? same.clock same.held _

/-- A charge with a lifetime is described by what its window held at first. -/
theorem admission (lasting : policy.HasLifetime charge) :
    (Trial.admission ⟨charge.1, charge.2, policy.limitOf charge.1, now, found⟩) =
      policy.admissionOf now node.store.memory charge := by
  obtain ⟨seconds, lifetime⟩ := lasting
  let trial : Trial Local := ⟨charge.1, charge.2, policy.limitOf charge.1, now, found⟩
  rw [Trial.admission, trial.verdict_of_lifetime same.quiet lifetime, admissionOf, ← same.window]
  rfl

section Attempt

variable (unused : ∀ row ∈ node.store.memory.rows (policy.keyOf charge),
  row.1 ≠ entryId now (node.serial + count))
include unused

/-- The entry of an attempt bears a name that is not in use. -/
theorem unused_found : ∀ row ∈ found.store.memory.rows (policy.keyOf charge),
    row.1 ≠ entryId now found.serial := by
  have rows : found.store.memory.rows (policy.keyOf charge) =
      node.store.memory.rows (policy.keyOf charge) := congrArg Bucket.rowsOf same.held
  rw [same.serial, rows]
  exact unused

/-- A charge that finds room is granted and leaves its entry. -/
theorem grant (lasting : policy.HasLifetime charge)
    (room : ¬policy.IsFull Local.held now node.store charge) :
    let trial : Trial Local := ⟨charge.1, charge.2, policy.limitOf charge.1, now, found⟩
    trial.verdict.allowed = true ∧
      policy.Holds node.store.memory.clock trial.left.store.memory charge
        (policy.window now node.store.memory charge ++
          [(entryId now (node.serial + count), now)]) := by
  intro trial
  obtain ⟨seconds, lifetime⟩ := lasting
  have counted : trial.counted = policy.window now node.store.memory charge := same.window
  have admits : Verdict.admits trial.limit trial.counted.length = true := by
    rw [counted]
    exact Verdict.admits_eq_true_iff.mpr (Int.not_le.mp room)
  refine ⟨?_, seconds, lifetime, ?_⟩
  · rw [trial.verdict_of_lifetime same.quiet lifetime]
    exact admits
  · have entry : trial.entry = entryId now (node.serial + count) :=
      congrArg (entryId now) same.serial
    have unusedToo : ∀ row ∈ trial.found.store.memory.rows trial.key, row.1 ≠ trial.entry :=
      same.unused_found unused
    have left := trial.left_of_room same.quiet unusedToo lifetime admits
    rw [counted, entry, show trial.found.store.memory.clock = _ from same.clock] at left
    exact left

/-- A charge that finds its window full is refused and leaves what was in it. -/
theorem refuse {seconds : Int} (lifetime : (policy.limitOf charge.1).ttl = .ok seconds)
    (lasts : (node.store.memory.clock.later seconds).le node.store.memory.clock = false)
    (full : policy.IsFull Local.held now node.store charge) :
    let trial : Trial Local := ⟨charge.1, charge.2, policy.limitOf charge.1, now, found⟩
    trial.verdict.allowed = false ∧
      policy.Holds node.store.memory.clock trial.left.store.memory charge
        (policy.window now node.store.memory charge) := by
  intro trial
  have counted : trial.counted = policy.window now node.store.memory charge := same.window
  have clock : trial.found.store.memory.clock = node.store.memory.clock := same.clock
  have denies : Verdict.admits trial.limit trial.counted.length = false := by
    rw [counted]
    exact Verdict.admits_eq_false_iff.mpr full
  refine ⟨?_, seconds, lifetime, ?_⟩
  · rw [trial.verdict_of_lifetime same.quiet lifetime]
    exact denies
  · have unusedToo : ∀ row ∈ trial.found.store.memory.rows trial.key, row.1 ≠ trial.entry :=
      same.unused_found unused
    have left := trial.left_of_full same.quiet unusedToo lifetime denies (clock ▸ lasts)
    rw [counted, clock] at left
    exact left

end Attempt

end IsSameFor

section Turns

variable {node : Node Local} {granted : List (Scope × String)} {charge : Scope × String}

/-- After charges that are all granted a last one is tried. -/
theorem trials_concat (allowed : AllAllowed (trials policy now granted node)) :
    trials policy now (granted ++ [charge]) node = trials policy now granted node ++
      [⟨charge.1, charge.2, policy.limitOf charge.1, now,
        leftBy node (trials policy now granted node)⟩] := by
  rw [trials_append allowed]
  simp only [trials, ite_self]

end Turns

section Granting

variable {node : Node Local} (quiet : node.store.interference.IsQuiet)
  {granted : List (Scope × String)}
include quiet

/-- Granted charges under other keys leave a charge as it was. -/
theorem isSameFor_leftBy (allowed : AllAllowed (trials policy now granted node))
    {charge : Scope × String}
    (apart : ∀ earlier ∈ granted, policy.keyOf earlier ≠ policy.keyOf charge) :
    policy.IsSameFor charge granted.length node
      (leftBy node (trials policy now granted node)) := by
  have length := congrArg List.length (map_trials_of_allowed allowed)
  rw [List.length_map] at length
  have store := leftBy_store policy now granted quiet
  constructor
  case quiet =>
    rw [store]
    exact quiet
  case clock => rw [store]
  case held =>
    exact leftBy_get? policy now quiet fun earlier member keys => absurd keys (apart earlier member)
  case serial => rw [leftBy_serial, length]

/-- Charges that find room under keys of their own are all granted, and each leaves its entry. -/
theorem spends_of_room (apart : granted.Pairwise fun first second =>
      policy.keyOf first ≠ policy.keyOf second)
    (fresh : policy.IsFreshFor now granted node)
    (room : ∀ charge ∈ granted, policy.HasLifetime charge ∧
      ¬policy.IsFull Local.held now node.store charge) :
    AllAllowed (trials policy now granted node) ∧
      lastAdmission (trials policy now granted node) =
        granted.getLast?.map (policy.admissionOf now node.store.memory) ∧
      policy.Spends now granted none node (leftBy node (trials policy now granted node)) := by
  -- The last charge comes off first: it finds the node that all the earlier ones lead to.
  induction granted using List.reverseRecOn with
  | nil =>
    refine ⟨fun _ none => (nomatch none), rfl, ?_⟩
    constructor
    case gained => exact fun index charge found => by simp at found
    case kept => exact fun charge none => nomatch none
    case others => exact fun key apart => rfl
    case store => rfl
    case serial => rfl
  | append_singleton earlier charge ih =>
    obtain ⟨apartToo, -, cross⟩ := List.pairwise_append.mp apart
    have own (first : Scope × String) (member : first ∈ earlier) :
        policy.keyOf first ≠ policy.keyOf charge :=
      cross first member charge (List.mem_singleton_self charge)
    have listed : charge ∈ earlier ++ [charge] :=
      List.mem_append_right _ (List.mem_singleton_self charge)
    obtain ⟨allowed, -, spends⟩ := ih apartToo (fresh.of_prefix (List.prefix_append ..))
      fun first member => room first (List.mem_append_left _ member)
    obtain ⟨lasting, free⟩ := room charge listed
    have same := isSameFor_leftBy quiet allowed own
    have unused := fresh charge listed earlier.length (by simp)
    obtain ⟨granting, holds⟩ := same.grant unused lasting free
    let trial : Trial Local := ⟨charge.1, charge.2, policy.limitOf charge.1, now,
      leftBy node (trials policy now earlier node)⟩
    have made : trials policy now (earlier ++ [charge]) node =
        trials policy now earlier node ++ [trial] := trials_concat allowed
    have left : leftBy node (trials policy now (earlier ++ [charge]) node) = trial.left := by
      rw [made, leftBy_append, leftBy_cons]
      rfl
    have allowedToo : AllAllowed (trials policy now (earlier ++ [charge]) node) := by
      rw [made]
      exact List.forall_mem_append.mpr ⟨allowed, List.forall_mem_singleton.mpr granting⟩
    refine ⟨allowedToo, ?_, ?_⟩
    · rw [made, lastAdmission_append, List.getLast?_concat, Option.map_some,
        ← same.admission lasting]
      rfl
    · constructor
      case gained =>
        intro index other found
        rw [left]
        by_cases before : index < earlier.length
        · rw [List.getElem?_append_left before] at found
          have different := own other (List.mem_of_getElem? found)
          obtain ⟨seconds, lifetime, held⟩ := spends.gained index other found
          refine ⟨seconds, lifetime, ?_⟩
          rw [trial.left_get? same.quiet fun keys => absurd keys (Ne.symm different)]
          exact held
        · rw [List.getElem?_append_right (Nat.not_lt.mp before)] at found
          obtain ⟨bound, -⟩ := List.getElem?_eq_some_iff.mp found
          have last : index = earlier.length := by
            rw [List.length_singleton] at bound
            omega
          rw [last, Nat.sub_self] at found
          obtain rfl := Option.some.inj found
          rw [last]
          exact holds
      case kept => exact fun charge none => nomatch none
      case others =>
        intro key different
        refine leftBy_get? policy now quiet fun other member keys => absurd keys ?_
        exact different other (List.mem_append_left _ member)
      case store => exact leftBy_store policy now _ quiet
      case serial =>
        have length := congrArg List.length (map_trials_of_allowed allowedToo)
        rw [List.length_map] at length
        rw [leftBy_serial, length]
        rfl

/-- After granted charges, one that finds its window full is refused and leaves what was in it, and
nothing more is tried. -/
theorem spends_of_full {denied : Scope × String} {later : List (Scope × String)}
    (apart : (granted ++ denied :: later).Pairwise fun first second =>
      policy.keyOf first ≠ policy.keyOf second)
    (fresh : policy.IsFreshFor now (granted ++ denied :: later) node)
    (room : ∀ charge ∈ granted, policy.HasLifetime charge ∧
      ¬policy.IsFull Local.held now node.store charge)
    {seconds : Int} (lifetime : (policy.limitOf denied.1).ttl = .ok seconds)
    (lasts : (node.store.memory.clock.later seconds).le node.store.memory.clock = false)
    (full : policy.IsFull Local.held now node.store denied) :
    ∃ trial, trials policy now (granted ++ denied :: later) node =
        trials policy now granted node ++ [trial] ∧ AllAllowed (trials policy now granted node) ∧
      trial.verdict.allowed = false ∧
      trial.admission = policy.admissionOf now node.store.memory denied ∧
      policy.Spends now granted (some denied) node trial.left := by
  obtain ⟨apartToo, -, cross⟩ := List.pairwise_append.mp apart
  have own (first : Scope × String) (member : first ∈ granted) :
      policy.keyOf first ≠ policy.keyOf denied :=
    cross first member denied List.mem_cons_self
  obtain ⟨allowed, -, spends⟩ :=
    spends_of_room quiet apartToo (fresh.of_prefix (List.prefix_append ..)) room
  have same := isSameFor_leftBy quiet allowed own
  have unused := fresh denied (List.mem_append_right _ List.mem_cons_self) granted.length (by simp)
  obtain ⟨refused, holds⟩ := same.refuse unused lifetime lasts full
  let trial : Trial Local := ⟨denied.1, denied.2, policy.limitOf denied.1, now,
    leftBy node (trials policy now granted node)⟩
  have stopped : trials policy now (denied :: later)
      (leftBy node (trials policy now granted node)) = [trial] := by
    rw [trials]
    exact congrArg (List.cons trial) (if_neg (Bool.eq_false_iff.mp refused))
  refine ⟨trial, by rw [trials_append allowed, stopped], allowed, refused,
    same.admission ⟨seconds, lifetime⟩, ?_⟩
  constructor
  case gained =>
    intro index other found
    have different := own other (List.mem_of_getElem? found)
    obtain ⟨seconds, lifetime, held⟩ := spends.gained index other found
    refine ⟨seconds, lifetime, ?_⟩
    rw [trial.left_get? same.quiet fun keys => absurd keys (Ne.symm different)]
    exact held
  case kept =>
    intro charge last
    obtain rfl := Option.mem_some.mp last
    exact holds
  case others =>
    intro key different
    have ownKey : trial.key ≠ key := different denied (List.mem_append_right _ (by simp))
    rw [trial.left_get? same.quiet fun keys => absurd keys ownKey]
    refine spends.others key fun charge member => different charge ?_
    rw [Option.toList_none, List.append_nil] at member
    exact List.mem_append_left _ member
  case store =>
    rw [trial.left_store same.quiet, show trial.found.store = _ from spends.store]
  case serial =>
    have number : trial.found.serial = node.serial + granted.length := same.serial
    rw [Trial.left, number]
    rfl

end Granting

end Policy

/-- The keys of the scopes that an operation charges differ. -/
theorem Operation.charges_apart {policy : Policy} (apart : policy.KeepsApart)
    (operation : Operation) (principal : Principal) (address : Option String) :
    (operation.charges principal address).Pairwise fun first second =>
      policy.keyOf first ≠ policy.keyOf second := by
  have distinct : operation.scopes.Nodup := by cases operation <;> decide
  refine List.Pairwise.filterMap _ (fun first second different charge found other foundToo keys =>
    different ?_) distinct
  obtain ⟨identifier, -, rfl⟩ := Option.map_eq_some_iff.mp found
  obtain ⟨name, -, rfl⟩ := Option.map_eq_some_iff.mp foundToo
  exact (apart _ _ _ _ keys).1

namespace Guard

/-- A denial of the charge can be undone and told: the deadline of its key is not there at once, and
so are the wait for the end of its window and, if headers are wanted, the text of that end. -/
structure CanRefuse (guard : Guard) (clocks : Clocks) (clock : Seconds) (charge : Scope × String) :
    Prop where
  lasts : ∃ seconds, (guard.policy.limitOf charge.1).ttl = .ok seconds ∧
    (clock.later seconds).le clock = false
  waits : ∃ wait, retryAfter (clocks.limiter + (guard.policy.limitOf charge.1).window)
    clocks.guard = .ok wait
  tells : guard.includeHeaders = true →
    ∃ text, resetText (clocks.limiter + (guard.policy.limitOf charge.1).window) = .ok text

/-- A charge that can be refused is refused with its own verdict. -/
theorem CanRefuse.refusal {guard : Guard} {clocks : Clocks} {clock : Seconds}
    {charge : Scope × String} (can : guard.CanRefuse clocks clock charge) (memory : Memory) :
    ∃ wait shown, guard.refusal clocks (guard.policy.admissionOf clocks.limiter memory charge) =
      .problem (exceeded (guard.policy.admissionOf clocks.limiter memory charge) wait shown) := by
  obtain ⟨wait, waits⟩ := can.waits
  have described : guard.includeHeaders = true → ∃ headers,
      guard.headersFor (guard.policy.admissionOf clocks.limiter memory charge) = .ok headers := by
    intro wanted
    obtain ⟨text, told⟩ := can.tells wanted
    exact guard.headersFor_of_told told
  obtain ⟨shown, refused⟩ := @refusal_of_told guard clocks
    (guard.policy.admissionOf clocks.limiter memory charge) wait waits described
  exact ⟨wait, shown, refused⟩

/-- Nothing is charged to an administrator who is spared. From any other caller the scopes that
apply are charged in order. If each has room, each gains one entry and the caller is told the
verdict of the last, or nothing if there is none. Otherwise those before the first full one gain one
entry each, the full one is refused with its own verdict and keeps what was in its window, and no
other key changes. A scope without a lifetime is left as it was. -/
theorem charged_up_to_first_full (settings : Settings.LimitSettings) (guard : Guard)
    (configured : guard.policy = settings.policy) (operation : Operation) (principal : Principal)
    (address : Option String) (clocks : Clocks) (sparesAdmins : Bool) (node : Node Local)
    (quiet : node.store.interference.IsQuiet)
    (fresh : guard.policy.IsFreshFor clocks.limiter (operation.charges principal address) node) :
    let charges := operation.charges principal address
    let memory := node.store.memory
    let step := guard.evaluate operation principal address clocks sparesAdmins node
    let hasRoom (charge : Scope × String) : Prop := guard.policy.HasLifetime charge ∧
      ¬guard.policy.IsFull Local.held clocks.limiter node.store charge
    ((sparesAdmins && principal.isAdmin) = true → step.outcome = .ok none ∧ step.state = node) ∧
    ((sparesAdmins && principal.isAdmin) = false →
      ((∀ charge ∈ charges, hasRoom charge) →
        step.outcome = .ok (charges.getLast?.map
          (guard.policy.admissionOf clocks.limiter memory)) ∧
        guard.policy.Spends clocks.limiter charges none node step.state) ∧
      (∀ granted denied later, charges = granted ++ denied :: later →
        (∀ charge ∈ granted, hasRoom charge) →
        guard.policy.IsFull Local.held clocks.limiter node.store denied →
        guard.CanRefuse clocks memory.clock denied →
        (∃ wait shown, step.outcome = .error (.problem
          (exceeded (guard.policy.admissionOf clocks.limiter memory denied) wait shown))) ∧
        guard.policy.Spends clocks.limiter granted (some denied) node step.state ∧
        ∀ charge ∈ later, step.state.store.memory.held.get? (guard.policy.keyOf charge) =
          memory.held.get? (guard.policy.keyOf charge)) ∧
      ∀ charge ∈ charges, ¬guard.policy.HasLifetime charge →
        step.state.store.memory.held.get? (guard.policy.keyOf charge) =
          memory.held.get? (guard.policy.keyOf charge)) := by
  intro charges memory step hasRoom
  have keepsApart : guard.policy.KeepsApart := configured ▸ settings.keepsApart
  have apart : charges.Pairwise fun first second =>
      guard.policy.keyOf first ≠ guard.policy.keyOf second :=
    operation.charges_apart keepsApart principal address
  refine ⟨fun spared => guard.evaluate_of_spared clocks operation address spared node,
    fun charged => ?_⟩
  obtain ⟨outcome, left⟩ : step.outcome =
        guard.told clocks (trials guard.policy clocks.limiter charges node) none ∧
      step.state = leftBy node (trials guard.policy clocks.limiter charges node) :=
    guard.evaluate_eq works_local.tolerable clocks operation principal address charged quiet
  refine ⟨fun room => ?_, fun granted denied later split room full can => ?_,
    fun charge member endless => ?_⟩
  · obtain ⟨allowed, last, spends⟩ := Policy.spends_of_room quiet apart fresh room
    rw [outcome, left, told_of_allAllowed allowed, last, Option.or_none]
    exact ⟨rfl, spends⟩
  · obtain ⟨seconds, lifetime, lasts⟩ := can.lasts
    rw [split] at apart outcome left
    obtain ⟨trial, made, allowed, refused, admission, spends⟩ :=
      Policy.spends_of_full quiet apart (split ▸ fresh) room lifetime lasts full
    have ended : step.state = trial.left := by
      rw [left, made, leftBy_append, leftBy_cons]
      rfl
    refine ⟨?_, ended ▸ spends, fun charge member => ?_⟩
    · obtain ⟨wait, shown, told⟩ := can.refusal memory
      refine ⟨wait, shown, ?_⟩
      rw [outcome, made, told_concat_of_denied allowed refused, admission, told]
    · rw [List.append_cons] at apart
      rw [ended]
      refine spends.others _ fun earlier tried => ?_
      exact (List.pairwise_append.mp apart).2.2 earlier tried charge member
  · rw [left]
    refine leftBy_get? _ _ quiet fun other listed keys => ?_
    obtain ⟨scopes, names⟩ := keepsApart _ _ _ _ keys
    rwa [show other = charge from Prod.ext scopes names]

/-- Settings with the window and the capacity of a limit for one scope. -/
def settingsWith (scope : Scope) (limit : Limit) : Settings.LimitSettings where
  budget := fun other =>
    if other = scope then ⟨⟨limit.window, limit.window_pos⟩, ⟨limit.capacity, limit.capacity_pos⟩⟩
    else Settings.Budget.default other

/-- A guard that admits one invitation of an administrator in a second. -/
def oneInvitation : Guard where
  policy := (settingsWith .invitationAdmin .onePerSecond).policy

/-- An administrator of a tenant. -/
def inviter : Principal := { userId := some "u", tenantId := some "t", roles := ["Admin"] }

/-- What an invitation charges: the tenant, then the inviter. -/
def invitationCharges : List (Scope × String) :=
  [(.invitationTenant, "t"), (.invitationAdmin, "u")]

/-- A node on which nothing is recorded. -/
def vacantNode : Node Local := ⟨vacantStore .locked (.whole 0), 1⟩

/-- The node after an invitation. -/
def invited : Node Local :=
  (oneInvitation.evaluate .invitationCreation inviter none ⟨0, 0⟩ false vacantNode).state

/-- The charges of an invitation have lifetimes. -/
theorem hasLifetime_invitationCharges :
    ∀ charge ∈ invitationCharges, oneInvitation.policy.HasLifetime charge := by
  have tenant : oneInvitation.policy.HasLifetime (.invitationTenant, "t") :=
    ⟨86460, (Limit.ttl_eq_ok_iff _ _).mpr (by decide +kernel)⟩
  have admin : oneInvitation.policy.HasLifetime (.invitationAdmin, "u") :=
    ⟨61, (Limit.ttl_eq_ok_iff _ _).mpr (by decide +kernel)⟩
  exact List.forall_mem_cons.mpr ⟨tenant, List.forall_mem_singleton.mpr admin⟩

/-- The second invitation of an administrator is charged to the tenant and refused; one who is
spared is charged nothing. -/
theorem second_invitation_refused :
    let step := oneInvitation.evaluate .invitationCreation inviter none ⟨500, 700⟩ false invited
    let spared := oneInvitation.evaluate .invitationCreation inviter none ⟨500, 700⟩ true invited
    let rowsOf (node : Node Local) : List (List (String × Int)) :=
      invitationCharges.map fun charge => node.store.memory.rows (oneInvitation.policy.keyOf charge)
    oneInvitation.policy.Spends 0 invitationCharges none vacantNode invited ∧
      rowsOf invited = [[("0-000000000001", 0)], [("0-000000000002", 0)]] ∧
      (∃ wait shown, step.outcome = .error (.problem (exceeded
        (oneInvitation.policy.admissionOf 500 invited.store.memory (.invitationAdmin, "u"))
        wait shown))) ∧
      rowsOf step.state =
        [[("0-000000000001", 0), ("500-000000000003", 500)], [("0-000000000002", 0)]] ∧
      spared.state = invited := by
  intro step spared rowsOf
  obtain ⟨-, charged⟩ := charged_up_to_first_full _ oneInvitation rfl .invitationCreation inviter
    none ⟨0, 0⟩ false vacantNode (fun name => rfl) (by decide +kernel)
  obtain ⟨granting, -, -⟩ := charged rfl
  obtain ⟨-, first⟩ : _ ∧ oneInvitation.policy.Spends 0 invitationCharges none vacantNode invited :=
    granting fun charge member =>
      ⟨hasLifetime_invitationCharges charge member, by revert charge; decide +kernel⟩
  have quiet : invited.store.interference.IsQuiet := by
    rw [first.store]
    exact fun name => rfl
  have can : oneInvitation.CanRefuse ⟨500, 700⟩ invited.store.memory.clock
      (.invitationAdmin, "u") := by
    refine ⟨⟨61, ?_, by decide +kernel⟩, ⟨1, ?_⟩, fun _ => ?_⟩
    · exact (Limit.ttl_eq_ok_iff _ _).mpr (by decide +kernel)
    · rfl
    · exact resetText_of_calendar (by decide +kernel) (by decide +kernel)
  obtain ⟨-, chargedToo⟩ := charged_up_to_first_full _ oneInvitation rfl .invitationCreation inviter
    none ⟨500, 700⟩ false invited quiet (by decide +kernel)
  obtain ⟨sparing, -⟩ := charged_up_to_first_full _ oneInvitation rfl .invitationCreation inviter
    none ⟨500, 700⟩ true invited quiet (by decide +kernel)
  obtain ⟨-, refusing, -⟩ := chargedToo rfl
  obtain ⟨refused, -, -⟩ := refusing [(.invitationTenant, "t")] (.invitationAdmin, "u") [] rfl
    (List.forall_mem_singleton.mpr
      ⟨hasLifetime_invitationCharges _ List.mem_cons_self, by decide +kernel⟩)
    (by decide +kernel) can
  exact ⟨first, by decide +kernel, refused, by decide +kernel, (sparing (by decide +kernel)).2⟩

/-- A guard that admits an address to one visit in a window without a lifetime. -/
def oneVisitEver : Guard where
  policy := (settingsWith .invitationIp endlessLimit).policy

/-- Visits of an address are granted under a window without a lifetime and leave no entry there,
while the visitor's own scope is charged for each. -/
theorem endless_scope_not_charged :
    let visits : List (Scope × String) := [(.invitationIp, "198.51.100.7"),
      (.invitationAcceptance, "u")]
    let visit (node : Node Local) :=
      oneVisitEver.evaluate .invitationAcceptance inviter (some "198.51.100.7") ⟨0, 0⟩ false node
    let entries (node : Node Local) : List (List (String × Int)) :=
      visits.map fun charge => node.store.memory.rows (oneVisitEver.policy.keyOf charge)
    Operation.invitationAcceptance.charges inviter (some "198.51.100.7") = visits ∧
      (∀ charge ∈ visits, ¬oneVisitEver.policy.IsFull Local.held 0 vacantNode.store charge) ∧
      (visit vacantNode).outcome.isOk = true ∧
      entries (visit vacantNode).state = [[], [("0-000000000002", 0)]] ∧
      entries (visit (visit vacantNode).state).state =
        [[], [("0-000000000002", 0), ("0-000000000004", 0)]] := by
  refine ⟨?_, ?_, ?_, ?_, ?_⟩ <;> decide +kernel

end Guard

end Turnstile
