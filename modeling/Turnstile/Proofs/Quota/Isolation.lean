import Turnstile.Proofs.Limiter.Refinement
import Turnstile.Proofs.Limiter.Solitary
import Turnstile.Proofs.Policy.Keys
import Turnstile.Proofs.Quota.Call

/-!
# Quotas do not meet

What is asked of one quota is answered from the history of that quota alone, over any run of
errands on the quotas: whatever is asked of other scopes or other identifiers makes no difference.
-/

namespace Turnstile.Quota

open Limiter Store Time

/-! ## Errands -/

/-- Whatever may be asked of the quotas. -/
inductive Errand where
  | check (scope : Scope) (identifier : String)
  | status (scope : Scope) (identifier : String)
  | reset (scope : Scope) (identifier : String)
  | checkEmail (address : String)
  | tenantStatus (identifier : String)
  | adminStatus (identifier : String)
  | userStatus (identifier : String)
deriving DecidableEq, Repr

/-- One call on a quota. -/
structure Part where
  request : Limiter.Request
  scope : Scope
  identifier : String
deriving DecidableEq, Repr

/-- The call is one on the quota of a scope and an identifier. -/
def Part.isOn (scope : Scope) (identifier : String) (part : Part) : Bool :=
  part.scope = scope ∧ part.identifier = identifier

/-- The looks at several scopes of one identifier. -/
def looks (scopes : List (String × Scope)) (identifier : String) : List Part :=
  scopes.map fun entry => ⟨.status, entry.2, identifier⟩

namespace Errand

/-- The calls that an errand consists of, in turn. -/
def parts : Errand → List Part
  | .check scope identifier => [⟨.check, scope, identifier⟩]
  | .status scope identifier => [⟨.status, scope, identifier⟩]
  | .reset scope identifier => [⟨.reset, scope, identifier⟩]
  | .checkEmail address => [⟨.check, .invitationEmail, normalizeEmail address⟩]
  | .tenantStatus identifier => looks tenantScopes identifier
  | .adminStatus identifier => looks adminScopes identifier
  | .userStatus identifier => looks userScopes identifier

/-- Run an errand; yields one answer for each of its calls. -/
def perform {σ : Type} [Backend σ] (policy : Policy) (now : Int) :
    Errand → Action (Node σ) (List (Option Verdict))
  | .check scope identifier => do return [some (← Quota.check policy scope identifier now)]
  | .status scope identifier => do return [some (← Quota.status policy scope identifier now)]
  | .reset scope identifier => do
    Quota.reset policy scope identifier
    return [none]
  | .checkEmail address => do return [some (← Quota.checkEmail policy address now)]
  | .tenantStatus identifier => do
    return (← statuses policy tenantScopes identifier now).map fun entry => some entry.2
  | .adminStatus identifier => do
    return (← statuses policy adminScopes identifier now).map fun entry => some entry.2
  | .userStatus identifier => do
    return (← statuses policy userScopes identifier now).map fun entry => some entry.2

end Errand

section Parts

variable {σ : Type} [Backend σ] (policy : Policy) (now : Int)

/-- Calls in turn. -/
def callAll (parts : List Part) : Action (Node σ) (List (Option Verdict)) :=
  parts.mapM fun part => call policy part.request part.scope part.identifier now

/-- The statuses of several scopes are looks in turn. -/
theorem statuses_eq (scopes : List (String × Scope)) (identifier : String) :
    (do return (← statuses (σ := σ) policy scopes identifier now).map fun entry => some entry.2) =
      callAll policy now (looks scopes identifier) := by
  induction scopes with
  | nil => rfl
  | cons entry rest ih =>
    simp only [statuses, looks, callAll, List.map_cons, List.mapM_cons, call] at ih ⊢
    simp only [bind_assoc, pure_bind, List.map_cons, ← ih]

/-- An errand is its calls in turn. -/
theorem perform_eq (errand : Errand) :
    errand.perform (σ := σ) policy now = callAll policy now errand.parts := by
  cases errand with
  | check scope identifier => simp [Errand.perform, Errand.parts, callAll, call]
  | status scope identifier => simp [Errand.perform, Errand.parts, callAll, call]
  | reset scope identifier => simp [Errand.perform, Errand.parts, callAll, call]
  | checkEmail address => simp [Errand.perform, Errand.parts, callAll, call, checkEmail]
  | tenantStatus identifier => exact statuses_eq policy now tenantScopes identifier
  | adminStatus identifier => exact statuses_eq policy now adminScopes identifier
  | userStatus identifier => exact statuses_eq policy now userScopes identifier

end Parts

/-! ## Calls in turn on the local store -/

/-- The calls on one quota among several, made at readings of the clocks. -/
def asks (scope : Scope) (identifier : String) (now : Int) (clock : Seconds)
    (parts : List Part) : List Asked :=
  (parts.filter (·.isOn scope identifier)).map fun part => ⟨part.request, now, clock⟩

/-- What the calls on one quota are told among several. -/
def toldOf (scope : Scope) (identifier : String) (parts : List Part)
    (values : List (Option Verdict)) : List (Option Verdict) :=
  ((parts.zip values).filter (·.1.isOn scope identifier)).map Prod.snd

/-- What a run asks of a quota is asked part by part. -/
theorem asks_cons (scope : Scope) (identifier : String) (now : Int) (clock : Seconds)
    (part : Part) (rest : List Part) : asks scope identifier now clock (part :: rest) =
      asks scope identifier now clock [part] ++ asks scope identifier now clock rest := by
  simp only [asks, ← List.map_append, ← List.filter_append, List.singleton_append]

/-- What a run is told of a quota is told part by part. -/
theorem toldOf_cons (scope : Scope) (identifier : String) (part : Part) (rest : List Part)
    (value : Option Verdict) (values : List (Option Verdict)) :
    toldOf scope identifier (part :: rest) (value :: values) =
      toldOf scope identifier [part] [value] ++ toldOf scope identifier rest values := by
  simp only [toldOf, ← List.map_append, ← List.filter_append, List.zip_cons_cons,
    List.zip_nil_left, List.singleton_append]

/-- How calls in turn leave a store that refuses nothing: each quota is told, and holds, what
follows from its own calls, the clock stands, and only a check may have added an entry. -/
structure Tells (policy : Policy) (now : Int) (parts : List Part) (node : Node Local)
    (values : List (Option Verdict)) (left : Local) : Prop where
  length : values.length = parts.length
  calm : left.interference = node.store.interference
  clock : left.memory.clock = node.store.memory.clock
  names : ∀ key, ∀ row ∈ left.memory.rows key, row ∈ node.store.memory.rows key ∨
    (∃ part ∈ parts, part.request = .check) ∧ row.1 = entryId now node.serial
  told : ∀ scope identifier, toldOf scope identifier parts values =
    Holding.answers (policy.limitOf scope)
      (holding node.store.memory ((policy.limitOf scope).key identifier))
      (asks scope identifier now node.store.memory.clock parts)
  holding : ∀ scope identifier,
    holding left.memory ((policy.limitOf scope).key identifier) =
      Holding.after (policy.limitOf scope)
        (holding node.store.memory ((policy.limitOf scope).key identifier))
        (asks scope identifier now node.store.memory.clock parts)

section Calls

variable {policy : Policy} {now : Int}

variable (apart : policy.KeepsApart)
include apart

/-- One call tells its quota alone. -/
theorem tells_call (part : Part) {node : Node Local} (quiet : node.store.interference.IsQuiet)
    (fresh : (visit policy part.request part.scope part.identifier now node).IsFresh
      node.store.memory) :
    ∃ value left, (call policy part.request part.scope part.identifier now node).outcome =
        .ok value ∧
      (call policy part.request part.scope part.identifier now node).state =
        ⟨left, node.serial + if part.request = .check then 1 else 0⟩ ∧
      Tells policy now [part] node [value] left := by
  obtain ⟨outcome, state⟩ :=
    call_eq_serve policy part.request part.scope part.identifier now node
  obtain ⟨told, calm, leaves⟩ := Visit.serve_of_fresh _ quiet fresh
  refine ⟨_, _, outcome.trans told, state, rfl, calm, leaves.clock, fun key row member => ?_,
    fun scope identifier => ?_, fun scope identifier => ?_⟩
  · by_cases same : key = (visit policy part.request part.scope part.identifier now node).key
    · subst same
      refine (leaves.names row member).imp_right fun made => ?_
      exact ⟨⟨part, List.mem_singleton_self _, made.1⟩, made.2⟩
    · rw [Memory.rows, leaves.frame key same] at member
      exact .inl member
  · by_cases own : part.isOn scope identifier = true
    · obtain ⟨rfl, rfl⟩ := of_decide_eq_true own
      simp only [toldOf, asks, List.zip_cons_cons, List.zip_nil_left, List.filter_cons, own,
        if_true, List.filter_nil, List.map_cons, List.map_nil, Holding.answers]
      rfl
    · simp only [toldOf, asks, List.zip_cons_cons, List.zip_nil_left, List.filter_cons, own,
        if_false, List.filter_nil, List.map_nil, Holding.answers, Bool.false_eq_true]
  · by_cases own : part.isOn scope identifier = true
    · obtain ⟨rfl, rfl⟩ := of_decide_eq_true own
      simp only [asks, List.filter_cons, own, if_true, List.filter_nil, List.map_cons,
        List.map_nil]
      exact leaves.holding
    · have others : (policy.limitOf scope).key identifier ≠
          (visit policy part.request part.scope part.identifier now node).key := by
        intro same
        obtain ⟨rfl, rfl⟩ := apart _ _ _ _ same
        exact own (decide_eq_true ⟨rfl, rfl⟩)
      simp only [asks, List.filter_cons, own, if_false, List.filter_nil, List.map_nil,
        Bool.false_eq_true]
      rw [Limiter.holding, leaves.frame _ others]
      rfl

omit apart in
/-- A call and then others, none of which adds an entry. -/
theorem Tells.cons {part : Part} {rest : List Part} {node : Node Local} {value : Option Verdict}
    {values : List (Option Verdict)} {middle left : Local} {serial : Nat}
    (first : Tells policy now [part] node [value] middle)
    (others : Tells policy now rest ⟨middle, serial⟩ values left)
    (quietly : ∀ part ∈ rest, part.request ≠ .check) :
    Tells policy now (part :: rest) node (value :: values) left where
  length := congrArg (· + 1) others.length
  calm := others.calm.trans first.calm
  clock := others.clock.trans first.clock
  names key row member := by
    rcases others.names key row member with before | ⟨⟨other, listed, checked⟩, _⟩
    · refine (first.names key row before).imp_right fun ⟨⟨made, listed, checked⟩, named⟩ => ?_
      obtain rfl := List.mem_singleton.mp listed
      exact ⟨⟨made, List.mem_cons_self .., checked⟩, named⟩
    · exact absurd checked (quietly other listed)
  told scope identifier := by
    have after := others.told scope identifier
    simp only [first.clock] at after
    rw [toldOf_cons, asks_cons, Holding.answers_append, first.told, after,
      ← first.holding scope identifier]
  holding scope identifier := by
    have after := others.holding scope identifier
    simp only [first.clock] at after
    rw [asks_cons, Holding.after_append, after, ← first.holding scope identifier]

/-- Calls in turn tell each quota what follows from its own. -/
theorem tells_callAll (parts : List Part)
    (lone : ∀ part ∈ parts, part.request = .check → parts = [part]) {node : Node Local}
    (quiet : node.store.interference.IsQuiet)
    (fresh : ∀ part ∈ parts, (visit policy part.request part.scope part.identifier now
      node).IsFresh node.store.memory) :
    ∃ values, (callAll policy now parts node).outcome = .ok values ∧
      Tells policy now parts node values (callAll policy now parts node).state.store := by
  induction parts generalizing node with
  | nil =>
    exact ⟨[], rfl, rfl, rfl, rfl, fun _ _ member => .inl member, fun _ _ => rfl, fun _ _ => rfl⟩
  | cons part rest ih =>
    have quietly : ∀ other ∈ rest, other.request ≠ .check := by
      intro other listed checked
      have alone := lone other (List.mem_cons_of_mem _ listed) checked
      rw [(List.cons.inj alone).2] at listed
      cases listed
    obtain ⟨value, middle, outcome, state, first⟩ :=
      tells_call apart part quiet (fresh part (List.mem_cons_self ..))
    obtain ⟨values, others, left⟩ := @ih
      (fun other listed checked => absurd checked (quietly other listed))
      ⟨middle, node.serial + if part.request = .check then 1 else 0⟩ (first.calm ▸ quiet)
      (fun other listed checked => absurd checked (quietly other listed))
    refine ⟨value :: values, ?_, ?_⟩
    · simp only [callAll, List.mapM_cons] at others ⊢
      rw [Action.bind_apply_ok outcome, state]
      simp only [Action.bind_apply_ok others]
      rfl
    · have ended : (callAll policy now (part :: rest) node).state.store =
          (callAll policy now rest
            ⟨middle, node.serial + if part.request = .check then 1 else 0⟩).state.store := by
        simp only [callAll, List.mapM_cons] at others ⊢
        rw [Action.bind_apply_ok outcome, state]
        simp only [Action.bind_apply_ok others]
        rfl
      rw [ended]
      exact first.cons left quietly

end Calls

/-- An errand that charges a quota is one call. -/
theorem Errand.eq_singleton_of_check (errand : Errand) :
    ∀ part ∈ errand.parts, part.request = .check → errand.parts = [part] := by
  have noCheck (scopes : List (String × Scope)) (identifier : String) :
      ∀ part ∈ looks scopes identifier, part.request = .check →
        looks scopes identifier = [part] := by
    intro part listed checked
    obtain ⟨entry, _, rfl⟩ := List.mem_map.mp listed
    cases checked
  intro part listed checked
  cases errand with
  | check _ _ => rw [List.mem_singleton.mp listed]; rfl
  | status _ _ => rw [List.mem_singleton.mp listed]; rfl
  | reset _ _ => rw [List.mem_singleton.mp listed]; rfl
  | checkEmail _ => rw [List.mem_singleton.mp listed]; rfl
  | tenantStatus identifier => exact noCheck tenantScopes identifier part listed checked
  | adminStatus identifier => exact noCheck adminScopes identifier part listed checked
  | userStatus identifier => exact noCheck userScopes identifier part listed checked

/-! ## Runs of errands -/

/-- An errand and what the world decides about it: the readings of the two clocks, and the number
that the entry of a check takes. -/
structure Round where
  errand : Errand
  now : Int
  clock : Seconds
  serial : Nat

namespace Round

variable (round : Round)

/-- The errand charges a quota. -/
def charges : Prop := ∃ part ∈ round.errand.parts, part.request = .check

/-- The name of the entry of a check. -/
def entry : String := entryId round.now round.serial

/-- Checks have entries of their own. -/
def HasOwnEntry (first second : Round) : Prop :=
  first.charges → second.charges → first.entry ≠ second.entry

/-- What the errand finds. -/
def ready (store : Local) : Node Local := ⟨Surrounded.enter round.clock store, round.serial⟩

/-- How the errand ends, and the store afterwards. -/
def serve (policy : Policy) (store : Local) : Except Failure (List (Option Verdict)) × Local :=
  let step := round.errand.perform policy round.now (round.ready store)
  (step.outcome, step.state.store)

/-- The calls of the errand on one quota. -/
def callsOn (scope : Scope) (identifier : String) : List Asked :=
  asks scope identifier round.now round.clock round.errand.parts

end Round

/-- Errands in turn, each with how it ended. -/
def log (policy : Policy) : Local → List Round →
    List (Round × Except Failure (List (Option Verdict)))
  | _, [] => []
  | store, round :: rest =>
    (round, (round.serve policy store).1) :: log policy (round.serve policy store).2 rest

/-- The calls of several errands on one quota. -/
def callsOn (scope : Scope) (identifier : String) (rounds : List Round) : List Asked :=
  rounds.flatMap (·.callsOn scope identifier)

/-- The results of the calls on one quota. -/
def resultsOn (scope : Scope) (identifier : String)
    (ended : List (Round × Except Failure (List (Option Verdict)))) : List (Option Verdict) :=
  ended.flatMap fun entry => match entry.2 with
    | .ok values => toldOf scope identifier entry.1.errand.parts values
    | .error _ => []

/-- Every errand is answered, each of its calls with a value. -/
def IsAnswered (ended : List (Round × Except Failure (List (Option Verdict)))) : Prop :=
  ∀ entry ∈ ended, ∃ values, entry.2 = .ok values ∧ values.length = entry.1.errand.parts.length

section Runs

variable {policy : Policy} (apart : policy.KeepsApart)
include apart

/-- An errand tells each quota what follows from its own calls. -/
theorem tells_serve (round : Round) {store : Local} (quiet : store.interference.IsQuiet)
    (fresh : round.charges → ∀ key, ∀ row ∈ store.memory.rows key, row.1 ≠ round.entry) :
    ∃ values, (round.serve policy store).1 = .ok values ∧
      Tells policy round.now round.errand.parts (round.ready store) values
        (round.serve policy store).2 := by
  obtain ⟨values, outcome, tells⟩ := @tells_callAll policy round.now apart round.errand.parts
    round.errand.eq_singleton_of_check (round.ready store) quiet
    fun part listed checked row member => fresh ⟨part, listed, checked⟩ _ row member
  rw [← perform_eq] at outcome tells
  exact ⟨values, outcome, tells⟩

/-- In a run of errands each quota is told what follows from its own calls. -/
theorem resultsOn_log (rounds : List Round) {store : Local} (quiet : store.interference.IsQuiet)
    (distinct : rounds.Pairwise Round.HasOwnEntry)
    (fresh : ∀ round ∈ rounds, round.charges →
      ∀ key, ∀ row ∈ store.memory.rows key, row.1 ≠ round.entry) :
    IsAnswered (log policy store rounds) ∧ ∀ scope identifier,
      resultsOn scope identifier (log policy store rounds) =
        Holding.answers (policy.limitOf scope)
          (holding store.memory ((policy.limitOf scope).key identifier))
          (callsOn scope identifier rounds) := by
  induction rounds generalizing store with
  | nil => exact ⟨fun _ member => (nomatch member), fun _ _ => rfl⟩
  | cons round rest ih =>
    obtain ⟨apartFrom, others⟩ := List.pairwise_cons.mp distinct
    obtain ⟨values, outcome, tells⟩ :=
      tells_serve apart round quiet (fresh round (List.mem_cons_self ..))
    have still : ∀ later ∈ rest, later.charges → ∀ key,
        ∀ row ∈ (round.serve policy store).2.memory.rows key, row.1 ≠ later.entry := by
      intro later listed charges key row member
      rcases tells.names key row member with old | ⟨made, named⟩
      · exact fresh later (List.mem_cons_of_mem _ listed) charges key row old
      · rw [named]
        exact apartFrom later listed made charges
    obtain ⟨answered, told⟩ := ih (tells.calm ▸ quiet) others still
    refine ⟨fun entry member => ?_, fun scope identifier => ?_⟩
    · rcases List.mem_cons.mp member with rfl | later
      · exact ⟨values, outcome, tells.length⟩
      · exact answered entry later
    · have first := tells.told scope identifier
      have left := tells.holding scope identifier
      have after := told scope identifier
      simp only [log, resultsOn, callsOn, List.flatMap_cons, outcome] at after ⊢
      rw [after, first, Holding.answers_append, left]
      rfl

end Runs

/-- Keys under accepted settings tell scopes and identifiers apart, and two runs of errands that
make the same calls on one quota at the same readings of the clocks get the same results on it,
whatever else they ask. -/
theorem quotas_isolated (settings : Settings.LimitSettings) :
    Policy.ofWindows (fun scope => settings.limitsFor scope.name) = .ok settings.policy ∧
      (∀ (scope other : Scope) (identifier name : String),
        (settings.policy.limitOf scope).key identifier =
          (settings.policy.limitOf other).key name → scope = other ∧ identifier = name) ∧
      ∀ (scope : Scope) (identifier : String) (batching other : Batching) (start first : Seconds)
        (rounds others : List Round), rounds.Pairwise Round.HasOwnEntry →
        others.Pairwise Round.HasOwnEntry →
        callsOn scope identifier rounds = callsOn scope identifier others →
        IsAnswered (log settings.policy (vacantStore batching start) rounds) ∧
          resultsOn scope identifier (log settings.policy (vacantStore batching start) rounds) =
            resultsOn scope identifier (log settings.policy (vacantStore other first) others) := by
  have apart := settings.keepsApart
  refine ⟨settings.ofWindows_limitsFor, settings.keepsApart,
    fun scope identifier batching other start first rounds others distinct apartOthers same => ?_⟩
  have empty (batching : Batching) (start : Seconds) : ∀ (round : Round), round.charges → ∀ key,
      ∀ row ∈ (vacantStore batching start).memory.rows key, row.1 ≠ round.entry :=
    fun _ _ _ _ member => nomatch member
  obtain ⟨answered, told⟩ := @resultsOn_log settings.policy apart rounds
    (vacantStore batching start) (fun _ => rfl) distinct fun round _ => empty batching start round
  obtain ⟨_, toldOthers⟩ := @resultsOn_log settings.policy apart others (vacantStore other first)
    (fun _ => rfl) apartOthers fun round _ => empty other first round
  refine ⟨answered, ?_⟩
  rw [told, toldOthers, same]
  rfl

/-- A charge, and a look at all quotas of its user. -/
def ownRounds : List Round :=
  [⟨.check .tenantCreation "u", 0, .whole 0, 1⟩, ⟨.userStatus "u", 5, .whole 0, 0⟩]

/-- The same among charges and resets of quotas with names much alike. -/
def mixedRounds : List Round :=
  [⟨.check .tenantJoining "u", 0, .whole 0, 1⟩, ⟨.checkEmail " U ", 0, .whole 0, 2⟩,
    ⟨.check .tenantCreation "u", 0, .whole 0, 3⟩,
    ⟨.reset .tenantCreation "tenant_creation_rate_limit:u", 1, .whole 0, 0⟩,
    ⟨.check .tenantCreation "", 2, .whole 0, 4⟩, ⟨.userStatus "u", 5, .whole 0, 0⟩]

/-- The mixed run tells the quota of creations what its own two calls would be told alone. -/
theorem mixedRounds_isolated :
    resultsOn .tenantCreation "u" (log (default : Settings.LimitSettings).policy
        (vacantStore .separate (.whole 0)) mixedRounds) =
      [some ⟨true, 2, 3600000, 1⟩, some ⟨true, 2, 3600005, 1⟩] := by
  have entries (rounds : List Round) (different : rounds.Pairwise fun first second =>
      first.entry ≠ second.entry) : rounds.Pairwise Round.HasOwnEntry :=
    different.imp fun apart _ _ => apart
  have isolated := ((quotas_isolated default).2.2 .tenantCreation "u" .locked .separate
    (.whole 0) (.whole 0) ownRounds mixedRounds (entries _ (by decide +kernel))
    (entries _ (by decide +kernel)) (by decide +kernel)).2
  exact isolated.symm

end Turnstile.Quota
