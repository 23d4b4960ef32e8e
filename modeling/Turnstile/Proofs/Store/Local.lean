import Turnstile.Proofs.Store.Unsteady

/-!
# How the local store answers

However it sends its batches, the local store answers a call as the store in memory does when no
call is touched. When calls are refused, it answers as an unsteady store whose clock stands still.
-/

namespace Turnstile.Store

namespace Interference

/-- Calls are refused by ordinary failures at most; none is answered without being carried out. -/
def OnlyRefuses (interference : Interference) : Prop :=
  interference.answering = [] ∧
    ∀ refusal ∈ interference.failing, refusal.2.isInterruption = false

/-- No call is touched. -/
def IsQuiet (interference : Interference) : Prop :=
  ∀ name, interference.outcome? name = Option.none

/-- A call is left alone or refused by an ordinary failure. -/
theorem OnlyRefuses.outcome?_cases {interference : Interference}
    (refuses : interference.OnlyRefuses) (name : String) :
    interference.outcome? name = Option.none ∨
      ∃ failure, failure.isInterruption = false ∧
        interference.outcome? name = some (.error failure) := by
  unfold outcome?
  cases found : interference.failing.lookup name with
  | none => exact .inl (by rw [refuses.1]; rfl)
  | some failure =>
    obtain ⟨before, rest, split, _⟩ := List.lookup_eq_some_iff.mp found
    have member : (name, failure) ∈ interference.failing :=
      split ▸ List.mem_append_right _ (List.mem_cons_self ..)
    exact .inr ⟨failure, refuses.2 _ member, rfl⟩

end Interference

namespace Local

variable (store : Local)

/-- A single call that is not touched is carried out. -/
theorem single_of_none {call : Call} (quiet : store.interference.outcome? call.name = none) :
    single call store = direct call store := by
  unfold single
  rw [quiet]

/-- A call that is no batch goes out as it is. -/
theorem answer_of_elementary {call : Call} (elementary : call.parts? = none) :
    answer call store = single call store := by
  unfold answer
  split
  · rename_i split _
    rw [elementary] at split
    cases split
  · rfl

/-- On a store that refuses nothing, calls in a row are answered from the memory. -/
theorem runAll_of_quiet (calls : List Call) (store : Local)
    (quiet : store.interference.IsQuiet) :
    runAll single calls store = ⟨.ok (store.memory.replies calls), [],
      { store with memory := store.memory.after calls }⟩ := by
  induction calls generalizing store with
  | nil => rfl
  | cons call rest ih =>
    have tail := ih { store with memory := (store.memory.run call).2 } quiet
    simp only [runAll, Action.bind_apply, single_of_none store (quiet _), direct, tail]
    rfl

/-- A call on a store that refuses nothing is carried out, however batches are sent. -/
theorem answer_of_quiet (quiet : store.interference.IsQuiet) (memory : Memory) (call : Call) :
    answer call { store with memory } =
      ⟨.ok (memory.run call).1, [], { store with memory := (memory.run call).2 }⟩ := by
  unfold answer
  split
  · rename_i parts place _ split _
    simp only [Action.bind_apply, runAll_of_quiet parts { store with memory } quiet]
    obtain ⟨state, reply⟩ := Memory.parts_run split memory
    simp only [Action.pure_apply, List.append_nil, state, reply]
  · rw [single_of_none { store with memory } (quiet _)]
    rfl

end Local

/-! ## Refusals as occasions -/

namespace Unsteady

/-- With an occasion ahead at which nothing fails and the clock stands still, a command is carried
out there. -/
theorem command_calm (call : Call) (memory : Memory) (rest : List Occasion) :
    command call ⟨memory, ⟨memory.clock, none⟩ :: rest⟩ =
      ⟨.ok (memory.run call).1, [], ⟨(memory.run call).2, rest⟩⟩ := by
  simp only [command, refusal?, here, List.head?_cons, Option.bind_some, List.tail_cons,
    Memory.setClock_self]

/-- A call that the occasion refuses fails, and leaves the memory. -/
theorem command_refused (call : Call) (memory : Memory) (failure : Failure)
    (rest : List Occasion) :
    command call ⟨memory, ⟨memory.clock, some failure⟩ :: rest⟩ =
      ⟨.error failure, [], ⟨memory, rest⟩⟩ := by
  simp only [command, refusal?, here, List.head?_cons, Option.bind_some, List.tail_cons,
    Memory.setClock_self]

/-- Commands in turn that all find the clock standing still and nothing failing. -/
theorem runAll_calm (calls : List Call) (memory : Memory) : ∃ ahead : List Occasion,
    (∀ occasion ∈ ahead, occasion.IsOrdinary) ∧ ∀ rest,
      runAll command calls ⟨memory, ahead ++ rest⟩ =
        ⟨.ok (memory.replies calls), [], ⟨memory.after calls, rest⟩⟩ := by
  induction calls generalizing memory with
  | nil => exact ⟨[], List.forall_mem_nil _, fun _ => rfl⟩
  | cons call others ih =>
    obtain ⟨ahead, ordinary, came⟩ := ih (memory.run call).2
    refine ⟨⟨memory.clock, none⟩ :: ahead,
      List.forall_mem_cons.mpr ⟨Occasion.isOrdinary_of_clock _, ordinary⟩, ?_⟩
    intro rest
    simp only [List.cons_append, runAll, Action.bind_apply, command_calm, came, Action.pure_apply,
      List.append_nil, Memory.replies, Memory.after, List.foldl_cons]

end Unsteady

namespace Local

/-- The unsteady store with some occasions ahead, that do not end by an interruption, answers as an
action on the local store, and uses the occasions up. -/
def IsUnsteady {α : Type} (store : Local) (action : Action Local α)
    (unsteady : Action Unsteady α) : Prop :=
  ∃ ahead : List Occasion, (∀ occasion ∈ ahead, occasion.IsOrdinary) ∧ ∀ rest,
    unsteady ⟨store.memory, ahead ++ rest⟩ =
      ⟨(action store).outcome, [], ⟨(action store).state.memory, rest⟩⟩

variable {store : Local}

/-- A store that only refuses calls is one that fails by occasions. -/
theorem single_isUnsteady (refuses : store.interference.OnlyRefuses) (call : Call) :
    store.IsUnsteady (single call) (Unsteady.command call) := by
  obtain quiet | ⟨failure, ordinary, refused⟩ := refuses.outcome?_cases call.name
  · refine ⟨[⟨store.memory.clock, none⟩],
      List.forall_mem_singleton.mpr (Occasion.isOrdinary_of_clock _), fun rest => ?_⟩
    rw [single_of_none store quiet]
    exact Unsteady.command_calm call store.memory rest
  · refine ⟨[⟨store.memory.clock, some failure⟩],
      List.forall_mem_singleton.mpr (Occasion.isOrdinary_of_failure _ ordinary), fun rest => ?_⟩
    unfold single
    rw [refused]
    exact Unsteady.command_refused call store.memory failure rest

/-- Separate commands on a store that refuses some calls. -/
theorem runAll_isUnsteady (calls : List Call) {store : Local}
    (refuses : store.interference.OnlyRefuses) :
    store.IsUnsteady (runAll single calls) (runAll Unsteady.command calls) := by
  induction calls generalizing store with
  | nil => exact ⟨[], List.forall_mem_nil _, fun _ => rfl⟩
  | cons call others ih =>
    obtain ⟨first, firstOrdinary, came⟩ := single_isUnsteady refuses call
    have kept : (single call store).state.interference = store.interference := by
      unfold single
      split <;> rfl
    have still : (single call store).state.interference.OnlyRefuses := kept ▸ refuses
    obtain ⟨last, lastOrdinary, ended⟩ := ih still
    simp only [IsUnsteady, runAll, Action.bind_apply]
    cases outcome : (single call store).outcome with
    | error failure =>
      refine ⟨first, firstOrdinary, fun rest => ?_⟩
      simp only [came, outcome]
    | ok reply =>
      refine ⟨first ++ last, List.forall_mem_append.mpr ⟨firstOrdinary, lastOrdinary⟩, ?_⟩
      intro rest
      rw [List.append_assoc]
      simp only [came, outcome, ended]
      cases (runAll single others (single call store).state).outcome <;> rfl

/-- A store that refuses some calls answers as an unsteady store does, whether its batches go out
under a lock or as separate commands. -/
theorem answer_isUnsteady (refuses : store.interference.OnlyRefuses) (call : Call) :
    store.IsUnsteady (answer call) (Unsteady.answer call) := by
  cases split : call.parts? with
  | none =>
    have alone := single_isUnsteady refuses call
    simp only [IsUnsteady, answer_of_elementary store split, Unsteady.answer, split]
    exact alone
  | some batch =>
    obtain ⟨parts, place⟩ := batch
    by_cases separate : store.batching = .separate ∧ store.interference.outcome? call.name = none
    · obtain ⟨ahead, ordinary, came⟩ := runAll_isUnsteady parts refuses
      refine ⟨ahead, ordinary, fun rest => ?_⟩
      simp only [answer, Unsteady.answer, split, separate.1, separate.2, Action.bind_apply, came]
      cases (runAll single parts store).outcome <;> rfl
    · have whole : answer call store = single call store := by
        unfold answer
        split
        · rename_i batching _ untouched
          exact absurd ⟨batching, untouched⟩ separate
        · rfl
      simp only [IsUnsteady, whole, Unsteady.answer, split]
      obtain quiet | ⟨failure, mild, refused⟩ := refuses.outcome?_cases call.name
      · obtain ⟨ahead, ordinary, came⟩ := Unsteady.runAll_calm parts store.memory
        obtain ⟨state, reply⟩ := Memory.parts_run split store.memory
        refine ⟨ahead, ordinary, fun rest => ?_⟩
        simp only [Action.bind_apply, came, single_of_none store quiet, direct,
          Action.pure_apply, List.append_nil, state, reply]
      · refine ⟨[⟨store.memory.clock, some failure⟩],
          List.forall_mem_singleton.mpr (Occasion.isOrdinary_of_failure _ mild), fun rest => ?_⟩
        obtain ⟨first, others, rfl⟩ := Call.exists_cons_of_parts? split
        simp only [Action.bind_apply, List.cons_append, List.nil_append, runAll,
          Unsteady.command_refused, single, refused]

end Local

end Turnstile.Store
