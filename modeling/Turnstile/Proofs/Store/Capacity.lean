import Turnstile.Proofs.Store.Unsteady

/-!
# Keys within a capacity

A key is within a capacity when it has a deadline and at least one entry, and no more entries than
the capacity. Calls that only take away keep it so. The batch of an attempt may leave one entry more
than it counted; where no command fails, that entry is the attempt's own, and its removal brings the
key back within the capacity, wherever the clock stands at each command.
-/

namespace Turnstile.Store

open Time

/-! ## Keys within their capacity -/

/-- The bucket has a deadline and at least one entry, and no more than the capacity. -/
structure Bucket.IsWithin (capacity : Int) (bucket : Bucket) : Prop where
  dated : bucket.deadline.isSome = true
  filled : 1 ≤ bucket.scores.size
  bounded : (bucket.scores.size : Int) ≤ capacity

/-- Every bucket held is within the capacity of its key. -/
def Memory.IsWithin (capacity : String → Int) (memory : Memory) : Prop :=
  ∀ key bucket, memory.held.get? key = some bucket → bucket.IsWithin (capacity key)

/-- A bucket with a deadline and no more entries than the capacity is within it unless it is
dropped. -/
theorem Bucket.isWithin_of_settled {capacity : Int} {bucket left : Bucket}
    (dated : bucket.deadline.isSome = true) (small : (bucket.scores.size : Int) ≤ capacity)
    (kept : bucket.settled = some left) : left.IsWithin capacity := by
  unfold Bucket.settled at kept
  split at kept
  · cases kept
  · rename_i filled
    obtain rfl := Option.some.inj kept
    have entries : bucket.scores.rows ≠ [] := fun none => filled (List.isEmpty_iff.mpr none)
    exact ⟨dated, List.length_pos_iff.mpr entries, small⟩

namespace Memory

variable {capacity : String → Int} {memory next : Memory} {key : String}

/-- An empty memory is within any capacity. -/
theorem IsWithin.empty (clock : Seconds) : (Memory.empty clock).IsWithin capacity :=
  fun _ _ held => nomatch held

/-- A change under one key keeps every bucket within its capacity when it keeps that one. -/
theorem IsWithin.change (within : memory.IsWithin capacity) (key : String)
    (frame : ∀ other, other ≠ key → next.held.get? other = memory.held.get? other)
    (own : ∀ bucket, next.held.get? key = some bucket → bucket.IsWithin (capacity key)) :
    next.IsWithin capacity := by
  intro other bucket held
  by_cases same : other = key
  · subst same
    exact own bucket held
  · exact within other bucket (frame other same ▸ held)

/-- A bucket that is found is within the capacity of its key. -/
theorem IsWithin.find? (within : memory.IsWithin capacity) {bucket : Bucket}
    (found : memory.find? key = some bucket) : bucket.IsWithin (capacity key) :=
  within key bucket ((memory.find?_eq_some_iff key).mp found).1

/-- There are no more rows under a key than its capacity. -/
theorem IsWithin.length_rows (within : memory.IsWithin capacity) (key : String)
    (nonnegative : 0 ≤ capacity key) : ((memory.rows key).length : Int) ≤ capacity key := by
  unfold rows
  cases held : memory.held.get? key with
  | none => exact nonnegative
  | some bucket => exact (within key bucket held).bounded

/-- A purge keeps a memory within its capacity. -/
theorem IsWithin.purge (within : memory.IsWithin capacity) (key : String) (bound : Int) :
    (memory.purge key bound).2.IsWithin capacity := by
  refine within.change key (fun other different => by rw [purge_get?, if_neg different]) ?_
  intro bucket held
  rw [purge_get?, if_pos rfl] at held
  obtain ⟨old, found, kept⟩ := Option.bind_eq_some_iff.mp held
  obtain ⟨dated, -, small⟩ := within.find? found
  have fewer : (old.above bound).scores.size ≤ old.scores.size := List.length_filter_le ..
  have due : (old.above bound).deadline.isSome = true := dated
  exact Bucket.isWithin_of_settled due (by omega) kept

/-- A count keeps a memory within its capacity. -/
theorem IsWithin.count (within : memory.IsWithin capacity) (key : String) :
    (memory.count key).2.IsWithin capacity := by
  refine within.change key (fun other different => by rw [count_get?, if_neg different]) ?_
  intro bucket held
  rw [count_get?, if_pos rfl] at held
  exact within.find? held

/-- A deletion keeps a memory within its capacity. -/
theorem IsWithin.delete (within : memory.IsWithin capacity) (key : String) :
    (memory.delete key).IsWithin capacity := by
  refine within.change key (fun other different => by rw [delete_get?, if_neg different]) ?_
  intro bucket held
  rw [delete_get?, if_pos rfl] at held
  cases held

/-- A removal takes back the entry that may be one too many under its key. -/
theorem IsWithin.takeBack {grown : Memory} (within : memory.IsWithin capacity)
    (frame : ∀ other, other ≠ key → grown.held.get? other = memory.held.get? other)
    {entry : String} {score : Int} {others : List (String × Int)}
    (slot : ∀ bucket, grown.held.get? key = some bucket →
      bucket.deadline.isSome = true ∧ bucket.scores.rows = others ++ [(entry, score)])
    (small : (others.length : Int) ≤ capacity key) :
    (grown.remove key entry).IsWithin capacity := by
  refine within.change key (fun other different => ?_) fun bucket held => ?_
  · rw [remove_get?, if_neg different]
    exact frame other different
  · rw [remove_get?, if_pos rfl] at held
    obtain ⟨old, found, kept⟩ := Option.bind_eq_some_iff.mp held
    obtain ⟨dated, rows⟩ := slot old ((grown.find?_eq_some_iff key).mp found).1
    have part : (old.without entry).scores.rows.Sublist others := by
      rw [Bucket.without, Table.rows_drop, rows, List.filter_append, List.filter_cons,
        if_neg (by simp), List.filter_nil, List.append_nil]
      exact List.filter_sublist
    have size : (old.without entry).scores.size ≤ others.length := part.length_le
    have due : (old.without entry).deadline.isSome = true := dated
    exact Bucket.isWithin_of_settled due (by omega) kept

end Memory

/-! ## Commands that find the clock anywhere -/

namespace Unsteady

/-- No command ahead fails. -/
def IsFaultless (store : Unsteady) : Prop := ∀ occasion ∈ store.ahead, occasion.failure = none

variable {store : Unsteady}

/-- What is held does not change as the clock moves. -/
theorem here_held (store : Unsteady) : store.here.held = store.memory.held := by
  unfold here
  split <;> rfl

/-- Where no command fails, the next one is carried out. -/
theorem command_of_faultless (faultless : store.IsFaultless) (call : Call) :
    command call store =
      ⟨.ok (store.here.run call).1, [], ⟨(store.here.run call).2, store.ahead.tail⟩⟩ := by
  have served : store.refusal? = none := by
    unfold refusal?
    cases next : store.ahead.head? with
    | none => rfl
    | some occasion => exact faultless occasion (List.mem_of_head? next)
  unfold command
  rw [served]

/-- Of what is held under a key, no more is found at the next occasion. -/
theorem here_entries_sublist (store : Unsteady) (key : String) :
    (store.here.entries key).Sublist (store.memory.rows key) :=
  store.here_rows key ▸ store.here.entries_sublist_rows key

/-- The store after its next command. -/
def next (store : Unsteady) (call : Call) : Unsteady :=
  ⟨(store.here.run call).2, store.ahead.tail⟩

/-- What is ahead of a faultless store stays faultless. -/
theorem IsFaultless.next (faultless : store.IsFaultless) (call : Call) :
    (store.next call).IsFaultless := fun occasion member =>
  faultless occasion (List.mem_of_mem_tail member)

/-- Commands in turn are answered when none of them fails. -/
theorem runAll_cons_of_faultless (faultless : store.IsFaultless) (call : Call) {rest : List Call}
    {replies : List Reply} {left : Unsteady}
    (others : runAll command rest (store.next call) = ⟨.ok replies, [], left⟩) :
    runAll command (call :: rest) store = ⟨.ok ((store.here.run call).1 :: replies), [], left⟩ := by
  have sent : command call store = ⟨.ok (store.here.run call).1, [], store.next call⟩ :=
    command_of_faultless faultless call
  simp only [runAll, Action.bind_apply, sent, others]
  rfl

/-- What a call on another key leaves is what the store held before it. -/
theorem next_get? (store : Unsteady) (call : Call) {key : String}
    (frame : (store.here.run call).2.held.get? key = store.here.held.get? key) :
    (store.next call).memory.held.get? key = store.memory.held.get? key := by
  rw [← store.here_held]
  exact frame

/-- What a count finds after a purge was held before it. -/
theorem purged_entries_sublist (store : Unsteady) (key : String) (bound : Int) :
    ((store.next (.purge key bound)).here.entries key).Sublist (store.memory.rows key) := by
  have rows : (store.next (.purge key bound)).memory.rows key = store.here.recent key bound :=
    (store.here.purge_rows key key bound).trans (if_pos rfl)
  have inside := store.here.recent_sublist_rows key bound
  rw [store.here_rows, ← rows] at inside
  exact ((store.next (.purge key bound)).here_entries_sublist key).trans inside

/-- A batch of an attempt that fails nowhere is answered with a count of entries held. It leaves no
more of them with its own entry after them, under a deadline, or nothing. -/
theorem record_of_faultless (faultless : store.IsFaultless) (key entry : String)
    (bound score seconds : Int) : ∃ (counted others : List (String × Int)) (left : Unsteady),
    answer (.record key bound entry score seconds) store =
        ⟨.ok (.number counted.length), [], left⟩ ∧
      left.IsFaultless ∧ counted.Sublist (store.memory.rows key) ∧
      others.length ≤ counted.length ∧
      (∀ bucket, left.memory.held.get? key = some bucket →
        bucket.deadline.isSome = true ∧ bucket.scores.rows = others ++ [(entry, score)]) ∧
      ∀ other, other ≠ key → left.memory.held.get? other = store.memory.held.get? other := by
  let purged := store.next (.purge key bound)
  let counted := purged.next (.count key)
  let added := counted.next (.add key entry score)
  let left := added.next (.expire key seconds)
  have afterPurge : purged.IsFaultless := faultless.next _
  have afterCount : counted.IsFaultless := afterPurge.next _
  have afterAdd : added.IsFaultless := afterCount.next _
  refine ⟨purged.here.entries key, (counted.here.entries key).filter (·.1 != entry), left, ?_,
    afterAdd.next _, ?_, ?_, fun bucket held => ?_, fun other different => ?_⟩
  · have done : runAll command [] left = ⟨.ok [], [], left⟩ := rfl
    have sent := runAll_cons_of_faultless faultless _ (runAll_cons_of_faultless afterPurge _
      (runAll_cons_of_faultless afterCount _ (runAll_cons_of_faultless afterAdd _ done)))
    have replied : (purged.here.run (.count key)).1 =
        .number (purged.here.entries key).length :=
      congrArg Reply.number (purged.here.count_fst key)
    simp only [answer, Call.parts?, Action.bind_apply, sent, replied]
    rfl
  · exact store.purged_entries_sublist key bound
  · have rows : counted.memory.rows key = purged.here.entries key :=
      (purged.here.count_rows key key).trans (if_pos rfl)
    have found := counted.here_entries_sublist key
    rw [rows] at found
    exact (List.filter_sublist.trans found).length_le
  · have expired : left.memory.held.get? key = _ :=
      (added.here.expire_get? key key seconds).trans (if_pos rfl)
    rw [expired] at held
    obtain ⟨old, found, rfl⟩ := Option.map_eq_some_iff.mp held
    have grown : added.memory.held.get? key = _ :=
      (counted.here.add_get? key key entry score).trans (if_pos rfl)
    have present := ((added.here.find?_eq_some_iff key).mp found).1
    rw [added.here_held, grown] at present
    obtain rfl := Option.some.inj present
    refine ⟨rfl, ?_⟩
    simp only [Table.rows_put]
    rw [counted.here.getD_find?_rows key]
  · have purge := store.next_get? (.purge key bound)
      ((store.here.purge_get? key other bound).trans (if_neg different))
    have count := purged.next_get? (.count key)
      ((purged.here.count_get? key other).trans (if_neg different))
    have add := counted.next_get? (.add key entry score)
      ((counted.here.add_get? key other entry score).trans (if_neg different))
    have expire := added.next_get? (.expire key seconds)
      ((added.here.expire_get? key other seconds).trans (if_neg different))
    exact expire.trans (add.trans (count.trans purge))

/-- A batch of a look that fails nowhere is answered with a count of entries held, and leaves what
a purge and a count leave. -/
theorem inspect_of_faultless (faultless : store.IsFaultless) (key : String) (bound : Int) :
    ∃ counted : List (String × Int), counted.Sublist (store.memory.rows key) ∧
      answer (.inspect key bound) store =
        ⟨.ok (.number counted.length), [], (store.next (.purge key bound)).next (.count key)⟩ := by
  let purged := store.next (.purge key bound)
  have afterPurge : purged.IsFaultless := faultless.next _
  refine ⟨purged.here.entries key, store.purged_entries_sublist key bound, ?_⟩
  have done : runAll command [] (purged.next (.count key)) = ⟨.ok [], [], _⟩ := rfl
  have sent := runAll_cons_of_faultless faultless _ (runAll_cons_of_faultless afterPurge _ done)
  have replied : (purged.here.run (.count key)).1 = .number (purged.here.entries key).length :=
    congrArg Reply.number (purged.here.count_fst key)
  simp only [answer, Call.parts?, Action.bind_apply, sent, replied]
  rfl

end Unsteady

/-- The next occasion moves the clock only. -/
theorem Memory.IsWithin.here {capacity : String → Int} {store : Unsteady}
    (within : store.memory.IsWithin capacity) : store.here.IsWithin capacity := by
  unfold Memory.IsWithin
  rw [store.here_held]
  exact within

end Turnstile.Store
