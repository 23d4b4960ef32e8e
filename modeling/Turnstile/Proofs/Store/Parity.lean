import Turnstile.Proofs.Limiter.Backends
import Turnstile.Proofs.Store.Keeping

/-!
# Three stores, command by command

The store in memory under a lock, the same store with separate batches, and the store on the server
are sent the same calls at the same readings of a clock that does not go back. A member may be
moved, a set may empty and begin again without a deadline, and the memory drops lapsed keys late:
neither the answers nor what is found under a key tells the stores apart, as long as no call comes
at the exact deadline of a key that is still there.
-/

namespace Turnstile.Store

open Limiter Number Time

/-! ## What can be seen of a store -/

/-- What is found under a key: the score of each member, and the seconds until the key lapses. -/
structure Shown where
  score? : String → Option ℚ
  remaining : Option Seconds

/-- A store whose keys can be looked at without a call. -/
class Visible (σ : Type) where
  shown : σ → String → Shown

instance : Visible Local where
  shown store key :=
    { score? member := ((store.memory.touch key).1.bind (·.scores.get? member)).map Int.cast
      remaining := (store.memory.remaining key).1 }

instance : Visible Remote where
  shown remote key :=
    { score? member :=
        (((remote.server.members key).toOption.bind (·.1.get? member)).bind
          (·.toFraction?)).map Fraction.toRat
      remaining := (remote.server.slot? key).bind fun slot =>
        slot.deadline.map (·.since remote.server.clock) }

/-! ## Calls in turn -/

namespace Call

/-- The scores and the bounds that a call names. -/
def figures : Call → List Int
  | .purge _ bound | .inspect _ bound => [bound]
  | .add _ _ score => [score]
  | .record _ bound _ score _ => [bound, score]
  | _ => []

/-- After how many seconds a call lets its key lapse. -/
def lifetime? : Call → Option Int
  | .expire _ seconds | .record _ _ _ _ seconds => some seconds
  | _ => none

/-- Binary64 tells the scores and bounds of the call from all other whole numbers. -/
def IsExact (call : Call) : Prop := ∀ figure ∈ call.figures, figure.natAbs ≤ twoTo 53

end Call

/-- A call, and the reading of the clock throughout it. -/
structure Sending where
  call : Call
  clock : Seconds

namespace Sending

/-- A deadline that the call sets has not come at once. -/
def IsLasting (sending : Sending) : Prop :=
  ∀ seconds ∈ sending.call.lifetime?, (sending.clock.later seconds).le sending.clock = false

/-- The clock does not go back from one call to the other. -/
def Precedes (first second : Sending) : Prop := first.clock.le second.clock = true

end Sending

/-- What came of a call. -/
structure Served (σ : Type) where
  found : σ
  outcome : Except Failure Reply
  left : σ

section History

variable {σ : Type} [Backend σ] [Surrounded σ Seconds]

/-- What comes of calls in turn. -/
def history : σ → List Sending → List (Served σ)
  | _, [] => []
  | store, sending :: rest =>
    let found : σ := Surrounded.enter sending.clock store
    let step := Backend.answer sending.call found
    ⟨found, step.outcome, step.state⟩ :: history step.state rest

/-- What can be seen of calls in turn: the answer to each, and what it leaves under the keys. -/
def sights [Visible σ] (store : σ) (sendings : List Sending) :
    List (Except Failure Reply × (String → Shown)) :=
  (history store sendings).map fun served => (served.outcome, Visible.shown served.left)

end History

/-- No key that is there is at its deadline: every deadline lies ahead. -/
def Server.IsClear (server : Server) : Prop :=
  ∀ row ∈ server.present, ∀ deadline ∈ row.2.deadline, deadline.le server.clock = false

instance (server : Server) : Decidable server.IsClear :=
  inferInstanceAs (Decidable (∀ row ∈ server.present, ∀ deadline ∈ row.2.deadline,
    deadline.le server.clock = false))

/-! ## Deadlines as the clock goes on -/

/-- A deadline that is not over was not over before. -/
theorem Server.isOver_of_le {deadline : Option Seconds} {earlier later : Seconds}
    (order : earlier.instant ≤ later.instant) (lasts : isOver later deadline = false) :
    isOver earlier deadline = false := by
  cases deadline with
  | none => rfl
  | some due =>
    have ahead : due.lt later = false := lasts
    show due.lt earlier = false
    rw [Seconds.lt_eq_false_iff] at ahead ⊢
    exact order.trans ahead

/-! ## The memory and the server side by side -/

/-- The relation between the memory and the server: calls find the same under every key, and every
score is one that binary64 can tell. What has lapsed may still be held by one of them. -/
structure Alike (memory : Memory) (server : Server) : Prop where
  clock : server.clock = memory.clock
  slots : ∀ key, server.slot? key = (memory.find? key).map toSlot
  exact : ∀ key, ∀ row ∈ memory.entries key, row.2.natAbs ≤ twoTo 53

namespace Alike

variable {memory next : Memory} {server served : Server}

/-- Two stores without keys. -/
theorem empty (clock : Seconds) : Alike (Memory.empty clock) (Server.empty clock) where
  clock := rfl
  slots _ := rfl
  exact _ _ member := nomatch member

section Reading

variable (alike : Alike memory server) (key : String)
include alike

/-- A deadline that a call finds in memory is not over on the server. -/
theorem lasts : Server.isOver server.clock (memory.bucketAt key).deadline = false := by
  rw [alike.clock, Memory.bucketAt]
  cases found : memory.find? key with
  | none => rfl
  | some bucket => exact isOver_of_isLive ((memory.find?_eq_some_iff key).mp found).2

/-- The server finds the entries and the deadline that a call finds in memory. -/
theorem members : server.members key =
    .ok (scored (memory.bucketAt key).scores.rows, (memory.bucketAt key).deadline) := by
  have slot := alike.slots key
  unfold Server.members Memory.bucketAt
  rw [slot]
  cases memory.find? key <;> rfl

/-- Both keep the same entries above a bound. -/
theorem above {bound : Int} (small : bound.natAbs ≤ twoTo 53) :
    Server.above bound (scored (memory.bucketAt key).scores.rows) =
      scored ((memory.bucketAt key).above bound).scores.rows :=
  above_scored _ small fun row member => alike.exact key row (memory.bucketAt_rows key ▸ member)

end Reading

section Changes

variable (alike : Alike memory server) {key : String}
include alike

/-- A change of both stores under one key keeps the relation when it keeps it there. -/
theorem change (memoryClock : next.clock = memory.clock) (serverClock : served.clock = server.clock)
    (memoryFrame : ∀ other, other ≠ key → next.held.get? other = memory.held.get? other)
    (serverFrame : ∀ other, other ≠ key → served.slots.get? other = server.slots.get? other)
    (slot : served.slot? key = (next.find? key).map toSlot)
    (exact : ∀ row ∈ next.entries key, row.2.natAbs ≤ twoTo 53) : Alike next served := by
  have found (other : String) (different : other ≠ key) :
      next.find? other = memory.find? other := by
    unfold Memory.find?
    rw [memoryFrame other different, memoryClock]
  refine ⟨by rw [memoryClock, serverClock, alike.clock], fun other => ?_, fun other => ?_⟩
  · by_cases same : other = key
    · rw [same]
      exact slot
    · have held : served.slot? other = server.slot? other := by
        show (served.slots.get? other).filter (fun slot => !served.lapsed slot) =
          (server.slots.get? other).filter fun slot => !server.lapsed slot
        rw [serverFrame other same]
        simp only [Server.lapsed_eq, serverClock]
      rw [held, found other same]
      exact alike.slots other
  · by_cases same : other = key
    · rw [same]
      exact exact
    · unfold Memory.entries
      rw [found other same]
      exact alike.exact other

/-- Both stores hold new entries under a key until the deadline found there, or drop the key when
there are none. -/
theorem settled {rows : List (String × Int)} (memoryClock : next.clock = memory.clock)
    (memoryFrame : ∀ other, other ≠ key → next.held.get? other = memory.held.get? other)
    (found : next.find? key = Bucket.settled ⟨⟨rows⟩, (memory.bucketAt key).deadline⟩)
    (exact : ∀ row ∈ rows, row.2.natAbs ≤ twoTo 53) :
    Alike next (server.settle key (scored rows) (memory.bucketAt key).deadline) := by
  refine alike.change memoryClock (server.settle_clock ..) memoryFrame (fun other different => ?_)
    ?_ ?_
  · rw [Server.settle_get?, if_neg different]
  · have held := server.settle_get? key (scored rows) (memory.bucketAt key).deadline key
    rw [if_pos rfl, ← map_settled, ← found] at held
    unfold Server.slot?
    rw [held, found]
    unfold Bucket.settled
    split
    · rfl
    · rw [Option.map_some, Option.filter_some, Server.lapsed_eq, Server.settle_clock]
      show (if (!Server.isOver server.clock (memory.bucketAt key).deadline) = true then _
        else _) = _
      rw [alike.lasts key]
      rfl
  · rw [Memory.entries, found, Bucket.rowsOf_settled]
    exact exact

end Changes

/-! ## One call -/

section Calls

variable {remote : Remote}

/-- A call is answered alike by both stores, and keeps the relation. -/
def Keeps (memory : Memory) (remote : Remote) (call : Call) : Prop :=
  ∃ left : Remote, left.interference = remote.interference ∧
    Remote.answer call remote = ⟨.ok (memory.run call).1, [], left⟩ ∧
    Alike (memory.run call).2 left.server

variable (alike : Alike memory remote.server) (quiet : remote.interference.IsQuiet)
  (key entry : String)
include alike quiet

/-- A purge keeps memory and server alike. -/
theorem purge {bound : Int} (small : bound.natAbs ≤ twoTo 53) :
    Keeps memory remote (.purge key bound) := by
  have ran : remote.server.run (.removeUpTo key bound) =
      (.ok (.number (memory.purge key bound).1), remote.server.settle key
        (scored ((memory.bucketAt key).above bound).scores.rows)
          (memory.bucketAt key).deadline) := by
    have above := alike.above key small
    unfold Server.above at above
    simp only [Server.run, alike.members key, above, scored_size, memory.purge_fst]
    rfl
  obtain ⟨left, ⟨leaves, kept⟩, answered⟩ :=
    Remote.counted_of_quiet quiet (.purge key bound) key ran
  refine ⟨left, kept, answered, leaves ▸ ?_⟩
  refine alike.settled (memory.purge_clock key bound)
    (fun other different => by rw [Memory.run, Memory.purge_get?, if_neg different]) ?_ ?_
  · exact (memory.purge_find? key bound).trans (memory.bind_find? key rfl)
  · exact fun row member =>
      alike.exact key row (memory.bucketAt_rows key ▸ (List.mem_filter.mp member).1)

/-- A count keeps memory and server alike. -/
theorem count : Keeps memory remote (.count key) := by
  have ran : remote.server.run (.cardinality key) =
      (.ok (.number (memory.count key).1), remote.server) := by
    simp only [Server.run, alike.members key, scored_size, memory.count_fst,
      memory.bucketAt_rows]
  obtain ⟨left, ⟨leaves, kept⟩, answered⟩ := Remote.counted_of_quiet quiet (.count key) key ran
  refine ⟨left, kept, answered, leaves ▸ ?_⟩
  refine alike.change (memory.count_clock key) rfl
    (fun other different => by rw [Memory.run, Memory.count_get?, if_neg different])
    (fun _ _ => rfl) ?_ ?_
  · exact (alike.slots key).trans (congrArg _ (memory.count_find? key).symm)
  · exact fun row member => alike.exact key row (memory.count_entries key ▸ member)

/-- An addition keeps memory and server alike. -/
theorem add {score : Int} (small : score.natAbs ≤ twoTo 53) :
    Keeps memory remote (.add key entry score) := by
  have ran : ∃ added : Int, remote.server.run (.insert key entry score) =
      (.ok (.number added), remote.server.settle key
        (scored ((memory.bucketAt key).scores.put entry score).rows)
          (memory.bucketAt key).deadline) := by
    simp only [Server.run, alike.members key, scored_put]
    exact ⟨_, rfl⟩
  obtain ⟨added, ran⟩ := ran
  obtain ⟨left, ⟨leaves, kept⟩, answered⟩ :=
    Remote.silently_of_quiet quiet (.add key entry score) key ran
  refine ⟨left, kept, answered, leaves ▸ ?_⟩
  refine alike.settled (memory.add_clock key entry score)
    (fun other different => by rw [Memory.run, Memory.add_get?, if_neg different]) ?_ ?_
  · refine (memory.add_find? key entry score).trans ?_
    unfold Bucket.settled Memory.bucketAt
    exact (if_neg (by simp [Table.isEmpty])).symm
  · intro row member
    rcases List.mem_append.mp member with old | own
    · exact alike.exact key row (memory.bucketAt_rows key ▸ (List.mem_filter.mp old).1)
    · obtain rfl := List.mem_singleton.mp own
      exact small

/-- A removal keeps memory and server alike. -/
theorem remove : Keeps memory remote (.remove key entry) := by
  obtain ⟨left, ⟨leaves, kept⟩, answered⟩ :=
    Remote.answer_remove_of_quiet quiet (alike.members key) entry
  rw [scored_drop] at leaves
  refine ⟨left, kept, answered, leaves ▸ ?_⟩
  refine alike.settled (memory.remove_clock key entry)
    (fun other different => by rw [Memory.run, Memory.remove_get?, if_neg different]) ?_ ?_
  · exact (memory.remove_find? key entry).trans (memory.bind_find? key rfl)
  · exact fun row member =>
      alike.exact key row (memory.bucketAt_rows key ▸ (List.mem_filter.mp member).1)

/-- A look keeps memory and server alike. -/
theorem inspect {bound : Int} (small : bound.natAbs ≤ twoTo 53) :
    Keeps memory remote (.inspect key bound) := by
  obtain ⟨left, ⟨leaves, kept⟩, answered⟩ :=
    Remote.answer_inspect_of_quiet quiet (alike.members key) (alike.lasts key) bound
  rw [alike.above key small] at leaves answered
  have counted : (memory.run (.inspect key bound)).1 =
      .number (scored ((memory.bucketAt key).above bound).scores.rows).size := by
    simp only [Memory.run, memory.inspect_fst key bound, scored_size, Memory.recent,
      ← memory.bucketAt_rows key]
    rfl
  refine ⟨left, kept, counted ▸ answered, leaves ▸ ?_⟩
  refine alike.settled (by simp [Memory.run])
    (fun other different => by rw [Memory.run, Memory.inspect_get?, if_neg different]) ?_ ?_
  · refine (Memory.count_find? _ key).trans ?_
    exact (memory.purge_find? key bound).trans (memory.bind_find? key rfl)
  · exact fun row member =>
      alike.exact key row (memory.bucketAt_rows key ▸ (List.mem_filter.mp member).1)

/-- A deletion keeps memory and server alike. -/
theorem delete : Keeps memory remote (.delete key) := by
  obtain ⟨left, ⟨leaves, kept⟩, answered⟩ := Remote.answer_delete_of_quiet quiet key
  have gone : (memory.delete key).find? key = none := by
    rw [Memory.find?, Memory.delete_get?, if_pos rfl]
    rfl
  refine ⟨left, kept, answered, leaves ▸ ?_⟩
  refine alike.change (memory.delete_clock key) rfl
    (fun other different => by rw [Memory.run, Memory.delete_get?, if_neg different])
    (fun other different => by rw [Table.get?_drop, if_neg different]) ?_ fun row member => ?_
  · rw [Server.slot?, Table.get?_drop_self, Memory.run, gone]
    rfl
  · rw [Memory.run, Memory.entries, gone] at member
    cases member

section Lasting

variable {seconds : Int} (lasting : (memory.clock.later seconds).le memory.clock = false)
include lasting

omit alike quiet in
/-- When both stores hold the same entries under a key until a new deadline, both find them. -/
theorem renewed (memoryClock : next.clock = memory.clock)
    (serverClock : served.clock = memory.clock) {rows : List (String × Int)}
    (held : next.held.get? key = some ⟨⟨rows⟩, some (memory.clock.later seconds)⟩)
    (slot : served.slots.get? key =
      some ⟨.scored (scored rows), some (memory.clock.later seconds)⟩) :
    next.find? key = some ⟨⟨rows⟩, some (memory.clock.later seconds)⟩ ∧
      served.slot? key = (next.find? key).map toSlot := by
  have live : Bucket.isLive memory.clock ⟨⟨rows⟩, some (memory.clock.later seconds)⟩ = true := by
    simp only [Bucket.isLive, lasting, Bool.not_false]
  have found : next.find? key = some ⟨⟨rows⟩, some (memory.clock.later seconds)⟩ :=
    (next.find?_eq_some_iff key).mpr ⟨held, memoryClock ▸ live⟩
  refine ⟨found, ?_⟩
  rw [found]
  exact Server.slot?_of_get? slot (serverClock ▸ isOver_of_isLive live)

/-- Setting a deadline keeps memory and server alike. -/
theorem expire : Keeps memory remote (.expire key seconds) := by
  have slot := alike.slots key
  cases found : memory.find? key with
  | none =>
    rw [found] at slot
    have ran : remote.server.run (.expire key seconds) = (.ok (.number 0), remote.server) := by
      simp only [Server.run, slot, Option.map_none]
    have gone : (memory.expire key seconds).find? key = none := by
      rw [Memory.find?, Memory.expire_get?, if_pos rfl, found]
      rfl
    obtain ⟨left, ⟨leaves, kept⟩, answered⟩ :=
      Remote.silently_of_quiet quiet (.expire key seconds) key ran
    refine ⟨left, kept, answered, leaves ▸ ?_⟩
    refine alike.change (memory.expire_clock key seconds) rfl
      (fun other different => by rw [Memory.run, Memory.expire_get?, if_neg different])
      (fun _ _ => rfl) ?_ fun row member => ?_
    · rw [slot, Memory.run, gone]
    · rw [Memory.run, Memory.entries, gone] at member
      cases member
  | some bucket =>
    rw [found] at slot
    have held : (memory.expire key seconds).held.get? key =
        some { bucket with deadline := some (memory.clock.later seconds) } := by
      rw [Memory.expire_get?, if_pos rfl, found, Option.map_some]
    have ran : remote.server.run (.expire key seconds) =
        (.ok (.number 1), { remote.server with
          slots := remote.server.slots.put key
            ⟨.scored (scored bucket.scores.rows), some (memory.clock.later seconds)⟩ }) := by
      simp only [Server.run, slot, Option.map_some, toSlot, alike.clock]
    obtain ⟨left, ⟨leaves, kept⟩, answered⟩ :=
      Remote.silently_of_quiet quiet (.expire key seconds) key ran
    have clock : left.server.clock = memory.clock := leaves ▸ alike.clock
    have slotHeld : left.server.slots.get? key =
        some ⟨.scored (scored bucket.scores.rows), some (memory.clock.later seconds)⟩ := by
      rw [leaves]
      exact Table.get?_put_self ..
    obtain ⟨sees, same⟩ :=
      renewed key lasting (memory.expire_clock key seconds) clock held slotHeld
    refine ⟨left, kept, answered, ?_⟩
    refine alike.change (memory.expire_clock key seconds) (clock.trans alike.clock.symm)
      (fun other different => by rw [Memory.run, Memory.expire_get?, if_neg different])
      (fun other different => by rw [leaves, Table.get?_put, if_neg different]) same ?_
    intro row member
    rw [Memory.run, Memory.entries, sees] at member
    refine alike.exact key row ?_
    rw [Memory.entries, found]
    exact member

/-- A record keeps memory and server alike. -/
theorem record {bound score : Int} (low : bound.natAbs ≤ twoTo 53)
    (small : score.natAbs ≤ twoTo 53) :
    Keeps memory remote (.record key bound entry score seconds) := by
  obtain ⟨server, left, ⟨leaves, kept⟩, clock, slots, answered⟩ :=
    Remote.answer_record_of_quiet quiet (alike.members key) (alike.lasts key) bound entry score
      seconds
  have recent : ((memory.bucketAt key).above bound).scores.rows = memory.recent key bound := by
    rw [Memory.recent, ← memory.bucketAt_rows key]
    rfl
  rw [alike.above key low, recent] at slots answered
  rw [scored_put, alike.clock] at slots
  rw [scored_size] at answered
  have held := memory.record_get? key key entry bound score seconds
  rw [if_pos rfl] at held
  have slot := slots key
  rw [if_pos rfl] at slot
  have counted : (memory.run (.record key bound entry score seconds)).1 =
      .number (memory.recent key bound).length :=
    congrArg Reply.number (memory.record_fst key entry bound score seconds)
  obtain ⟨sees, same⟩ := renewed key lasting (memory.record_clock key entry bound score seconds)
    (clock.trans alike.clock) held slot
  refine ⟨left, kept, counted ▸ answered, leaves ▸ ?_⟩
  refine alike.change (memory.record_clock key entry bound score seconds) clock
    (fun other different => by rw [Memory.run, Memory.record_get?, if_neg different])
    (fun other different => by rw [slots, if_neg different]) same ?_
  intro row member
  rw [Memory.run, Memory.entries, sees] at member
  rcases List.mem_append.mp member with old | own
  · exact alike.exact key row (List.mem_filter.mp (List.mem_filter.mp old).1).1
  · obtain rfl := List.mem_singleton.mp own
    exact small

end Lasting

omit quiet in
/-- A call whose figures are exact and whose deadline has not come at once is answered alike, and
keeps the relation. -/
theorem call (quiet : remote.interference.IsQuiet) {call : Call} (exact : call.IsExact)
    (lasting : ∀ seconds ∈ call.lifetime?,
      (memory.clock.later seconds).le memory.clock = false) : Keeps memory remote call := by
  cases call with
  | purge key bound => exact alike.purge quiet key (exact _ (List.mem_singleton_self _))
  | count key => exact alike.count quiet key
  | add key entry score => exact alike.add quiet key entry (exact _ (List.mem_singleton_self _))
  | remove key entry => exact alike.remove quiet key entry
  | expire key seconds => exact alike.expire quiet key (lasting _ rfl)
  | delete key => exact alike.delete quiet key
  | record key bound entry score seconds =>
    obtain ⟨low, others⟩ := List.forall_mem_cons.mp exact
    exact alike.record quiet key entry (lasting _ rfl) low (others _ (List.mem_singleton_self _))
  | inspect key bound => exact alike.inspect quiet key (exact _ (List.mem_singleton_self _))
  | ping =>
    obtain ⟨left, ⟨leaves, kept⟩, sent⟩ := Remote.send_of_quiet quiet .ping
    refine ⟨left, kept, ?_, leaves ▸ alike⟩
    simp only [Remote.answer, Remote.ping, sent]
    rfl
  | close =>
    refine ⟨{ remote with issued := .close :: remote.issued }, rfl, ?_, alike⟩
    simp only [Remote.answer, Remote.silently, Remote.issue, Action.bind_apply,
      quiet ServerCall.close.name, Action.pure_apply]
    rfl

end Calls

section Clock

variable {clock : Seconds}

/-- A deadline that a clear server finds lies ahead. -/
theorem isLive_of_isClear (clear : server.IsClear) {key : String} {bucket : Bucket}
    (found : server.slot? key = some (toSlot bucket)) : bucket.isLive server.clock = true := by
  obtain ⟨held, lasts⟩ := Option.filter_eq_some_iff.mp found
  have present : (key, toSlot bucket) ∈ server.present :=
    List.mem_filter.mpr ⟨Table.mem_rows_of_get? held, lasts⟩
  unfold Bucket.isLive
  cases due : bucket.deadline with
  | none => rfl
  | some deadline =>
    have ahead : deadline.le server.clock = false := clear _ present deadline due
    show (!deadline.le server.clock) = true
    rw [ahead, Bool.not_false]

/-- As the clock goes on, both stores stop finding the same keys, when the server has no key at its
deadline. -/
theorem enter (alike : Alike memory server) (order : memory.clock.le clock = true)
    (clear : (server.setClock clock).IsClear) :
    Alike (memory.setClock clock) (server.setClock clock) := by
  rw [Seconds.le_iff_instant] at order
  have here (key : String) : (memory.setClock clock).find? key =
      (memory.find? key).filter (·.isLive clock) := by
    unfold Memory.find?
    rw [Memory.setClock_get?, Option.filter_filter]
    refine congrArg (fun test => (memory.held.get? key).filter test) (funext fun bucket => ?_)
    show bucket.isLive clock = (bucket.isLive memory.clock && bucket.isLive clock)
    cases live : bucket.isLive clock with
    | false => rw [Bool.and_false]
    | true => rw [Bucket.isLive_of_le order live, Bool.true_and]
  have there (key : String) : (server.setClock clock).slot? key =
      (server.slot? key).filter fun slot => !Server.isOver clock slot.deadline := by
    unfold Server.slot?
    rw [Option.filter_filter]
    refine congrArg (fun test => (server.slots.get? key).filter test) (funext fun slot => ?_)
    show (!Server.isOver clock slot.deadline) =
      (!Server.isOver server.clock slot.deadline && !Server.isOver clock slot.deadline)
    cases lasts : Server.isOver clock slot.deadline with
    | true => rw [Bool.not_true, Bool.and_false]
    | false => rw [alike.clock, Server.isOver_of_le order lasts, Bool.not_false, Bool.true_and]
  refine ⟨rfl, fun key => ?_, fun key row member => ?_⟩
  · have slot := there key
    rw [alike.slots] at slot
    rw [slot, here]
    cases found : memory.find? key with
    | none => rfl
    | some bucket =>
      rw [found] at slot
      rw [Option.map_some, Option.filter_some] at slot ⊢
      rw [Option.filter_some]
      cases lasts : Server.isOver clock (toSlot bucket).deadline with
      | true =>
        have dead : bucket.isLive clock = false := by
          by_contra live
          have ahead : Server.isOver clock bucket.deadline = false :=
            isOver_of_isLive (Bool.not_eq_false _ ▸ live)
          exact absurd (ahead.symm.trans lasts) Bool.false_ne_true
        rw [dead]
        rfl
      | false =>
        rw [lasts] at slot
        have live : bucket.isLive clock = true := isLive_of_isClear clear slot
        rw [live]
        rfl
  · refine alike.exact key row ?_
    unfold Memory.entries at member ⊢
    rw [here] at member
    cases found : memory.find? key with
    | none =>
      rw [found] at member
      exact member
    | some bucket =>
      rw [found, Option.filter_some] at member
      split at member
      · exact member
      · cases member

end Clock

/-- The score of a member on the server is the whole one. -/
theorem score_scored {rows : List (String × Int)} (exact : ∀ row ∈ rows, row.2.natAbs ≤ twoTo 53)
    (member : String) :
    (((scored rows).get? member).bind (·.toFraction?)).map Fraction.toRat =
      (rows.lookup member).map Int.cast := by
  rw [scored_get?]
  cases found : rows.lookup member with
  | none => rfl
  | some score =>
    have held : (Table.mk rows).get? member = some score := found
    obtain ⟨finite, value⟩ := Binary64.ofInt_toRat (exact _ (Table.mem_rows_of_get? held))
    obtain ⟨fraction, read, -, same⟩ := Binary64.exists_fraction finite
    simp only [Option.map_some, Option.bind_some, read, same, value]

/-- Where the relation holds, the same can be seen of both stores. -/
theorem shown_eq {store : Local} {remote : Remote} (alike : Alike store.memory remote.server) :
    Visible.shown remote = Visible.shown store := by
  funext key
  simp only [Visible.shown, Shown.mk.injEq]
  constructor
  · funext member
    have exact : ∀ row ∈ (store.memory.bucketAt key).scores.rows, row.2.natAbs ≤ twoTo 53 :=
      fun row listed => alike.exact key row (store.memory.bucketAt_rows key ▸ listed)
    rw [alike.members key, Memory.touch_fst]
    refine (score_scored exact member).trans ?_
    unfold Memory.bucketAt
    cases store.memory.find? key <;> rfl
  · rw [alike.slots, alike.clock, Memory.remaining_fst]
    cases store.memory.find? key <;> rfl

end Alike

/-! ## The whole history -/

section Histories

variable {store other : Local} {remote : Remote} (calm : store.interference.IsQuiet)
include calm

/-- A call on the local store is what it is on the store in memory. -/
theorem Local.history_cons (sending : Sending) (rest : List Sending) :
    history store (sending :: rest) =
      let found := store.memory.setClock sending.clock
      let left : Local := { store with memory := (found.run sending.call).2 }
      ⟨{ store with memory := found }, .ok (found.run sending.call).1, left⟩ ::
        history left rest := by
  have answered : Backend.answer sending.call (Surrounded.enter sending.clock store) = _ :=
    store.answer_of_quiet calm (store.memory.setClock sending.clock) sending.call
  simp only [history, answered]
  rfl

/-- How a local store batches cannot be seen. -/
theorem Local.sights_eq (quiet : other.interference.IsQuiet) (same : other.memory = store.memory)
    (sendings : List Sending) : sights other sendings = sights store sendings := by
  induction sendings generalizing store other with
  | nil => rfl
  | cons sending rest ih =>
    let memory := ((store.memory.setClock sending.clock).run sending.call).2
    have calmer : ({ store with memory } : Local).interference.IsQuiet := calm
    have quieter : ({ other with memory } : Local).interference.IsQuiet := quiet
    have tail := ih calmer quieter rfl
    simp only [sights] at tail ⊢
    rw [Local.history_cons calm, Local.history_cons quiet, same, List.map_cons, List.map_cons,
      tail]
    rfl

/-- The server cannot be told from the memory by calls in turn, none of which finds a key at its
deadline. -/
theorem Alike.sights_eq (alike : Alike store.memory remote.server)
    (quiet : remote.interference.IsQuiet) (sendings : List Sending)
    (inTurn : sendings.Pairwise Sending.Precedes)
    (order : ∀ sending ∈ sendings, store.memory.clock.le sending.clock = true)
    (fair : ∀ sending ∈ sendings, sending.call.IsExact ∧ sending.IsLasting)
    (clear : ∀ served ∈ history remote sendings, served.found.server.IsClear) :
    sights remote sendings = sights store sendings ∧
      ∀ served ∈ history remote sendings, ∃ reply, served.outcome = .ok reply := by
  induction sendings generalizing store remote with
  | nil => exact ⟨rfl, List.forall_mem_nil _⟩
  | cons sending rest ih =>
    obtain ⟨before, turns⟩ := List.pairwise_cons.mp inTurn
    obtain ⟨exact, lasting⟩ := fair sending (List.mem_cons_self ..)
    let found : Remote := Surrounded.enter sending.clock remote
    have now : found.server.IsClear := (List.forall_mem_cons.mp clear).1
    have entered : Alike (store.memory.setClock sending.clock) found.server :=
      alike.enter (order sending (List.mem_cons_self ..)) now
    have untouched : found.interference.IsQuiet := quiet
    obtain ⟨left, kept, answered, still⟩ := entered.call untouched exact lasting
    have served : history remote (sending :: rest) =
        ⟨found, .ok ((store.memory.setClock sending.clock).run sending.call).1, left⟩ ::
          history left rest := by
      have sent : Backend.answer sending.call (Surrounded.enter sending.clock remote) = _ :=
        answered
      simp only [history, sent]
      rfl
    rw [served] at clear ⊢
    let next : Local :=
      { store with memory := ((store.memory.setClock sending.clock).run sending.call).2 }
    have calmer : next.interference.IsQuiet := calm
    have clock : next.memory.clock = sending.clock := Memory.run_clock sending.call
    obtain ⟨same, answers⟩ := ih calmer still (kept ▸ quiet) turns
      (fun later member => clock ▸ before later member)
      (fun later member => fair later (List.mem_cons_of_mem _ member))
      fun later member => clear later (List.mem_cons_of_mem _ member)
    refine ⟨?_, List.forall_mem_cons.mpr ⟨⟨_, rfl⟩, answers⟩⟩
    have seen : Visible.shown left = Visible.shown next := still.shown_eq
    simp only [sights] at same ⊢
    rw [served, Local.history_cons calm, List.map_cons, List.map_cons, same, seen]

end Histories

/-- Calls in turn on stores without keys are answered alike by the store in memory under a lock, by
the same store with separate batches and by the store on the server, and after each call the same
can be seen under every key. Scores and bounds are such that binary64 can tell them, deadlines lie
ahead when they are set, and no call finds a key at its deadline. On a clock of whole seconds every
deadline of a second or more lies ahead. -/
theorem stores_answer_alike (start : Seconds) :
    (∀ sendings : List Sending, sendings.Pairwise Sending.Precedes →
      (∀ sending ∈ sendings, sending.call.IsExact ∧ sending.IsLasting) →
      (∀ served ∈ history (vacantServer start) sendings, served.found.server.IsClear) →
      sights (vacantStore .separate start) sendings =
          sights (vacantStore .locked start) sendings ∧
        sights (vacantServer start) sendings = sights (vacantStore .locked start) sendings ∧
        ∀ served ∈ history (vacantServer start) sendings,
          ∃ reply, served.outcome = .ok reply) ∧
    ∀ (call : Call) (count : Int), (∀ seconds ∈ call.lifetime?, 1 ≤ seconds) →
      Sending.IsLasting ⟨call, .whole count⟩ := by
  refine ⟨fun sendings inTurn fair clear => ⟨?_, ?_⟩, fun call count long seconds sets => ?_⟩
  · have quiet (batching : Batching) : (vacantStore batching start).interference.IsQuiet :=
      fun _ => rfl
    exact Local.sights_eq (quiet .locked) (quiet .separate) rfl sendings
  · cases sendings with
    | nil => exact ⟨rfl, List.forall_mem_nil _⟩
    | cons sending rest =>
      -- The first call moves the clock wherever it started.
      have alike : Alike (vacantStore .locked sending.clock).memory
          (vacantServer sending.clock).server := Alike.empty sending.clock
      have order : ∀ later ∈ sending :: rest, sending.clock.le later.clock = true := by
        intro later member
        rcases List.mem_cons.mp member with rfl | member
        · exact (Seconds.le_iff_instant _ _).mpr le_rfl
        · exact (List.pairwise_cons.mp inTurn).1 later member
      exact alike.sights_eq (fun _ => rfl) (fun _ => rfl) (sending :: rest) inTurn order fair clear
  · have positive := long seconds sets
    rw [Seconds.later_whole, Seconds.whole_le_whole]
    exact decide_eq_false (by omega)

section Busy

/-- A member is moved; a set is emptied under its deadline and begins again without one; a key that
is not there is told to lapse; an attempt lapses. -/
def busySendings : List Sending :=
  [⟨.add "a" "x" 5, .whole 0⟩, ⟨.add "a" "x" 9, .whole 1⟩, ⟨.purge "a" 7, .whole 1⟩,
   ⟨.expire "a" 10, .whole 2⟩, ⟨.remove "a" "x", .whole 3⟩, ⟨.add "a" "y" 1, .whole 4⟩,
   ⟨.count "a", .whole 20⟩, ⟨.expire "b" 5, .whole 20⟩, ⟨.record "b" 0 "x" 3 5, .whole 21⟩,
   ⟨.count "b", .whole 30⟩, ⟨.delete "a", .whole 30⟩]

/-- Sendings of every kind, past deadlines and rebirths of a key, are answered alike. -/
theorem busySendings_answered_alike :
    sights (vacantServer (.whole 0)) busySendings =
        sights (vacantStore .locked (.whole 0)) busySendings ∧
      (history (vacantServer (.whole 0)) busySendings).map (·.outcome) =
        [.ok .nothing, .ok .nothing, .ok (.number 0), .ok .nothing, .ok .nothing, .ok .nothing,
         .ok (.number 1), .ok .nothing, .ok (.number 0), .ok (.number 0), .ok .nothing] := by
  have inTurn : busySendings.Pairwise Sending.Precedes := by
    unfold Sending.Precedes
    decide
  have fair : ∀ sending ∈ busySendings, sending.call.IsExact ∧ sending.IsLasting := by
    unfold Call.IsExact Sending.IsLasting
    decide
  have clear : ∀ served ∈ history (vacantServer (.whole 0)) busySendings,
      served.found.server.IsClear := by
    decide
  have alike := (stores_answer_alike (.whole 0)).1 busySendings inTurn fair clear
  exact ⟨alike.2.1, by rfl⟩

end Busy

end Turnstile.Store
