import Turnstile.Proofs.Store.Table
import Turnstile.Store.Memory

/-!
# What calls do to the store in memory

A call sees the bucket under its key unless that is past its deadline, acts on this bucket alone,
and leaves the clock and every other key as they are. Each elementary call is described by the
bucket it leaves, and the batches by the entries above their bound: the answer is their count, and
an attempt leaves them with its own entry after them and the deadline renewed.
-/

namespace Turnstile.Store

open Time

namespace Bucket

/-- The deadline has not come. -/
def isLive (clock : Seconds) (bucket : Bucket) : Bool :=
  match bucket.deadline with
  | some deadline => !deadline.le clock
  | none => true

/-- The bucket unless it is empty. -/
def settled (bucket : Bucket) : Option Bucket :=
  if bucket.scores.isEmpty then none else some bucket

/-- The bucket with the entries above a bound. -/
def above (bound : Int) (bucket : Bucket) : Bucket :=
  { bucket with scores := bucket.scores.keep (bound < ·) }

/-- The bucket without an entry. -/
def without (entry : String) (bucket : Bucket) : Bucket :=
  { bucket with scores := bucket.scores.drop entry }

/-- The rows of a bucket that may be absent. -/
def rowsOf (slot : Option Bucket) : List (String × Int) := (slot.map (·.scores.rows)).getD []

/-- The rows of a bucket that is there. -/
@[simp] theorem rowsOf_some (bucket : Bucket) : rowsOf (some bucket) = bucket.scores.rows := rfl

/-- Dropping an empty bucket drops no row. -/
@[simp] theorem rowsOf_settled (bucket : Bucket) : rowsOf bucket.settled = bucket.scores.rows := by
  unfold settled
  split
  · rename_i empty
    exact (List.isEmpty_iff.mp empty).symm
  · rfl

/-- The rows above a bound that a call at a reading of the clock finds. -/
def shown (clock : Seconds) (bound : Int) (slot : Option Bucket) : List (String × Int) :=
  (rowsOf (slot.filter (·.isLive clock))).filter (bound < ·.2)

/-- Nothing is shown of a bucket that is absent. -/
theorem shown_none (clock : Seconds) (bound : Int) : shown clock bound none = [] := rfl

/-- A bucket shows its rows above the bound while it is live. -/
theorem shown_some (clock : Seconds) (bound : Int) (bucket : Bucket) :
    shown clock bound (some bucket) =
      if bucket.isLive clock then bucket.scores.rows.filter (bound < ·.2) else [] := by
  rw [shown, Option.filter_some]
  split <;> rfl

/-- Dropping an empty bucket hides nothing. -/
theorem shown_settled (clock : Seconds) (bound : Int) (bucket : Bucket) :
    shown clock bound bucket.settled = shown clock bound (some bucket) := by
  unfold settled
  split
  · rename_i empty
    have none : bucket.scores.rows = [] := List.isEmpty_iff.mp empty
    rw [shown_none, shown_some, none]
    split <;> rfl
  · rfl

/-- A bucket past its deadline shows nothing. -/
theorem shown_of_le {bucket : Bucket} {clock deadline : Seconds}
    (due : bucket.deadline = some deadline) (past : deadline.le clock = true) (bound : Int) :
    shown clock bound (some bucket) = [] := by
  have lapsed : bucket.isLive clock = false := by
    simp only [isLive, due, past, Bool.not_true]
  rw [shown_some, if_neg (Bool.eq_false_iff.mp lapsed)]

/-- Entries dropped below a bound are not missed above a later one. -/
theorem shown_above (clock : Seconds) {bound later : Int} (order : bound ≤ later)
    (bucket : Bucket) :
    shown clock later (some (bucket.above bound)) = shown clock later (some bucket) := by
  rw [shown_some, shown_some]
  have same : (bucket.above bound).isLive clock = bucket.isLive clock := rfl
  rw [same, above, Table.rows_keep, List.filter_filter]
  congr 1
  refine List.filter_congr fun row _ => ?_
  by_cases late : later < row.2
  · have early : bound < row.2 := by omega
    simp [late, early]
  · simp [late]

end Bucket

namespace Memory

variable (memory : Memory) (key other entry : String) (bound score seconds : Int)

/-- The bucket that a call on the key finds. -/
def find? : Option Bucket := (memory.held.get? key).filter (·.isLive memory.clock)

/-- The entries held under a key, past its deadline or not. -/
def rows : List (String × Int) := Bucket.rowsOf (memory.held.get? key)

/-- The entries that a call on the key finds, oldest insertion first. -/
def entries : List (String × Int) := Bucket.rowsOf (memory.find? key)

/-- The entries above the bound that a call on the key finds. -/
def recent : List (String × Int) := (memory.entries key).filter (bound < ·.2)

/-- The clock may be set to its own reading. -/
theorem setClock_self : memory.setClock memory.clock = memory := rfl

/-- What a call finds above a bound is what the slot of its key shows at its clock. -/
theorem recent_eq_shown : memory.recent key bound =
    Bucket.shown memory.clock bound (memory.held.get? key) := rfl

/-- A bucket found is held and live. -/
theorem find?_eq_some_iff {bucket : Bucket} : memory.find? key = some bucket ↔
    memory.held.get? key = some bucket ∧ bucket.isLive memory.clock = true := by
  simp [find?, Option.filter_eq_some_iff]

/-- A bucket is past its deadline when it is not live. -/
theorem lapsed_eq (bucket : Bucket) : memory.lapsed bucket = !bucket.isLive memory.clock := by
  unfold lapsed Bucket.isLive
  cases bucket.deadline <;> simp

/-- Looking at a key finds its live bucket. -/
@[simp] theorem touch_fst : (memory.touch key).1 = memory.find? key := by
  unfold touch find?
  cases held : memory.held.get? key with
  | none => rfl
  | some bucket =>
    cases live : bucket.isLive memory.clock <;> simp [lapsed_eq, live, Option.filter]

/-- Touching a key leaves the clock. -/
@[simp] theorem touch_clock : (memory.touch key).2.clock = memory.clock := by
  unfold touch
  split
  · rfl
  · split <;> rfl

/-- Looking at a key drops what is past its deadline there and nothing else. -/
theorem touch_get? : (memory.touch key).2.held.get? other =
    if other = key then memory.find? key else memory.held.get? other := by
  unfold touch find?
  cases held : memory.held.get? key with
  | none =>
    by_cases same : other = key
    · simp [same, held]
    · simp [same]
  | some bucket =>
    cases live : bucket.isLive memory.clock with
    | false => simp [lapsed_eq, live, Table.get?_drop, Option.filter]
    | true =>
      by_cases same : other = key
      · simp [lapsed_eq, live, same, held, Option.filter]
      · simp [lapsed_eq, live, same]

/-- Settling a bucket leaves the clock. -/
@[simp] theorem settle_clock (bucket : Bucket) :
    (memory.settle key bucket).clock = memory.clock := by
  unfold settle hold
  split <;> rfl

/-- Settling a bucket changes what is held under its key only. -/
theorem settle_get? (bucket : Bucket) : (memory.settle key bucket).held.get? other =
    if other = key then bucket.settled else memory.held.get? other := by
  unfold settle hold Bucket.settled
  split
  · rw [Table.get?_drop]
  · rw [Table.get?_put]

/-- A purge leaves the clock. -/
@[simp] theorem purge_clock : (memory.purge key bound).2.clock = memory.clock := by
  unfold purge
  have kept := memory.touch_clock key
  split <;> simp_all

/-- A purge leaves the live entries above the bound. -/
theorem purge_get? : (memory.purge key bound).2.held.get? other =
    if other = key then (memory.find? key).bind fun bucket => (bucket.above bound).settled
    else memory.held.get? other := by
  have looked := memory.touch_get? key other
  have found := memory.touch_fst key
  unfold purge
  split
  · rename_i touched pair
    rw [pair] at looked found
    simp only at looked found
    rw [looked, ← found]
    rfl
  · rename_i bucket touched pair
    rw [pair] at looked found
    simp only at looked found
    rw [settle_get?, looked, ← found]
    by_cases same : other = key
    · simp only [if_pos same]
      rfl
    · simp only [if_neg same]

/-- A count leaves the clock. -/
@[simp] theorem count_clock : (memory.count key).2.clock = memory.clock := by
  unfold count
  have kept := memory.touch_clock key
  split <;> simp_all

/-- A count drops the bucket of its key if that is past its deadline. -/
theorem count_get? : (memory.count key).2.held.get? other =
    if other = key then memory.find? key else memory.held.get? other := by
  have looked := memory.touch_get? key other
  unfold count
  split <;> simp_all

/-- A count answers how many entries are found. -/
theorem count_fst : (memory.count key).1 = (memory.entries key).length := by
  have found := memory.touch_fst key
  unfold count entries
  split
  · rename_i touched pair
    rw [pair] at found
    rw [← found]
    rfl
  · rename_i bucket touched pair
    rw [pair] at found
    rw [← found]
    rfl

/-- An addition leaves the clock. -/
@[simp] theorem add_clock : (memory.add key entry score).clock = memory.clock :=
  memory.touch_clock key

/-- An insertion puts the entry into the live bucket, or into a new one without a deadline. -/
theorem add_get? : (memory.add key entry score).held.get? other =
    if other = key then
      let bucket := (memory.find? key).getD {}
      some { bucket with scores := bucket.scores.put entry score }
    else memory.held.get? other := by
  have looked := memory.touch_get? key other
  have found := memory.touch_fst key
  unfold add hold
  simp only
  rw [Table.get?_put, found]
  by_cases same : other = key
  · simp only [if_pos same]
  · simp only [if_neg same]
    rw [looked, if_neg same]

/-- A removal leaves the clock. -/
@[simp] theorem remove_clock : (memory.remove key entry).clock = memory.clock := by
  unfold remove
  have kept := memory.touch_clock key
  split <;> simp_all

/-- A removal leaves the other live entries. -/
theorem remove_get? : (memory.remove key entry).held.get? other =
    if other = key then
      (memory.find? key).bind fun bucket => (bucket.without entry).settled
    else memory.held.get? other := by
  have looked := memory.touch_get? key other
  have found := memory.touch_fst key
  unfold remove
  split
  · rename_i touched pair
    rw [pair] at looked found
    simp only at looked found
    rw [looked, ← found]
    rfl
  · rename_i bucket touched pair
    rw [pair] at looked found
    simp only at looked found
    rw [settle_get?, looked, ← found]
    by_cases same : other = key
    · simp only [if_pos same]
      rfl
    · simp only [if_neg same]

/-- Setting a deadline leaves the clock. -/
@[simp] theorem expire_clock : (memory.expire key seconds).clock = memory.clock := by
  unfold expire hold
  have kept := memory.touch_clock key
  split <;> simp_all

/-- A deadline is set on a live bucket only. -/
theorem expire_get? : (memory.expire key seconds).held.get? other =
    if other = key then
      (memory.find? key).map fun bucket =>
        { bucket with deadline := some (memory.clock.later seconds) }
    else memory.held.get? other := by
  have looked := memory.touch_get? key other
  have found := memory.touch_fst key
  have kept := memory.touch_clock key
  unfold expire hold
  split
  · rename_i touched pair
    rw [pair] at looked found
    simp only at looked found
    rw [looked, ← found]
    rfl
  · rename_i bucket touched pair
    rw [pair] at looked found kept
    simp only at looked found kept
    simp only
    rw [Table.get?_put, looked, ← found, kept]
    by_cases same : other = key
    · simp only [if_pos same]
      rfl
    · simp only [if_neg same]

/-- A deletion leaves the clock. -/
@[simp] theorem delete_clock : (memory.delete key).clock = memory.clock := rfl

/-- A deletion drops its key only. -/
theorem delete_get? : (memory.delete key).held.get? other =
    if other = key then none else memory.held.get? other := Table.get?_drop ..

/-- What is held does not change as the clock moves. -/
theorem setClock_get? (clock : Seconds) :
    (memory.setClock clock).held.get? key = memory.held.get? key := rfl

/-! ## Calls after calls on the same key -/

/-- A state that shows a live bucket under a key, or nothing, finds it there. -/
theorem find?_eq_of_get? {memory next : Memory} {key : String} {slot : Option Bucket}
    (clock : next.clock = memory.clock) (shown : next.held.get? key = slot)
    (live : ∀ bucket ∈ slot, bucket.isLive memory.clock = true) : next.find? key = slot := by
  rw [find?, shown, clock]
  cases slot with
  | none => rfl
  | some bucket => simp [Option.filter, live bucket rfl]

/-- What is left of a bucket found, under its deadline, is found. -/
theorem find?_of_settled {memory next : Memory} {key : String} {change : Bucket → Bucket}
    (clock : next.clock = memory.clock)
    (dated : ∀ bucket, (change bucket).deadline = bucket.deadline)
    (held : next.held.get? key = (memory.find? key).bind fun bucket => (change bucket).settled) :
    next.find? key = (memory.find? key).bind fun bucket => (change bucket).settled := by
  apply find?_eq_of_get? clock held
  intro bucket member
  obtain ⟨found, present, kept⟩ := Option.bind_eq_some_iff.mp (Option.mem_def.mp member)
  unfold Bucket.settled at kept
  split at kept
  · cases kept
  · obtain rfl := Option.some.inj kept
    have live := ((memory.find?_eq_some_iff key).mp present).2
    unfold Bucket.isLive at live ⊢
    rw [dated]
    exact live

/-- A purge leaves the rows above the bound to be found. -/
theorem purge_find? : (memory.purge key bound).2.find? key =
    (memory.find? key).bind fun bucket => (bucket.above bound).settled :=
  find?_of_settled (memory.purge_clock key bound) (fun _ => rfl)
    (by rw [purge_get?, if_pos rfl])

/-- A removal leaves the other rows to be found. -/
theorem remove_find? : (memory.remove key entry).find? key =
    (memory.find? key).bind fun bucket => (bucket.without entry).settled :=
  find?_of_settled (memory.remove_clock key entry) (fun _ => rfl)
    (by rw [remove_get?, if_pos rfl])

/-- A count finds the same as before. -/
theorem count_find? : (memory.count key).2.find? key = memory.find? key := by
  apply find?_eq_of_get? (memory.count_clock key)
  · rw [count_get?, if_pos rfl]
  · intro bucket member
    exact ((memory.find?_eq_some_iff key).mp member).2

/-- An addition leaves its row to be found with the others. -/
theorem add_find? : (memory.add key entry score).find? key =
    some { (memory.find? key).getD {} with
      scores := ((memory.find? key).getD {}).scores.put entry score } := by
  apply find?_eq_of_get? (memory.add_clock key entry score)
  · rw [add_get?, if_pos rfl]
  · intro bucket member
    obtain rfl := Option.some.inj (Option.mem_def.mp member)
    cases present : memory.find? key with
    | none => rfl
    | some found => exact ((memory.find?_eq_some_iff key).mp present).2

/-- The rows that an insertion starts from are the entries found. -/
theorem getD_find?_rows : ((memory.find? key).getD {}).scores.rows = memory.entries key := by
  unfold entries
  cases memory.find? key <;> rfl

/-- What a call finds under a key, with nothing for an absent key. -/
def bucketAt : Bucket := (memory.find? key).getD {}

/-- The bucket of a key has the entries found there. -/
theorem bucketAt_rows : (memory.bucketAt key).scores.rows = memory.entries key :=
  memory.getD_find?_rows key

/-- What is made of a bucket found, when nothing is made of an empty one. -/
theorem bind_find? {change : Bucket → Bucket} (nothing : (change {}).scores.isEmpty = true) :
    ((memory.find? key).bind fun bucket => (change bucket).settled) =
      (change (memory.bucketAt key)).settled := by
  unfold bucketAt
  cases memory.find? key with
  | none => exact (if_pos nothing).symm
  | some bucket => rfl

/-- A purge answers how many entries it removes. -/
theorem purge_fst : (memory.purge key bound).1 =
    (memory.bucketAt key).scores.size - ((memory.bucketAt key).above bound).scores.size := by
  have found := memory.touch_fst key
  unfold purge bucketAt
  split
  · rename_i pair
    rw [pair] at found
    rw [← found]
    rfl
  · rename_i pair
    rw [pair] at found
    rw [← found]
    rfl

/-- The time left to a key is that of the bucket found there. -/
theorem remaining_fst : (memory.remaining key).1 =
    (memory.find? key).bind fun bucket => bucket.deadline.map (·.since memory.clock) := by
  have found := memory.touch_fst key
  have kept := memory.touch_clock key
  unfold remaining
  split
  · rename_i pair
    rw [pair] at found
    rw [← found]
    rfl
  · rename_i pair
    rw [pair] at found kept
    rw [← found, ← kept]
    rfl

/-- What a purge leaves are the entries above its bound. -/
theorem rowsOf_bind_above : Bucket.rowsOf
    ((memory.find? key).bind fun bucket => (bucket.above bound).settled) =
      memory.recent key bound := by
  unfold recent entries
  cases memory.find? key with
  | none => rfl
  | some bucket => exact Bucket.rowsOf_settled _

/-- After a purge the entries above its bound are found. -/
theorem purge_entries : (memory.purge key bound).2.entries key = memory.recent key bound := by
  rw [entries, purge_find?, rowsOf_bind_above]

/-- A count leaves the entries found. -/
theorem count_entries : (memory.count key).2.entries key = memory.entries key := by
  rw [entries, entries, count_find?]

/-- A look at a key answers how many entries are above the bound. -/
theorem inspect_fst : ((memory.purge key bound).2.count key).1 =
    (memory.recent key bound).length := by
  rw [count_fst, purge_entries]

/-- A look at a key leaves the entries above the bound. -/
theorem inspect_get? : ((memory.purge key bound).2.count key).2.held.get? other =
    if other = key then (memory.find? key).bind fun bucket => (bucket.above bound).settled
    else memory.held.get? other := by
  rw [count_get?, purge_find?, purge_get?]
  by_cases same : other = key
  · simp only [if_pos same]
  · simp only [if_neg same]

/-- An attempt is answered with the count of the entries above its bound. -/
theorem record_fst : (memory.record key bound entry score seconds).1 =
    (memory.recent key bound).length := memory.inspect_fst key bound

/-- A record leaves the clock. -/
@[simp] theorem record_clock :
    (memory.record key bound entry score seconds).2.clock = memory.clock := by
  simp [record]

/-- An attempt leaves the entries above its bound, its own after them, and a new deadline. -/
theorem record_get? : (memory.record key bound entry score seconds).2.held.get? other =
    if other = key then
      some ⟨⟨(memory.recent key bound).filter (·.1 != entry) ++ [(entry, score)]⟩,
        some (memory.clock.later seconds)⟩
    else memory.held.get? other := by
  simp only [record]
  rw [expire_get?, add_find?, add_clock, count_clock, purge_clock]
  by_cases same : other = key
  · simp only [if_pos same, Option.map_some, Table.put, Table.rows_drop]
    rw [getD_find?_rows, count_entries, purge_entries]
  · simp only [if_neg same]
    rw [add_get?, if_neg same, count_get?, if_neg same, purge_get?, if_neg same]

/-! ## The rows that calls leave -/

/-- A bucket found has its rows held. -/
theorem entries_sublist_rows : (memory.entries key).Sublist (memory.rows key) := by
  unfold entries rows find?
  cases memory.held.get? key with
  | none => exact List.Sublist.slnil
  | some bucket =>
    simp only [Option.filter]
    split
    · exact List.Sublist.refl _
    · exact List.nil_sublist _

/-- A key that is not past its deadline has all its rows found. -/
theorem entries_eq_rows
    (live : ∀ bucket, memory.held.get? key = some bucket → bucket.isLive memory.clock = true) :
    memory.entries key = memory.rows key := by
  unfold entries rows find?
  cases held : memory.held.get? key with
  | none => rfl
  | some bucket =>
    rw [Option.filter_some, if_pos (live bucket held)]

/-- What is found above a bound is among what is held. -/
theorem recent_sublist_rows : (memory.recent key bound).Sublist (memory.rows key) :=
  List.filter_sublist.trans (memory.entries_sublist_rows key)

section Fresh

variable {memory key entry} (fresh : ∀ row ∈ memory.rows key, row.1 ≠ entry)
include fresh

/-- No entry found bears a name that is not in use. -/
theorem recent_of_fresh :
    (memory.recent key bound).filter (·.1 != entry) = memory.recent key bound := by
  refine List.filter_eq_self.mpr fun row member => bne_iff_ne.mpr (fresh row ?_)
  exact (memory.recent_sublist_rows key bound).subset member

/-- An attempt with a new name leaves the entries above its bound and its own after them. -/
theorem record_get?_of_fresh :
    (memory.record key bound entry score seconds).2.held.get? key =
      some ⟨⟨memory.recent key bound ++ [(entry, score)]⟩, some (memory.clock.later seconds)⟩ := by
  rw [record_get?, if_pos rfl, recent_of_fresh bound fresh]

/-- An attempt with a new name that is taken back leaves the entries above its bound, unless its
deadline has come at once. -/
theorem remove_record_get?_of_fresh :
    ((memory.record key bound entry score seconds).2.remove key entry).held.get? key =
      if (memory.clock.later seconds).le memory.clock then none
      else Bucket.settled ⟨⟨memory.recent key bound⟩, some (memory.clock.later seconds)⟩ := by
  have without : Bucket.without entry ⟨⟨memory.recent key bound ++ [(entry, score)]⟩,
      some (memory.clock.later seconds)⟩ =
        ⟨⟨memory.recent key bound⟩, some (memory.clock.later seconds)⟩ := by
    rw [Bucket.without, Table.drop, List.filter_append, recent_of_fresh bound fresh,
      List.filter_cons, if_neg (by simp), List.filter_nil, List.append_nil]
  rw [remove_get?, if_pos rfl, find?, record_get?_of_fresh bound score seconds fresh, record_clock,
    Option.filter_some]
  cases due : (memory.clock.later seconds).le memory.clock with
  | true => simp [Bucket.isLive, due]
  | false => simp [Bucket.isLive, due, without]

end Fresh

/-- The entries found of other names are among the rows held. -/
theorem others_sublist_rows :
    ((memory.entries key).filter (·.1 != entry)).Sublist (memory.rows key) :=
  List.filter_sublist.trans (memory.entries_sublist_rows key)

/-- A purge leaves the recent rows of its key, and those of other keys. -/
theorem purge_rows : (memory.purge key bound).2.rows other =
    if other = key then memory.recent key bound else memory.rows other := by
  rw [rows, purge_get?]
  split
  · exact memory.rowsOf_bind_above key bound
  · rfl

/-- A count leaves the rows found under its key, and those of other keys. -/
theorem count_rows : (memory.count key).2.rows other =
    if other = key then memory.entries key else memory.rows other := by
  rw [rows, count_get?]
  split <;> rfl

/-- An addition puts its row after the others of its key. -/
theorem add_rows : (memory.add key entry score).rows other =
    if other = key then (memory.entries key).filter (·.1 != entry) ++ [(entry, score)]
    else memory.rows other := by
  rw [rows, add_get?]
  split
  · simp only [Bucket.rowsOf_some, Table.rows_put]
    rw [getD_find?_rows]
  · rfl

/-- A removal takes its row out of those of its key. -/
theorem remove_rows : (memory.remove key entry).rows other =
    if other = key then (memory.entries key).filter (·.1 != entry) else memory.rows other := by
  rw [rows, remove_get?]
  split
  · unfold entries
    cases memory.find? key with
    | none => rfl
    | some bucket => exact Bucket.rowsOf_settled _
  · rfl

/-- Setting a deadline leaves the rows found under its key, and those of other keys. -/
theorem expire_rows : (memory.expire key seconds).rows other =
    if other = key then memory.entries key else memory.rows other := by
  rw [rows, expire_get?]
  split
  · unfold entries
    cases memory.find? key <;> rfl
  · rfl

/-- A deletion leaves no rows of its key, and those of other keys. -/
theorem delete_rows : (memory.delete key).rows other =
    if other = key then [] else memory.rows other := by
  rw [rows, delete_get?]
  split <;> rfl

/-- A record leaves the recent rows of its key and its own after them. -/
theorem record_rows : (memory.record key bound entry score seconds).2.rows other =
    if other = key then
      (memory.recent key bound).filter (·.1 != entry) ++ [(entry, score)]
    else memory.rows other := by
  rw [rows, record_get?]
  split <;> rfl

/-- A removal adds no rows. -/
theorem remove_rows_subset : (memory.remove key entry).rows other ⊆ memory.rows other := by
  rw [remove_rows]
  split
  · rename_i same
    rw [same]
    exact (memory.others_sublist_rows key entry).subset
  · exact List.Subset.refl _

/-- A record adds no rows but its own. -/
theorem record_rows_subset : (memory.record key bound entry score seconds).2.rows other ⊆
    memory.rows other ++ [(entry, score)] := by
  rw [record_rows]
  split
  · rename_i same
    rw [same]
    intro row member
    rcases List.mem_append.mp member with older | own
    · have recent := (memory.recent_sublist_rows key bound).subset (List.mem_of_mem_filter older)
      exact List.mem_append_left _ recent
    · exact List.mem_append_right _ own
  · exact List.subset_append_left _ _

/-- An attempt that is taken back adds nothing. -/
theorem remove_record_rows_subset :
    ((memory.record key bound entry score seconds).2.remove key entry).rows other ⊆
      memory.rows other := by
  intro row member
  have recorded := remove_rows_subset _ _ _ _ member
  rw [record_rows] at recorded
  split at recorded
  · rename_i same
    rw [remove_rows, if_pos same] at member
    have strange := (List.mem_filter.mp member).2
    rcases List.mem_append.mp recorded with older | own
    · rw [same]
      exact (memory.recent_sublist_rows key bound).subset (List.mem_of_mem_filter older)
    · rw [List.mem_singleton.mp own] at strange
      simp at strange
  · exact recorded

end Memory

end Turnstile.Store
