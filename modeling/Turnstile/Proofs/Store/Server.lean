import Turnstile.Proofs.Store.Local
import Turnstile.Store.Remote

/-!
# What calls do to the store on a server

Each batch on the server is described by the slot that it leaves under its key, as long as no text
stands there: an attempt leaves the members above its bound, its own entry after them and the
deadline renewed. With no request touched, a call on the store is answered by what its commands come
to, and leaves the server as they do.
-/

namespace Turnstile.Store

open Number Time

namespace Server

/-- The deadline lies in the past. -/
def isOver (clock : Seconds) (deadline : Option Seconds) : Bool :=
  match deadline with
  | some due => due.lt clock
  | none => false

/-- The members above a bound. -/
def above (bound : Int) (members : Table Binary64) : Table Binary64 :=
  members.keep fun score => !score.le (Binary64.ofInt bound)

section Slots

variable (server : Server) (key : String) (members : Table Binary64) (deadline : Option Seconds)

/-- A slot is past its deadline when the clock is over it. -/
theorem lapsed_eq (slot : Slot) : server.lapsed slot = isOver server.clock slot.deadline := rfl

/-- A slot that is not over is found. -/
theorem slot?_of_get? {server : Server} {key : String} {slot : Slot}
    (held : server.slots.get? key = some slot)
    (lasts : isOver server.clock slot.deadline = false) : server.slot? key = some slot := by
  unfold slot?
  rw [held, Option.filter_some, lapsed_eq, lasts]
  rfl

/-- A slot that is over is not found. -/
theorem slot?_of_isOver {server : Server} {key : String} {slot : Slot}
    (held : server.slots.get? key = some slot)
    (passed : isOver server.clock slot.deadline = true) : server.slot? key = none := by
  unfold slot?
  rw [held, Option.filter_some, lapsed_eq, passed]
  rfl

/-- A key without a slot has no members. -/
theorem members_of_none {server : Server} {key : String} (gone : server.slot? key = none) :
    server.members key = .ok ({}, none) := by
  rw [members, gone]

/-- Members that are held and not over are found. -/
theorem members_of_get? {server : Server} {key : String} {members : Table Binary64}
    {deadline : Option Seconds} (held : server.slots.get? key = some ⟨.scored members, deadline⟩)
    (lasts : isOver server.clock deadline = false) :
    server.members key = .ok (members, deadline) := by
  rw [Server.members, slot?_of_get? held lasts]

/-- Members with one more are not empty. -/
theorem put_isEmpty (entry : String) (score : Binary64) :
    (members.put entry score).isEmpty = false := by
  simp [Table.isEmpty]

/-- Settling a slot leaves the clock. -/
@[simp] theorem settle_clock : (server.settle key members deadline).clock = server.clock := by
  unfold settle
  split <;> rfl

/-- Settling a slot changes what is held under its key only. -/
theorem settle_get? (other : String) : (server.settle key members deadline).slots.get? other =
    if other = key then if members.isEmpty then none else some ⟨.scored members, deadline⟩
    else server.slots.get? other := by
  unfold settle
  cases members.isEmpty with
  | true => simp [Table.get?_drop]
  | false => simp [Table.get?_put]

variable {server deadline}

/-- Members that are held until a deadline that is not over are found. -/
theorem settle_members (lasts : isOver server.clock deadline = false) :
    (server.settle key members deadline).members key =
      .ok (members, if members.isEmpty then none else deadline) := by
  have held := server.settle_get? key members deadline key
  rw [if_pos rfl] at held
  cases empty : members.isEmpty with
  | true =>
    rw [empty, if_pos rfl] at held
    have gone : (server.settle key members deadline).slot? key = none := by
      rw [slot?, held]
      rfl
    obtain ⟨rows⟩ := members
    obtain rfl : rows = [] := List.isEmpty_iff.mp empty
    exact members_of_none gone
  | false =>
    rw [empty, if_neg Bool.false_ne_true] at held
    exact members_of_get? held (by rw [settle_clock]; exact lasts)

end Slots

/-- Commands in two parts. -/
theorem runEach_append (first second : List Command) (server : Server) :
    runEach (first ++ second) server =
      ((runEach first server).1 ++ (runEach second (runEach first server).2).1,
        (runEach second (runEach first server).2).2) := by
  induction first generalizing server with
  | nil => rfl
  | cons command rest ih =>
    simp only [List.cons_append, runEach, ih]

section Batches

variable {server : Server} {key : String} {members : Table Binary64} {deadline : Option Seconds}
  (found : server.members key = .ok (members, deadline))
  (lasts : isOver server.clock deadline = false)
include found lasts

/-- A purge and a count: the members above the bound stay and are counted. -/
theorem runEach_inspect (bound : Int) : ∃ removed : Int,
    runEach [.removeUpTo key bound, .cardinality key] server =
      ([.ok (.number removed), .ok (.number (above bound members).size)],
        server.settle key (above bound members) deadline) := by
  refine ⟨members.size - (above bound members).size, ?_⟩
  have counted := settle_members key (above bound members) lasts
  simp only [runEach, run, found]
  simp only [above] at counted ⊢
  rw [counted]

/-- An insertion after which the key lapses some seconds from now. -/
theorem runEach_enter (entry : String) (score seconds : Int) : ∃ (added : Int) (next : Server),
    runEach [.insert key entry score, .expire key seconds] server =
        ([.ok (.number added), .ok (.number 1)], next) ∧
      next.clock = server.clock ∧ ∀ other, next.slots.get? other =
        if other = key then some ⟨.scored (members.put entry (Binary64.ofInt score)),
          some (server.clock.later seconds)⟩
        else server.slots.get? other := by
  have inserted := server.settle_get? key (members.put entry (Binary64.ofInt score)) deadline
  have clock := server.settle_clock key (members.put entry (Binary64.ofInt score)) deadline
  have ran : server.run (.insert key entry score) =
      (.ok (.number (if (members.get? entry).isSome then 0 else 1)),
        server.settle key (members.put entry (Binary64.ofInt score)) deadline) := by
    simp only [run, found]
  generalize server.settle key (members.put entry (Binary64.ofInt score)) deadline = grown
    at inserted clock ran
  have held := inserted key
  rw [if_pos rfl, put_isEmpty, if_neg Bool.false_ne_true] at held
  have live := slot?_of_get? held (by rw [clock]; exact lasts)
  let renewed : Slot := ⟨.scored (members.put entry (Binary64.ofInt score)),
    some (grown.clock.later seconds)⟩
  refine ⟨if (members.get? entry).isSome then 0 else 1,
    { grown with slots := grown.slots.put key renewed }, ?_, clock, fun other => ?_⟩
  · rw [runEach, ran]
    simp only [runEach, run, live]
    rfl
  · simp only [renewed]
    rw [Table.get?_put, clock]
    by_cases same : other = key
    · rw [if_pos same, if_pos same]
    · rw [if_neg same, if_neg same, inserted, if_neg same]

/-- An attempt leaves the members above its bound, its own entry after them, and a new deadline. -/
theorem runEach_record (bound : Int) (entry : String) (score seconds : Int) :
    ∃ (removed added : Int) (next : Server),
      runEach [.removeUpTo key bound, .cardinality key, .insert key entry score,
          .expire key seconds] server =
        ([.ok (.number removed), .ok (.number (above bound members).size), .ok (.number added),
          .ok (.number 1)], next) ∧
      next.clock = server.clock ∧ ∀ other, next.slots.get? other =
        if other = key then some
          ⟨.scored ((above bound members).put entry (Binary64.ofInt score)),
            some (server.clock.later seconds)⟩
        else server.slots.get? other := by
  obtain ⟨removed, purged⟩ := runEach_inspect found lasts bound
  have still : isOver (server.settle key (above bound members) deadline).clock
      (if (above bound members).isEmpty then none else deadline) = false := by
    rw [settle_clock]
    split
    · rfl
    · exact lasts
  obtain ⟨added, next, entered, clock, slots⟩ :=
    runEach_enter (settle_members key (above bound members) lasts) still entry score seconds
  refine ⟨removed, added, next, ?_, ?_, fun other => ?_⟩
  · have parts := runEach_append [.removeUpTo key bound, .cardinality key]
      [.insert key entry score, .expire key seconds] server
    rw [purged, entered] at parts
    exact parts
  · rw [clock, settle_clock]
  · rw [slots, settle_clock]
    by_cases same : other = key
    · rw [if_pos same, if_pos same]
    · rw [if_neg same, if_neg same, settle_get?, if_neg same]

end Batches

end Server

namespace Remote

variable {remote : Remote} (quiet : remote.interference.IsQuiet)

/-- The store after its requests: another server, and more requests issued. -/
def IsLeftAs (remote : Remote) (server : Server) (left : Remote) : Prop :=
  left.server = server ∧ left.interference = remote.interference

include quiet

/-- A command that is not touched is carried out. -/
theorem send_of_quiet (command : Command) :
    ∃ left, remote.IsLeftAs (remote.server.run command).2 left ∧
      send command remote = ⟨(remote.server.run command).1, [], left⟩ := by
  let left : Remote := { remote with
    server := (remote.server.run command).2
    issued := .command command :: remote.issued }
  refine ⟨left, ⟨rfl, rfl⟩, ?_⟩
  unfold send issue
  rw [quiet]
  rfl

/-- Commands that are not touched are all queued. -/
theorem queueAll_of_quiet (commands : List Command) : ∃ left, remote.IsLeftAs remote.server left ∧
    queueAll commands remote = ⟨.ok commands, [], left⟩ := by
  induction commands generalizing remote with
  | nil => exact ⟨remote, ⟨rfl, rfl⟩, rfl⟩
  | cons command rest ih =>
    obtain ⟨left, ⟨server, kept⟩, queued⟩ :=
      @ih { remote with issued := .command command :: remote.issued } quiet
    refine ⟨left, ⟨server, kept⟩, ?_⟩
    simp only [queueAll, Action.bind_apply, queue, quiet command.name, queued, Action.pure_apply]
    rfl

/-- A batch that is not touched runs its commands in turn. -/
theorem batch_of_quiet (commands : List Command) :
    ∃ left, remote.IsLeftAs (Server.runEach commands remote.server).2 left ∧
      batch commands remote =
        ⟨((Server.runEach commands remote.server).1.mapM id).map .series, [], left⟩ := by
  obtain ⟨middle, ⟨server, kept⟩, queued⟩ :=
    @queueAll_of_quiet { remote with issued := .pipeline :: remote.issued } quiet commands
  let left : Remote := { middle with
    server := (Server.runEach commands remote.server).2
    issued := .execute :: middle.issued }
  refine ⟨left, ⟨rfl, kept⟩, ?_⟩
  have untouched (name : String) : middle.interference.outcome? name = none := by
    rw [kept]
    exact quiet name
  simp only [batch, Action.bind_apply, issue, quiet ServerCall.pipeline.name, Action.pure_apply,
    queued, untouched ServerCall.execute.name, trip, server, List.append_nil]
  rfl

/-- A batch all of whose commands are carried out answers with the second reply. -/
theorem secondCounted_of_quiet (call : Call) {key : String} {commands : List Command}
    {replies : List (Except Failure Reply)} {server : Server} {first : Reply} {count : Int}
    {others : List Reply} (ran : Server.runEach commands remote.server = (replies, server))
    (served : replies.mapM id = .ok (first :: .number count :: others)) :
    ∃ left, remote.IsLeftAs server left ∧
      secondCounted (reporting call key (batch commands)) remote =
        ⟨.ok (.number count), [], left⟩ := by
  obtain ⟨left, leaves, sent⟩ := batch_of_quiet quiet commands
  rw [ran] at leaves sent
  refine ⟨left, leaves, ?_⟩
  rw [served] at sent
  simp only [secondCounted, counted, Action.bind_apply, reporting, sent, Except.map]
  rfl

/-- A command that the server accepts is answered with nothing. -/
theorem silently_of_quiet (call : Call) (key : String) {command : Command} {reply : Reply}
    {server : Server} (ran : remote.server.run command = (.ok reply, server)) :
    ∃ left, remote.IsLeftAs server left ∧
      silently (reporting call key (send command)) remote = ⟨.ok .nothing, [], left⟩ := by
  obtain ⟨left, leaves, sent⟩ := send_of_quiet quiet command
  rw [ran] at leaves sent
  refine ⟨left, leaves, ?_⟩
  simp only [silently, Action.bind_apply, reporting, sent]
  rfl

/-- A command that the server answers with a number is answered with it. -/
theorem counted_of_quiet (call : Call) (key : String) {command : Command} {count : Int}
    {server : Server} (ran : remote.server.run command = (.ok (.number count), server)) :
    ∃ left, remote.IsLeftAs server left ∧
      counted (reporting call key (send command)) remote = ⟨.ok (.number count), [], left⟩ := by
  obtain ⟨left, leaves, sent⟩ := send_of_quiet quiet command
  rw [ran] at leaves sent
  refine ⟨left, leaves, ?_⟩
  simp only [counted, Action.bind_apply, reporting, sent]
  rfl

/-- A deletion takes the key away. -/
theorem answer_delete_of_quiet (key : String) : ∃ left, remote.IsLeftAs
      { remote.server with slots := remote.server.slots.drop key } left ∧
    answer (.delete key) remote = ⟨.ok .nothing, [], left⟩ :=
  silently_of_quiet quiet (.delete key) key rfl

section Calls

variable {key : String} {members : Table Binary64} {deadline : Option Seconds}

/-- A look answers how many members are above its bound, and leaves them. -/
theorem answer_inspect_of_quiet (found : remote.server.members key = .ok (members, deadline))
    (lasts : Server.isOver remote.server.clock deadline = false) (bound : Int) :
    ∃ left, remote.IsLeftAs
        (remote.server.settle key (Server.above bound members) deadline) left ∧
      answer (.inspect key bound) remote =
        ⟨.ok (.number (Server.above bound members).size), [], left⟩ := by
  obtain ⟨removed, ran⟩ := Server.runEach_inspect found lasts bound
  exact secondCounted_of_quiet quiet (.inspect key bound) ran rfl

/-- An attempt answers how many members are above its bound. It leaves them, its own entry after
them, and a new deadline. -/
theorem answer_record_of_quiet (found : remote.server.members key = .ok (members, deadline))
    (lasts : Server.isOver remote.server.clock deadline = false) (bound : Int) (entry : String)
    (score seconds : Int) :
    ∃ (server : Server) (left : Remote), remote.IsLeftAs server left ∧
      server.clock = remote.server.clock ∧
      (∀ other, server.slots.get? other =
        if other = key then some
          ⟨.scored ((Server.above bound members).put entry (Binary64.ofInt score)),
            some (remote.server.clock.later seconds)⟩
        else remote.server.slots.get? other) ∧
      answer (.record key bound entry score seconds) remote =
        ⟨.ok (.number (Server.above bound members).size), [], left⟩ := by
  obtain ⟨removed, added, next, ran, clock, slots⟩ :=
    Server.runEach_record found lasts bound entry score seconds
  obtain ⟨left, leaves, answered⟩ :=
    secondCounted_of_quiet quiet (.record key bound entry score seconds) ran rfl
  exact ⟨next, left, leaves, clock, slots, answered⟩

/-- A removal leaves the other members. -/
theorem answer_remove_of_quiet (found : remote.server.members key = .ok (members, deadline))
    (entry : String) : ∃ left, remote.IsLeftAs
        (remote.server.settle key (members.drop entry) deadline) left ∧
      answer (.remove key entry) remote = ⟨.ok .nothing, [], left⟩ := by
  have ran : remote.server.run (.remove key entry) =
      (.ok (.number (if (members.get? entry).isSome then 1 else 0)),
        remote.server.settle key (members.drop entry) deadline) := by
    simp only [Server.run, found]
  exact silently_of_quiet quiet (.remove key entry) key ran

end Calls

end Remote

end Turnstile.Store
