import Turnstile.Failure
import Turnstile.Number.Binary64
import Turnstile.Store.Call
import Turnstile.Store.Table
import Turnstile.Time.Seconds

/-!
# The counter server

A server shared by all processes. A key holds a set of members scored by binary64 numbers, or a
text put there by someone else. A set that becomes empty disappears together with its deadline,
and a key is still there at its exact deadline.
-/

namespace Turnstile.Store

open Number Time

/-- What a key of the server holds. -/
inductive Held where
  | scored (members : Table Binary64)
  | text (value : String)
deriving Repr, Inhabited

/-- What a key holds and when it lapses. -/
structure Slot where
  held : Held
  deadline : Option Seconds := none
deriving Repr, Inhabited

/-- The server: its clock and its keys. -/
structure Server where
  clock : Seconds
  slots : Table Slot := {}
deriving Repr, Inhabited

/-- A command to the server. -/
inductive Command where
  /-- Remove the members scored at or below the bound. -/
  | removeUpTo (key : String) (bound : Int)
  | cardinality (key : String)
  | insert (key member : String) (score : Int)
  | remove (key member : String)
  | expire (key : String) (seconds : Int)
  | delete (key : String)
  | ping
deriving DecidableEq, Repr

/-- The name of a command on the wire. -/
def Command.name : Command → String
  | .removeUpTo .. => "zremrangebyscore"
  | .cardinality .. => "zcard"
  | .insert .. => "zadd"
  | .remove .. => "zrem"
  | .expire .. => "expire"
  | .delete .. => "delete"
  | .ping => "ping"

namespace Server

/-- The server without keys. -/
def empty (clock : Seconds) : Server := { clock }

/-- The server with its clock moved. -/
def setClock (clock : Seconds) (server : Server) : Server := { server with clock }

/-- The deadline of a slot lies strictly in the past. -/
def lapsed (server : Server) (slot : Slot) : Bool :=
  match slot.deadline with
  | some deadline => deadline.lt server.clock
  | none => false

/-- The slot of a key that has not lapsed. -/
def slot? (server : Server) (key : String) : Option Slot :=
  (server.slots.get? key).filter fun slot => !server.lapsed slot

/-- The keys that have not lapsed. -/
def present (server : Server) : List (String × Slot) :=
  server.slots.rows.filter fun row => !server.lapsed row.2

/-- Refusal of a set command on a text. -/
def wrongType : Failure :=
  .ofKind .serverResponse "WRONGTYPE Operation against a key holding the wrong kind of value"

/-- The members of a key, none for an absent key, and its deadline. -/
def members (server : Server) (key : String) : Except Failure (Table Binary64 × Option Seconds) :=
  match server.slot? key with
  | none => .ok ({}, none)
  | some ⟨.scored members, deadline⟩ => .ok (members, deadline)
  | some ⟨.text _, _⟩ => .error wrongType

/-- Hold members under a key; an empty set takes the key away. -/
def settle (server : Server) (key : String) (members : Table Binary64)
    (deadline : Option Seconds) : Server :=
  if members.isEmpty then { server with slots := server.slots.drop key }
  else { server with slots := server.slots.put key ⟨.scored members, deadline⟩ }

/-- Put a text under a key. -/
def setText (key value : String) (server : Server) : Server :=
  { server with slots := server.slots.put key ⟨.text value, none⟩ }

/-- Carry out a command. -/
def run (command : Command) (server : Server) : Except Failure Reply × Server :=
  match command with
  | .removeUpTo key bound =>
    match server.members key with
    | .error failure => (.error failure, server)
    | .ok (members, deadline) =>
      let limit := Binary64.ofInt bound
      let kept := members.keep fun score => !score.le limit
      (.ok (.number (members.size - kept.size)), server.settle key kept deadline)
  | .cardinality key =>
    match server.members key with
    | .error failure => (.error failure, server)
    | .ok (members, _) => (.ok (.number members.size), server)
  | .insert key member score =>
    match server.members key with
    | .error failure => (.error failure, server)
    | .ok (members, deadline) =>
      let added : Int := if (members.get? member).isSome then 0 else 1
      (.ok (.number added),
        server.settle key (members.put member (Binary64.ofInt score)) deadline)
  | .remove key member =>
    match server.members key with
    | .error failure => (.error failure, server)
    | .ok (members, deadline) =>
      let removed : Int := if (members.get? member).isSome then 1 else 0
      (.ok (.number removed), server.settle key (members.drop member) deadline)
  | .expire key seconds =>
    match server.slot? key with
    | none => (.ok (.number 0), server)
    | some slot =>
      let renewed := { slot with deadline := some (server.clock.later seconds) }
      (.ok (.number 1), { server with slots := server.slots.put key renewed })
  | .delete key =>
    let removed : Int := if (server.slot? key).isSome then 1 else 0
    (.ok (.number removed), { server with slots := server.slots.drop key })
  | .ping => (.ok (.flag true), server)

/-- Carry out commands in turn, each whatever became of the others. -/
def runEach : List Command → Server → List (Except Failure Reply) × Server
  | [], server => ([], server)
  | command :: rest, server =>
    let (reply, next) := server.run command
    let (replies, last) := runEach rest next
    (reply :: replies, last)

end Server

end Turnstile.Store
