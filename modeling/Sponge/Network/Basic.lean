import Sponge.TCPConnection.Basic
import Sponge.Lib.Run
import Mathlib.Logic.Function.Basic

/-!
# Two connections and a network

Two endpoints exchange segments over a network that may lose, duplicate, delay
and reorder them, but never alters or forges one.  The network is the list of
all segments an endpoint has ever put on the wire: a delivery picks any of
them, any number of times or never.  Each endpoint also records what its
application has done, so that the two ends of a direction can be compared.
-/

namespace Sponge

open Lib TCPConnection

inductive Side where
  | a
  | b
  deriving DecidableEq, Repr

def Side.other : Side → Side
  | .a => .b
  | .b => .a

/-- A connection together with the history of its application and its wire. -/
structure Endpoint where
  conn : TCPConnection
  /-- The bytes that `write` accepted, in order. -/
  accepted : List UInt8 := []
  /-- The bytes that the application read from the inbound stream. -/
  consumed : List UInt8 := []
  /-- Every segment that was ever taken off the outbound queue. -/
  wire : List TCPSegment := []
  deriving DecidableEq

namespace Endpoint

def new (cfg : TCPConfig) (random : UInt32) : Endpoint where
  conn := TCPConnection.new cfg random

/-- All bytes ever placed in the inbound stream: those already read, followed
by those still waiting. -/
def placed (e : Endpoint) : List UInt8 := e.consumed ++ e.conn.inboundStream.buffer

def hasEnded (e : Endpoint) : Bool := e.conn.sender.stream.inputEnded

def apply (e : Endpoint) (call : Call) : Endpoint where
  conn := e.conn.apply call
  accepted :=
    match call with
    | .write data => e.accepted ++ data.take (e.conn.write data).2
    | _ => e.accepted
  consumed :=
    match call with
    | .readInbound len => e.consumed ++ (e.conn.readInbound len).1
    | _ => e.consumed
  wire :=
    match call with
    | .popSegment => e.wire ++ e.conn.segmentsOut.head?.toList
    | _ => e.wire

end Endpoint

abbrev System := Side → Endpoint

inductive Event where
  | call (side : Side) (call : Call)
  /-- Deliver the `n`th segment of the other side's wire. -/
  | deliver (side : Side) (n : Nat)
  deriving DecidableEq, Repr

namespace System

def new (cfg : Side → TCPConfig) (random : Side → UInt32) : System :=
  fun side => Endpoint.new (cfg side) (random side)

def step (s : System) : Event → System
  | .call side call => Function.update s side ((s side).apply call)
  | .deliver side n =>
      match (s side.other).wire[n]? with
      | some seg => Function.update s side ((s side).apply (.segmentReceived seg))
      | none => s

/-- What the environment promises: no write after `endInputStream`, fewer than
`2^31` bytes accepted in each direction, and only segments from the wire. -/
def Permitted (s : System) : Event → Prop
  | .call side (.write data) =>
      (s side).hasEnded = false ∧ ((s side).apply (.write data)).accepted.length < 2 ^ 31
  | .call _ (.segmentReceived _) => False
  | .call _ _ => True
  | .deliver side n => n < (s side.other).wire.length

instance (s : System) (event : Event) : Decidable (s.Permitted event) :=
  match event with
  | .call _ (.write _) => inferInstanceAs (Decidable (_ ∧ _))
  | .call _ (.segmentReceived _) => .isFalse id
  | .call _ .connect | .call _ .endInputStream | .call _ (.tick _) | .call _ (.readInbound _)
  | .call _ .popSegment => .isTrue trivial
  | .deliver _ _ => inferInstanceAs (Decidable (_ < _))

end System

end Sponge
