import Sponge.IPv4Datagram.RoundTrip
import Sponge.Lib.Run
import Sponge.Router.Basic

/-!
# Interfaces on their segments

The simulator connects interfaces by handing the frames of each to all the others
on the same segment, once and in order.  Here the handing over is taken apart:
interfaces hear each other's frames one at a time, and take them off their queues,
in any interleaving with the calls of their owners.
-/

namespace Sponge

open Lib Throwing

/-- The frame as it is handed over, with its payload in one piece. -/
def EthernetFrame.joined (frame : EthernetFrame) : EthernetFrame :=
  { frame with payload := [frame.payload.concatenate] }

namespace NetworkSimulator

universe u v

/-- The segment and the addresses of every interface.  On a segment the addresses
are distinct. -/
structure Layout (ι : Type u) (κ : Type v) where
  segment : ι → κ
  ethernetAddress : ι → EthernetAddress
  ipAddress : ι → Address
  ethernetDistinct : ∀ {i j}, segment i = segment j →
    ethernetAddress i = ethernetAddress j → i = j
  ipDistinct : ∀ {i j}, segment i = segment j →
    (ipAddress i).ipv4Numeric = (ipAddress j).ipv4Numeric → i = j
  unicast : ∀ i, ethernetAddress i ≠ ethernetBroadcast

/-- Two interfaces that hear each other. -/
def Layout.Linked {ι : Type u} {κ : Type v} (layout : Layout ι κ) (i j : ι) : Prop :=
  layout.segment i = layout.segment j ∧ i ≠ j

/-- An interface, and what has happened there. -/
structure Station (ι : Type u) where
  interface : AsyncNetworkInterface
  /-- The datagrams that its owner wanted sent, with their next hops. -/
  submitted : List (IPv4Datagram × UInt32) := []
  /-- The frames that have been taken off its queue, in order. -/
  popped : List EthernetFrame := []
  /-- How many frames of every other interface have been heard. -/
  heard : ι → ℕ := fun _ => 0
  /-- The datagrams that have come out, and the interfaces from which they came. -/
  received : List (ι × IPv4Datagram) := []
  /-- The datagrams that the owner has taken. -/
  collected : List IPv4Datagram := []

inductive Event (ι : Type u) where
  | sendDatagram (i : ι) (dgram : IPv4Datagram) (nextHop : Address)
  /-- The next frame of one interface reaches another. -/
  | deliver (i j : ι)
  /-- The oldest frame that the interface wants sent is taken off its queue. -/
  | popFrame (i : ι)
  /-- The owner takes the oldest datagram that has come out. -/
  | popDatagram (i : ι)
  | tick (i : ι) (msSinceLastTick : ℕ)

namespace Station

variable {ι : Type u}

/-- All the frames that the interface has ever wanted sent. -/
def frames (s : Station ι) : List EthernetFrame := s.popped ++ s.interface.framesOut

/-- The datagrams that have come out of frames of the interface `i`. -/
def receivedFrom [DecidableEq ι] (i : ι) (s : Station ι) : List IPv4Datagram :=
  (s.received.filter (·.1 = i)).map (·.2)

/-- A method of the interface itself. -/
def onInterface {α : Type} (method : NetworkInterface.Method α) (s : Station ι) : Station ι :=
  { s with interface := finalState (AsyncNetworkInterface.base method s.interface) }

def sendDatagram (dgram : IPv4Datagram) (nextHop : Address) (s : Station ι) : Station ι :=
  { s.onInterface (NetworkInterface.sendDatagram dgram nextHop) with
    submitted := s.submitted ++ [(dgram, nextHop.ipv4Numeric)] }

/-- A frame of the interface `i` is heard. -/
def hear [DecidableEq ι] (i : ι) (frame : EthernetFrame) (s : Station ι) : Station ι :=
  let after := finalState (AsyncNetworkInterface.recvFrame frame.joined s.interface)
  { s with
    interface := after
    heard := Function.update s.heard i (s.heard i + 1)
    received := s.received ++
      (after.datagramsOut.drop s.interface.datagramsOut.length).map fun dgram => (i, dgram) }

def popFrame (s : Station ι) : Station ι :=
  { s with
    interface := { s.interface with framesOut := s.interface.framesOut.tail }
    popped := s.popped ++ s.interface.framesOut.head?.toList }

def popDatagram (s : Station ι) : Station ι :=
  { s with
    interface := { s.interface with datagramsOut := s.interface.datagramsOut.tail }
    collected := s.collected ++ s.interface.datagramsOut.head?.toList }

end Station

section Steps

variable {ι : Type u} {κ : Type v} [DecidableEq ι]

def step (s : ι → Station ι) : Event ι → ι → Station ι
  | .sendDatagram i dgram nextHop => Function.update s i ((s i).sendDatagram dgram nextHop)
  | .deliver i j =>
      match (s i).frames[(s j).heard i]? with
      | some frame => Function.update s j ((s j).hear i frame)
      | none => s
  | .popFrame i => Function.update s i (s i).popFrame
  | .popDatagram i => Function.update s i (s i).popDatagram
  | .tick i ms => Function.update s i ((s i).onInterface (NetworkInterface.tick ms))

/-- Frames are heard on their segment, and datagrams that are sent are well
formed. -/
def Permitted (layout : Layout ι κ) : Event ι → Prop
  | .sendDatagram _ dgram _ => dgram.WellFormed
  | .deliver i j => layout.Linked i j
  | _ => True

/-- All interfaces before the first call. -/
def Layout.initial (layout : Layout ι κ) (i : ι) : Station ι where
  interface := { ethernetAddress := layout.ethernetAddress i, ipAddress := layout.ipAddress i }

/-- Every frame has been heard by everyone else on its segment. -/
def Silent (layout : Layout ι κ) (s : ι → Station ι) : Prop :=
  ∀ i k, layout.Linked i k → (s k).heard i = (s i).frames.length

end Steps

end NetworkSimulator

end Sponge
