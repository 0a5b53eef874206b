import Sponge.NetworkInterface.Basic
import Sponge.Lib.DescendingTable
import Sponge.Lib.Throwing

/-!
# Router

A router moves datagrams between its interfaces.  Its routing table is kept in
descending order of the prefix lengths, so that the first route that matches is
the one with the longest prefix.
-/

namespace Sponge

open Lib Throwing

structure Route where
  routePrefix : UInt32
  prefixLength : UInt8
  nextHop : Option Address
  interfaceNum : ℕ

/-- An interface that stores received datagrams for later retrieval. -/
structure AsyncNetworkInterface extends NetworkInterface where
  datagramsOut : List IPv4Datagram := []

/-- A call of `send_datagram` on an interface of a router. -/
structure SendCall where
  interfaceNum : ℕ
  dgram : IPv4Datagram
  nextHop : Address
  deriving DecidableEq, Repr

structure Router where
  interfaces : List AsyncNetworkInterface := []
  routingTable : List Route := []
  /-- The calls of `send_datagram` so far, which no method reads. -/
  sendCalls : List SendCall := []

namespace Route

/-- The mask of the bits in the prefix.  The shift is defined for lengths up to
32 only. -/
def bitmask (r : Route) : UInt32 :=
  if r.prefixLength = 0 then 0 else 0xffffffff <<< (32 - r.prefixLength.toUInt32)

/-- Does the route match the address? -/
def isMatch (r : Route) (dst : UInt32) : Bool :=
  r.routePrefix &&& r.bitmask == dst &&& r.bitmask

end Route

namespace AsyncNetworkInterface

abbrev Method := EStateM Exception AsyncNetworkInterface

/-- A method of the interface without the queue. -/
def base {α : Type} (method : NetworkInterface.Method α) : Method α :=
  within toNetworkInterface (fun i next => { i with toNetworkInterface := next }) method

def recvFrame (frame : EthernetFrame) : Method Unit := do
  match ← base (NetworkInterface.recvFrame frame) with
  | some dgram => modify fun i => { i with datagramsOut := i.datagramsOut ++ [dgram] }
  | none => pure ()

end AsyncNetworkInterface

namespace Router

abbrev Method := EStateM Exception Router

/-- A method of one of the interfaces. -/
def interface {α : Type} (n : ℕ) (method : AsyncNetworkInterface.Method α) : Method α := do
  match (← get).interfaces[n]? with
  | none => throw (.outOfRange "vector::_M_range_check")
  | some i => within (fun _ => i) (fun r next => { r with interfaces := r.interfaces.set n next }) method

/-- The queue of an interface. -/
def datagramsOut (n : ℕ) : Method (List IPv4Datagram) :=
  interface n (AsyncNetworkInterface.datagramsOut <$> get)

/-- Add an interface, which gets the next number. -/
def addInterface (r : Router) (i : AsyncNetworkInterface) : Router × ℕ :=
  ({ r with interfaces := r.interfaces ++ [i] }, r.interfaces.length)

/-- Put a route before the first one with a shorter prefix. -/
def addRoute (r : Router) (route : Route) : Router :=
  { r with routingTable := insertDescending (·.prefixLength.toNat) r.routingTable route }

/-- The lookup of the interface may throw, and then there is no call. -/
def sendDatagram (n : ℕ) (dgram : IPv4Datagram) (nextHop : Address) : Method Unit := do
  interface n (pure ())
  modify fun r =>
    { r with sendCalls := r.sendCalls ++ [{ interfaceNum := n, dgram, nextHop }] }
  interface n (AsyncNetworkInterface.base (NetworkInterface.sendDatagram dgram nextHop))

/-- Route the datagram at the front of a queue, where its time to live is
changed in place. -/
def routeOneDatagram (n : ℕ) (dgram : IPv4Datagram) : Method Unit := do
  if dgram.header.ttl > 1 then
    let dgram := { dgram with header := { dgram.header with ttl := dgram.header.ttl - 1 } }
    interface n (modify fun i => { i with datagramsOut := i.datagramsOut.set 0 dgram })
    match (← get).routingTable.find? (·.isMatch dgram.header.dst) with
    | none => pure ()
    | some r =>
        match r.nextHop with
        | none => sendDatagram r.interfaceNum dgram (Address.fromIpv4Numeric dgram.header.dst)
        | some nextHop => sendDatagram r.interfaceNum dgram nextHop

/-- The loop over the queue of an interface. -/
def drain (n : ℕ) : ℕ → Method Unit
  | 0 => pure ()
  | fuel + 1 => do
      match ← datagramsOut n with
      | [] => pure ()
      | dgram :: _ =>
          routeOneDatagram n dgram
          interface n (modify fun i => { i with datagramsOut := i.datagramsOut.tail })
          drain n fuel

/-- The loop over the interfaces.  Sending leaves the queues alone, so that the
length of a queue is enough fuel for it. -/
def pass (interfaces : List ℕ) : Method Unit :=
  interfaces.forM fun n => do drain n (← datagramsOut n).length

/-- Go through all the interfaces and route every datagram. -/
def route : Method Unit := do
  pass (List.range (← get).interfaces.length)

end Router

end Sponge
