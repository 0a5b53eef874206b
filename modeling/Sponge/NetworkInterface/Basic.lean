import Sponge.EthernetFrame
import Sponge.Lib.Word
import Mathlib.Logic.Function.Basic

/-!
# NetworkInterface

The interface wraps datagrams in Ethernet frames.  It learns the Ethernet
address of a next hop by ARP and keeps datagrams back until it knows it.  A
method that throws leaves the changes it has made so far.
-/

namespace Sponge

open Lib

structure NetworkInterface where
  ethernetAddress : EthernetAddress
  ipAddress : Address
  /-- Outbound queue of frames that the interface wants sent. -/
  framesOut : List EthernetFrame := []
  /-- The Ethernet address of an IP address, and the age of the entry. -/
  ethernetAddrCache : UInt32 → Option (EthernetAddress × Nat) := fun _ => none
  /-- Datagrams that wait for the Ethernet address of their next hop. -/
  queueingIPDatagrams : List (IPv4Datagram × UInt32) := []
  /-- The time since the last ARP request for an IP address. -/
  arpTimer : UInt32 → Option Nat := fun _ => none

namespace NetworkInterface

def arpReqTime : Nat := 5 * 1000

def cacheValidTime : Nat := 30 * 1000

/-- What a method does to the interface. -/
abbrev Method := EStateM Exception NetworkInterface

def pushFrame (dst : EthernetAddress) (type : UInt16) (payload : BufferList) : Method Unit :=
  modify fun i =>
    { i with
      framesOut := i.framesOut ++ [{ header := { dst, src := i.ethernetAddress, type }, payload }] }

def arpRequest (i : NetworkInterface) (target : UInt32) : ARPMessage where
  opcode := ARPMessage.opcodeRequest
  senderEthernetAddress := i.ethernetAddress
  senderIpAddress := i.ipAddress.ipv4Numeric
  targetIpAddress := target

def arpReply (i : NetworkInterface) (msg : ARPMessage) : ARPMessage where
  opcode := ARPMessage.opcodeReply
  senderEthernetAddress := i.ethernetAddress
  senderIpAddress := i.ipAddress.ipv4Numeric
  targetEthernetAddress := msg.senderEthernetAddress
  targetIpAddress := msg.senderIpAddress

def sendArp (dst : EthernetAddress) (msg : ARPMessage) : Method Unit := do
  let payload ← MonadExcept.ofExcept msg.serialize
  pushFrame dst EthernetHeader.typeARP [payload]

/-- Is it time for another request for the address? -/
def requestDue (i : NetworkInterface) (ip : UInt32) : Bool :=
  (i.arpTimer ip).all fun time => decide (time ≥ arpReqTime)

/-- Send a datagram to its next hop if the Ethernet address is known, and keep
it back otherwise. -/
def sendDatagram (dgram : IPv4Datagram) (nextHop : Address) : Method Unit := do
  let nextHopIp := nextHop.ipv4Numeric
  let i ← get
  match i.ethernetAddrCache nextHopIp with
  | some (dst, _) =>
      let payload ← MonadExcept.ofExcept dgram.serialize
      pushFrame dst EthernetHeader.typeIPv4 payload
  | none =>
      if i.requestDue nextHopIp then
        set { i with arpTimer := Function.update i.arpTimer nextHopIp (some 0) }
        sendArp ethernetBroadcast (i.arpRequest nextHopIp)
      modify fun i =>
        { i with queueingIPDatagrams := i.queueingIPDatagrams ++ [(dgram, nextHopIp)] }

/-- The loop over the datagrams that wait, from `position` on: those that wait
for `ip` are sent and taken off the queue. -/
def flush (ip : UInt32) : Nat → Nat → Method Unit
  | 0, _ => pure ()
  | fuel + 1, position => do
      match (← get).queueingIPDatagrams[position]? with
      | none => pure ()
      | some (dgram, hop) =>
          if hop = ip then
            sendDatagram dgram (Address.fromIpv4Numeric hop)
            modify fun i =>
              { i with queueingIPDatagrams := i.queueingIPDatagrams.eraseIdx position }
            flush ip fuel position
          else flush ip fuel (position + 1)

/-- Learn from an ARP message, send what has waited for it, and answer a request
for our own address. -/
def learn (msg : ARPMessage) : Method Unit := do
  modify fun i =>
    { i with
      ethernetAddrCache :=
        Function.update i.ethernetAddrCache msg.senderIpAddress (some (msg.senderEthernetAddress, 0))
      arpTimer := Function.update i.arpTimer msg.senderIpAddress none }
  flush msg.senderIpAddress (← get).queueingIPDatagrams.length 0
  let i ← get
  if msg.opcode = ARPMessage.opcodeRequest ∧ msg.targetIpAddress = i.ipAddress.ipv4Numeric then
    sendArp msg.senderEthernetAddress (i.arpReply msg)

/-- Is the frame for the interface? -/
def isDestination (i : NetworkInterface) (frame : EthernetFrame) : Bool :=
  frame.header.dst == ethernetBroadcast || frame.header.dst == i.ethernetAddress

/-- Every type but IPv4 is taken for ARP. -/
def recvFrame (frame : EthernetFrame) : Method (Option IPv4Datagram) := do
  if !(← get).isDestination frame then return none
  if frame.header.type = EthernetHeader.typeIPv4 then
    let (dgram, parsingResult) := IPv4Datagram.parse {} (← MonadExcept.ofExcept frame.payload.toBuffer)
    return if parsingResult = .noError then some dgram else none
  else
    let (msg, parsingResult) := ARPMessage.parse {} (← MonadExcept.ofExcept frame.payload.toBuffer)
    if parsingResult = .noError then learn msg
    return none

def tick (msSinceLastTick : Nat) : Method Unit :=
  modify fun i =>
    { i with
      ethernetAddrCache := fun ip => do
        let (address, age) ← i.ethernetAddrCache ip
        let age := Word.add 64 age msSinceLastTick
        if age ≥ cacheValidTime then none else some (address, age)
      arpTimer := fun ip => (i.arpTimer ip).map (Word.add 64 · msSinceLastTick) }

end NetworkInterface

end Sponge
