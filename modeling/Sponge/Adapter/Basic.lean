import Sponge.NetworkInterface.Basic
import Sponge.TCPOverIP.Basic
import Sponge.Util.FileDescriptor

/-!
# Adapters

An adapter carries the segments of a connection in the datagrams of a network
device: in UDP payloads, in IPv4 datagrams, or in IPv4 datagrams in Ethernet
frames.  A lossy adapter drops some of the segments of another one.  A device
takes every packet that is written to it, and records it.
-/

namespace Sponge

open Lib Throwing

/-- What a socket needs of an adapter; `Packet` is what the device gives to a
read. -/
class DatagramAdapter (A : Type) where
  Packet : Type
  fd : A → FileDescriptor
  config : A → FdAdapterConfig
  withConfig : FdAdapterConfig → A → A
  setListening : Bool → A → A
  read : Answer Packet → EStateM Exception A (Option TCPSegment)
  write : TCPSegment → EStateM Exception A Unit
  tick : Nat → EStateM Exception A Unit

/-- A network device: a read gives one packet, and each packet is written by
itself. -/
structure Device where
  fd : FileDescriptor := {}
  packets : List Buffer := []
  deriving DecidableEq, Repr

namespace Device

abbrev Method := EStateM Exception Device

def onFd {α : Type} : FileDescriptor.Method α → Method α := within fd fun d fd => { d with fd }

def read (answer : Answer Buffer) : Method Buffer :=
  onFd (FileDescriptor.read (2 ^ 64 - 1) answer)

/-- The device takes a packet as a whole. -/
def write (packet : BufferList) : Method Unit := do
  let _ ← onFd (FileDescriptor.write packet true [fun offered => .ok offered])
  modify fun d => { d with packets := d.packets ++ [packet.concatenate] }

end Device

/-- A UDP payload with its addresses. -/
structure UDPDatagram where
  source : Address
  destination : Address
  payload : Buffer
  deriving DecidableEq, Repr

structure UDPSocket where
  /-- The address that the socket is bound to. -/
  localAddress : Address
  fd : FileDescriptor := {}
  datagrams : List UDPDatagram := []
  deriving DecidableEq, Repr

namespace UDPSocket

abbrev Method := EStateM Exception UDPSocket

/-- The largest datagram that is received. -/
def mtu : Nat := 65536

def recv (answer : Answer UDPDatagram) : Method UDPDatagram := do
  let datagram ← systemCall "recvfrom" answer
  if datagram.payload.length > mtu then throw (.runtimeError "recvfrom (oversized datagram)")
  modify fun s => { s with fd := s.fd.registerRead }
  return datagram

/-- The kernel takes a datagram as a whole. -/
def sendto (destination : Address) (payload : BufferList) : Method Unit :=
  modify fun s =>
    { s with
      fd := s.fd.registerWrite
      datagrams := s.datagrams ++
        [{ source := s.localAddress, destination, payload := payload.concatenate }] }

end UDPSocket

/-- An adapter that reads and writes segments in UDP payloads. -/
structure TCPOverUDPSocketAdapter where
  cfg : FdAdapterConfig := {}
  listen : Bool := false
  sock : UDPSocket
  deriving DecidableEq, Repr

namespace TCPOverUDPSocketAdapter

abbrev Method := EStateM Exception TCPOverUDPSocketAdapter

def onSock {α : Type} : UDPSocket.Method α → Method α := within sock fun a sock => { a with sock }

def read (answer : Answer UDPDatagram) : Method (Option TCPSegment) := do
  let datagram ← onSock (UDPSocket.recv answer)
  let a ← get
  if !a.listen ∧ datagram.source ≠ a.cfg.destination then return none
  let (seg, parsingResult) := TCPSegment.parse {} datagram.payload 0
  if parsingResult ≠ .noError then return none
  if a.listen then
    if seg.header.syn ∧ !seg.header.rst then
      set { a with cfg := { a.cfg with destination := datagram.source }, listen := false }
    else return none
  return some seg

/-- Set the port numbers in a segment. -/
def setPorts (a : TCPOverUDPSocketAdapter) (seg : TCPSegment) : TCPSegment :=
  { seg with
    header := { seg.header with sport := a.cfg.source.port, dport := a.cfg.destination.port } }

def write (seg : TCPSegment) : Method Unit := do
  let a ← get
  let payload ← MonadExcept.ofExcept ((a.setPorts seg).serialize 0)
  onSock (UDPSocket.sendto a.cfg.destination payload)

instance : DatagramAdapter TCPOverUDPSocketAdapter where
  Packet := UDPDatagram
  fd a := a.sock.fd
  config := cfg
  withConfig cfg a := { a with cfg }
  setListening listen a := { a with listen }
  read := read
  write := write
  tick _ := return

end TCPOverUDPSocketAdapter

/-- An adapter for IPv4 datagrams on a TUN device. -/
structure TCPOverIPv4OverTunFdAdapter where
  base : TCPOverIPv4Adapter := {}
  tun : Device := {}
  deriving DecidableEq, Repr

namespace TCPOverIPv4OverTunFdAdapter

abbrev Method := EStateM Exception TCPOverIPv4OverTunFdAdapter

def onTun {α : Type} : Device.Method α → Method α := within tun fun a tun => { a with tun }

def onBase {α : Type} : TCPOverIPv4Adapter.Method α → Method α :=
  within base fun a base => { a with base }

def read (answer : Answer Buffer) : Method (Option TCPSegment) := do
  let (ipDgram, parsingResult) := IPv4Datagram.parse {} (← onTun (Device.read answer))
  if parsingResult ≠ .noError then return none
  onBase (TCPOverIPv4Adapter.unwrapTcpInIp ipDgram)

def write (seg : TCPSegment) : Method Unit := do
  let (_, ipDgram) ← MonadExcept.ofExcept ((← get).base.wrapTcpInIp seg)
  onTun (Device.write (← MonadExcept.ofExcept ipDgram.serialize))

instance : DatagramAdapter TCPOverIPv4OverTunFdAdapter where
  Packet := Buffer
  fd a := a.tun.fd
  config a := a.base.cfg
  withConfig cfg a := { a with base := { a.base with cfg } }
  setListening listen a := { a with base := { a.base with listen } }
  read := read
  write := write
  tick _ := return

end TCPOverIPv4OverTunFdAdapter

/-- An adapter for IPv4 datagrams in Ethernet frames on a TAP device. -/
structure TCPOverIPv4OverEthernetAdapter where
  base : TCPOverIPv4Adapter := {}
  tap : Device := {}
  interface : NetworkInterface
  nextHop : Address

namespace TCPOverIPv4OverEthernetAdapter

abbrev Method := EStateM Exception TCPOverIPv4OverEthernetAdapter

def onTap {α : Type} : Device.Method α → Method α := within tap fun a tap => { a with tap }

def onBase {α : Type} : TCPOverIPv4Adapter.Method α → Method α :=
  within base fun a base => { a with base }

def onInterface {α : Type} : NetworkInterface.Method α → Method α :=
  within interface fun a interface => { a with interface }

/-- The first frame on a TAP device is ignored, so a dummy frame is sent. -/
def new (tap : Device) (ethAddress : EthernetAddress) (ipAddress nextHop : Address) :
    EStateM.Result Exception TCPOverIPv4OverEthernetAdapter Unit :=
  onTap (Device.write (EthernetFrame.serialize {}))
    { tap, nextHop, interface := { ethernetAddress := ethAddress, ipAddress } }

/-- The loop that sends the pending frames and takes them off the queue. -/
def sendFrames : List EthernetFrame → Method Unit
  | [] => return
  | frame :: rest => do
      onTap (Device.write frame.serialize)
      modify fun a => { a with interface := { a.interface with framesOut := rest } }
      sendFrames rest

def sendPending : Method Unit := do sendFrames (← get).interface.framesOut

def read (answer : Answer Buffer) : Method (Option TCPSegment) := do
  let (frame, parsingResult) := EthernetFrame.parse {} (← onTap (Device.read answer))
  if parsingResult ≠ .noError then return none
  let ipDgram ← onInterface (NetworkInterface.recvFrame frame)
  -- the incoming frame may have caused the interface to send a frame
  sendPending
  match ipDgram with
  | some ipDgram => onBase (TCPOverIPv4Adapter.unwrapTcpInIp ipDgram)
  | none => return none

def tick (msSinceLastTick : Nat) : Method Unit := do
  onInterface (NetworkInterface.tick msSinceLastTick)
  sendPending

def write (seg : TCPSegment) : Method Unit := do
  let a ← get
  let (_, ipDgram) ← MonadExcept.ofExcept (a.base.wrapTcpInIp seg)
  onInterface (NetworkInterface.sendDatagram ipDgram a.nextHop)
  sendPending

instance : DatagramAdapter TCPOverIPv4OverEthernetAdapter where
  Packet := Buffer
  fd a := a.tap.fd
  config a := a.base.cfg
  withConfig cfg a := { a with base := { a.base with cfg } }
  setListening listen a := { a with base := { a.base with listen } }
  read := read
  write := write
  tick := tick

end TCPOverIPv4OverEthernetAdapter

/-- An adapter that drops some of the segments of another one. -/
structure LossyFdAdapter (A : Type) where
  adapter : A
  /-- What the random number generator gives, one number after another. -/
  rand : Nat → UInt32
  drawn : Nat := 0
  lossRateDn : UInt16 := 0
  lossRateUp : UInt16 := 0

namespace LossyFdAdapter

variable {A : Type}

abbrev Method (A : Type) := EStateM Exception (LossyFdAdapter A)

def onAdapter {α : Type} : EStateM Exception A α → Method A α :=
  within adapter fun a adapter => { a with adapter }

/-- Whether to drop a segment.  Without loss no number is drawn. -/
def shouldDrop (uplink : Bool) : Method A Bool := do
  let a ← get
  let loss := if uplink then a.lossRateUp else a.lossRateDn
  if loss = 0 then return false
  set { a with drawn := a.drawn + 1 }
  return decide ((a.rand a.drawn).toUInt16 < loss)

variable [DatagramAdapter A]

/-- A segment that is dropped has been read all the same. -/
def read (answer : Answer (DatagramAdapter.Packet A)) : Method A (Option TCPSegment) := do
  let ret ← onAdapter (DatagramAdapter.read answer)
  if ← shouldDrop false then return none
  return ret

def write (seg : TCPSegment) : Method A Unit := do
  if ← shouldDrop true then return
  onAdapter (DatagramAdapter.write seg)

def tick (msSinceLastTick : Nat) : Method A Unit :=
  onAdapter (DatagramAdapter.tick msSinceLastTick)

instance : DatagramAdapter (LossyFdAdapter A) where
  Packet := DatagramAdapter.Packet A
  fd a := DatagramAdapter.fd a.adapter
  config a := DatagramAdapter.config a.adapter
  withConfig cfg a := { a with adapter := DatagramAdapter.withConfig cfg a.adapter }
  setListening listen a := { a with adapter := DatagramAdapter.setListening listen a.adapter }
  read := read
  write := write
  tick := tick

end LossyFdAdapter

end Sponge
