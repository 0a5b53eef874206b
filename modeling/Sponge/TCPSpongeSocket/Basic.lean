import Sponge.Adapter.Basic
import Sponge.TCPConnection.Basic
import Sponge.Util.EventLoop

/-!
# TCPSpongeSocket

A socket runs a connection in a thread of its own.  Its event loop moves
segments between the connection and the adapter, and bytes between the
connection and the owner of the socket.  What the kernel answers, the clock and
the owner's wish to abort are arguments of each turn of the loop.
-/

namespace Sponge

open Lib Throwing

namespace TCPConnection

def remainingOutboundCapacity (c : TCPConnection) : Nat := c.sender.stream.remainingCapacity

/-- Remove bytes from the inbound stream. -/
def popInbound (c : TCPConnection) (len : Nat) : TCPConnection :=
  { c with receiver := c.receiver.withStreamOut (c.inboundStream.popOutput len) }

end TCPConnection

structure TCPSpongeSocket (A : Type) where
  tcp : TCPConnection
  /-- Adapter to the underlying datagram socket. -/
  datagramAdapter : A
  /-- Stream socket for reads and writes between the owner and the thread. -/
  threadData : FileDescriptor := {}
  /-- Has the incoming data to the owner been shut down? -/
  inboundShutdown : Bool := false
  /-- Has the owner shut down the outbound data? -/
  outboundShutdown : Bool := false
  /-- Has the outbound data been fully acknowledged by the peer? -/
  fullyAcked : Bool := false

namespace TCPSpongeSocket

variable {A : Type}

abbrev Method (A : Type) := EStateM Exception (TCPSpongeSocket A)

def onAdapter {α : Type} : EStateM Exception A α → Method A α :=
  within datagramAdapter fun s datagramAdapter => { s with datagramAdapter }

def onThreadData {α : Type} : FileDescriptor.Method α → Method A α :=
  within threadData fun s threadData => { s with threadData }

variable [DatagramAdapter A]

/-- What the kernel answers in one turn. -/
structure Answers (A : Type) [DatagramAdapter A] where
  packet : Answer (DatagramAdapter.Packet A)
  /-- What a read gives of the owner's bytes, depending on how many are wanted. -/
  fromOwner : Nat → Answer Buffer
  toOwner : FileDescriptor.Taking
  shutdown : Answer Unit

/-- Read a segment and give it to the connection. -/
def receiveSegment (answers : Answers A) : Method A Unit := do
  match ← onAdapter (DatagramAdapter.read answers.packet) with
  | some seg => modify fun s => { s with tcp := s.tcp.segmentReceived seg }
  | none => pure ()
  modify fun s =>
    if s.threadData.eof && s.tcp.bytesInFlight == 0 && !s.fullyAcked then
      { s with fullyAcked := true }
    else s

def endOutbound : Method A Unit :=
  modify fun s => { s with tcp := s.tcp.endInputStream, outboundShutdown := true }

/-- Read bytes of the owner into the outbound stream. -/
def takeFromOwner (answers : Answers A) : Method A Unit := do
  let capacity := (← get).tcp.remainingOutboundCapacity
  let data ← onThreadData (FileDescriptor.read capacity (answers.fromOwner capacity))
  let (tcp, amountWritten) := (← get).tcp.write data
  modify fun s => { s with tcp }
  if amountWritten ≠ data.length then
    throw (.runtimeError "TCPConnection::write() accepted less than advertised length")
  if (← get).threadData.eof then endOutbound

/-- Write bytes of the inbound stream to the owner; only what the kernel took is
popped. -/
def giveToOwner (answers : Answers A) : Method A Unit := do
  let inbound := (← get).tcp.inboundStream
  let amountToWrite := min 65536 inbound.bufferSize
  let buffer := inbound.peekOutput amountToWrite
  let bytesWritten ← onThreadData (FileDescriptor.write [buffer] false [answers.toOwner])
  modify fun s => { s with tcp := s.tcp.popInbound (bytesWritten.getD 0) }
  let inbound := (← get).tcp.inboundStream
  if inbound.eof || inbound.error then
    onThreadData (FileDescriptor.shutdown .write answers.shutdown)
    modify fun s => { s with inboundShutdown := true }

/-- The loop that sends the segments and takes them off the connection's queue. -/
def sendSegments : List TCPSegment → Method A Unit
  | [] => return
  | seg :: rest => do
      onAdapter (DatagramAdapter.write seg)
      modify fun s => { s with tcp := { s.tcp with segmentsOut := s.tcp.segmentsOut.tail } }
      sendSegments rest

def sendOutbound (_ : Answers A) : Method A Unit := do
  sendSegments (← get).tcp.segmentsOut

/-- The four events to handle. -/
inductive RuleName where
  /-- Incoming datagram received. -/
  | segmentsIn
  /-- Outbound bytes received from the owner. -/
  | bytesIn
  /-- Incoming bytes reassembled by the connection. -/
  | bytesOut
  /-- Outbound segment generated by the connection. -/
  | segmentsOut
  deriving DecidableEq, Repr

def rule : RuleName → EventLoop.Rule (TCPSpongeSocket A) (Answers A)
  | .segmentsIn =>
      { fd := fun s => DatagramAdapter.fd s.datagramAdapter
        direction := .input
        callback := receiveSegment
        interest := fun s => s.tcp.active }
  | .bytesIn =>
      { fd := threadData
        direction := .input
        callback := takeFromOwner
        interest := fun s =>
          s.tcp.active && !s.outboundShutdown && decide (s.tcp.remainingOutboundCapacity > 0)
        cancel := endOutbound }
  | .bytesOut =>
      { fd := threadData
        direction := .output
        callback := giveToOwner
        interest := fun s =>
          !s.tcp.inboundStream.bufferEmpty ||
            ((s.tcp.inboundStream.eof || s.tcp.inboundStream.error) && !s.inboundShutdown) }
  | .segmentsOut =>
      { fd := fun s => DatagramAdapter.fd s.datagramAdapter
        direction := .output
        callback := sendOutbound
        interest := fun s => !s.tcp.segmentsOut.isEmpty }

/-- The rules in the order in which they are added. -/
def ruleNames : List RuleName := [.segmentsIn, .bytesIn, .bytesOut, .segmentsOut]

/-- The event loop as `_initialize_TCP` sets it up. -/
def eventloop : EventLoop (TCPSpongeSocket A) (Answers A) :=
  ruleNames.foldl (fun rules name => EventLoop.addRule rules (rule name)) []

/-- One turn of the loop, as its environment makes it. -/
structure Turn (A : Type) [DatagramAdapter A] where
  poll : EventLoop.Poll
  answers : Answers A
  /-- Does the owner force the thread to shut down? -/
  abort : Bool := false
  /-- The milliseconds since the last tick. -/
  elapsed : Nat := 0

/-- One turn of `_tcp_loop`: whether the loop goes on, and the rules that are left. -/
def loopTurn (rules : EventLoop (TCPSpongeSocket A) (Answers A)) (turn : Turn A) :
    Method A (Bool × EventLoop (TCPSpongeSocket A) (Answers A)) := do
  let (ret, rules) ← EventLoop.waitNextEvent rules turn.poll turn.answers
  if ret = .exit ∨ turn.abort then return (false, rules)
  if (← get).tcp.active then
    modify fun s => { s with tcp := s.tcp.tick turn.elapsed }
    onAdapter (DatagramAdapter.tick turn.elapsed)
  return (true, rules)

inductive Phase where
  /-- In the loop of `connect`. -/
  | connecting
  /-- In the loop of `listen_and_accept`. -/
  | accepting
  /-- In the loop of the thread. -/
  | running
  | finished
  /-- An exception left the loop. -/
  | failed (e : Exception)
  deriving DecidableEq, Repr

namespace Phase

/-- The condition under which a loop goes on. -/
def condition (c : TCPConnection) : Phase → Bool
  | .connecting => c.state == .ofState .synSent
  | .accepting =>
      c.state == .ofState .listen || c.state == .ofState .synRcvd || c.state == .ofState .synSent
  | .running => true
  | .finished | .failed _ => false

/-- What comes after a loop. -/
def next : Phase → Phase
  | .connecting | .accepting => .running
  | .running => .finished
  | .finished => .finished
  | .failed e => .failed e

def isOver : Phase → Bool
  | .finished | .failed _ => true
  | _ => false

end Phase

/-- A socket with its loop. -/
structure Process (A : Type) [DatagramAdapter A] where
  socket : TCPSpongeSocket A
  rules : EventLoop (TCPSpongeSocket A) (Answers A) := eventloop
  phase : Phase

namespace Process

/-- The next turn.  A loop that is over when the turn begins has been followed by
the next one. -/
def step (p : Process A) (turn : Turn A) : Process A :=
  if p.phase.isOver then p
  else
    let phase := if p.phase.condition p.socket.tcp then p.phase else p.phase.next
    match loopTurn p.rules turn p.socket with
    | .ok (goesOn, rules) socket => { socket, rules, phase := if goesOn then phase else phase.next }
    | .error e socket => { p with socket, phase := .failed e }

end Process

def listenAndAccept (adapter : A) (cTcp : TCPConfig) (random : UInt32) (cAd : FdAdapterConfig) :
    Process A where
  socket :=
    { tcp := TCPConnection.new cTcp random
      datagramAdapter :=
        DatagramAdapter.setListening true (DatagramAdapter.withConfig cAd adapter) }
  phase := .accepting

def connect (adapter : A) (cTcp : TCPConfig) (random : UInt32) (cAd : FdAdapterConfig) :
    Except Exception (Process A) :=
  let tcp := (TCPConnection.new cTcp random).connect
  let expectedState := TCPState.ofState .synSent
  if tcp.state ≠ expectedState then
    .error (.runtimeError ("After TCPConnection::connect(), state was " ++ tcp.state.name ++
      " but expected " ++ expectedState.name))
  else
    .ok
      { socket := { tcp, datagramAdapter := DatagramAdapter.withConfig cAd adapter }
        phase := .connecting }

end TCPSpongeSocket

end Sponge
