import Sponge.TCPState

/-!
# TCPConnection

One endpoint: a sender, a receiver, and the bits that decide when the
connection is over.
-/

namespace Sponge

open Lib

structure TCPConnection where
  cfg : TCPConfig
  receiver : TCPReceiver
  sender : TCPSender
  /-- Outbound queue of segments that the connection wants sent. -/
  segmentsOut : List TCPSegment := []
  lingerAfterStreamsFinish : Bool := true
  timeSinceLastSegmentReceived : Nat := 0
  isActive : Bool := true
  isFinSent : Bool := false
  isFinAcked : Bool := false
  deriving DecidableEq, Repr

namespace TCPConnection

def new (cfg : TCPConfig) (random : UInt32) : TCPConnection where
  cfg := cfg
  receiver := TCPReceiver.new cfg.recvCapacity
  sender := TCPSender.new cfg.sendCapacity cfg.rtTimeout cfg.fixedIsn random

def active (c : TCPConnection) : Bool := c.isActive

def bytesInFlight (c : TCPConnection) : Nat := c.sender.bytesInFlight

def inboundStream (c : TCPConnection) : ByteStream := c.receiver.streamOut

def state (c : TCPConnection) : TCPState :=
  .ofParts c.sender c.receiver c.active c.lingerAfterStreamsFinish

/-- Fill in the fields of a segment that are set by the receiver. -/
def stamp (receiver : TCPReceiver) (seg : TCPSegment) : TCPSegment :=
  let header :=
    match receiver.ackno with
    | some ackno => { seg.header with ackno, ack := true }
    | none => seg.header
  let win := if receiver.windowSize < 65535 then UInt16.ofNat receiver.windowSize else 65535
  { seg with header := { header with win } }

/-- Move one segment of the sender's queue to the connection's. -/
def flushSegment (c : TCPConnection) (seg : TCPSegment) : TCPConnection :=
  { c with
    segmentsOut := c.segmentsOut ++ [stamp c.receiver seg]
    isFinSent := c.isFinSent || seg.header.fin }

def flushSender (c : TCPConnection) : TCPConnection :=
  c.sender.segmentsOut.foldl flushSegment { c with sender := { c.sender with segmentsOut := [] } }

/-- Set the error flag on both byte streams. -/
def setErrors (c : TCPConnection) : TCPConnection :=
  { c with
    sender := { c.sender with stream := c.sender.stream.setError }
    receiver := c.receiver.withStreamOut c.receiver.streamOut.setError }

/-- Kill the connection and send a reset; segments waiting in the sender's
queue are thrown away. -/
def sendRst (c : TCPConnection) : TCPConnection :=
  let c := { c.setErrors with isActive := false }
  let seg : TCPSegment :=
    { header := { seqno := wrap c.sender.nextSeqno c.sender.isn, rst := true } }
  { c with
    sender := { c.sender with segmentsOut := [] }
    segmentsOut := c.segmentsOut ++ [seg] }

/-- Hand a segment to the receiver and its acknowledgment to the sender. -/
def process (c : TCPConnection) (seg : TCPSegment) : TCPConnection :=
  let c := { c with receiver := c.receiver.segmentReceived seg }
  let c :=
    if seg.header.ack then
      { c with sender := c.sender.ackReceived seg.header.ackno seg.header.win }
    else c
  if c.receiver.ackno.isSome then { c with sender := c.sender.fillWindow } else c

/-- Decide whether our FIN is acknowledged, or whether the peer closed first.
The acknowledgment number is compared whether or not the ACK flag is set. -/
def updateShutdown (c : TCPConnection) (seg : TCPSegment) : TCPConnection :=
  if c.isFinSent then
    if seg.header.ackno = c.sender.relativeNextSeqno then
      { c with isFinAcked := true, isActive := c.isActive && c.lingerAfterStreamsFinish }
    else c
  else
    { c with
      lingerAfterStreamsFinish :=
        c.lingerAfterStreamsFinish && !c.receiver.streamOut.inputEnded }

/-- Is the segment a keep-alive, just below the acknowledgment number? -/
def isKeepAlive (c : TCPConnection) (seg : TCPSegment) : Bool :=
  match c.receiver.ackno with
  | some ackno => seg.lengthInSequenceSpace == 0 && seg.header.seqno == ackno.sub 1
  | none => false

/-- Make sure that a segment which needs a reply gets one. -/
def ensureReply (c : TCPConnection) (seg : TCPSegment) : TCPConnection :=
  let c :=
    if seg.lengthInSequenceSpace > 0 && c.sender.segmentsOut.isEmpty then
      { c with sender := c.sender.sendEmptySegment }
    else c
  if c.isKeepAlive seg then { c with sender := c.sender.sendEmptySegment } else c

def segmentReceived (c : TCPConnection) (seg : TCPSegment) : TCPConnection :=
  let c := { c with timeSinceLastSegmentReceived := 0 }
  if !c.isActive then
    -- an inactive connection is taken for one that has not started yet
    if seg.header.syn then
      { c with isActive := true, receiver := c.receiver.segmentReceived seg }
    else c
  else if seg.header.rst then { c.setErrors with isActive := false }
  else (((c.process seg).updateShutdown seg).ensureReply seg).flushSender

/-- Returns the number of bytes that the outbound stream accepted. -/
def write (c : TCPConnection) (data : List UInt8) : TCPConnection × Nat :=
  let (stream, acceptedBytes) := c.sender.stream.write data
  ({ c with sender := { c.sender with stream }.fillWindow }.flushSender, acceptedBytes)

/-- Is the shutdown clean, and has the connection lingered long enough? -/
def isDone (c : TCPConnection) : Bool :=
  c.receiver.streamOut.inputEnded && c.isFinAcked &&
    (!c.lingerAfterStreamsFinish ||
      decide (c.timeSinceLastSegmentReceived ≥ 10 * c.cfg.rtTimeout.toNat))

def tick (c : TCPConnection) (msSinceLastTick : Nat) : TCPConnection :=
  let c :=
    { c with
      timeSinceLastSegmentReceived := Word.add 64 c.timeSinceLastSegmentReceived msSinceLastTick
      sender := c.sender.tick msSinceLastTick }
  if c.sender.consecutiveRetransmissions > TCPConfig.maxRetxAttempts then c.sendRst
  else { c with isActive := c.isActive && !c.isDone }.flushSender

def endInputStream (c : TCPConnection) : TCPConnection :=
  { c with
    sender := { c.sender with stream := c.sender.stream.endInput }.fillWindow }.flushSender

def connect (c : TCPConnection) : TCPConnection :=
  { c with isActive := true, sender := c.sender.fillWindow }.flushSender

/-- The application reads from the inbound stream. -/
def readInbound (c : TCPConnection) (len : Nat) : List UInt8 × TCPConnection :=
  let (bytes, stream) := c.receiver.streamOut.read len
  (bytes, { c with receiver := c.receiver.withStreamOut stream })

/-- The calls an owner makes on a connection. -/
inductive Call where
  | connect
  | write (data : List UInt8)
  | endInputStream
  | segmentReceived (seg : TCPSegment)
  | tick (ms : Nat)
  | readInbound (len : Nat)
  /-- The owner takes a segment off the outbound queue. -/
  | popSegment
  deriving DecidableEq, Repr

/-- The effect of a call on the connection. -/
def apply (c : TCPConnection) : Call → TCPConnection
  | .connect => c.connect
  | .write data => (c.write data).1
  | .endInputStream => c.endInputStream
  | .segmentReceived seg => c.segmentReceived seg
  | .tick ms => c.tick ms
  | .readInbound len => (c.readInbound len).2
  | .popSegment => { c with segmentsOut := c.segmentsOut.tail }

end TCPConnection

end Sponge
