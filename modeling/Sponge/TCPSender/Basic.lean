import Sponge.ByteStream
import Sponge.TCPSegment

/-!
# TCPSender

The sender divides the outgoing stream into segments, remembers those that
are not yet acknowledged and sends the oldest of them again when the
retransmission timer expires.
-/

namespace Sponge

open Lib

structure RetransmissionTimer where
  initRto : Nat
  rto : Nat
  t : Nat := 0
  /-- A timer is constructed running. -/
  isRunning : Bool := true
  deriving DecidableEq, Repr

namespace RetransmissionTimer

def new (retxTimeout : UInt16) : RetransmissionTimer where
  initRto := retxTimeout.toNat
  rto := retxTimeout.toNat

/-- Would the timer expire when `ms` more milliseconds pass? -/
def expires (timer : RetransmissionTimer) (ms : Nat) : Bool :=
  timer.isRunning && decide (timer.rto ≤ Word.add 64 timer.t ms)

def tick (timer : RetransmissionTimer) (msSinceLastTick : Nat) : RetransmissionTimer × Bool :=
  if timer.isRunning then
    let isExpired := timer.expires msSinceLastTick
    ({ timer with t := if isExpired then 0 else Word.add 64 timer.t msSinceLastTick }, isExpired)
  else (timer, false)

def start (timer : RetransmissionTimer) : RetransmissionTimer :=
  { timer with t := if timer.isRunning then timer.t else 0, isRunning := true }

def stop (timer : RetransmissionTimer) : RetransmissionTimer :=
  { timer with t := 0, isRunning := false }

def setRtoInit (timer : RetransmissionTimer) : RetransmissionTimer :=
  { timer with rto := timer.initRto }

def doubleRto (timer : RetransmissionTimer) : RetransmissionTimer :=
  { timer with rto := timer.rto * 2 % 2 ^ 64 }

end RetransmissionTimer

structure TCPSender where
  isn : WrappingInt32
  /-- Outbound queue of segments that the sender wants sent. -/
  segmentsOut : List TCPSegment := []
  stream : ByteStream
  /-- The absolute sequence number for the next byte to be sent. -/
  nextSeqno : Nat := 0
  retxTimer : RetransmissionTimer
  /-- The biggest acknowledgment number received so far. -/
  previousAckno : Nat := 0
  windowSize : UInt16 := 1
  outstandingSegments : List TCPSegment := []
  bytesInFlight : Nat := 0
  consecutiveRetransmissions : Nat := 0
  isFinSent : Bool := false
  deriving DecidableEq, Repr

namespace TCPSender

/-- `random` is the value of the random device, used when no initial sequence
number is fixed. -/
def new (capacity : Nat) (retxTimeout : UInt16) (fixedIsn : Option WrappingInt32)
    (random : UInt32) : TCPSender where
  isn := fixedIsn.getD ⟨random⟩
  stream := ByteStream.new capacity
  retxTimer := RetransmissionTimer.new retxTimeout

/-- A window of zero is treated as a window of one. -/
def effectiveWindow (s : TCPSender) : UInt16 := if s.windowSize = 0 then 1 else s.windowSize

/-- The free part of a window, computed on 64-bit unsigned integers. -/
def availableWindowSize (s : TCPSender) (window : UInt16) : Nat :=
  Word.sub 64 window.toNat (Word.sub 64 s.nextSeqno s.previousAckno)

/-- Stamp the next sequence number on a segment, send it and remember it. -/
def pushSegment (s : TCPSender) (seg : TCPSegment) : TCPSender :=
  let seg := { seg with header := { seg.header with seqno := wrap s.nextSeqno s.isn } }
  { s with
    segmentsOut := s.segmentsOut ++ [seg]
    outstandingSegments := s.outstandingSegments ++ [seg]
    retxTimer := s.retxTimer.start
    nextSeqno := s.nextSeqno + seg.lengthInSequenceSpace
    bytesInFlight := s.bytesInFlight + seg.lengthInSequenceSpace }

/-- The loop of `fillWindow`.  `window` is the effective window of the whole
call, `available` its free part. -/
def fillLoop (window : UInt16) : Nat → Nat → TCPSender → TCPSender
  | 0, _, s => s
  | fuel + 1, available, s =>
      if available = 0 then s
      else if s.stream.eof then
        if s.isFinSent then s
        else { s with isFinSent := true }.pushSegment { header := { fin := true } }
      else
        let bytesToSend :=
          if available < TCPConfig.maxPayloadSize then available else TCPConfig.maxPayloadSize
        let (payload, stream) := s.stream.read bytesToSend
        -- the room for FIN is measured against the whole window
        let fin := decide (Word.sub 64 window.toNat payload.length > 0) && stream.eof
        let seg : TCPSegment := { header := { fin }, payload }
        let s := { s with stream, isFinSent := s.isFinSent || fin }
        if seg.lengthInSequenceSpace ≠ 0 then
          let s := s.pushSegment seg
          fillLoop window fuel (s.availableWindowSize window) s
        else s

/-- Create and send segments to fill as much of the window as possible.  Every
turn of the loop but the last two takes a byte out of the stream. -/
def fillWindow (s : TCPSender) : TCPSender :=
  if s.nextSeqno = 0 then s.pushSegment { header := { syn := true } }
  else if s.nextSeqno = s.bytesInFlight then s
  else
    fillLoop s.effectiveWindow (s.stream.buffer.length + 2)
      (s.availableWindowSize s.effectiveWindow) s

/-- Drop the outstanding segments that `ackno` acknowledges in full. -/
def popAcknowledged (isn : WrappingInt32) (ackno : Nat) :
    List TCPSegment → Nat → List TCPSegment × Nat
  | [], bytesInFlight => ([], bytesInFlight)
  | seg :: rest, bytesInFlight =>
      if unwrap seg.header.seqno isn ackno + seg.lengthInSequenceSpace ≤ ackno then
        popAcknowledged isn ackno rest (Word.sub 64 bytesInFlight seg.lengthInSequenceSpace)
      else (seg :: rest, bytesInFlight)

/-- Does an absolute acknowledgment number acknowledge new data? -/
def acceptsAckno (s : TCPSender) (ackno : Nat) : Bool :=
  decide (ackno ≤ s.nextSeqno) && decide (s.previousAckno < ackno)

/-- The bookkeeping of an acceptable acknowledgment, before the window is
filled again. -/
def acknowledge (s : TCPSender) (ackno : Nat) : TCPSender :=
  let (outstanding, bytesInFlight) :=
    popAcknowledged s.isn ackno s.outstandingSegments s.bytesInFlight
  { s with
    previousAckno := ackno
    retxTimer := s.retxTimer.setRtoInit.stop.start
    outstandingSegments := outstanding
    bytesInFlight := bytesInFlight
    consecutiveRetransmissions := 0 }

/-- Restart the timer when something is outstanding, stop it otherwise. -/
def restartTimer (s : TCPSender) : TCPSender :=
  { s with
    retxTimer :=
      if s.outstandingSegments.length > 0 then s.retxTimer.stop.start else s.retxTimer.stop }

/-- The window is overwritten before the acknowledgment number is looked at. -/
def ackReceived (s : TCPSender) (ackno : WrappingInt32) (windowSize : UInt16) : TCPSender :=
  let unwrappedAckno := unwrap ackno s.isn s.previousAckno
  let s := { s with windowSize }
  if s.acceptsAckno unwrappedAckno then
    (s.acknowledge unwrappedAckno).fillWindow.restartTimer
  else s

/-- What `tick` does when the timer has expired. -/
def retransmit (s : TCPSender) : TCPSender :=
  let s := { s with segmentsOut := s.segmentsOut ++ s.outstandingSegments.head?.toList }
  let s :=
    if s.windowSize ≠ 0 then
      { s with
        consecutiveRetransmissions := (s.consecutiveRetransmissions + 1) % 2 ^ 32
        retxTimer := s.retxTimer.doubleRto }
    else s
  { s with retxTimer := s.retxTimer.stop.start }

def tick (s : TCPSender) (msSinceLastTick : Nat) : TCPSender :=
  let (retxTimer, isExpired) := s.retxTimer.tick msSinceLastTick
  let s := { s with retxTimer }
  if isExpired then s.retransmit else s

/-- A segment that occupies no sequence numbers is not remembered. -/
def sendEmptySegment (s : TCPSender) : TCPSender :=
  { s with
    segmentsOut := s.segmentsOut ++ [{ header := { seqno := wrap s.nextSeqno s.isn } }] }

/-- The relative sequence number for the next byte to be sent. -/
def relativeNextSeqno (s : TCPSender) : WrappingInt32 := wrap s.nextSeqno s.isn

/-- What an owner does with a sender: it uses the stream, calls the methods and
takes segments off the queue. -/
inductive Op where
  | write (data : List UInt8)
  | endInput
  | setError
  | fillWindow
  | ackReceived (ackno : WrappingInt32) (windowSize : UInt16)
  | tick (ms : Nat)
  | sendEmptySegment
  | popSegment
  deriving DecidableEq, Repr

def apply (s : TCPSender) : Op → TCPSender
  | .write data => { s with stream := (s.stream.write data).1 }
  | .endInput => { s with stream := s.stream.endInput }
  | .setError => { s with stream := s.stream.setError }
  | .fillWindow => s.fillWindow
  | .ackReceived ackno windowSize => s.ackReceived ackno windowSize
  | .tick ms => s.tick ms
  | .sendEmptySegment => s.sendEmptySegment
  | .popSegment => { s with segmentsOut := s.segmentsOut.tail }

end TCPSender

end Sponge
