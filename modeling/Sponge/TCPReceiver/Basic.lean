import Sponge.StreamReassembler.Basic
import Sponge.TCPSegment

/-!
# TCPReceiver

The receiver turns sequence numbers into stream indices, hands the payload to
the reassembler and computes the acknowledgment number and window to advertise.
-/

namespace Sponge

structure TCPReceiver where
  reassembler : StreamReassembler
  /-- The peer's initial sequence number, once its SYN has arrived. -/
  isn : Option WrappingInt32 := none
  deriving DecidableEq, Repr

namespace TCPReceiver

def new (capacity : Nat) : TCPReceiver where
  reassembler := StreamReassembler.new capacity

def streamOut (r : TCPReceiver) : ByteStream := r.reassembler.output

/-- Replace the inbound stream, for the callers that hold a reference to it. -/
def withStreamOut (r : TCPReceiver) (stream : ByteStream) : TCPReceiver :=
  { r with reassembler := { r.reassembler with output := stream } }

def unassembledBytes (r : TCPReceiver) : Nat := r.reassembler.unassembledBytes

/-- The absolute sequence number of a segment, seen from this receiver. -/
def absoluteSeqno (r : TCPReceiver) (isn seqno : WrappingInt32) : Nat :=
  unwrap seqno isn (r.streamOut.bytesWritten + 1)

def segmentReceived (r : TCPReceiver) (seg : TCPSegment) : TCPReceiver :=
  match r.isn with
  | none =>
      if seg.header.syn then
        { r with
          isn := some seg.header.seqno
          reassembler := r.reassembler.pushSubstring seg.payload 0 seg.header.fin }
      else r
  | some isn =>
      let abs64bitSeqno := r.absoluteSeqno isn seg.header.seqno
      -- an absolute sequence number of zero would make the index negative
      if abs64bitSeqno ≠ 0 then
        { r with
          reassembler :=
            r.reassembler.pushSubstring seg.payload (abs64bitSeqno - 1) seg.header.fin }
      else r

/-- The acknowledgment number to send to the peer; empty before its SYN. -/
def ackno (r : TCPReceiver) : Option WrappingInt32 :=
  r.isn.map fun isn =>
    let abs64bitAckno := r.streamOut.bytesWritten + 1
    wrap (if r.streamOut.inputEnded then abs64bitAckno + 1 else abs64bitAckno) isn

def windowSize (r : TCPReceiver) : Nat := r.streamOut.remainingCapacity

end TCPReceiver

end Sponge
