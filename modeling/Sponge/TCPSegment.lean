import Sponge.WrappingIntegers
import Mathlib.Data.List.Basic

/-!
# TCP segments and the connection's configuration
-/

namespace Sponge

/-- A TCP segment header, without options. -/
structure TCPHeader where
  sport : UInt16 := 0
  dport : UInt16 := 0
  seqno : WrappingInt32 := ⟨0⟩
  ackno : WrappingInt32 := ⟨0⟩
  /-- Data offset in 32-bit words; the header length of 20 bytes by default. -/
  doff : UInt8 := 5
  urg : Bool := false
  ack : Bool := false
  psh : Bool := false
  rst : Bool := false
  syn : Bool := false
  fin : Bool := false
  win : UInt16 := 0
  cksum : UInt16 := 0
  uptr : UInt16 := 0
  deriving DecidableEq, Repr

structure TCPSegment where
  header : TCPHeader := {}
  payload : List UInt8 := []
  deriving DecidableEq, Repr

namespace TCPSegment

/-- The payload length, plus one for SYN and one for FIN. -/
def lengthInSequenceSpace (seg : TCPSegment) : Nat :=
  seg.payload.length + (if seg.header.syn then 1 else 0) + (if seg.header.fin then 1 else 0)

end TCPSegment

namespace TCPConfig

/-- Conservative maximum payload size. -/
def maxPayloadSize : Nat := 1000

/-- Maximum number of retransmission attempts before giving up. -/
def maxRetxAttempts : Nat := 8

end TCPConfig

/-- Configuration of the sender and the receiver of a connection. -/
structure TCPConfig where
  rtTimeout : UInt16 := 1000
  recvCapacity : Nat := 64000
  sendCapacity : Nat := 64000
  fixedIsn : Option WrappingInt32 := none
  deriving DecidableEq, Repr

end Sponge
