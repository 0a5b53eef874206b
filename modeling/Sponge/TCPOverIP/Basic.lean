import Sponge.IPv4Datagram
import Sponge.Lib.Throwing
import Sponge.TCPSegment.Codec

/-!
# TCPOverIPv4Adapter

The adapter carries the segments of one connection in IPv4 datagrams.  An
adapter that listens takes its peer from the first SYN.
-/

namespace Sponge

structure FdAdapterConfig where
  source : Address := { ip := 0 }
  destination : Address := { ip := 0 }
  deriving DecidableEq, Repr

/-- A converter from TCP segments to IPv4 datagrams. -/
structure TCPOverIPv4Adapter where
  cfg : FdAdapterConfig := {}
  /-- Is the connection in the listen state? -/
  listen : Bool := false
  deriving DecidableEq, Repr

namespace TCPOverIPv4Adapter

abbrev Method := EStateM Exception TCPOverIPv4Adapter

/-- The segment in a datagram, unless it is invalid or unrelated. -/
def unwrapTcpInIp (ipDgram : IPv4Datagram) : Method (Option TCPSegment) := do
  let a ← get
  if !a.listen ∧ ipDgram.header.dst ≠ a.cfg.source.ipv4Numeric then return none
  if !a.listen ∧ ipDgram.header.src ≠ a.cfg.destination.ipv4Numeric then return none
  if ipDgram.header.proto ≠ IPv4Header.protoTcp then return none
  let payload ← MonadExcept.ofExcept ipDgram.payload.toBuffer
  let (tcpSeg, parsingResult) := TCPSegment.parse {} payload ipDgram.header.pseudoCksum
  if parsingResult ≠ .noError then return none
  if tcpSeg.header.dport ≠ a.cfg.source.port then return none
  if a.listen then
    if tcpSeg.header.syn ∧ !tcpSeg.header.rst then
      set { a with
        cfg := {
          source := { ip := ipDgram.header.dst, port := a.cfg.source.port }
          destination := { ip := ipDgram.header.src, port := tcpSeg.header.sport } }
        listen := false }
    else return none
  let a ← get
  if tcpSeg.header.sport ≠ a.cfg.destination.port then return none
  return some tcpSeg

/-- Set the port numbers in a segment. -/
def setPorts (a : TCPOverIPv4Adapter) (seg : TCPSegment) : TCPSegment :=
  { seg with
    header := { seg.header with sport := a.cfg.source.port, dport := a.cfg.destination.port } }

/-- The header of the datagram that carries a segment; its length is kept modulo
`2^16`. -/
def ipHeader (a : TCPOverIPv4Adapter) (seg : TCPSegment) : IPv4Header :=
  let header : IPv4Header := { src := a.cfg.source.ipv4Numeric, dst := a.cfg.destination.ipv4Numeric }
  { header with
    len := UInt16.ofNat
      (header.hlen.toNat * 4 + seg.header.doff.toNat * 4 + seg.payload.length) }

/-- The segment with its ports set, and the datagram that carries it. -/
def wrapTcpInIp (a : TCPOverIPv4Adapter) (seg : TCPSegment) :
    Except Exception (TCPSegment × IPv4Datagram) := do
  let seg := a.setPorts seg
  let header := a.ipHeader seg
  let payload ← seg.serialize header.pseudoCksum
  return (seg, { header, payload })

end TCPOverIPv4Adapter

end Sponge
