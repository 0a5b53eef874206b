import Sponge.IPv4Datagram.RoundTrip
import Sponge.TCPOverIP.Basic

/-!
# Segments arrive as they were sent

Wrapping a segment, serializing the datagram, parsing the bytes and unwrapping
gives the segment back, for an adapter that is the peer of the sender or that
listens for it.
-/

namespace Sponge

/-- The sum that the pseudo header starts with is far from wrapping. -/
theorem IPv4Header.pseudoCksum_le (h : IPv4Header) : h.pseudoCksum.toNat ≤ 2 ^ 19 := by
  have src := InternetChecksum.carry_toNat h.src
  have dst := InternetChecksum.carry_toNat h.dst
  have srcBound := h.src.toNat_lt
  have dstBound := h.dst.toNat_lt
  have proto := h.proto.toNat_lt
  have length := h.payloadLength.toNat_lt
  simp only [pseudoCksum, UInt32.toNat_add, src, dst, UInt8.toNat_toUInt32, UInt16.toNat_toUInt32]
  omega

theorem IPv4Header.pseudoCksum_withCksum (h : IPv4Header) (cksum : UInt16) :
    IPv4Header.pseudoCksum { h with cksum } = h.pseudoCksum := rfl

namespace TCPOverIPv4Adapter

open Lib Throwing

variable {sender receiver : TCPOverIPv4Adapter} {seg : TCPSegment}

/-- A segment that fits into a datagram. -/
structure Fits (seg : TCPSegment) : Prop where
  long : 5 ≤ seg.header.doff.toNat
  short : seg.header.doff.toNat ≤ 15
  whole : 20 + 4 * seg.header.doff.toNat + seg.payload.length ≤ 65535

/-- The datagram that carries a segment. -/
def wrapped (a : TCPOverIPv4Adapter) (seg : TCPSegment) : IPv4Datagram where
  header := a.ipHeader seg
  payload :=
    [{ seg.header with cksum := seg.checksum (a.ipHeader seg).pseudoCksum }.fields ++ seg.padding,
      seg.payload]

theorem wrapTcpInIp_eq (fits : Fits seg) :
    sender.wrapTcpInIp seg = .ok (sender.setPorts seg, sender.wrapped (sender.setPorts seg)) := by
  have long : 5 ≤ (sender.setPorts seg).header.doff.toNat := fits.long
  simp only [wrapTcpInIp, TCPSegment.serialize_eq long]
  rfl

theorem wellFormed_wrapped (fits : Fits seg) : (sender.wrapped seg).WellFormed where
  representable := {
    version := rfl
    long := Nat.le_refl 5
    short := Nat.le_add_left 5 10
    offset := Nat.two_pow_pos 13 }
  whole := by
    have long := fits.long
    have whole := fits.whole
    have words : (5 : UInt8).toNat = 5 := rfl
    simp only [wrapped, ipHeader, BufferList.size, TCPSegment.padding, TCPHeader.length, words,
      List.map_cons, List.map_nil, List.sum_cons, List.sum_nil, List.length_append,
      List.length_replicate, TCPHeader.length_fields, UInt16.toNat_ofNat']
    omega

theorem concatenate_wrapped (a : TCPOverIPv4Adapter) (seg : TCPSegment) :
    (a.wrapped seg).payload.concatenate =
      seg.bytes (seg.checksum (a.ipHeader seg).pseudoCksum) :=
  seg.concatenate_pieces _

/-- The receiver is the peer of the sender, or it listens and the segment can
open a connection. -/
def Expects (receiver sender : TCPOverIPv4Adapter) (seg : TCPSegment) : Prop :=
  if receiver.listen then
    receiver.cfg.source.port = sender.cfg.destination.port ∧
      seg.header.syn = true ∧ seg.header.rst = false
  else
    receiver.cfg.source = sender.cfg.destination ∧ receiver.cfg.destination = sender.cfg.source

theorem parse_wrapped (fits : Fits seg) (cksum : UInt16) :
    TCPSegment.parse {} (sender.wrapped seg).payload.concatenate
        (IPv4Header.pseudoCksum { sender.ipHeader seg with cksum }) =
      ({ seg with
        header := { seg.header with
          cksum := seg.checksum (sender.ipHeader seg).pseudoCksum } }, .noError) := by
  have bound := (sender.ipHeader seg).pseudoCksum_le
  have whole := fits.whole
  rw [IPv4Header.pseudoCksum_withCksum, concatenate_wrapped]
  exact TCPSegment.parse_bytes fits.long fits.short (by omega) {}

theorem unwrapTcpInIp_run {dgram : IPv4Datagram} {payload : Buffer}
    (tcp : dgram.header.proto = IPv4Header.protoTcp) (single : dgram.payload = [payload])
    (parsed : TCPSegment.parse {} payload dgram.header.pseudoCksum = (seg, .noError))
    (src : dgram.header.src = sender.cfg.source.ipv4Numeric)
    (dst : dgram.header.dst = sender.cfg.destination.ipv4Numeric)
    (sport : seg.header.sport = sender.cfg.source.port)
    (dport : seg.header.dport = sender.cfg.destination.port)
    (expects : receiver.Expects sender seg) :
    ∃ next, unwrapTcpInIp dgram receiver = .ok (some seg) next := by
  have buffer : dgram.payload.toBuffer = .ok payload := by
    rw [single]
    rfl
  rw [Expects] at expects
  cases listening : receiver.listen with
  | false =>
      rw [listening] at expects
      obtain ⟨source, destination⟩ := expects
      simp [unwrapTcpInIp, listening, tcp, buffer, parsed, src, dst, sport, dport, source,
        destination]
  | true =>
      rw [listening] at expects
      obtain ⟨port, syn, rst⟩ := expects
      simp [unwrapTcpInIp, listening, tcp, buffer, parsed, dport, port, syn, rst]

/-- A segment that fits into a datagram arrives with its payload and its header,
except that the ports are those of the sender and the checksum is filled in. -/
theorem unwrap_wrapped (sender receiver : TCPOverIPv4Adapter) (seg : TCPSegment)
    (long : 5 ≤ seg.header.doff.toNat) (short : seg.header.doff.toNat ≤ 15)
    (whole : 20 + 4 * seg.header.doff.toNat + seg.payload.length ≤ 65535)
    (expects : receiver.Expects sender seg) :
    ∃ sent dgram buffers parsed received next,
      sender.wrapTcpInIp seg = .ok (sent, dgram) ∧
      dgram.serialize = .ok buffers ∧
      IPv4Datagram.parse {} buffers.concatenate = (parsed, .noError) ∧
      unwrapTcpInIp parsed receiver = .ok (some received) next ∧
      received.payload = seg.payload ∧
      received.header = { seg.header with
        sport := sender.cfg.source.port
        dport := sender.cfg.destination.port
        cksum := received.header.cksum } := by
  let sent := sender.setPorts seg
  have fits : Fits sent := ⟨long, short, whole⟩
  let dgram := sender.wrapped sent
  have wellFormed : dgram.WellFormed := wellFormed_wrapped fits
  let header : IPv4Header := { dgram.header with cksum := dgram.checksum }
  let parsed : IPv4Datagram := { header, payload := [dgram.payload.concatenate] }
  have tcp : parsed.header.proto = IPv4Header.protoTcp := rfl
  obtain ⟨next, unwrapped⟩ := unwrapTcpInIp_run tcp rfl (parse_wrapped fits dgram.checksum) rfl rfl rfl
    rfl expects
  exact ⟨sent, dgram, _, parsed, _, next, wrapTcpInIp_eq ⟨long, short, whole⟩,
    wellFormed.serialize_eq, wellFormed.parse_serialized {}, unwrapped, rfl, rfl⟩

/-- The first segment of a connection, to an adapter that listens. -/
theorem unwrap_wrapped_syn :
    let client : TCPOverIPv4Adapter :=
      { cfg := { source := { ip := 7, port := 1 }, destination := { ip := 8, port := 80 } } }
    let server : TCPOverIPv4Adapter := { cfg := { source := { ip := 0, port := 80 } }, listen := true }
    let seg : TCPSegment := { header := { syn := true, doff := 6 }, payload := [1, 2, 3] }
    ∃ sent dgram buffers parsed received next,
      client.wrapTcpInIp seg = .ok (sent, dgram) ∧
      dgram.serialize = .ok buffers ∧
      IPv4Datagram.parse {} buffers.concatenate = (parsed, .noError) ∧
      unwrapTcpInIp parsed server = .ok (some received) next ∧
      received.payload = [1, 2, 3] ∧ received.header.sport = 1 := by
  intro client server seg
  have expects : server.Expects client seg := by
    rw [Expects, if_pos rfl]
    exact ⟨rfl, rfl, rfl⟩
  obtain ⟨sent, dgram, buffers, parsed, received, next, wraps, serializes, parses, unwraps, payload,
    header⟩ := unwrap_wrapped client server seg (by decide) (by decide) (by decide) expects
  exact ⟨sent, dgram, buffers, parsed, received, next, wraps, serializes, parses, unwraps, payload,
    header ▸ rfl⟩

end TCPOverIPv4Adapter

end Sponge
