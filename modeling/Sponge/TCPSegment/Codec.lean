import Sponge.TCPSegment
import Sponge.Util.InternetChecksum

/-!
# Parsing and serializing TCP segments

The checksum covers a pseudo header of the layer below, the header and the
payload.  It is written at an even offset, so that adding it to the sum of the
words gives a sum that verifies.
-/

namespace Sponge

namespace TCPHeader

/-- Header length in bytes, not including options. -/
def length : Nat := 20

/-- Read the fields; also what cannot be read is overwritten. -/
def parseFields : StateM NetParser TCPHeader := do
  let sport ← NetParser.u16
  let dport ← NetParser.u16
  let seqno ← NetParser.u32
  let ackno ← NetParser.u32
  let doff := (← NetParser.u8) >>> 4
  let flB ← NetParser.u8
  let win ← NetParser.u16
  let cksum ← NetParser.u16
  let uptr ← NetParser.u16
  return {
    sport, dport
    seqno := ⟨seqno⟩
    ackno := ⟨ackno⟩
    doff
    urg := flB &&& 0x20 != 0
    ack := flB &&& 0x10 != 0
    psh := flB &&& 0x08 != 0
    rst := flB &&& 0x04 != 0
    syn := flB &&& 0x02 != 0
    fin := flB &&& 0x01 != 0
    win, cksum, uptr }

/-- Skip what the header has beyond the fields. -/
def skipOptions (h : TCPHeader) : StateM NetParser (TCPHeader × ParseResult) := do
  if h.doff < 5 then return (h, .headerTooShort)
  NetParser.removePrefix (h.doff.toNat * 4 - length)
  let p ← get
  if p.hasError then return (h, p.error)
  return (h, .noError)

def parse : StateM NetParser (TCPHeader × ParseResult) := do
  let h ← parseFields
  h.skipOptions

/-- The byte including the flags. -/
def flags (h : TCPHeader) : UInt8 :=
  (if h.urg then 0x20 else 0) ||| (if h.ack then 0x10 else 0) ||| (if h.psh then 0x08 else 0) |||
    (if h.rst then 0x04 else 0) ||| (if h.syn then 0x02 else 0) ||| (if h.fin then 0x01 else 0)

/-- The bytes of the fields before the checksum. -/
def leadingFields (h : TCPHeader) : Buffer :=
  NetUnparser.u16 h.sport ++ NetUnparser.u16 h.dport ++ NetUnparser.u32 h.seqno.rawValue ++
    NetUnparser.u32 h.ackno.rawValue ++ NetUnparser.u8 (h.doff <<< 4) ++ NetUnparser.u8 h.flags ++
    NetUnparser.u16 h.win

/-- The bytes of the fields; options are not supported. -/
def fields (h : TCPHeader) : Buffer :=
  h.leadingFields ++ NetUnparser.u16 h.cksum ++ NetUnparser.u16 h.uptr

/-- Serialize the header; the checksum is not recomputed. -/
def serialize (h : TCPHeader) : Except Exception Buffer :=
  if h.doff < 5 then .error (.runtimeError "TCP header too short")
  else .ok (NetUnparser.resize (4 * h.doff.toNat) h.fields)

end TCPHeader

namespace TCPSegment

/-- Once the checksum is right, the result of parsing the header is not looked
at. -/
def parse (seg : TCPSegment) (buffer : Buffer) (datagramLayerChecksum : UInt32) :
    TCPSegment × ParseResult :=
  let check := InternetChecksum.add { sum := datagramLayerChecksum } buffer
  if check.value ≠ 0 then (seg, .badChecksum)
  else
    let ((header, _), p) := TCPHeader.parse { buffer }
    ({ header, payload := p.buffer }, p.error)

def serialize (seg : TCPSegment) (datagramLayerChecksum : UInt32) :
    Except Exception BufferList := do
  let headerOut := { seg.header with cksum := 0 }
  let check := InternetChecksum.add { sum := datagramLayerChecksum } (← headerOut.serialize)
  let check := check.add seg.payload
  let headerOut := { headerOut with cksum := check.value }
  return [← headerOut.serialize, seg.payload]

end TCPSegment

namespace TCPHeader

variable {h : TCPHeader}

@[simp]
theorem length_leadingFields (h : TCPHeader) : h.leadingFields.length = 16 := by
  simp [leadingFields]

@[simp]
theorem length_fields (h : TCPHeader) : h.fields.length = length := by
  simp [fields, length]

theorem flags_bits (h : TCPHeader) :
    (h.flags &&& 0x20 != 0) = h.urg ∧ (h.flags &&& 0x10 != 0) = h.ack ∧
      (h.flags &&& 0x08 != 0) = h.psh ∧ (h.flags &&& 0x04 != 0) = h.rst ∧
      (h.flags &&& 0x02 != 0) = h.syn ∧ (h.flags &&& 0x01 != 0) = h.fin := by
  unfold flags
  generalize h.urg = urg, h.ack = ack, h.psh = psh, h.rst = rst, h.syn = syn, h.fin = fin
  revert urg ack psh rst syn fin
  decide +kernel

theorem doff_shift (short : h.doff.toNat ≤ 15) : h.doff <<< 4 >>> 4 = h.doff := by
  apply UInt8.toNat_inj.mp
  simp only [UInt8.toNat_shiftRight, UInt8.toNat_shiftLeft, UInt8.reduceToNat, Nat.reduceMod,
    Nat.shiftLeft_eq, Nat.shiftRight_eq_div_pow]
  omega

theorem not_doff_lt (long : 5 ≤ h.doff.toNat) : ¬ h.doff < 5 := by
  rw [UInt8.lt_iff_toNat_lt]
  exact Nat.not_lt.mpr long

theorem serialize_eq (long : 5 ≤ h.doff.toNat) :
    h.serialize = .ok (h.fields ++ List.replicate (4 * h.doff.toNat - length) 0) := by
  have room : h.fields.length ≤ 4 * h.doff.toNat := by
    rw [length_fields, length]
    omega
  rw [serialize, if_neg (not_doff_lt long), NetUnparser.resize_of_le room, length_fields]

/-- Reading back a header that was written in front of `rest`. -/
theorem parse_written (long : 5 ≤ h.doff.toNat) (short : h.doff.toNat ≤ 15) (rest : Buffer) :
    parse { buffer := h.fields ++ (List.replicate (4 * h.doff.toNat - length) 0 ++ rest) } =
      ((h, .noError), { buffer := rest }) := by
  have skips := NetParser.removePrefix_append
    (List.length_replicate (n := 4 * h.doff.toNat - length) (a := (0 : UInt8))) rest
  obtain ⟨urg, ack, psh, rst, syn, fin⟩ := h.flags_bits
  simp only [parse, parseFields, skipOptions, fields, leadingFields, List.append_assoc,
    NetParser.bind_apply, NetParser.pure_apply,
    NetParser.u8_written, NetParser.u16_written, NetParser.u32_written, doff_shift short, urg, ack,
    psh, rst, syn, fin, if_neg (not_doff_lt long), Nat.mul_comm h.doff.toNat, skips]
  rfl

end TCPHeader

namespace TCPSegment

open InternetChecksum

variable {seg : TCPSegment} {datagramLayerChecksum : UInt32}

/-- The bytes that fill up the header. -/
def padding (seg : TCPSegment) : Buffer :=
  List.replicate (4 * seg.header.doff.toNat - TCPHeader.length) 0

/-- The bytes of a segment with a given checksum. -/
def bytes (seg : TCPSegment) (cksum : UInt16) : Buffer :=
  { seg.header with cksum }.fields ++ (seg.padding ++ seg.payload)

/-- The checksum of a segment. -/
def checksum (seg : TCPSegment) (datagramLayerChecksum : UInt32) : UInt16 :=
  (InternetChecksum.add { sum := datagramLayerChecksum } (seg.bytes 0)).value

theorem serialize_eq (long : 5 ≤ seg.header.doff.toNat) (datagramLayerChecksum : UInt32) :
    seg.serialize datagramLayerChecksum =
      .ok [{ seg.header with cksum := seg.checksum datagramLayerChecksum }.fields ++ seg.padding,
        seg.payload] := by
  have header (cksum : UInt16) := TCPHeader.serialize_eq (h := { seg.header with cksum }) long
  have whole (c : InternetChecksum) : (c.add ({ seg.header with cksum := 0 }.fields ++
      seg.padding)).add seg.payload = c.add (seg.bytes 0) := by
    rw [bytes, ← List.append_assoc, add_append _ (_ ++ _)]
  simp only [serialize, header]
  show Except.ok [_, _] = _
  rw [checksum, ← whole]
  rfl

/-- Parsing a segment whose sum does not wrap finds its checksum right. -/
theorem parse_bytes (long : 5 ≤ seg.header.doff.toNat) (short : seg.header.doff.toNat ≤ 15)
    (fits : datagramLayerChecksum.toNat +
      65535 * ((4 * seg.header.doff.toNat + seg.payload.length + 1) / 2) < 2 ^ 32)
    (seg' : TCPSegment) :
    seg'.parse (seg.bytes (seg.checksum datagramLayerChecksum)) datagramLayerChecksum =
      ({ seg with header := { seg.header with cksum := seg.checksum datagramLayerChecksum } },
        .noError) := by
  have verifies : (InternetChecksum.add { sum := datagramLayerChecksum }
      (seg.bytes (seg.checksum datagramLayerChecksum))).value = 0 := by
    simp only [bytes, TCPHeader.fields, List.append_assoc]
    refine value_filled (by simp) ?_ ?_
    · simp only [List.length_append, NetUnparser.length_u16, TCPHeader.length_leadingFields, padding,
        List.length_replicate, TCPHeader.length]
      omega
    · simp only [checksum, bytes, TCPHeader.fields, List.append_assoc]
      rfl
  have header := TCPHeader.parse_written
    (h := { seg.header with cksum := seg.checksum datagramLayerChecksum }) long short seg.payload
  rw [parse, if_neg (not_not_intro verifies)]
  simp only [bytes, padding, header]

/-- The pieces that `serialize` returns are the bytes of the segment. -/
theorem concatenate_pieces (seg : TCPSegment) (cksum : UInt16) :
    BufferList.concatenate [{ seg.header with cksum }.fields ++ seg.padding, seg.payload] =
      seg.bytes cksum := by
  simp [BufferList.concatenate, bytes]

/-- Parsing a serialized segment gives back its payload and its header, except
for the checksum, which is filled in. -/
theorem parse_serialized_segment (seg seg' : TCPSegment) (datagramLayerChecksum : UInt32)
    (long : 5 ≤ seg.header.doff.toNat) (short : seg.header.doff.toNat ≤ 15)
    (fits : 4 * seg.header.doff.toNat + seg.payload.length ≤ 65535)
    (small : datagramLayerChecksum.toNat < 2 ^ 31) :
    ∃ buffers parsed,
      seg.serialize datagramLayerChecksum = .ok buffers ∧
      seg'.parse buffers.concatenate datagramLayerChecksum = (parsed, .noError) ∧
      parsed.payload = seg.payload ∧
      parsed.header = { seg.header with cksum := parsed.header.cksum } := by
  have noWrap : datagramLayerChecksum.toNat +
      65535 * ((4 * seg.header.doff.toNat + seg.payload.length + 1) / 2) < 2 ^ 32 := by
    omega
  have parsed := parse_bytes long short noWrap seg'
  rw [← concatenate_pieces] at parsed
  exact ⟨_, _, serialize_eq long datagramLayerChecksum, parsed, rfl, rfl⟩

/-- All flags but one, options to skip and a payload of odd length. -/
theorem parse_serialized_segment_odd :
    let seg : TCPSegment :=
      { header :=
          { sport := 1, dport := 0xffff, seqno := ⟨0xfffffffe⟩, doff := 6, urg := true, ack := true,
            psh := true, syn := true, fin := true, win := 9, cksum := 5, uptr := 2 },
        payload := [1, 2, 3] }
    ∃ buffers parsed,
      seg.serialize 0x7fffffff = .ok buffers ∧
      parse {} buffers.concatenate 0x7fffffff = (parsed, .noError) ∧
      parsed.payload = [1, 2, 3] ∧ parsed.header.uptr = 2 := by
  intro seg
  obtain ⟨buffers, parsed, serialized, read, payload, header⟩ :=
    parse_serialized_segment seg {} 0x7fffffff (by decide) (by decide) (by decide) (by decide)
  exact ⟨buffers, parsed, serialized, read, payload, header ▸ rfl⟩

end TCPSegment

end Sponge
