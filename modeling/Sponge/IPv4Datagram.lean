import Sponge.Util.InternetChecksum

/-!
# IPv4 headers and datagrams
-/

namespace Sponge

/-- An IPv4 address with a port. -/
structure Address where
  ip : UInt32
  port : UInt16 := 0
  deriving DecidableEq, Repr

namespace Address

def ipv4Numeric (a : Address) : UInt32 := a.ip

def fromIpv4Numeric (ip : UInt32) : Address := { ip }

end Address

structure IPv4Header where
  ver : UInt8 := 4
  /-- Header length in 32-bit words. -/
  hlen : UInt8 := 5
  tos : UInt8 := 0
  /-- Total length of the packet. -/
  len : UInt16 := 0
  id : UInt16 := 0
  df : Bool := true
  mf : Bool := false
  offset : UInt16 := 0
  ttl : UInt8 := 128
  proto : UInt8 := 6
  cksum : UInt16 := 0
  src : UInt32 := 0
  dst : UInt32 := 0
  deriving DecidableEq, Repr

namespace IPv4Header

/-- Header length in bytes, not including options. -/
def length : Nat := 20

def protoTcp : UInt8 := 6

def parseFields : StateM NetParser IPv4Header := do
  let firstByte ← NetParser.u8
  let tos ← NetParser.u8
  let len ← NetParser.u16
  let id ← NetParser.u16
  let foVal ← NetParser.u16
  let ttl ← NetParser.u8
  let proto ← NetParser.u8
  let cksum ← NetParser.u16
  let src ← NetParser.u32
  let dst ← NetParser.u32
  return {
    ver := firstByte >>> 4
    hlen := firstByte &&& 0x0f
    tos, len, id
    df := foVal &&& 0x4000 != 0
    mf := foVal &&& 0x2000 != 0
    offset := foVal &&& 0x1fff
    ttl, proto, cksum, src, dst }

/-- Parse the fields, and say what is wrong with them.  Fields that were read
stay read, also when the result is an error. -/
def parse (h : IPv4Header) : StateM NetParser (IPv4Header × ParseResult) := do
  let originalSerializedVersion := (← get).buffer
  let dataSize := originalSerializedVersion.length
  if dataSize < length then return (h, .packetTooShort)
  let h ← parseFields
  if dataSize < 4 * h.hlen.toNat then return (h, .packetTooShort)
  if h.ver ≠ 4 then return (h, .wrongIPVersion)
  if h.hlen < 5 then return (h, .headerTooShort)
  if dataSize ≠ h.len.toNat then return (h, .truncatedPacket)
  NetParser.removePrefix (h.hlen.toNat * 4 - length)
  let p ← get
  if p.hasError then return (h, p.error)
  let check := InternetChecksum.add {} (originalSerializedVersion.take (4 * h.hlen.toNat))
  if check.value ≠ 0 then return (h, .badChecksum)
  return (h, .noError)

def firstByte (h : IPv4Header) : UInt8 := (h.ver <<< 4) ||| (h.hlen &&& 0xf)

/-- The word of the flags and the fragment offset. -/
def foVal (h : IPv4Header) : UInt16 :=
  (if h.df then 0x4000 else 0) ||| (if h.mf then 0x2000 else 0) ||| (h.offset &&& 0x1fff)

/-- The bytes of the fields before the checksum. -/
def leadingFields (h : IPv4Header) : Buffer :=
  NetUnparser.u8 h.firstByte ++ NetUnparser.u8 h.tos ++ NetUnparser.u16 h.len ++
    NetUnparser.u16 h.id ++ NetUnparser.u16 h.foVal ++ NetUnparser.u8 h.ttl ++
    NetUnparser.u8 h.proto

/-- The bytes of the fields; options are not supported. -/
def fields (h : IPv4Header) : Buffer :=
  h.leadingFields ++ NetUnparser.u16 h.cksum ++ NetUnparser.u32 h.src ++ NetUnparser.u32 h.dst

/-- Serialize the header; the checksum is not recomputed. -/
def serialize (h : IPv4Header) : Except Exception Buffer :=
  if h.ver ≠ 4 then .error (.runtimeError "wrong IP version")
  else if 4 * h.hlen.toNat < length then .error (.runtimeError "IP header too short")
  else .ok (NetUnparser.resize (4 * h.hlen.toNat) h.fields)

/-- Length of the payload, modulo `2^16`. -/
def payloadLength (h : IPv4Header) : UInt16 := h.len - 4 * h.hlen.toUInt16

/-- The pseudo-header's contribution to the TCP checksum. -/
def pseudoCksum (h : IPv4Header) : UInt32 :=
  let sourceAddr := (h.src >>> 16) + (h.src &&& 0xffff)
  let destAddr := (h.dst >>> 16) + (h.dst &&& 0xffff)
  sourceAddr + destAddr + h.proto.toUInt32 + h.payloadLength.toUInt32

theorem serialize_eq_ok {h : IPv4Header} (version : h.ver = 4) (long : 5 ≤ h.hlen) :
    h.serialize = .ok (NetUnparser.resize (4 * h.hlen.toNat) h.fields) := by
  have words : 5 ≤ h.hlen.toNat := UInt8.le_iff_toNat_le.mp long
  rw [serialize, if_neg (not_not_intro version), if_neg]
  rw [length]
  omega

theorem of_serialize {h : IPv4Header} {bytes : Buffer} (serialized : h.serialize = .ok bytes) :
    h.ver = 4 ∧ 5 ≤ h.hlen := by
  rw [serialize] at serialized
  split_ifs at serialized with version short
  refine ⟨not_not.mp version, UInt8.le_iff_toNat_le.mpr ?_⟩
  rw [length] at short
  show 5 ≤ h.hlen.toNat
  omega

end IPv4Header

structure IPv4Datagram where
  header : IPv4Header := {}
  payload : BufferList := []
  deriving DecidableEq, Repr

namespace IPv4Datagram

/-- The result of parsing the header is not looked at. -/
def parse (d : IPv4Datagram) (buffer : Buffer) : IPv4Datagram × ParseResult :=
  let ((header, _), p) := d.header.parse { buffer }
  let payload : BufferList := [p.buffer]
  ({ header, payload },
    if payload.size ≠ header.payloadLength.toNat then .packetTooShort else p.error)

/-- What is accepted has the length that its header says. -/
theorem size_of_parse {d : IPv4Datagram} {buffer : Buffer}
    (accepted : (d.parse buffer).2 = .noError) :
    (d.parse buffer).1.payload.size = (d.parse buffer).1.header.payloadLength.toNat := by
  obtain ⟨⟨header, result⟩, p, parsed⟩ : ∃ x p, d.header.parse { buffer } = (x, p) := ⟨_, _, rfl⟩
  simp only [parse, parsed] at accepted ⊢
  by_contra wrong
  rw [if_pos wrong] at accepted
  contradiction

def serialize (d : IPv4Datagram) : Except Exception BufferList :=
  if d.payload.size ≠ d.header.payloadLength.toNat then
    .error (.runtimeError "IPv4Datagram::serialize: payload is wrong size")
  else do
    let headerOut := { d.header with cksum := 0 }
    let headerZeroChecksum ← headerOut.serialize
    let check := InternetChecksum.add {} headerZeroChecksum
    let headerOut := { headerOut with cksum := check.value }
    return (← headerOut.serialize) :: d.payload

/-- Can the datagram be serialized? -/
structure Serializable (d : IPv4Datagram) : Prop where
  size : d.payload.size = d.header.payloadLength.toNat
  version : d.header.ver = 4
  hlen : 5 ≤ d.header.hlen

instance (d : IPv4Datagram) : Decidable d.Serializable :=
  decidable_of_iff
    (d.payload.size = d.header.payloadLength.toNat ∧ d.header.ver = 4 ∧ 5 ≤ d.header.hlen)
    ⟨fun ⟨size, version, hlen⟩ => ⟨size, version, hlen⟩, fun ⟨size, version, hlen⟩ =>
      ⟨size, version, hlen⟩⟩

theorem Serializable.serialize_eq {d : IPv4Datagram} (serializable : d.Serializable) :
    ∃ header, d.serialize = .ok (header :: d.payload) := by
  have ok (cksum : UInt16) := IPv4Header.serialize_eq_ok
    (h := { d.header with cksum }) serializable.version serializable.hlen
  rw [serialize, if_neg (not_not_intro serializable.size)]
  simp only [ok]
  exact ⟨_, rfl⟩

theorem serializable_of_serialize {d : IPv4Datagram} {bytes : BufferList}
    (serialized : d.serialize = .ok bytes) : d.Serializable := by
  rw [serialize] at serialized
  split_ifs at serialized with size
  cases zeroed : ({ d.header with cksum := 0 } : IPv4Header).serialize with
  | error e =>
      simp only [zeroed] at serialized
      contradiction
  | ok header =>
      obtain ⟨version, hlen⟩ := IPv4Header.of_serialize zeroed
      exact ⟨not_not.mp size, version, hlen⟩

/-- The pieces of a serialized datagram. -/
def serialized (d : IPv4Datagram) : BufferList :=
  match d.serialize with
  | .ok buffers => buffers
  | .error _ => []

theorem Serializable.serialize_ok {d : IPv4Datagram} (serializable : d.Serializable) :
    d.serialize = .ok d.serialized := by
  obtain ⟨header, ok⟩ := serializable.serialize_eq
  rw [serialized, ok]

/-- Whether a datagram can be serialized does not depend on its time to live. -/
theorem Serializable.withTtl {d : IPv4Datagram} (serializable : d.Serializable) (ttl : UInt8) :
    ({ d with header := { d.header with ttl } } : IPv4Datagram).Serializable :=
  ⟨serializable.size, serializable.version, serializable.hlen⟩

end IPv4Datagram

end Sponge
