import Sponge.EthernetFrame

/-!
# Frames and ARP messages, there and back

Enough bytes always are the fields of some header or message.  Parsing finds
these fields, so that serializing them gives the bytes again.
-/

namespace Sponge

open NetParser

namespace NetUnparser

@[simp]
theorem u8_eq (value : UInt8) : u8 value = [value] :=
  congrArg (fun byte => [byte]) UInt8.ofNat_toNat

@[simp]
theorem ethernetAddress_eq (address : EthernetAddress) :
    ethernetAddress address = address.toList := by
  have single : u8 = fun byte => [byte] := funext u8_eq
  simp [ethernetAddress, single]

theorem length_ethernetAddress (address : EthernetAddress) :
    (ethernetAddress address).length = 6 := by
  simp

end NetUnparser

namespace NetParser

theorem ethernetAddress_written (address : EthernetAddress) (rest : Buffer) :
    ethernetAddress { buffer := NetUnparser.ethernetAddress address ++ rest } =
      (address, { buffer := rest }) := by
  match address with
  | ⟨⟨[a, b, c, d, e, f]⟩, _⟩ =>
      have first (byte : UInt8) (rest : Buffer) : u8 { buffer := byte :: rest } =
          (byte, { buffer := rest }) := by
        simpa using u8_written byte rest
      simp [ethernetAddress, first]

theorem codec_ethernetAddress : Codec 6 ethernetAddress NetUnparser.ethernetAddress where
  length := NetUnparser.length_ethernetAddress
  read := ethernetAddress_written
  onto bytes length := ⟨⟨bytes.toArray, length⟩, by simp⟩

end NetParser

namespace EthernetHeader

theorem length_serialize (h : EthernetHeader) : h.serialize.length = length := by
  simp [serialize, length]

/-- Reading back a header that was written in front of `rest`. -/
theorem parse_written (h h' : EthernetHeader) (rest : Buffer) :
    h'.parse { buffer := h.serialize ++ rest } = ((h, .noError), { buffer := rest }) := by
  have enough : ¬ (h.serialize ++ rest).length < length := by
    rw [List.length_append, length_serialize]
    omega
  simp only [parse, bind_apply, get_apply, enough, if_false]
  simp only [serialize, List.append_assoc, ethernetAddress_written, u16_written]
  rfl

/-- Enough bytes start with a header. -/
theorem exists_written {buffer : Buffer} (long : length ≤ buffer.length) :
    ∃ (h : EthernetHeader) (rest : Buffer), h.serialize ++ rest = buffer := by
  have long : 6 + (6 + (2 + 0)) ≤ buffer.length := long
  obtain ⟨dst, buffer, rfl, afterDst⟩ := codec_ethernetAddress.exists_written long
  obtain ⟨src, buffer, rfl, afterSrc⟩ := codec_ethernetAddress.exists_written afterDst
  obtain ⟨type, rest, rfl, _⟩ := codec_u16.exists_written afterSrc
  refine ⟨{ dst, src, type }, rest, ?_⟩
  simp only [serialize, List.append_assoc]

end EthernetHeader

namespace EthernetFrame

theorem parse_written (h : EthernetHeader) (f : EthernetFrame) (rest : Buffer) :
    f.parse (h.serialize ++ rest) = ({ header := h, payload := [rest] }, .noError) := by
  simp only [parse, EthernetHeader.parse_written]

/-- A frame without a whole header is not refused: the parser has read nothing. -/
theorem parse_runt {buffer : Buffer} (short : buffer.length < EthernetHeader.length)
    (f : EthernetFrame) : f.parse buffer = ({ f with payload := [buffer] }, .noError) := by
  simp only [parse, EthernetHeader.parse, bind_apply, get_apply, short, if_true]
  rfl

/-- The parser is right about a frame exactly when the frame has a whole header,
because it accepts everything.  What has a whole header is written back as it
was, and what was written is read back. -/
theorem accepts_whole_iff (buffer : Buffer) :
    (((parse {} buffer).2 = .noError ↔ EthernetHeader.length ≤ buffer.length) ↔
      EthernetHeader.length ≤ buffer.length) ∧
    (EthernetHeader.length ≤ buffer.length →
      (parse {} buffer).1.serialize.concatenate = buffer) ∧
    ∀ f f' : EthernetFrame, f'.parse f.serialize.concatenate =
      ({ f with payload := [f.payload.concatenate] }, .noError) := by
  refine ⟨?_, ?_, ?_⟩
  · by_cases long : EthernetHeader.length ≤ buffer.length
    · obtain ⟨h, rest, rfl⟩ := EthernetHeader.exists_written long
      simp only [parse_written, long]
    · simp [parse_runt (Nat.lt_of_not_le long), long]
  · intro long
    obtain ⟨h, rest, rfl⟩ := EthernetHeader.exists_written long
    rw [parse_written]
    simp [serialize, BufferList.concatenate]
  · intro f f'
    exact parse_written f.header f' f.payload.concatenate

theorem accepts_whole_iff_bare :
    (parse {} (List.replicate 14 1)).2 = .noError ∧
      (parse {} (List.replicate 14 1)).1.serialize.concatenate = List.replicate 14 1 := by
  obtain ⟨accepts, writes, _⟩ := accepts_whole_iff (List.replicate 14 1)
  exact ⟨(accepts.mpr (by decide)).mpr (by decide), writes (by decide)⟩

/-- A single byte is accepted, and written back with a header of zeros. -/
theorem runt_accepted :
    parse {} [7] = ({ payload := [[7]] }, .noError) ∧
      (parse {} [7]).1.serialize.concatenate = List.replicate 14 0 ++ [7] := by
  decide

end EthernetFrame

namespace ARPMessage

theorem length_fields (m : ARPMessage) : m.fields.length = length := by
  simp [fields, length]

/-- Reading back a message that was written in front of `rest`.  What is not
supported is refused before the addresses are read. -/
theorem parse_written (m m' : ARPMessage) (rest : Buffer) :
    m'.parse (m.fields ++ rest) =
      if m.supported then (m, .noError)
      else
        ({ m with
          senderEthernetAddress := m'.senderEthernetAddress
          senderIpAddress := m'.senderIpAddress
          targetEthernetAddress := m'.targetEthernetAddress
          targetIpAddress := m'.targetIpAddress }, .unsupported) := by
  have enough : ¬ (m.fields ++ rest).length < length := by
    rw [List.length_append, length_fields]
    omega
  have same : supported { m with
      senderEthernetAddress := m'.senderEthernetAddress
      senderIpAddress := m'.senderIpAddress
      targetEthernetAddress := m'.targetEthernetAddress
      targetIpAddress := m'.targetIpAddress } = m.supported := rfl
  simp only [parse, parseFields, bind_apply, get_apply, enough, if_false]
  simp only [fields, List.append_assoc, u8_written, u16_written, same]
  cases m.supported with
  | false => rfl
  | true =>
      simp only [Bool.not_true, Bool.false_eq_true, if_false, if_true, bind_apply,
        ethernetAddress_written, u32_written]
      rfl

/-- Enough bytes start with a message. -/
theorem exists_written {buffer : Buffer} (long : length ≤ buffer.length) :
    ∃ (m : ARPMessage) (rest : Buffer), m.fields ++ rest = buffer := by
  have long : 2 + (2 + (1 + (1 + (2 + (6 + (4 + (6 + (4 + 0)))))))) ≤ buffer.length := long
  obtain ⟨hardwareType, buffer, rfl, afterHardwareType⟩ := codec_u16.exists_written long
  obtain ⟨protocolType, buffer, rfl, afterProtocolType⟩ :=
    codec_u16.exists_written afterHardwareType
  obtain ⟨hardwareAddressSize, buffer, rfl, afterHardwareAddressSize⟩ :=
    codec_u8.exists_written afterProtocolType
  obtain ⟨protocolAddressSize, buffer, rfl, afterProtocolAddressSize⟩ :=
    codec_u8.exists_written afterHardwareAddressSize
  obtain ⟨opcode, buffer, rfl, afterOpcode⟩ := codec_u16.exists_written afterProtocolAddressSize
  obtain ⟨senderEthernetAddress, buffer, rfl, afterSenderEthernetAddress⟩ :=
    codec_ethernetAddress.exists_written afterOpcode
  obtain ⟨senderIpAddress, buffer, rfl, afterSenderIpAddress⟩ :=
    codec_u32.exists_written afterSenderEthernetAddress
  obtain ⟨targetEthernetAddress, buffer, rfl, afterTargetEthernetAddress⟩ :=
    codec_ethernetAddress.exists_written afterSenderIpAddress
  obtain ⟨targetIpAddress, rest, rfl, _⟩ := codec_u32.exists_written afterTargetEthernetAddress
  refine ⟨⟨hardwareType, protocolType, hardwareAddressSize, protocolAddressSize, opcode,
    senderEthernetAddress, senderIpAddress, targetEthernetAddress, targetIpAddress⟩, rest, ?_⟩
  simp only [fields, List.append_assoc]

/-- The number in two positions of a buffer. -/
def word (buffer : Buffer) (i : ℕ) : ℕ := octet buffer i * 256 + octet buffer (i + 1)

/-- A request or a reply about IPv4 over Ethernet, by position. -/
structure WellFormed (buffer : Buffer) : Prop where
  long : length ≤ buffer.length
  hardwareType : word buffer 0 = 1
  protocolType : word buffer 2 = 0x800
  hardwareAddressSize : octet buffer 4 = 6
  protocolAddressSize : octet buffer 5 = 4
  opcode : word buffer 6 = 1 ∨ word buffer 6 = 2

theorem word_u16 (value : UInt16) (rest : Buffer) :
    word (NetUnparser.u16 value ++ rest) 0 = value.toNat := by
  have enough : 2 ≤ (NetUnparser.u16 value ++ rest).length := by simp
  have read := u16_toNat enough
  rw [u16_written] at read
  exact read.symm

theorem octet_skip_u16 (value : UInt16) (rest : Buffer) (i : ℕ) :
    octet (NetUnparser.u16 value ++ rest) (2 + i) = octet rest i :=
  octet_append (NetUnparser.u16 value) rest i

theorem word_skip_u16 (value : UInt16) (rest : Buffer) (i : ℕ) :
    word (NetUnparser.u16 value ++ rest) (2 + i) = word rest i := by
  simp only [word, Nat.add_assoc, octet_skip_u16]

/-- The fields that have to be right are the first five. -/
theorem wellFormed_written (m : ARPMessage) (rest : Buffer) :
    WellFormed (m.fields ++ rest) ↔ m.supported = true := by
  obtain ⟨addresses, whole⟩ : ∃ addresses, m.fields ++ rest =
      NetUnparser.u16 m.hardwareType ++ (NetUnparser.u16 m.protocolType ++
        (m.hardwareAddressSize :: m.protocolAddressSize ::
          (NetUnparser.u16 m.opcode ++ addresses))) :=
    ⟨_, by simp only [fields, List.append_assoc, NetUnparser.u8_eq]; rfl⟩
  have long : length ≤ (m.fields ++ rest).length := by
    rw [List.length_append, length_fields]
    exact Nat.le_add_right _ _
  have hardwareType : word (m.fields ++ rest) 0 = m.hardwareType.toNat :=
    whole ▸ word_u16 _ _
  have protocolType : word (m.fields ++ rest) 2 = m.protocolType.toNat :=
    whole ▸ (word_skip_u16 _ _ 0).trans (word_u16 _ _)
  have hardwareAddressSize : octet (m.fields ++ rest) 4 = m.hardwareAddressSize.toNat :=
    whole ▸ (octet_skip_u16 _ _ 2).trans (octet_skip_u16 _ _ 0)
  have protocolAddressSize : octet (m.fields ++ rest) 5 = m.protocolAddressSize.toNat :=
    whole ▸ (octet_skip_u16 _ _ 3).trans (octet_skip_u16 _ _ 1)
  have opcode : word (m.fields ++ rest) 6 = m.opcode.toNat :=
    whole ▸ (word_skip_u16 _ _ 4).trans ((word_skip_u16 _ _ 2).trans (word_u16 _ addresses))
  simp only [supported, Bool.and_eq_true, Bool.or_eq_true, beq_iff_eq, ← UInt16.toNat_inj,
    ← UInt8.toNat_inj, ← hardwareType, ← protocolType, ← hardwareAddressSize,
    ← protocolAddressSize, ← opcode]
  constructor
  · rintro ⟨_, hardware, protocol, hardwareSize, protocolSize, operation⟩
    exact ⟨⟨⟨⟨hardware, protocol⟩, hardwareSize⟩, protocolSize⟩, operation⟩
  · rintro ⟨⟨⟨⟨hardware, protocol⟩, hardwareSize⟩, protocolSize⟩, operation⟩
    exact ⟨long, hardware, protocol, hardwareSize, protocolSize, operation⟩

theorem parse_short {buffer : Buffer} (short : buffer.length < length) (m : ARPMessage) :
    m.parse buffer = (m, .packetTooShort) := by
  rw [parse, parseFields, bind_apply, get_apply]
  dsimp only
  rw [if_pos short]
  rfl

theorem parse_noError_iff (m : ARPMessage) (buffer : Buffer) :
    (m.parse buffer).2 = .noError ↔ WellFormed buffer := by
  by_cases long : length ≤ buffer.length
  · obtain ⟨m', rest, rfl⟩ := exists_written long
    rw [wellFormed_written, parse_written]
    cases m'.supported <;> simp
  · rw [parse_short (Nat.lt_of_not_le long)]
    exact iff_of_false ParseResult.noConfusion fun wellFormed => long wellFormed.long

theorem parse_supported {m : ARPMessage} (supported : m.supported = true) (m' : ARPMessage)
    (rest : Buffer) : m'.parse (m.fields ++ rest) = (m, .noError) := by
  rw [parse_written, if_pos supported]

/-- The messages that are accepted are the well-formed ones, and parsing and
serializing undo each other, up to bytes behind the message. -/
theorem parse_serialize_inverse (m : ARPMessage) (buffer : Buffer) :
    ((m.parse buffer).2 = .noError ↔ WellFormed buffer) ∧
    ((m.parse buffer).2 = .noError → (m.parse buffer).1.serialize = .ok (buffer.take length)) ∧
    ∀ m' : ARPMessage, m'.supported = true →
      ∃ bytes, m'.serialize = .ok bytes ∧ m.parse bytes = (m', .noError) := by
  refine ⟨m.parse_noError_iff buffer, ?_, ?_⟩
  · intro accepted
    have wellFormed := (m.parse_noError_iff buffer).mp accepted
    obtain ⟨m', rest, rfl⟩ := exists_written wellFormed.long
    have supported := (wellFormed_written m' rest).mp wellFormed
    rw [parse_supported supported, serialize_of_supported supported,
      List.take_left' m'.length_fields]
  · intro m' supported
    refine ⟨m'.fields, serialize_of_supported supported, ?_⟩
    simpa using parse_supported supported m []

/-- A request with padding behind it, as it comes in a frame of minimal size. -/
theorem parse_serialize_inverse_padded :
    let request : ARPMessage := { opcode := opcodeRequest, senderIpAddress := 7 }
    WellFormed (request.fields ++ List.replicate 18 0) ∧
      (parse {} (request.fields ++ List.replicate 18 0)).1.serialize = .ok request.fields := by
  intro request
  obtain ⟨accepts, writes, _⟩ := parse_serialize_inverse {} (request.fields ++ List.replicate 18 0)
  have accepted : (parse {} (request.fields ++ List.replicate 18 0)).2 = .noError := by decide
  exact ⟨accepts.mp accepted, writes accepted⟩

end ARPMessage

end Sponge
