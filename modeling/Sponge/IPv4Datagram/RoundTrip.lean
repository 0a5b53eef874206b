import Sponge.IPv4Datagram

/-!
# Reading datagrams back

What was serialized from values that fit into their fields parses to the same
values, and the checksum verifies.
-/

namespace Sponge

namespace IPv4Header

variable {h : IPv4Header}

/-- The values that the fields have room for. -/
structure Representable (h : IPv4Header) : Prop where
  version : h.ver = 4
  long : 5 ≤ h.hlen.toNat
  short : h.hlen.toNat ≤ 15
  offset : h.offset.toNat < 2 ^ 13

theorem Representable.withCksum (representable : h.Representable) (cksum : UInt16) :
    Representable { h with cksum } :=
  ⟨representable.version, representable.long, representable.short, representable.offset⟩

@[simp]
theorem length_leadingFields (h : IPv4Header) : h.leadingFields.length = 10 := by
  simp [leadingFields]

@[simp]
theorem length_fields (h : IPv4Header) : h.fields.length = length := by
  simp [fields, length]

theorem Representable.firstByte_bits (representable : h.Representable) :
    h.firstByte >>> 4 = h.ver ∧ h.firstByte &&& 0x0f = h.hlen := by
  have nibbles : ∀ n : Fin 16, ((4 : UInt8) <<< 4 ||| (UInt8.ofNat n &&& 0xf)) >>> 4 = 4 ∧
      ((4 : UInt8) <<< 4 ||| (UInt8.ofNat n &&& 0xf)) &&& 0x0f = UInt8.ofNat n := by
    decide +kernel
  have digit := nibbles ⟨h.hlen.toNat, Nat.lt_succ_of_le representable.short⟩
  rw [UInt8.ofNat_toNat] at digit
  rw [firstByte, representable.version]
  exact digit

theorem or_and_mask (a b mask : UInt16) : (a ||| b) &&& mask = a &&& mask ||| b &&& mask :=
  UInt16.toBitVec_inj.mp BitVec.and_or_distrib_right

theorem Representable.foVal_bits (representable : h.Representable) :
    (h.foVal &&& 0x4000 != 0) = h.df ∧ (h.foVal &&& 0x2000 != 0) = h.mf ∧
      h.foVal &&& 0x1fff = h.offset := by
  have offset : h.offset &&& 0x1fff = h.offset := by
    apply UInt16.toNat_inj.mp
    have low : h.offset.toNat &&& (0x1fff : UInt16).toNat = h.offset.toNat % 2 ^ 13 :=
      Nat.and_two_pow_sub_one_eq_mod _ 13
    rw [UInt16.toNat_and, low, Nat.mod_eq_of_lt representable.offset]
  have clear : h.offset &&& 0x4000 = 0 ∧ h.offset &&& 0x2000 = 0 := by
    have apart : (0x1fff : UInt16) &&& 0x4000 = 0 ∧ (0x1fff : UInt16) &&& 0x2000 = 0 := by decide
    rw [← offset, UInt16.and_assoc, UInt16.and_assoc, apart.1, apart.2]
    exact ⟨UInt16.and_zero, UInt16.and_zero⟩
  have bits : (0x4000 : UInt16) &&& 0x2000 = 0 ∧ (0x2000 : UInt16) &&& 0x4000 = 0 ∧
      (0x4000 : UInt16) &&& 0x1fff = 0 ∧ (0x2000 : UInt16) &&& 0x1fff = 0 := by decide
  simp only [foVal, or_and_mask, offset, clear]
  cases h.df <;> cases h.mf <;> simp [bits]

/-- The bytes that fill up the header. -/
def padding (h : IPv4Header) : Buffer := List.replicate (4 * h.hlen.toNat - length) 0

theorem length_padded (representable : h.Representable) :
    (h.fields ++ h.padding).length = 4 * h.hlen.toNat := by
  have long := representable.long
  simp only [padding, List.length_append, length_fields, length, List.length_replicate]
  omega

theorem Representable.serialize_eq (representable : h.Representable) :
    h.serialize = .ok (h.fields ++ h.padding) := by
  have long := representable.long
  have room : h.fields.length ≤ 4 * h.hlen.toNat := by
    rw [length_fields, length]
    omega
  rw [serialize_eq_ok representable.version (UInt8.le_iff_toNat_le.mpr long),
    NetUnparser.resize_of_le room, length_fields, padding]

theorem Representable.parseFields_written (representable : h.Representable) (rest : Buffer) :
    parseFields { buffer := h.fields ++ rest } = (h, { buffer := rest }) := by
  obtain ⟨ver, hlen⟩ := representable.firstByte_bits
  obtain ⟨df, mf, offset⟩ := representable.foVal_bits
  simp only [parseFields, fields, leadingFields, List.append_assoc, NetParser.bind_apply,
    NetParser.u8_written, NetParser.u16_written, NetParser.u32_written, ver, hlen, df, mf, offset]
  rfl

/-- Reading back a header that was written in front of `rest`. -/
theorem Representable.parse_written (representable : h.Representable) {rest : Buffer}
    (whole : h.len.toNat = 4 * h.hlen.toNat + rest.length)
    (verifies : (InternetChecksum.add {} (h.fields ++ h.padding)).value = 0) (h' : IPv4Header) :
    h'.parse { buffer := h.fields ++ h.padding ++ rest } = ((h, .noError), { buffer := rest }) := by
  have size : (h.fields ++ h.padding ++ rest).length = h.len.toNat := by
    rw [List.length_append, length_padded representable, whole]
  have start : (h.fields ++ h.padding ++ rest).take (4 * h.hlen.toNat) = h.fields ++ h.padding :=
    List.take_left' (length_padded representable)
  have fields := representable.parseFields_written (h.padding ++ rest)
  rw [← List.append_assoc] at fields
  have skipped : h.padding.length = h.hlen.toNat * 4 - length := by
    rw [padding, List.length_replicate, Nat.mul_comm]
  have skips := NetParser.removePrefix_append skipped rest
  have long := representable.long
  have enough : ¬ h.len.toNat < length ∧ ¬ h.len.toNat < 4 * h.hlen.toNat ∧ ¬ h.hlen < 5 := by
    simp only [UInt8.lt_iff_toNat_lt, UInt8.reduceToNat, length]
    omega
  simp only [parse, NetParser.bind_apply, NetParser.get_apply, size, enough, if_false, fields,
    not_not_intro representable.version, ne_eq, not_true_eq_false, skips, start, verifies]
  rfl

theorem payloadLength_toNat {size : ℕ} (representable : h.Representable)
    (whole : h.len.toNat = 4 * h.hlen.toNat + size) : h.payloadLength.toNat = size := by
  have short := representable.short
  have header : (4 * h.hlen.toUInt16).toNat = 4 * h.hlen.toNat := by
    have four : (4 : UInt16).toNat = 4 := rfl
    rw [UInt16.toNat_mul, UInt8.toNat_toUInt16, four]
    exact Nat.mod_eq_of_lt (by omega)
  rw [payloadLength, UInt16.toNat_sub_of_le, header, whole, Nat.add_sub_cancel_left]
  rw [UInt16.le_iff_toNat_le, header, whole]
  exact Nat.le_add_right _ _

end IPv4Header

namespace IPv4Datagram

open InternetChecksum

variable {d : IPv4Datagram}

/-- The header as it is written, with a given checksum. -/
def headerBytes (d : IPv4Datagram) (cksum : UInt16) : Buffer :=
  { d.header with cksum }.fields ++ d.header.padding

/-- The checksum of the header. -/
def checksum (d : IPv4Datagram) : UInt16 := (InternetChecksum.add {} (d.headerBytes 0)).value

theorem headerBytes_verify (representable : d.header.Representable) :
    (InternetChecksum.add {} (d.headerBytes d.checksum)).value = 0 := by
  have short := representable.short
  simp only [headerBytes, IPv4Header.fields, List.append_assoc]
  refine value_filled (by simp) ?_ ?_
  · simp only [List.length_append, NetUnparser.length_u32, IPv4Header.length_leadingFields,
      IPv4Header.padding, List.length_replicate, UInt32.reduceToNat]
    omega
  · simp only [checksum, headerBytes, IPv4Header.fields, List.append_assoc]
    rfl

/-- A header whose fields fit, and a payload of the length that it says. -/
structure WellFormed (d : IPv4Datagram) : Prop where
  representable : d.header.Representable
  whole : d.header.len.toNat = 4 * d.header.hlen.toNat + d.payload.size

theorem WellFormed.serialize_eq (wellFormed : d.WellFormed) :
    d.serialize = .ok (d.headerBytes d.checksum :: d.payload) := by
  have header (cksum : UInt16) := (wellFormed.representable.withCksum cksum).serialize_eq
  have size := IPv4Header.payloadLength_toNat wellFormed.representable wellFormed.whole
  rw [serialize, if_neg (not_not_intro size.symm)]
  simp only [header]
  rfl

theorem WellFormed.length_concatenate (wellFormed : d.WellFormed) :
    d.header.len.toNat = 4 * d.header.hlen.toNat + d.payload.concatenate.length := by
  have length : d.payload.concatenate.length = d.payload.size := List.length_flatten
  rw [length]
  exact wellFormed.whole

/-- The parser of headers accepts what the datagram writes. -/
theorem WellFormed.header_parse_serialized (wellFormed : d.WellFormed) (h : IPv4Header) :
    h.parse { buffer := BufferList.concatenate (d.headerBytes d.checksum :: d.payload) } =
      (({ d.header with cksum := d.checksum }, .noError),
        { buffer := d.payload.concatenate }) :=
  (wellFormed.representable.withCksum d.checksum).parse_written wellFormed.length_concatenate
    (headerBytes_verify wellFormed.representable) h

/-- Parsing a serialized datagram gives it back, in one piece and with the
checksum filled in. -/
theorem WellFormed.parse_serialized (wellFormed : d.WellFormed) (d' : IPv4Datagram) :
    d'.parse (BufferList.concatenate (d.headerBytes d.checksum :: d.payload)) =
      ({ header := { d.header with cksum := d.checksum }, payload := [d.payload.concatenate] },
        .noError) := by
  have length := IPv4Header.payloadLength_toNat
    (wellFormed.representable.withCksum d.checksum) wellFormed.length_concatenate
  have single : BufferList.size [d.payload.concatenate] = d.payload.concatenate.length := rfl
  simp only [parse, wellFormed.header_parse_serialized, length, single, ne_eq, not_true_eq_false,
    if_false]

/-- The datagram as it is read back. -/
def reread (d : IPv4Datagram) : IPv4Datagram where
  header := { d.header with cksum := d.checksum }
  payload := [d.payload.concatenate]

theorem WellFormed.serializable (wellFormed : d.WellFormed) : d.Serializable :=
  serializable_of_serialize wellFormed.serialize_eq

theorem WellFormed.parse_eq (wellFormed : d.WellFormed) :
    parse {} d.serialized.concatenate = (d.reread, .noError) := by
  rw [serialized, wellFormed.serialize_eq]
  exact wellFormed.parse_serialized {}

/-- A datagram whose values fit into their fields is serialized without trouble,
and both parsers give back its payload and its header, except for the checksum,
which is filled in. -/
theorem parse_serialized_datagram (d d' : IPv4Datagram) (h : IPv4Header)
    (version : d.header.ver = 4) (long : 5 ≤ d.header.hlen.toNat)
    (short : d.header.hlen.toNat ≤ 15) (offset : d.header.offset.toNat < 2 ^ 13)
    (whole : d.header.len.toNat = 4 * d.header.hlen.toNat + d.payload.size) :
    ∃ buffers parsed,
      d.serialize = .ok buffers ∧
      d'.parse buffers.concatenate = (parsed, .noError) ∧
      h.parse { buffer := buffers.concatenate } =
        ((parsed.header, .noError), { buffer := parsed.payload.concatenate }) ∧
      parsed.payload.concatenate = d.payload.concatenate ∧
      parsed.header = { d.header with cksum := parsed.header.cksum } := by
  have wellFormed : d.WellFormed := ⟨⟨version, long, short, offset⟩, whole⟩
  have single : BufferList.concatenate [d.payload.concatenate] = d.payload.concatenate :=
    List.append_nil _
  refine ⟨_, _, wellFormed.serialize_eq, wellFormed.parse_serialized d', ?_, single, rfl⟩
  rw [single]
  exact wellFormed.header_parse_serialized h

/-- A fragment with options to skip and a payload in two pieces. -/
theorem parse_serialized_datagram_fragment :
    let d : IPv4Datagram :=
      { header := { hlen := 6, len := 27, df := false, mf := true, offset := 0x1fff, cksum := 1 },
        payload := [[1, 2], [3]] }
    ∃ buffers parsed,
      d.serialize = .ok buffers ∧ parse {} buffers.concatenate = (parsed, .noError) ∧
      parsed.payload.concatenate = [1, 2, 3] ∧ parsed.header.offset = 0x1fff := by
  intro d
  obtain ⟨buffers, parsed, serialized, read, _, payload, header⟩ :=
    parse_serialized_datagram d {} {} rfl (by decide) (by decide) (by decide) (by decide)
  exact ⟨buffers, parsed, serialized, read, payload, header ▸ rfl⟩

end IPv4Datagram

end Sponge
