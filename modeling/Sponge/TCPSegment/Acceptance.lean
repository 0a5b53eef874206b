import Sponge.TCPSegment.Codec

/-!
# Which segments are accepted

A data offset below five is reported in the result of the header's parser only,
and the parser of the segment does not look at it.
-/

namespace Sponge

open NetParser

namespace TCPHeader

theorem takes_parseFields : Takes length parseFields := by
  unfold parseFields
  exact takes_u16.bind fun _ => takes_u16.bind fun _ => takes_u32.bind fun _ =>
    takes_u32.bind fun _ => takes_u8.bind fun _ => takes_u8.bind fun _ => takes_u16.bind fun _ =>
    takes_u16.bind fun _ => takes_u16.bind fun _ => takes_pure _

/-- The data offset, by position. -/
def dataOffset (buffer : Buffer) : ℕ := octet buffer 12 / 16

variable {buffer : Buffer}

theorem parseFields_doff (long : length ≤ buffer.length) :
    (parseFields { buffer }).1.doff.toNat = dataOffset buffer := by
  have room : 13 ≤ buffer.length := Nat.le_trans (by decide) long
  have before : Takes 12 (u16 >>= fun _ => u16 >>= fun _ => u32 >>= fun _ => u32) :=
    takes_u16.bind fun _ => takes_u16.bind fun _ => takes_u32.bind fun _ => takes_u32
  have reached := before.rest buffer (by omega)
  simp only [bind_apply] at reached
  simp only [parseFields, bind_apply, pure_apply]
  rw [reached, UInt8.toNat_shiftRight, u8_toNat (by simp; omega), octet_drop]
  exact Nat.shiftRight_eq_div_pow _ _

/-- The options are skipped, unless the data offset is too small. -/
theorem skipOptions_eq (h : TCPHeader) (p : NetParser) :
    ∃ result, h.skipOptions p =
      ((h, result), if h.doff < 5 then p else (removePrefix (h.doff.toNat * 4 - length) p).2) := by
  simp only [skipOptions, bind_apply, get_apply, branch_apply, pure_apply]
  split_ifs
  all_goals exact ⟨_, rfl⟩

theorem parse_short (short : buffer.length < length) :
    (parse { buffer }).2.error = .packetTooShort := by
  have failed := takes_parseFields.short buffer short
  rw [parse, bind_apply]
  generalize parseFields { buffer } = fields at failed
  obtain ⟨result, parsed⟩ := skipOptions_eq fields.1 fields.2
  rw [parsed]
  split
  · exact failed
  · exact (takes_removePrefix _).failed _ failed

theorem parse_long (long : length ≤ buffer.length) :
    (parse { buffer }).2 =
      if dataOffset buffer < 5 then { buffer := buffer.drop length }
      else (removePrefix (4 * dataOffset buffer - length) { buffer := buffer.drop length }).2 := by
  have doff := parseFields_doff long
  obtain ⟨result, parsed⟩ :=
    skipOptions_eq (parseFields { buffer }).1 (parseFields { buffer }).2
  rw [parse, bind_apply, parsed, takes_parseFields.rest buffer long, doff,
    Nat.mul_comm (dataOffset buffer)]
  simp only [UInt8.lt_iff_toNat_lt, doff, UInt8.reduceToNat]

end TCPHeader

namespace TCPSegment

open TCPHeader InternetChecksum

variable {buffer : Buffer}

/-- The checksum verifies, and the data offset is in the segment and leaves room
for the header. -/
structure Valid (pseudoSum : ℕ) (buffer : Buffer) : Prop where
  checksum : Verifies pseudoSum buffer
  header : TCPHeader.length ≤ buffer.length
  long : 5 ≤ dataOffset buffer
  within : 4 * dataOffset buffer ≤ buffer.length

/-- The segments about which the parser is wrong. -/
def Misread (pseudoSum : ℕ) (buffer : Buffer) : Prop :=
  Verifies pseudoSum buffer ∧ TCPHeader.length ≤ buffer.length ∧ dataOffset buffer < 5

instance (pseudoSum : ℕ) (buffer : Buffer) : Decidable (Misread pseudoSum buffer) :=
  inferInstanceAs (Decidable (_ ∧ _ ∧ _))

theorem parse_verified (seg : TCPSegment) {datagramLayerChecksum : UInt32}
    (verified : (InternetChecksum.add { sum := datagramLayerChecksum } buffer).value = 0) :
    (seg.parse buffer datagramLayerChecksum).1.payload = (TCPHeader.parse { buffer }).2.buffer ∧
      (seg.parse buffer datagramLayerChecksum).2 = (TCPHeader.parse { buffer }).2.error := by
  rw [parse, if_neg (not_not_intro verified)]
  generalize TCPHeader.parse { buffer } = parsed
  exact ⟨rfl, rfl⟩

/-- What the header's parser leaves behind when the data offset is right. -/
theorem header_parse_valid (long : 5 ≤ dataOffset buffer)
    (within : 4 * dataOffset buffer ≤ buffer.length) :
    (TCPHeader.parse { buffer }).2 = { buffer := buffer.drop (4 * dataOffset buffer) } := by
  have header : TCPHeader.length ≤ 4 * dataOffset buffer := by
    rw [TCPHeader.length]
    omega
  rw [parse_long (header.trans within), if_neg (Nat.not_lt.mpr long),
    removePrefix_of_le (by rw [List.length_drop]; omega), List.drop_drop,
    Nat.add_sub_cancel' header]

theorem header_parse_accepts_iff :
    (TCPHeader.parse { buffer }).2.error = .noError ↔
      TCPHeader.length ≤ buffer.length ∧
        (dataOffset buffer < 5 ∨ 4 * dataOffset buffer ≤ buffer.length) := by
  by_cases long : TCPHeader.length ≤ buffer.length
  · rw [and_iff_right long]
    by_cases short : dataOffset buffer < 5
    · rw [parse_long long, if_pos short]
      exact iff_of_true rfl (.inl short)
    · by_cases within : 4 * dataOffset buffer ≤ buffer.length
      · rw [header_parse_valid (Nat.not_lt.mp short) within]
        exact iff_of_true rfl (.inr within)
      · have missing := (takes_removePrefix (4 * dataOffset buffer - TCPHeader.length)).short
          (buffer.drop TCPHeader.length) (by rw [List.length_drop]; omega)
        rw [parse_long long, if_neg short, missing]
        exact iff_of_false ParseResult.noConfusion (fun either => either.elim short within)
  · rw [parse_short (Nat.lt_of_not_le long)]
    exact iff_of_false ParseResult.noConfusion (fun accepted => long accepted.1)

/-- Exactly the valid segments are accepted, except for those whose data offset
is too small; and the payload of a valid one is what follows its header. -/
theorem accepts_valid_iff_not_misread (seg : TCPSegment) (buffer : Buffer)
    (datagramLayerChecksum : UInt32) (short : buffer.length ≤ 65535)
    (small : datagramLayerChecksum.toNat < 2 ^ 31) :
    (((seg.parse buffer datagramLayerChecksum).2 = .noError ↔
        Valid datagramLayerChecksum.toNat buffer) ↔
      ¬ Misread datagramLayerChecksum.toNat buffer) ∧
    (Valid datagramLayerChecksum.toNat buffer →
      (seg.parse buffer datagramLayerChecksum).1.payload =
        buffer.drop (4 * dataOffset buffer)) := by
  have verified_iff : (InternetChecksum.add { sum := datagramLayerChecksum } buffer).value = 0 ↔
      Verifies datagramLayerChecksum.toNat buffer := value_eq_zero_iff_verifies (by omega)
  refine ⟨?_, ?_⟩
  · by_cases verified : (InternetChecksum.add { sum := datagramLayerChecksum } buffer).value = 0
    · have verifies := verified_iff.mp verified
      rw [(seg.parse_verified verified).2, header_parse_accepts_iff, Misread, and_iff_right verifies]
      have valid_iff : Valid datagramLayerChecksum.toNat buffer ↔
          TCPHeader.length ≤ buffer.length ∧ 5 ≤ dataOffset buffer ∧
            4 * dataOffset buffer ≤ buffer.length :=
        ⟨fun valid => ⟨valid.header, valid.long, valid.within⟩,
          fun ⟨header, long, within⟩ => ⟨verifies, header, long, within⟩⟩
      rw [valid_iff]
      omega
    · have refused : (seg.parse buffer datagramLayerChecksum).2 = .badChecksum := by
        rw [parse, if_pos verified]
      have invalid : ¬ Verifies datagramLayerChecksum.toNat buffer :=
        fun verifies => verified (verified_iff.mpr verifies)
      refine iff_of_true ?_ fun misread => invalid misread.1
      rw [refused]
      exact iff_of_false ParseResult.noConfusion fun valid => invalid valid.checksum
  · intro valid
    rw [(seg.parse_verified (verified_iff.mpr valid.checksum)).1,
      header_parse_valid valid.long valid.within]

/-- The bytes of a segment without payload, with a data offset and a checksum to
choose. -/
def bareSegment (doff : UInt8) (cksum : UInt16) : Buffer :=
  List.replicate 12 (0 : UInt8) ++ [doff <<< 4, 0, 0, 0] ++ NetUnparser.u16 cksum ++ [0, 0]

/-- A segment whose header claims to end before its fields is accepted. -/
theorem invalid_segment_accepted :
    (parse {} (bareSegment 0 0xffff) 0).2 = .noError ∧ ¬ Valid 0 (bareSegment 0 0xffff) := by
  refine ⟨by decide, ?_⟩
  exact fun valid => absurd valid.long (by decide)

theorem accepts_valid_iff_not_misread_bare :
    Valid 0 (bareSegment 5 0xafff) ∧ (parse {} (bareSegment 5 0xafff) 0).2 = .noError ∧
      (parse {} (bareSegment 5 0xafff) 0).1.payload = [] := by
  have valid : Valid 0 (bareSegment 5 0xafff) := ⟨by decide, by decide, by decide, by decide⟩
  have general := accepts_valid_iff_not_misread {} (bareSegment 5 0xafff) 0 (by decide) (by decide)
  exact ⟨valid, (general.1.mpr (by decide)).mpr valid, general.2 valid⟩

end TCPSegment

end Sponge
