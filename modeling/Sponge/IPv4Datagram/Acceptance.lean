import Sponge.IPv4Datagram
import Sponge.Lib.Word

/-!
# Which datagrams are accepted

The parser of the header reports some errors only in its result, and the parser
of the datagram does not look at it.  Validity is described here on the bytes
themselves, by position, and compared with what is accepted.
-/

namespace Sponge

open Lib NetParser

namespace IPv4Header

/-- The fields that decide about the frame of a datagram, by position. -/
def version (buffer : Buffer) : ℕ := octet buffer 0 / 16

def headerWords (buffer : Buffer) : ℕ := octet buffer 0 % 16

def totalLength (buffer : Buffer) : ℕ := octet buffer 2 * 256 + octet buffer 3

theorem takes_parseFields : Takes length parseFields := by
  unfold parseFields
  exact takes_u8.bind fun _ => takes_u8.bind fun _ => takes_u16.bind fun _ =>
    takes_u16.bind fun _ => takes_u16.bind fun _ => takes_u8.bind fun _ => takes_u8.bind fun _ =>
    takes_u16.bind fun _ => takes_u32.bind fun _ => takes_u32.bind fun _ => takes_pure _

variable {buffer : Buffer}

theorem parseFields_ver (long : length ≤ buffer.length) :
    (parseFields { buffer }).1.ver.toNat = version buffer := by
  have first := u8_toNat (Nat.le_trans (by decide) long)
  simp only [parseFields, bind_apply, pure_apply]
  rw [UInt8.toNat_shiftRight, first]
  exact Nat.shiftRight_eq_div_pow _ _

theorem parseFields_hlen (long : length ≤ buffer.length) :
    (parseFields { buffer }).1.hlen.toNat = headerWords buffer := by
  have first := u8_toNat (Nat.le_trans (by decide) long)
  simp only [parseFields, bind_apply, pure_apply]
  rw [UInt8.toNat_and, first]
  exact Nat.and_two_pow_sub_one_eq_mod _ 4

theorem parseFields_len (long : length ≤ buffer.length) :
    (parseFields { buffer }).1.len.toNat = totalLength buffer := by
  have room : 4 ≤ buffer.length := Nat.le_trans (by decide) long
  simp only [parseFields, bind_apply, pure_apply]
  rw [takes_u8.rest buffer (by omega), takes_u8.rest _ (by simp; omega),
    u16_toNat (by simp; omega), List.drop_drop, octet_drop, octet_drop, totalLength]

/-- The header and the datagram have the lengths that their fields say. -/
structure Framed (buffer : Buffer) : Prop where
  header : length ≤ buffer.length
  version : version buffer = 4
  long : 5 ≤ headerWords buffer
  within : 4 * headerWords buffer ≤ buffer.length
  whole : totalLength buffer = buffer.length

instance (buffer : Buffer) : Decidable (Framed buffer) :=
  decidable_of_iff (length ≤ buffer.length ∧ IPv4Header.version buffer = 4 ∧
      5 ≤ headerWords buffer ∧ 4 * headerWords buffer ≤ buffer.length ∧
      totalLength buffer = buffer.length)
    ⟨fun ⟨header, version, long, within, whole⟩ => ⟨header, version, long, within, whole⟩,
      fun ⟨header, version, long, within, whole⟩ => ⟨header, version, long, within, whole⟩⟩

/-- The checks of `parse`, in terms of the positions. -/
theorem framed_iff (long : length ≤ buffer.length) {h : IPv4Header}
    (ver : h.ver.toNat = version buffer) (hlen : h.hlen.toNat = headerWords buffer)
    (len : h.len.toNat = totalLength buffer) :
    Framed buffer ↔ ¬ buffer.length < 4 * h.hlen.toNat ∧ h.ver = 4 ∧ ¬ h.hlen < 5 ∧
      buffer.length = h.len.toNat := by
  have four : (4 : UInt8).toNat = 4 := rfl
  have five : (5 : UInt8).toNat = 5 := rfl
  rw [← UInt8.toNat_inj, UInt8.lt_iff_toNat_lt, ver, hlen, len, four, five, Nat.not_lt, Nat.not_lt]
  constructor
  · exact fun framed => ⟨framed.within, framed.version, framed.long, framed.whole.symm⟩
  · exact fun ⟨within, version, words, whole⟩ => ⟨long, version, words, within, whole.symm⟩

/-- What is left for the payload depends on whether the header is framed; the
checksum shows in the result only. -/
theorem parse_eq (h : IPv4Header) (long : length ≤ buffer.length) :
    ∃ result, h.parse { buffer } = (((parseFields { buffer }).1, result),
      { buffer := buffer.drop (if Framed buffer then 4 * headerWords buffer else length) }) := by
  have rest := takes_parseFields.rest buffer long
  have hlen := parseFields_hlen long
  have checks := framed_iff long (parseFields_ver long) hlen (parseFields_len long)
  simp only [parse, bind_apply, get_apply, branch_apply, pure_apply,
    if_neg (Nat.not_lt.mpr long), rest]
  generalize (parseFields { buffer }).1 = fields at hlen checks ⊢
  by_cases framed : Framed buffer
  · obtain ⟨within, version, words, whole⟩ := checks.mp framed
    have options : fields.hlen.toNat * 4 - length ≤ (buffer.drop length).length := by
      rw [List.length_drop]
      omega
    have skipped : length + (fields.hlen.toNat * 4 - length) = 4 * headerWords buffer := by
      have words := framed.long
      rw [length]
      omega
    rw [if_pos framed, if_neg within, if_neg (not_not_intro version), if_neg words,
      if_neg (not_not_intro whole), removePrefix_of_le options, List.drop_drop, skipped]
    split_ifs
    all_goals exact ⟨_, rfl⟩
  · rw [if_neg framed]
    rw [checks] at framed
    by_cases within : buffer.length < 4 * fields.hlen.toNat
    · exact ⟨_, if_pos within⟩
    rw [if_neg within]
    by_cases version : fields.ver ≠ 4
    · exact ⟨_, if_pos version⟩
    rw [if_neg version]
    by_cases words : fields.hlen < 5
    · exact ⟨_, if_pos words⟩
    rw [if_neg words]
    by_cases whole : buffer.length ≠ fields.len.toNat
    · exact ⟨_, if_pos whole⟩
    exact absurd ⟨within, not_not.mp version, words, not_not.mp whole⟩ framed

theorem parse_short (h : IPv4Header) (short : buffer.length < length) :
    h.parse { buffer } = ((h, .packetTooShort), { buffer }) := by
  simp only [parse, bind_apply, get_apply, branch_apply, pure_apply, if_pos short]

/-- The length that the fields leave for the payload, modulo `2^16`. -/
theorem parseFields_payloadLength (long : length ≤ buffer.length) :
    (parseFields { buffer }).1.payloadLength.toNat =
      Word.sub 16 (totalLength buffer) (4 * headerWords buffer) := by
  have four : (4 : UInt16).toNat = 4 := rfl
  have hlen := parseFields_hlen long
  have words : headerWords buffer < 16 := Nat.mod_lt _ (by decide)
  have header : 4 * headerWords buffer % 2 ^ 16 = 4 * headerWords buffer :=
    Nat.mod_eq_of_lt (by omega)
  rw [payloadLength, UInt16.toNat_sub, UInt16.toNat_mul, UInt8.toNat_toUInt16, four, hlen,
    parseFields_len long, Word.sub, header, Nat.add_comm]

end IPv4Header

namespace IPv4Datagram

open IPv4Header InternetChecksum

/-- A framed datagram whose header verifies. -/
structure Valid (buffer : Buffer) : Prop extends Framed buffer where
  checksum : Verifies 0 (buffer.take (4 * headerWords buffer))

/-- The datagrams about which the parser is wrong: a framed one with a wrong
checksum, and an unframed one whose length fields happen to leave what follows
the first twenty bytes. -/
def Misread (buffer : Buffer) : Prop :=
  IPv4Header.length ≤ buffer.length ∧
    if Framed buffer then ¬ Verifies 0 (buffer.take (4 * headerWords buffer))
    else buffer.length - IPv4Header.length =
      Word.sub 16 (totalLength buffer) (4 * headerWords buffer)

instance (buffer : Buffer) : Decidable (Misread buffer) := inferInstanceAs (Decidable (_ ∧ _))

variable {buffer : Buffer}

/-- Too few bytes for a header are refused, because a fresh header says that
its payload is longer. -/
theorem parse_short (short : buffer.length < IPv4Header.length) :
    (parse {} buffer).2 = .packetTooShort := by
  have sizes : BufferList.size [buffer] ≠ (payloadLength {}).toNat := by
    have fresh : (payloadLength {}).toNat = 65516 := by decide
    have size : BufferList.size [buffer] = buffer.length := rfl
    rw [fresh, size]
    rw [IPv4Header.length] at short
    omega
  simp only [parse, IPv4Header.parse_short _ short]
  exact if_pos sizes

/-- All other datagrams are accepted by their lengths alone. -/
theorem parse_long (d : IPv4Datagram) (long : IPv4Header.length ≤ buffer.length) :
    (d.parse buffer).1.payload =
        [buffer.drop (if Framed buffer then 4 * headerWords buffer else IPv4Header.length)] ∧
      ((d.parse buffer).2 = .noError ↔
        buffer.length - (if Framed buffer then 4 * headerWords buffer else IPv4Header.length) =
          Word.sub 16 (totalLength buffer) (4 * headerWords buffer)) := by
  obtain ⟨result, parsed⟩ := d.header.parse_eq long
  simp only [parse, parsed, parseFields_payloadLength long]
  refine ⟨trivial, ?_⟩
  generalize (if Framed buffer then 4 * headerWords buffer else IPv4Header.length) = skipped
  have size : BufferList.size [buffer.drop skipped] = buffer.length - skipped := List.length_drop
  rw [size]
  by_cases same : buffer.length - skipped =
      Word.sub 16 (totalLength buffer) (4 * headerWords buffer)
  · rw [if_neg (not_not_intro same)]
    exact iff_of_true rfl same
  · rw [if_pos same]
    exact iff_of_false ParseResult.noConfusion same

theorem Framed.parse_noError (d : IPv4Datagram) (framed : Framed buffer) :
    (d.parse buffer).2 = .noError := by
  have whole := framed.whole
  have within := framed.within
  have bound : totalLength buffer < 2 ^ 16 := by
    have high := (buffer.getD 2 0).toNat_lt
    have low := (buffer.getD 3 0).toNat_lt
    rw [totalLength, octet, octet]
    omega
  rw [(parse_long d framed.header).2, if_pos framed, Word.sub_eq (by omega) (by omega), whole]

/-- Exactly the valid datagrams are accepted, except for those that are misread;
and the payload of a valid one is what follows its header. -/
theorem accepts_valid_iff (buffer : Buffer) :
    (((parse {} buffer).2 = .noError ↔ Valid buffer) ↔ ¬ Misread buffer) ∧
      (Valid buffer →
        (parse {} buffer).1.payload.concatenate = buffer.drop (4 * headerWords buffer)) := by
  refine ⟨?_, ?_⟩
  · by_cases long : IPv4Header.length ≤ buffer.length
    · by_cases framed : Framed buffer
      · have valid_iff : Valid buffer ↔ Verifies 0 (buffer.take (4 * headerWords buffer)) :=
          ⟨Valid.checksum, fun checksum => ⟨framed, checksum⟩⟩
        rw [Misread, if_pos framed, valid_iff]
        simp only [Framed.parse_noError {} framed, long, true_and, true_iff, not_not]
      · have invalid : ¬ Valid buffer := fun valid => framed valid.toFramed
        have accepts := (parse_long {} long).2
        rw [if_neg framed] at accepts
        rw [Misread, if_neg framed, accepts]
        simp only [invalid, iff_false, long, true_and]
    · have short := parse_short (Nat.lt_of_not_le long)
      have invalid : ¬ Valid buffer := fun valid => long valid.header
      rw [Misread, short]
      simp [long, invalid]
  · intro valid
    rw [(parse_long {} valid.header).1, if_pos valid.toFramed]
    exact List.append_nil _

/-- Bytes of a header without payload, with a first byte and a checksum to choose. -/
def bareHeader (firstByte : UInt8) (cksum : UInt16) : Buffer :=
  [firstByte, 0, 0, 20, 0, 0, 0, 0, 128, 6] ++ NetUnparser.u16 cksum ++ List.replicate 8 0

/-- A datagram with a wrong checksum and one of another version are accepted. -/
theorem invalid_accepted :
    ((parse {} (bareHeader 0x45 0)).2 = .noError ∧ ¬ Valid (bareHeader 0x45 0)) ∧
      (parse {} (bareHeader 0x55 0)).2 = .noError ∧ ¬ Valid (bareHeader 0x55 0) := by
  refine ⟨⟨by decide, ?_⟩, by decide, ?_⟩
  · exact fun valid => absurd valid.checksum (by decide)
  · exact fun valid => absurd valid.version (by decide)

theorem accepts_valid_iff_bare :
    Valid (bareHeader 0x45 0x3ae5) ∧ (parse {} (bareHeader 0x45 0x3ae5)).2 = .noError ∧
      (parse {} (bareHeader 0x45 0x3ae5)).1.payload.concatenate = [] := by
  have valid : Valid (bareHeader 0x45 0x3ae5) := ⟨by decide, by decide⟩
  have general := accepts_valid_iff (bareHeader 0x45 0x3ae5)
  exact ⟨valid, (general.1.mpr (by decide)).mpr valid, general.2 valid⟩

end IPv4Datagram

end Sponge
