import Mathlib.Tactic.Ring
import Mathlib.Algebra.Order.Ring.Nat
import Mathlib.Data.List.Induction

/-!
# Big-endian numerals

Numbers as sequences of bytes, the most significant byte first.
-/

namespace Sponge.Lib.BigEndian

/-- The `len` low-order bytes of a number. -/
def encode (len value : ℕ) : List UInt8 :=
  (List.range len).map fun i => UInt8.ofNat (value >>> ((len - i - 1) * 8))

def decode (bytes : List UInt8) : ℕ :=
  bytes.foldl (fun value byte => value <<< 8 + byte.toNat) 0

@[simp]
theorem length_encode (len value : ℕ) : (encode len value).length = len := by
  rw [encode, List.length_map, List.length_range]

/-- The most significant byte comes first. -/
theorem encode_succ (len value : ℕ) :
    encode (len + 1) value = UInt8.ofNat (value >>> (len * 8)) :: encode len value := by
  rw [encode, List.range_succ_eq_map, List.map_cons, List.map_map]
  congr 1
  apply List.map_congr_left
  intro i _
  show UInt8.ofNat (value >>> ((len + 1 - (i + 1) - 1) * 8)) = _
  rw [Nat.add_sub_add_right]

theorem foldl_encode (len value start : ℕ) :
    (encode len value).foldl (fun value byte => value <<< 8 + byte.toNat) start =
      start * 256 ^ len + value % 256 ^ len := by
  induction len generalizing start with
  | zero => simp [encode, Nat.mod_one]
  | succ len inductionHypothesis =>
      have digit : (UInt8.ofNat (value >>> (len * 8))).toNat = value / 256 ^ len % 256 := by
        rw [UInt8.toNat_ofNat', Nat.shiftRight_eq_div_pow, Nat.mul_comm len 8, Nat.pow_mul]
      rw [encode_succ, List.foldl_cons, inductionHypothesis, digit, Nat.shiftLeft_eq,
        Nat.pow_succ 256 len, Nat.mod_mul]
      ring

/-- What was written is read back, up to the width of the field. -/
theorem decode_encode (len value : ℕ) : decode (encode len value) = value % 256 ^ len := by
  rw [decode, foldl_encode, Nat.zero_mul, Nat.zero_add]

theorem decode_concat (bytes : List UInt8) (byte : UInt8) :
    decode (bytes ++ [byte]) = decode bytes * 256 + byte.toNat := by
  simp [decode, Nat.shiftLeft_eq]

/-- The least significant byte comes last. -/
theorem encode_concat (len value : ℕ) :
    encode (len + 1) value = encode len (value / 256) ++ [UInt8.ofNat value] := by
  induction len with
  | zero => rfl
  | succ len inductionHypothesis =>
      have high : value >>> ((len + 1) * 8) = (value / 256) >>> (len * 8) := by
        simp only [Nat.shiftRight_eq_div_pow, Nat.div_div_eq_div_mul]
        ring_nf
      rw [encode_succ, inductionHypothesis, encode_succ, high, List.cons_append]

theorem decode_lt (bytes : List UInt8) : decode bytes < 256 ^ bytes.length := by
  induction bytes using List.reverseRecOn with
  | nil => exact Nat.one_pos
  | append_singleton bytes byte inductionHypothesis =>
      have digit := byte.toNat_lt
      simp only [decode_concat, List.length_append, List.length_singleton, Nat.pow_succ]
      omega

/-- What was read is written back. -/
theorem encode_decode (bytes : List UInt8) : encode bytes.length (decode bytes) = bytes := by
  induction bytes using List.reverseRecOn with
  | nil => rfl
  | append_singleton bytes byte inductionHypothesis =>
      have digit := byte.toNat_lt
      have high : (decode bytes * 256 + byte.toNat) / 256 = decode bytes := by omega
      have low : UInt8.ofNat (decode bytes * 256 + byte.toNat) = byte := by
        apply UInt8.toNat_inj.mp
        rw [UInt8.toNat_ofNat']
        omega
      rw [List.length_append, List.length_singleton, encode_concat, decode_concat, high, low,
        inductionHypothesis]

theorem encode_decode_mod {len : ℕ} {bytes : List UInt8} (length : bytes.length = len) :
    encode len (decode bytes % 256 ^ len) = bytes := by
  subst length
  rw [Nat.mod_eq_of_lt (decode_lt bytes), encode_decode]

end Sponge.Lib.BigEndian
