import Sponge.Lib.OnesComplement
import Sponge.Util.Parser

/-!
# InternetChecksum

The checksum adds up 16-bit words, remembering between two pieces of data
whether the next byte is the high or the low one, and brings the carries in at
the end.
-/

namespace Sponge

open Lib OnesComplement

structure InternetChecksum where
  sum : UInt32 := 0
  /-- Is the next byte the low one of its word? -/
  parity : Bool := false
  deriving DecidableEq, Repr

namespace InternetChecksum

def addByte (c : InternetChecksum) (byte : UInt8) : InternetChecksum where
  sum := c.sum + (if !c.parity then byte.toUInt16 <<< 8 else byte.toUInt16).toUInt32
  parity := !c.parity

def add (c : InternetChecksum) (data : Buffer) : InternetChecksum := data.foldl addByte c

/-- The loop of `value`; a 32-bit sum has its carries in after two turns. -/
def foldCarries : Nat → UInt32 → UInt32
  | 0, ret => ret
  | fuel + 1, ret =>
      if ret > 0xffff then foldCarries fuel ((ret >>> 16) + (ret &&& 0xffff)) else ret

def value (c : InternetChecksum) : UInt16 := (~~~ foldCarries 2 c.sum).toUInt16

theorem carry_toNat (ret : UInt32) :
    ((ret >>> 16) + (ret &&& 0xffff)).toNat = ret.toNat / 2 ^ 16 + ret.toNat % 2 ^ 16 := by
  have bound := ret.toNat_lt
  have low : ret.toNat &&& 65535 = ret.toNat % 2 ^ 16 := Nat.and_two_pow_sub_one_eq_mod _ 16
  simp only [UInt32.toNat_add, UInt32.toNat_shiftRight, UInt32.toNat_and, UInt32.reduceToNat,
    Nat.shiftRight_eq_div_pow, Nat.reduceMod, low]
  omega

/-- The loop has ended when the fuel is used up. -/
theorem foldCarries_le (ret : UInt32) : (foldCarries 2 ret).toNat < 2 ^ 16 := by
  have bound := ret.toNat_lt
  have once := carry_toNat ret
  have twice := carry_toNat ((ret >>> 16) + (ret &&& 0xffff))
  simp only [foldCarries, gt_iff_lt, UInt32.lt_iff_toNat_lt, UInt32.reduceToNat]
  split_ifs <;> omega

theorem foldCarries_isFolded (ret : UInt32) :
    IsFolded 16 ret.toNat (foldCarries 2 ret).toNat := by
  have keeps (fuel : ℕ) (ret : UInt32) (ends : (foldCarries fuel ret).toNat < 2 ^ 16) :
      IsFolded 16 ret.toNat (foldCarries fuel ret).toNat := by
    induction fuel generalizing ret with
    | zero => exact isFolded_self ends
    | succ fuel inductionHypothesis =>
        rw [foldCarries] at ends ⊢
        split_ifs at ends ⊢
        · have folded := inductionHypothesis _ ends
          rw [carry_toNat] at folded
          exact folded.carry
        · exact isFolded_self ends
  exact keeps 2 ret (foldCarries_le ret)

theorem value_toNat (c : InternetChecksum) :
    c.value.toNat = 2 ^ 16 - 1 - (foldCarries 2 c.sum).toNat := by
  have small := foldCarries_le c.sum
  rw [value, UInt32.toNat_toUInt16, UInt32.toNat_not, UInt32.size]
  omega

theorem value_eq_zero_iff (c : InternetChecksum) :
    c.value = 0 ↔ IsFolded 16 c.sum.toNat (2 ^ 16 - 1) := by
  have small := foldCarries_le c.sum
  have folded := foldCarries_isFolded c.sum
  rw [← UInt16.toNat_inj, value_toNat]
  constructor
  · intro zero
    have ones : (foldCarries 2 c.sum).toNat = 2 ^ 16 - 1 := by
      have zero : 2 ^ 16 - 1 - (foldCarries 2 c.sum).toNat = 0 := zero
      omega
    rw [← ones]
    exact folded
  · intro ones
    rw [folded.unique ones]
    rfl

/-- A sum to which its own checksum was added verifies. -/
theorem value_eq_zero_of_sum {c c' : InternetChecksum}
    (sum : c'.sum.toNat = c.sum.toNat + c.value.toNat) : c'.value = 0 := by
  have folded := foldCarries_isFolded c.sum
  have refolded := foldCarries_isFolded c'.sum
  rw [sum, value_toNat] at refolded
  have ones := folded.complement (by decide) refolded
  apply UInt16.toNat_inj.mp
  rw [value_toNat, ones]
  rfl

/-- The words of some data, added up without a bound; `parity` says whether the
first byte is the low one of its word. -/
def wordSum : Bool → Buffer → ℕ
  | _, [] => 0
  | parity, byte :: rest => (if parity then byte.toNat else byte.toNat * 256) + wordSum (!parity) rest

theorem addByte_sum (c : InternetChecksum) (byte : UInt8) :
    (c.addByte byte).sum.toNat =
      (c.sum.toNat + if c.parity then byte.toNat else byte.toNat * 256) % 2 ^ 32 := by
  have bound := byte.toNat_lt
  have high : (byte.toUInt16 <<< 8).toNat = byte.toNat * 256 := by
    simp only [UInt16.toNat_shiftLeft, UInt8.toNat_toUInt16, UInt16.reduceToNat, Nat.shiftLeft_eq,
      Nat.reduceMod]
    omega
  rw [addByte, UInt32.toNat_add, UInt16.toNat_toUInt32]
  cases c.parity with
  | false => rw [Bool.not_false, if_pos rfl, if_neg Bool.false_ne_true, high]
  | true => rw [Bool.not_true, if_neg Bool.false_ne_true, if_pos rfl, UInt8.toNat_toUInt16]

/-- What `add` adds, as long as the sum stays below `2^32`. -/
theorem add_sum (c : InternetChecksum) (data : Buffer)
    (fits : c.sum.toNat + wordSum c.parity data < 2 ^ 32) :
    (c.add data).sum.toNat = c.sum.toNat + wordSum c.parity data := by
  induction data generalizing c with
  | nil => rfl
  | cons byte rest inductionHypothesis =>
      have first := c.addByte_sum byte
      rw [wordSum] at fits
      rw [Nat.mod_eq_of_lt (by omega)] at first
      show ((c.addByte byte).add rest).sum.toNat = _
      have flipped : (c.addByte byte).parity = !c.parity := rfl
      rw [inductionHypothesis _ (by rw [first, flipped]; omega), first, flipped, wordSum]
      omega

@[simp]
theorem add_append (c : InternetChecksum) (first second : Buffer) :
    c.add (first ++ second) = (c.add first).add second := List.foldl_append

theorem wordSum_append (parity : Bool) (first second : Buffer) :
    wordSum parity (first ++ second) =
      wordSum parity first + wordSum (parity ^^ decide (first.length % 2 = 1)) second := by
  induction first generalizing parity with
  | nil => simp [wordSum]
  | cons byte rest inductionHypothesis =>
      rw [List.cons_append, wordSum, wordSum, inductionHypothesis, Nat.add_assoc, List.length_cons]
      rcases Nat.mod_two_eq_zero_or_one rest.length with even | odd
      · simp [even, Nat.add_mod]
      · simp [odd, Nat.add_mod]

theorem wordSum_u16 (value : UInt16) : wordSum false (NetUnparser.u16 value) = value.toNat := by
  have bound := value.toNat_lt
  have bytes : NetUnparser.u16 value =
    [UInt8.ofNat (value.toNat >>> 8), UInt8.ofNat value.toNat] := rfl
  simp only [bytes, wordSum, UInt8.toNat_ofNat', Nat.shiftRight_eq_div_pow, Bool.not_false,
    Bool.false_eq_true, if_false, if_true]
  omega

/-- A word at an even offset counts with its value. -/
theorem wordSum_word {before : Buffer} (even : before.length % 2 = 0) (value : UInt16)
    (after : Buffer) :
    wordSum false (before ++ (NetUnparser.u16 value ++ after)) =
      wordSum false (before ++ (NetUnparser.u16 0 ++ after)) + value.toNat := by
  have zero : (0 : UInt16).toNat = 0 := rfl
  simp only [wordSum_append, NetUnparser.length_u16, even, Nat.zero_ne_one, Nat.reduceMod,
    decide_false, Bool.xor_false, wordSum_u16, zero]
  omega

/-- Two bytes make up at most one full word. -/
theorem wordSum_le (data : Buffer) :
    wordSum false data ≤ 65535 * ((data.length + 1) / 2) ∧
      wordSum true data ≤ 65535 * (data.length / 2) + 255 := by
  induction data with
  | nil => exact ⟨Nat.zero_le _, Nat.zero_le _⟩
  | cons byte rest inductionHypothesis =>
      have bound := byte.toNat_lt
      simp only [wordSum, List.length_cons, Bool.not_false, Bool.not_true, Bool.false_eq_true,
        if_false, if_true]
      omega

/-- The words of some data and a start value add up to all ones. -/
def Verifies (start : ℕ) (data : Buffer) : Prop :=
  IsFolded 16 (start + wordSum false data) (2 ^ 16 - 1)

instance (start : ℕ) (data : Buffer) : Decidable (Verifies start data) :=
  decidable_of_iff _ (isFolded_ones_iff (by decide)).symm

/-- The checksum is zero exactly when the data verifies, if the sum does not
wrap. -/
theorem value_eq_zero_iff_verifies {start : UInt32} {data : Buffer}
    (fits : start.toNat + 65535 * ((data.length + 1) / 2) < 2 ^ 32) :
    (add { sum := start } data).value = 0 ↔ Verifies start.toNat data := by
  have bound := (wordSum_le data).1
  rw [value_eq_zero_iff, Verifies,
    add_sum { sum := start } data (Nat.lt_of_le_of_lt (Nat.add_le_add_left bound _) fits)]

/-- Filling in a word at an even offset with the checksum makes the data
verify. -/
theorem value_filled {start : UInt32} {before after : Buffer} (even : before.length % 2 = 0)
    (fits : start.toNat + 65535 * ((before.length + 2 + after.length + 1) / 2) < 2 ^ 32)
    {cksum : UInt16}
    (filled : cksum = (add { sum := start } (before ++ (NetUnparser.u16 0 ++ after))).value) :
    (add { sum := start } (before ++ (NetUnparser.u16 cksum ++ after))).value = 0 := by
  have sum (word : UInt16) :
      (add { sum := start } (before ++ (NetUnparser.u16 word ++ after))).sum.toNat =
        start.toNat + wordSum false (before ++ (NetUnparser.u16 word ++ after)) := by
    have bound := (wordSum_le (before ++ (NetUnparser.u16 word ++ after))).1
    simp only [List.length_append, NetUnparser.length_u16, ← Nat.add_assoc] at bound
    exact add_sum { sum := start } _ (Nat.lt_of_le_of_lt (Nat.add_le_add_left bound _) fits)
  apply value_eq_zero_of_sum (c := add { sum := start } (before ++ (NetUnparser.u16 0 ++ after)))
  rw [sum, sum, wordSum_word even, Nat.add_assoc, ← filled]

/-- The big-endian 16-bit words of some data; a last byte is padded with a zero
byte. -/
def words : Buffer → List ℕ
  | high :: low :: rest => (high.toNat * 256 + low.toNat) :: words rest
  | [high] => [high.toNat * 256]
  | [] => []

theorem sum_words (data : Buffer) : (words data).sum = wordSum false data := by
  induction data using words.induct with
  | case1 high low rest inductionHypothesis =>
      simp [words, wordSum, inductionHypothesis, Nat.add_assoc]
  | case2 high => simp [words, wordSum]
  | case3 => rfl

theorem words_lt (data : Buffer) : ∀ word ∈ words data, word < 2 ^ 16 := by
  induction data using words.induct with
  | case1 high low rest inductionHypothesis =>
      have first := high.toNat_lt
      have second := low.toNat_lt
      exact List.forall_mem_cons.mpr ⟨by omega, inductionHypothesis⟩
  | case2 high =>
      have first := high.toNat_lt
      exact List.forall_mem_singleton.mpr (by omega)
  | case3 => exact List.forall_mem_nil _

/-- The Internet checksum as it is defined: the complement of the
ones'-complement sum of the words, and of the two words of a start value. -/
def inetCksum (start : ℕ) (data : Buffer) : UInt16 :=
  ~~~ UInt16.ofNat (endAroundSum 16 (start / 2 ^ 16 :: start % 2 ^ 16 :: words data))

theorem value_eq_inetCksum {start : UInt32} {data : Buffer}
    (fits : start.toNat + 65535 * ((data.length + 1) / 2) < 2 ^ 32) :
    (add { sum := start } data).value = inetCksum start.toNat data := by
  have bound := (wordSum_le data).1
  have folded := foldCarries_isFolded (add { sum := start } data).sum
  rw [add_sum { sum := start } data (Nat.lt_of_le_of_lt (Nat.add_le_add_left bound _) fits)]
    at folded
  have halves : ∀ word ∈ start.toNat / 2 ^ 16 :: start.toNat % 2 ^ 16 :: words data,
      word < 2 ^ 16 := by
    have range := start.toNat_lt
    exact List.forall_mem_cons.mpr ⟨by omega, List.forall_mem_cons.mpr ⟨by omega, words_lt data⟩⟩
  have summed := isFolded_endAroundSum halves
  rw [List.sum_cons, List.sum_cons, sum_words, ← Nat.add_assoc] at summed
  have same := folded.unique (summed.carry_add _)
  apply UInt16.toNat_inj.mp
  rw [value_toNat, same, inetCksum, UInt16.toNat_not, UInt16.toNat_ofNat',
    Nat.mod_eq_of_lt summed.lt]
  rfl

/-- Adding piece by piece is adding the concatenation. -/
theorem foldl_add (c : InternetChecksum) (chunks : List Buffer) :
    chunks.foldl add c = c.add chunks.flatten := by
  induction chunks generalizing c with
  | nil => rfl
  | cons chunk rest inductionHypothesis =>
      rw [List.foldl_cons, inductionHypothesis, List.flatten_cons, add_append]

/-- The value is the Internet checksum, however the data is cut into pieces, and
data with its checksum filled in for a zero word at an even offset verifies. -/
theorem value_of_chunks (start : UInt32) (small : start.toNat < 2 ^ 31) (chunks : List Buffer)
    (short : chunks.flatten.length ≤ 65535) :
    (chunks.foldl add { sum := start }).value = inetCksum start.toNat chunks.flatten ∧
    ∀ before after : Buffer, before.length % 2 = 0 →
      chunks.flatten = before ++ [0, 0] ++ after →
      ∀ filled : List Buffer,
        filled.flatten =
          before ++ NetUnparser.u16 (chunks.foldl add { sum := start }).value ++ after →
        (filled.foldl add { sum := start }).value = 0 := by
  have fits : start.toNat + 65535 * ((chunks.flatten.length + 1) / 2) < 2 ^ 32 := by omega
  rw [foldl_add]
  refine ⟨value_eq_inetCksum fits, ?_⟩
  intro before after even zeroed filled replaced
  rw [foldl_add, replaced, List.append_assoc]
  refine value_filled even ?_ ?_
  · have size : before.length + 2 + after.length = chunks.flatten.length := by
      rw [zeroed, List.length_append, List.length_append]
      rfl
    rwa [size]
  · rw [zeroed, List.append_assoc]
    rfl

/-- Three pieces of odd lengths, and a sum with a carry. -/
theorem value_of_chunks_odd :
    let chunks : List Buffer := [[0xff], [0xfe, 0, 0], [1]]
    let cksum := (chunks.foldl add { sum := 0x1ffff }).value
    cksum = inetCksum 0x1ffff [0xff, 0xfe, 0, 0, 1] ∧ cksum = 0xfeff ∧
      ([[0xff, 0xfe], NetUnparser.u16 cksum ++ [1]].foldl add { sum := 0x1ffff }).value = 0 := by
  intro chunks cksum
  obtain ⟨value, verifies⟩ := value_of_chunks 0x1ffff (by decide) chunks (by decide)
  exact ⟨value, by decide, verifies [0xff, 0xfe] [1] rfl rfl _ rfl⟩

end InternetChecksum

end Sponge
