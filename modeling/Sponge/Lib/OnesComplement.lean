import Mathlib.Data.List.Induction
import Mathlib.Data.Nat.ModEq
import Mathlib.Tactic.Common

/-!
# Ones'-complement sums

Words of `width` bits are added with the carries brought back in at the low
end.  The result is the remainder modulo `2^width - 1`, except that a sum which
is not zero is never represented by zero.
-/

namespace Sponge.Lib.OnesComplement

/-- `word` is what is left of `sum` when all carries are brought back in. -/
structure IsFolded (width sum word : ℕ) : Prop where
  lt : word < 2 ^ width
  congr : sum ≡ word [MOD 2 ^ width - 1]
  zero_iff : word = 0 ↔ sum = 0

variable {width sum word : ℕ}

theorem isFolded_self (small : sum < 2 ^ width) : IsFolded width sum sum :=
  ⟨small, rfl, Iff.rfl⟩

/-- Bringing the carries of one summand back in once. -/
theorem IsFolded.carry_add (other : ℕ)
    (folded : IsFolded width (sum / 2 ^ width + sum % 2 ^ width + other) word) :
    IsFolded width (sum + other) word := by
  have one : 2 ^ width ≡ 1 [MOD 2 ^ width - 1] := by
    have positive := Nat.two_pow_pos width
    exact (Nat.modEq_iff_dvd' positive).mpr (dvd_refl _) |>.symm
  have split := Nat.div_add_mod sum (2 ^ width)
  refine ⟨folded.lt, ?_, ?_⟩
  · calc sum + other = 2 ^ width * (sum / 2 ^ width) + sum % 2 ^ width + other := by rw [split]
      _ ≡ 1 * (sum / 2 ^ width) + sum % 2 ^ width + other [MOD 2 ^ width - 1] :=
        ((one.mul_right _).add_right _).add_right _
      _ = sum / 2 ^ width + sum % 2 ^ width + other := by rw [Nat.one_mul]
      _ ≡ word [MOD 2 ^ width - 1] := folded.congr
  · rw [folded.zero_iff, Nat.add_eq_zero_iff, Nat.add_eq_zero_iff, Nat.add_eq_zero_iff]
    constructor
    · rintro ⟨⟨high, low⟩, rfl⟩
      rw [high, low, Nat.mul_zero] at split
      exact ⟨split.symm, rfl⟩
    · rintro ⟨rfl, rfl⟩
      exact ⟨⟨Nat.zero_div _, Nat.zero_mod _⟩, rfl⟩

/-- Bringing the carries back in once. -/
theorem IsFolded.carry (folded : IsFolded width (sum / 2 ^ width + sum % 2 ^ width) word) :
    IsFolded width sum word :=
  IsFolded.carry_add 0 folded

/-- There is only one way to bring the carries in. -/
theorem IsFolded.unique {word' : ℕ} (folded : IsFolded width sum word)
    (folded' : IsFolded width sum word') : word = word' := by
  have aux {word word' : ℕ} (folded : IsFolded width sum word)
      (folded' : IsFolded width sum word') (le : word ≤ word') : word = word' := by
    have lt := folded'.lt
    have divides := (Nat.modEq_iff_dvd' le).mp (folded.congr.symm.trans folded'.congr)
    by_contra different
    have full := Nat.le_of_dvd (by omega) divides
    -- the two differ by everything, so that one of them is zero and the other is not
    have zero : word = 0 := by omega
    have zero' := folded'.zero_iff.mpr (folded.zero_iff.mp zero)
    omega
  rcases Nat.le_total word word' with le | le
  · exact aux folded folded' le
  · exact (aux folded' folded le).symm

/-- Adding the complement of a sum to it gives the word of all ones. -/
theorem IsFolded.complement (positive : 0 < width) (folded : IsFolded width sum word) {total : ℕ}
    (refolded : IsFolded width (sum + (2 ^ width - 1 - word)) total) : total = 2 ^ width - 1 := by
  have lt := folded.lt
  have two : 2 ≤ 2 ^ width := Nat.le_self_pow (Nat.ne_of_gt positive) 2
  refine refolded.unique ⟨by omega, ?_, ?_⟩
  · calc sum + (2 ^ width - 1 - word) ≡ word + (2 ^ width - 1 - word) [MOD 2 ^ width - 1] :=
        folded.congr.add_right _
      _ = 2 ^ width - 1 := by omega
  · have zero_iff := folded.zero_iff
    omega

/-- Add two words and bring the carry back in. -/
def endAroundAdd (width a b : ℕ) : ℕ := (a + b) / 2 ^ width + (a + b) % 2 ^ width

/-- The ones'-complement sum of some words. -/
def endAroundSum (width : ℕ) (words : List ℕ) : ℕ := words.foldl (endAroundAdd width) 0

theorem IsFolded.endAroundAdd (folded : IsFolded width sum word) {next : ℕ}
    (small : next < 2 ^ width) : IsFolded width (sum + next) (endAroundAdd width word next) := by
  have lt := folded.lt
  have carried : (word + next) / 2 ^ width + (word + next) % 2 ^ width < 2 ^ width := by
    rcases Nat.lt_or_ge (word + next) (2 ^ width) with fits | carry
    · rwa [Nat.div_eq_of_lt fits, Nat.mod_eq_of_lt fits, Nat.zero_add]
    · have once : (word + next) / 2 ^ width = 1 :=
        Nat.div_eq_of_lt_le (by omega) (by omega)
      have rest := Nat.div_add_mod (word + next) (2 ^ width)
      rw [once] at rest ⊢
      omega
  have added : IsFolded width (word + next) (OnesComplement.endAroundAdd width word next) :=
    (isFolded_self carried).carry
  refine ⟨added.lt, (folded.congr.add_right next).trans added.congr, ?_⟩
  rw [added.zero_iff, Nat.add_eq_zero_iff, Nat.add_eq_zero_iff, folded.zero_iff]

/-- The order in which the carries are brought back in does not matter. -/
theorem isFolded_endAroundSum {words : List ℕ} (small : ∀ word ∈ words, word < 2 ^ width) :
    IsFolded width words.sum (endAroundSum width words) := by
  induction words using List.reverseRecOn with
  | nil => exact isFolded_self (Nat.two_pow_pos width)
  | append_singleton words word inductionHypothesis =>
      obtain ⟨before, last⟩ := List.forall_mem_append.mp small
      rw [List.sum_append, List.sum_singleton, endAroundSum, List.foldl_append]
      exact (inductionHypothesis before).endAroundAdd (last word List.mem_cons_self)

/-- A sum is all ones exactly when it is a multiple of that word, and not zero. -/
theorem isFolded_ones_iff (positive : 0 < width) :
    IsFolded width sum (2 ^ width - 1) ↔ 2 ^ width - 1 ∣ sum ∧ sum ≠ 0 := by
  have two : 2 ≤ 2 ^ width := Nat.le_self_pow (Nat.ne_of_gt positive) 2
  constructor
  · intro folded
    have zero_iff := folded.zero_iff
    refine ⟨?_, by omega⟩
    exact (Nat.modEq_zero_iff_dvd).mp (folded.congr.trans (Nat.mod_self _))
  · rintro ⟨divides, nonzero⟩
    refine ⟨by omega, ?_, by omega⟩
    exact ((Nat.modEq_zero_iff_dvd).mpr divides).trans (Nat.mod_self _).symm

end Sponge.Lib.OnesComplement
