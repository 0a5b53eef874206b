import Mathlib.Algebra.Order.Ring.Nat
import Mathlib.Tactic.Common

/-!
# Unsigned machine words

Unsigned arithmetic on `w` bits, written on natural numbers.  Only the
operations that can leave the range `[0, 2^w)` are given here, with what they
amount to with and without a borrow.
-/

namespace Sponge.Lib.Word

/-- Unsigned `w`-bit addition. -/
def add (w a b : Nat) : Nat := (a + b) % 2 ^ w

/-- Unsigned `w`-bit subtraction. -/
def sub (w a b : Nat) : Nat := (a + (2 ^ w - b % 2 ^ w)) % 2 ^ w

theorem add_le (w a b : Nat) : add w a b ≤ a + b := Nat.mod_le _ _

theorem add_eq {w a b : Nat} (fits : a + b < 2 ^ w) : add w a b = a + b := Nat.mod_eq_of_lt fits

theorem mod_add_sub_mod (w b : Nat) : b + (2 ^ w - b % 2 ^ w) = 2 ^ w * (b / 2 ^ w + 1) := by
  have below : b % 2 ^ w < 2 ^ w := Nat.mod_lt _ (Nat.two_pow_pos w)
  have split := Nat.div_add_mod b (2 ^ w)
  rw [Nat.mul_add, Nat.mul_one]
  omega

/-- Without a borrow the word difference is the difference, reduced to the word. -/
theorem sub_eq_mod {w a b : Nat} (noBorrow : b ≤ a) : sub w a b = (a - b) % 2 ^ w := by
  have shifted : a + (2 ^ w - b % 2 ^ w) = (a - b) + 2 ^ w * (b / 2 ^ w + 1) := by
    rw [← mod_add_sub_mod w b]
    omega
  rw [sub, shifted, Nat.add_mul_mod_self_left]

theorem sub_eq {w a b : Nat} (noBorrow : b ≤ a) (fits : a - b < 2 ^ w) :
    sub w a b = a - b := by
  rw [sub_eq_mod noBorrow, Nat.mod_eq_of_lt fits]

/-- With a borrow the word difference is the complement of what is missing. -/
theorem sub_borrow {w a b : Nat} (borrow : a < b) (fits : b - a ≤ 2 ^ w) :
    sub w a b = 2 ^ w - (b - a) := by
  have shifted : a + (2 ^ w - b % 2 ^ w) + (b - a) = 2 ^ w * (b / 2 ^ w + 1) := by
    rw [← mod_add_sub_mod w b]
    omega
  have expanded : 2 ^ w * (b / 2 ^ w + 1) = 2 ^ w * (b / 2 ^ w) + 2 ^ w :=
    Nat.mul_succ _ _
  have rearranged : a + (2 ^ w - b % 2 ^ w) = (2 ^ w - (b - a)) + 2 ^ w * (b / 2 ^ w) := by
    omega
  rw [sub, rearranged, Nat.add_mul_mod_self_left, Nat.mod_eq_of_lt]
  omega

/-- A word difference vanishes only on equal words. -/
theorem sub_eq_zero_iff {w a b : Nat} (left : a < 2 ^ w) (right : b < 2 ^ w) :
    sub w a b = 0 ↔ a = b := by
  rcases Nat.lt_or_ge a b with borrow | noBorrow
  · rw [sub_borrow borrow (by omega)]
    omega
  · rw [sub_eq noBorrow (by omega)]
    omega

end Sponge.Lib.Word
