import Mathlib.Algebra.Order.Ring.Nat

/-!
# Wrapping integers

Sequence numbers on the wire are 32 bits wide and relative to an initial
sequence number.  Inside an endpoint they are absolute and 64 bits wide.  An
absolute number counts bytes sent since the connection began, so it is a
natural number here.
-/

namespace Sponge

/-- A 32-bit integer, expressed relative to an arbitrary initial sequence number. -/
structure WrappingInt32 where
  rawValue : UInt32
  deriving DecidableEq, Repr, Inhabited

namespace WrappingInt32

/-- The point `b` steps past `a`. -/
def add (a : WrappingInt32) (b : UInt32) : WrappingInt32 := ⟨a.rawValue + b⟩

/-- The point `b` steps before `a`. -/
def sub (a : WrappingInt32) (b : UInt32) : WrappingInt32 := a.add (-b)

end WrappingInt32

/-- Transform an absolute sequence number into a relative one.  `UInt32.ofNat`
keeps the low 32 bits. -/
def wrap (n : Nat) (isn : WrappingInt32) : WrappingInt32 := isn.add (UInt32.ofNat n)

/-- The distance from `isn` up to `n`, between `0` and `2^32 - 1`. -/
def absSeqno (n isn : WrappingInt32) : UInt32 :=
  if n.rawValue ≥ isn.rawValue then n.rawValue - isn.rawValue
  else UInt32.ofNat ((2 ^ 32 - isn.rawValue.toNat) + n.rawValue.toNat)

/-- Transform a relative sequence number into the absolute one that wraps to
it and is closest to `checkpoint`. -/
def unwrap (n isn : WrappingInt32) (checkpoint : Nat) : Nat :=
  let absSeqno := (absSeqno n isn).toNat
  if absSeqno ≥ checkpoint then absSeqno
  else
    let checkpointHigh32bit := checkpoint / 2 ^ 32 * 2 ^ 32
    let checkpointLow32bit := checkpoint % 2 ^ 32
    if checkpointLow32bit > absSeqno then
      if checkpointLow32bit - absSeqno ≥ 2 ^ 32 / 2 then
        checkpointHigh32bit + absSeqno + 2 ^ 32
      else checkpointHigh32bit + absSeqno
    else
      -- here `checkpoint ≥ 2^32`, so the subtraction does not go below zero
      if absSeqno - checkpointLow32bit ≥ 2 ^ 32 / 2 then
        checkpointHigh32bit + absSeqno - 2 ^ 32
      else checkpointHigh32bit + absSeqno

@[simp]
theorem wrap_zero (isn : WrappingInt32) : wrap 0 isn = isn := by
  simp [wrap, WrappingInt32.add]

theorem absSeqno_eq_sub (n isn : WrappingInt32) :
    absSeqno n isn = n.rawValue - isn.rawValue := by
  unfold absSeqno
  split
  next => rfl
  next =>
    apply UInt32.toNat_inj.mp
    rw [UInt32.toNat_ofNat', UInt32.toNat_sub]

@[simp]
theorem absSeqno_wrap (n : Nat) (isn : WrappingInt32) :
    (absSeqno (wrap n isn) isn).toNat = n % 2 ^ 32 := by
  rw [absSeqno_eq_sub, wrap, WrappingInt32.add, UInt32.add_comm, UInt32.add_sub_cancel]
  exact UInt32.toNat_ofNat'

/-- Two absolute numbers wrap to the same relative one exactly when they agree
in their low 32 bits. -/
theorem wrap_eq_wrap_iff (m n : Nat) (isn : WrappingInt32) :
    wrap m isn = wrap n isn ↔ m % 2 ^ 32 = n % 2 ^ 32 := by
  constructor
  · intro equal
    rw [← absSeqno_wrap m isn, equal, absSeqno_wrap]
  · intro equal
    have low : UInt32.ofNat m = UInt32.ofNat n := by
      apply UInt32.toNat_inj.mp
      simpa using equal
    rw [wrap, wrap, low]

/-- A relative number within `2^31` of the checkpoint is recovered exactly. -/
theorem unwrap_wrap {v checkpoint : Nat} (isn : WrappingInt32)
    (above : v < checkpoint + 2 ^ 31) (below : checkpoint < v + 2 ^ 31) :
    unwrap (wrap v isn) isn checkpoint = v := by
  simp only [unwrap, absSeqno_wrap]
  split_ifs <;> omega

/-- The absolute numbers that wrap to a given relative one form a residue class. -/
theorem wrap_eq_iff (x : Nat) (n isn : WrappingInt32) :
    wrap x isn = n ↔ x % 2 ^ 32 = (absSeqno n isn).toNat := by
  have restored : wrap (absSeqno n isn).toNat isn = n := by
    rw [absSeqno_eq_sub, wrap, WrappingInt32.add, UInt32.ofNat_toNat, UInt32.add_comm,
      UInt32.sub_add_cancel]
  have small := (absSeqno n isn).toNat_lt
  rw [← Nat.mod_eq_of_lt small, ← wrap_eq_wrap_iff x _ isn, restored]

theorem unwrap_mod (n isn : WrappingInt32) (checkpoint : Nat) :
    unwrap n isn checkpoint % 2 ^ 32 = (absSeqno n isn).toNat := by
  have small := (absSeqno n isn).toNat_lt
  simp only [unwrap]
  split_ifs <;> omega

/-- Either the result is the first of its class, at or above the checkpoint, or
it lies within half a turn of the checkpoint. -/
theorem unwrap_near (n isn : WrappingInt32) (checkpoint : Nat) :
    (checkpoint ≤ unwrap n isn checkpoint ∧ unwrap n isn checkpoint < 2 ^ 32) ∨
      (unwrap n isn checkpoint ≤ checkpoint + 2 ^ 31 ∧
        checkpoint ≤ unwrap n isn checkpoint + 2 ^ 31) := by
  have small := (absSeqno n isn).toNat_lt
  simp only [unwrap]
  split_ifs <;> omega

/-- Of all 64-bit numbers that wrap to `n`, none is strictly closer to the
checkpoint than the one that is returned. -/
theorem unwrap_closest (n isn : WrappingInt32) {checkpoint : Nat} (bounded : checkpoint < 2 ^ 63) :
    unwrap n isn checkpoint < 2 ^ 64 ∧ wrap (unwrap n isn checkpoint) isn = n ∧
      (∀ y < 2 ^ 64, wrap y isn = n →
        ((unwrap n isn checkpoint : Int) - checkpoint).natAbs ≤ ((y : Int) - checkpoint).natAbs) ∧
      (∀ v : Nat, ((v : Int) - checkpoint).natAbs < 2 ^ 31 →
        unwrap (wrap v isn) isn checkpoint = v) := by
  have residue := unwrap_mod n isn checkpoint
  have near := unwrap_near n isn checkpoint
  refine ⟨by omega, (wrap_eq_iff _ n isn).mpr residue, ?_, ?_⟩
  · intro y _ same
    -- two members of the class are equal or a whole turn apart
    have sameResidue := (wrap_eq_iff y n isn).mp same
    omega
  · intro v close
    exact unwrap_wrap isn (by omega) (by omega)

theorem unwrap_closest_across_turn :
    (2 ^ 32 + 10 < 2 ^ 63) ∧ unwrap ⟨3⟩ ⟨5⟩ (2 ^ 32 + 10) = 2 ^ 32 - 2 ∧
      ∀ y < 2 ^ 64, wrap y ⟨5⟩ = ⟨3⟩ →
        ((unwrap ⟨3⟩ ⟨5⟩ (2 ^ 32 + 10) : Int) - (2 ^ 32 + 10 : Nat)).natAbs ≤
          ((y : Int) - (2 ^ 32 + 10 : Nat)).natAbs :=
  ⟨by decide, by decide, (unwrap_closest ⟨3⟩ ⟨5⟩ (by decide)).2.2.1⟩

end Sponge
