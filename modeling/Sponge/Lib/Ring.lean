import Mathlib.Data.Nat.ModEq
import Mathlib.Data.List.Basic
import Mathlib.Logic.Function.Basic
import Mathlib.Tactic.Common

/-!
# Rings of slots

A ring of `size` slots holds the values at `size` consecutive positions of an
unbounded line.  Position `x` lives in slot `x % size`, so moving the origin
of the ring forward by one reuses the slot of the position left behind.
-/

namespace Sponge.Lib.Ring

universe u

variable {Value : Type u}

/-- Positions less than a revolution apart live in different slots. -/
theorem slot_injective {size origin x y : Nat}
    (lowX : origin ≤ x) (highX : x < origin + size)
    (lowY : origin ≤ y) (highY : y < origin + size)
    (same : x % size = y % size) : x = y := by
  rcases Nat.le_total x y with ordered | ordered
  · have divides : size ∣ y - x := (Nat.modEq_iff_dvd' ordered).mp same
    have zero := Nat.eq_zero_of_dvd_of_lt divides (by omega)
    omega
  · have divides : size ∣ x - y := (Nat.modEq_iff_dvd' ordered).mp same.symm
    have zero := Nat.eq_zero_of_dvd_of_lt divides (by omega)
    omega

/-- The slots hold the values of `content` from `origin` on. -/
structure View (slots : List Value) (size origin : Nat) (content : Nat → Value) : Prop where
  length : slots.length = size
  slot : ∀ x, origin ≤ x → x < origin + size → slots[x % size]? = some (content x)

theorem View.replicate (size origin : Nat) (value : Value) :
    View (List.replicate size value) size origin fun _ => value := by
  refine ⟨List.length_replicate, ?_⟩
  intro x low high
  have bound : x % size < size := Nat.mod_lt _ (by omega)
  simp [bound]

theorem View.getD {slots : List Value} {size origin x : Nat} {content : Nat → Value}
    (view : View slots size origin content) (low : origin ≤ x) (high : x < origin + size)
    (default : Value) : slots.getD (x % size) default = content x := by
  rw [List.getD_eq_getElem?_getD, view.slot x low high, Option.getD_some]

theorem View.congr {slots : List Value} {size origin : Nat} {content content' : Nat → Value}
    (view : View slots size origin content)
    (agree : ∀ x, origin ≤ x → x < origin + size → content x = content' x) :
    View slots size origin content' := by
  refine ⟨view.length, ?_⟩
  intro x low high
  rw [view.slot x low high, agree x low high]

/-- Writing a slot changes the value at the one position that lives there. -/
theorem View.set {slots : List Value} {size origin x : Nat} {content : Nat → Value}
    (view : View slots size origin content) (low : origin ≤ x) (high : x < origin + size)
    (value : Value) :
    View (slots.set (x % size) value) size origin (Function.update content x value) := by
  refine ⟨by simpa using view.length, ?_⟩
  intro y lowY highY
  by_cases same : x = y
  · subst y
    have bound : x % size < slots.length := by
      rw [view.length]
      exact Nat.mod_lt _ (by omega)
    simp [List.getElem?_set_self bound]
  · have different : x % size ≠ y % size :=
      fun equal => same (slot_injective low high lowY highY equal)
    rw [List.getElem?_set_ne different, view.slot y lowY highY,
      Function.update_of_ne (Ne.symm same)]

/-- Clearing the slot at the origin makes room for the position one revolution
ahead, and the origin moves forward. -/
theorem View.advance {slots : List Value} {size origin : Nat} {content : Nat → Value}
    (view : View slots size origin content) (positive : 0 < size) (value : Value) :
    View (slots.set (origin % size) value) size (origin + 1)
      (Function.update content (origin + size) value) := by
  have cleared := view.set (Nat.le_refl origin) (by omega) value
  refine ⟨cleared.length, ?_⟩
  intro x low high
  by_cases wrapped : x = origin + size
  · subst x
    rw [Nat.add_mod_right, cleared.slot origin (Nat.le_refl origin) (by omega)]
    simp
  · rw [cleared.slot x (by omega) (by omega), Function.update_of_ne (by omega),
      Function.update_of_ne wrapped]

end Sponge.Lib.Ring
