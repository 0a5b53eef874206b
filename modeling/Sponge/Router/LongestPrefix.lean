import Sponge.Router.Basic

/-!
# Longest prefix match

Among the routes whose prefix agrees with an address the router takes one with
the longest prefix, and the earliest added of several.
-/

namespace Sponge

namespace Route

/-- The first bits of the address are those of the prefix. -/
def Covers (r : Route) (dst : UInt32) : Prop :=
  ∀ i < r.prefixLength.toNat, r.routePrefix.toBitVec.getMsbD i = dst.toBitVec.getMsbD i

instance (r : Route) (dst : UInt32) : Decidable (r.Covers dst) :=
  inferInstanceAs (Decidable (∀ i < r.prefixLength.toNat, _ = _))

variable {r : Route}

theorem bitmask_getMsbD (short : r.prefixLength.toNat ≤ 32) (i : ℕ) :
    r.bitmask.toBitVec.getMsbD i = decide (i < r.prefixLength.toNat) := by
  unfold bitmask
  split
  next zero => simp [zero]
  next positive =>
    have length_pos : r.prefixLength.toNat ≠ 0 := fun zero => positive (UInt8.toNat_inj.mp zero)
    have shift : ((32 - r.prefixLength.toUInt32).toBitVec % 32).toNat =
        32 - r.prefixLength.toNat := by
      have difference : (32 - r.prefixLength.toUInt32).toNat = 32 - r.prefixLength.toNat :=
        UInt32.toNat_sub_of_le _ _ (UInt32.le_iff_toNat_le.mpr short)
      rw [BitVec.toNat_umod, UInt32.toNat_toBitVec, difference]
      exact Nat.mod_eq_of_lt (Nat.sub_lt (by decide) (Nat.pos_of_ne_zero length_pos))
    have ones : (0xffffffff : UInt32).toBitVec = BitVec.allOnes 32 := rfl
    rw [UInt32.toBitVec_shiftLeft, BitVec.shiftLeft_eq', shift, ones, BitVec.getMsbD_shiftLeft,
      BitVec.getMsbD_allOnes, decide_eq_decide]
    omega

/-- The comparison under the mask compares the first bits. -/
theorem isMatch_iff (short : r.prefixLength.toNat ≤ 32) (dst : UInt32) :
    r.isMatch dst = true ↔ r.Covers dst := by
  rw [isMatch, beq_iff_eq, ← UInt32.toBitVec_inj, UInt32.toBitVec_and, UInt32.toBitVec_and]
  constructor
  · intro same i within
    have bit := congrArg (·.getMsbD i) same
    simpa [BitVec.getMsbD_and, bitmask_getMsbD short, within] using bit
  · intro covers
    apply BitVec.eq_of_getMsbD_eq
    intro i _
    rw [BitVec.getMsbD_and, BitVec.getMsbD_and, bitmask_getMsbD short]
    by_cases within : i < r.prefixLength.toNat
    · rw [covers i within]
    · simp [within]

end Route

/-- The route for an address among those that were added. -/
def longestPrefixRoute (routes : List Route) (dst : UInt32) : Option Route :=
  (routes.filter (·.Covers dst)).argmax (·.prefixLength.toNat)

namespace Router

open Lib

variable {routes : List Route}

theorem routingTable_foldl_addRoute (r : Router) (routes : List Route) :
    (routes.foldl addRoute r).routingTable =
      routes.foldl (insertDescending (·.prefixLength.toNat)) r.routingTable := by
  induction routes generalizing r with
  | nil => rfl
  | cons route rest inductionHypothesis => exact inductionHypothesis (r.addRoute route)

theorem interfaces_foldl_addRoute (r : Router) (routes : List Route) :
    (routes.foldl addRoute r).interfaces = r.interfaces ∧
      (routes.foldl addRoute r).sendCalls = r.sendCalls := by
  induction routes generalizing r with
  | nil => exact ⟨rfl, rfl⟩
  | cons route rest inductionHypothesis => exact inductionHypothesis (r.addRoute route)

/-- The first match in the table is the longest prefix match. -/
theorem find?_routingTable (r : Router) (fresh : r.routingTable = [])
    (short : ∀ route ∈ routes, route.prefixLength.toNat ≤ 32) (dst : UInt32) :
    (routes.foldl addRoute r).routingTable.find? (·.isMatch dst) =
      longestPrefixRoute routes dst := by
  have matching : ∀ route ∈ routes, route.isMatch dst = decide (route.Covers dst) := by
    intro route membership
    rw [Bool.eq_iff_iff, Route.isMatch_iff (short route membership), decide_eq_true_iff]
  rw [routingTable_foldl_addRoute, fresh, find?_foldl_insert, longestPrefixRoute,
    List.filter_congr matching]

/-- The route is the first of the longest prefix among the routes that agree with
the address. -/
def IsLongestPrefix (routes : List Route) (dst : UInt32) (route : Route) : Prop :=
  IsFirstHighest (·.prefixLength.toNat) (·.Covers dst) routes route

theorem longestPrefixRoute_eq_none_iff (dst : UInt32) :
    longestPrefixRoute routes dst = none ↔ ∀ route ∈ routes, ¬ route.Covers dst := by
  simp [longestPrefixRoute, List.argmax_eq_none]

end Router

end Sponge
