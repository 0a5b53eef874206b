import Sponge.StreamReassembler.Push
import Sponge.Lib.Run
import Mathlib.Order.Bounds.Basic

/-!
# Runs of a reassembler

A run pushes slices of one stream, in any order and with any overlap, and
reads from the output in between.  The history of a run records which indices
were accepted and which bytes were read; everything the reassembler shows is a
function of that history.
-/

namespace Sponge.StreamReassembler

open Lib

structure History where
  reassembler : StreamReassembler
  /-- Indices covered by a push while they lay inside the window. -/
  accepted : Finset ℕ := ∅
  /-- Bytes taken out of the output stream. -/
  readOut : List UInt8 := []

inductive Op where
  /-- Push `whole[i..j)` at index `i`. -/
  | push (i j : ℕ) (eof : Bool)
  | read (len : ℕ)

namespace History

def new (capacity : ℕ) : History where
  reassembler := StreamReassembler.new capacity

/-- The first index beyond the window. -/
def edge (h : History) : ℕ := h.reassembler.output.bytesRead + h.reassembler.capacity

/-- Every byte the reassembler has written to its output. -/
def writtenOut (h : History) : List UInt8 := h.readOut ++ h.reassembler.output.buffer

def apply (whole : List UInt8) (h : History) : Op → History
  | .push i j eof =>
      { h with
        reassembler := h.reassembler.pushSubstring ((whole.take j).drop i) i eof
        accepted := h.accepted ∪ (Finset.Ico i j).filter (· < h.edge) }
  | .read len =>
      let (bytes, output) := h.reassembler.output.read len
      { h with
        reassembler := { h.reassembler with output }
        readOut := h.readOut ++ bytes }

/-- A push is a slice of the stream that starts no later than the edge. -/
def Permitted (whole : List UInt8) (h : History) : Op → Prop
  | .push i j _ => i ≤ j ∧ j ≤ whole.length ∧ i ≤ h.edge
  | .read _ => True

instance (whole : List UInt8) (h : History) (op : Op) : Decidable (h.Permitted whole op) :=
  match op with
  | .push i j _ => inferInstanceAs (Decidable (i ≤ j ∧ j ≤ whole.length ∧ i ≤ h.edge))
  | .read _ => .isTrue trivial

/-- The history's record agrees with the reassembler. -/
structure Consistent (capacity : ℕ) (whole : List UInt8) (h : History) : Prop where
  settled : h.reassembler.Settled whole h.accepted
  capacity : h.reassembler.capacity = capacity
  readOut : h.readOut = whole.take h.reassembler.output.totalReadBytes

theorem consistent_new {capacity : ℕ} (positive : 0 < capacity)
    (representable : capacity < 2 ^ 64) (whole : List UInt8) :
    (new capacity).Consistent capacity whole :=
  ⟨settled_new positive representable whole, rfl, by
    simp [new, StreamReassembler.new, ByteStream.new]⟩

theorem Consistent.push {capacity : ℕ} {whole : List UInt8} {h : History}
    (consistent : h.Consistent capacity whole) (small : capacity < 2 ^ 63)
    (short : whole.length < 2 ^ 63) {i j : ℕ} (ordered : i ≤ j) (inside : j ≤ whole.length)
    (inWindow : i ≤ h.edge) (eof : Bool) :
    (h.apply whole (.push i j eof)).Consistent capacity whole := by
  have inv := consistent.settled
  have slice : (whole.take j).drop i <+: whole.drop i := by
    rw [List.drop_take]
    exact List.take_prefix _ _
  have sliceLength : ((whole.take j).drop i).length = j - i := by
    simp only [List.length_drop, List.length_take]
    omega
  have stored := inv.bytesCanBeStored_eq ((whole.take j).drop i) inWindow
  -- both summands are below `2^63`, so the room left is not reduced
  have room : h.reassembler.output.totalReadBytes + h.reassembler.capacity - i < 2 ^ 64 := by
    have read := inv.bytesRead_le
    have first := inv.first_le_length
    have capacityEq := consistent.capacity
    omega
  rw [Nat.mod_eq_of_lt room, sliceLength] at stored
  have accepted : Finset.Ico i (i + h.reassembler.bytesCanBeStored ((whole.take j).drop i) i) =
      (Finset.Ico i j).filter (· < h.edge) := by
    ext x
    rw [Finset.mem_filter]
    simp only [edge, ByteStream.bytesRead] at inWindow
    simp only [stored, Finset.mem_Ico, edge, ByteStream.bytesRead]
    omega
  have settled := inv.pushSubstring slice (fun _ => inWindow) (by omega) eof
  obtain ⟨capacityFrame, readFrame, _⟩ :=
    pushSubstring_frame h.reassembler ((whole.take j).drop i) i eof
  rw [accepted] at settled
  refine ⟨settled, capacityFrame.trans consistent.capacity, ?_⟩
  simp only [apply, readFrame]
  exact consistent.readOut

theorem Consistent.read {capacity : ℕ} {whole : List UInt8} {h : History}
    (consistent : h.Consistent capacity whole) (len : ℕ) :
    (h.apply whole (.read len)).Consistent capacity whole := by
  have inv := consistent.settled
  refine ⟨inv.popOutput len, consistent.capacity, ?_⟩
  simp only [apply, ByteStream.read_eq, ByteStream.popOutput_totalReadBytes]
  rw [consistent.readOut]
  exact inv.take_append_read len

theorem Consistent.apply {capacity : ℕ} {whole : List UInt8} (small : capacity < 2 ^ 63)
    (short : whole.length < 2 ^ 63) (h : History) (op : Op)
    (consistent : h.Consistent capacity whole) (permitted : h.Permitted whole op) :
    (h.apply whole op).Consistent capacity whole := by
  cases op with
  | push i j eof =>
      obtain ⟨ordered, inside, inWindow⟩ := permitted
      exact consistent.push small short ordered inside inWindow eof
  | read len => exact consistent.read len

theorem Consistent.writtenOut_eq {capacity : ℕ} {whole : List UInt8} {h : History}
    (consistent : h.Consistent capacity whole) :
    h.writtenOut = whole.take h.reassembler.firstUnassembledIndex := by
  rw [writtenOut, consistent.readOut]
  exact consistent.settled.take_append_buffer

/-- The first unassembled index is the least index not accepted. -/
theorem Consistent.isLeast_first {capacity : ℕ} {whole : List UInt8} {h : History}
    (consistent : h.Consistent capacity whole) :
    IsLeast {x | x ∉ h.accepted} h.reassembler.firstUnassembledIndex := by
  refine ⟨consistent.settled.gap, ?_⟩
  intro x missing
  by_contra below
  exact missing (consistent.settled.assembled x (by omega))

theorem Consistent.unassembledBytes_eq {capacity : ℕ} {whole : List UInt8} {h : History}
    (consistent : h.Consistent capacity whole) :
    h.reassembler.unassembledBytes =
      (h.accepted.filter (h.reassembler.firstUnassembledIndex < ·)).card := by
  rw [consistent.settled.holds.count]
  congr 1
  ext x
  simp only [Finset.mem_filter, and_congr_right_iff]
  intro membership
  have gap : x ≠ h.reassembler.firstUnassembledIndex := by
    rintro rfl
    exact consistent.settled.gap membership
  omega

/-- What waits in the ring and what waits in the output fit into the capacity
together. -/
theorem Consistent.held_le_capacity {capacity : ℕ} {whole : List UInt8} {h : History}
    (consistent : h.Consistent capacity whole) :
    h.reassembler.unassembledBytes + h.reassembler.output.bufferSize ≤ capacity := by
  have inv := consistent.settled
  have accounting := inv.accounting
  have edge := inv.first_le_edge
  have few := card_filter_le (fun x membership => (inv.within x membership).1)
    h.reassembler.firstUnassembledIndex
  rw [← inv.holds.count] at few
  rw [ByteStream.bufferSize, ← consistent.capacity]
  omega

/-- A reassembler writes exactly the bytes below the least index that was not
accepted, counts the accepted indices above it, and never holds more than its
capacity. -/
theorem run_exact (capacity : ℕ) (positive : 1 ≤ capacity) (small : capacity < 2 ^ 63)
    (whole : List UInt8) (short : whole.length < 2 ^ 63) (ops : List Op)
    (permitted : Guarded (History.apply whole) (History.Permitted whole) (new capacity) ops) :
    let h := run (History.apply whole) (new capacity) ops
    ∃ k, IsLeast {x | x ∉ h.accepted} k ∧
      h.writtenOut = whole.take k ∧
      h.reassembler.firstUnassembledIndex = k ∧
      h.reassembler.output.bytesWritten = k ∧
      h.reassembler.unassembledBytes = (h.accepted.filter (k < ·)).card ∧
      h.reassembler.unassembledBytes + h.reassembler.output.bufferSize ≤ capacity := by
  intro h
  have consistent : h.Consistent capacity whole :=
    permitted.invariant (Consistent capacity whole) (consistent_new positive (by omega) whole)
      (Consistent.apply small short)
  exact ⟨h.reassembler.firstUnassembledIndex, consistent.isLeast_first,
    consistent.writtenOut_eq, rfl, consistent.settled.written,
    consistent.unassembledBytes_eq, consistent.held_le_capacity⟩

/-- Two overlapping pushes in the wrong order, the first one cut at the edge. -/
theorem run_exact_overlapping_pushes :
    let whole : List UInt8 := [97, 98, 99]
    let ops : List Op := [.push 1 3 true, .push 0 2 false, .read 1]
    let h := run (History.apply whole) (new 2) ops
    Guarded (History.apply whole) (History.Permitted whole) (new 2) ops ∧
    ∃ k, IsLeast {x | x ∉ h.accepted} k ∧
      h.writtenOut = whole.take k ∧
      h.reassembler.firstUnassembledIndex = k ∧
      h.reassembler.output.bytesWritten = k ∧
      h.reassembler.unassembledBytes = (h.accepted.filter (k < ·)).card ∧
      h.reassembler.unassembledBytes + h.reassembler.output.bufferSize ≤ 2 :=
  have permitted : Guarded (History.apply [97, 98, 99]) (History.Permitted [97, 98, 99]) (new 2)
      [.push 1 3 true, .push 0 2 false, .read 1] := by decide
  ⟨permitted, run_exact 2 (by decide) (by decide) [97, 98, 99] (by decide) _ permitted⟩

end History

end Sponge.StreamReassembler
