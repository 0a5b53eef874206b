import Sponge.StreamReassembler.Quiescent
import Sponge.Lib.Run

/-!
# Bytes beyond the window

The substrings pushed into a reassembler need not belong to one stream.  As
long as none of them starts beyond the window, the bytes beyond it are
discarded; a substring that does start there makes the 64-bit arithmetic of
`storeData` wrap, and its bytes land in the slots of other indices.
-/

namespace Sponge.StreamReassembler

open Lib

variable {r : StreamReassembler} {whole data : List UInt8} {accepted : Finset ℕ} {index : ℕ}

/-- The first index beyond the window. -/
def edge (r : StreamReassembler) : ℕ := r.output.bytesRead + r.capacity

section AnyBytes

/-- The byte in a slot can be replaced by any other: the ring then holds bytes
of another stream. -/
theorem Assembles.overwrite (inv : r.Assembles whole accepted) {x : ℕ}
    (low : r.firstUnassembledIndex ≤ x) (inRing : x < r.firstUnassembledIndex + r.capacity)
    (byte : UInt8) :
    ({ r with
        unassembledBuffer := r.unassembledBuffer.set (x % r.capacity) byte } :
      StreamReassembler).Assembles
      ((whole ++ List.replicate (x + 1 - whole.length) 0).set x byte) accepted := by
  have longer := inv.extend (List.replicate (x + 1 - whole.length) 0)
  obtain ⟨content, view, agrees⟩ := longer.holds.bytes
  refine ⟨inv.positive, inv.stream, inv.outputCapacity, inv.seperator, inv.written, ?_,
    ⟨inv.holds.occupied, ⟨_, view.set low inRing byte, ?_⟩, inv.holds.count⟩, inv.assembled, ?_⟩
  · rw [List.take_set_of_le low]
    exact longer.buffered
  · intro y membership above
    by_cases same : y = x
    · subst y
      rw [Function.update_self, List.getElem?_set_self]
      simp only [List.length_append, List.length_replicate]
      omega
    · rw [Function.update_of_ne same, List.getElem?_set_ne (Ne.symm same)]
      exact agrees y membership above
  · intro y membership
    rw [List.length_set]
    exact longer.within y membership

/-- Storing a byte, whatever it is and whatever was stored at its index. -/
theorem Assembles.storeAny (inv : r.Assembles whole accepted) (data : List UInt8) {i : ℕ}
    (low : r.firstUnassembledIndex ≤ i + index)
    (high : i + index < r.output.totalReadBytes + r.capacity)
    (fits : i + index + r.seperator - r.firstUnassembledIndex < 2 ^ 64) :
    ∃ whole', (StreamReassembler.storeByte data index r i).Assembles whole'
      (insert (i + index) accepted) := by
  have read := inv.bytesRead_le
  have overwritten := inv.overwrite low (by omega) (data.getD i 0)
  have same : StreamReassembler.storeByte data index r i =
      StreamReassembler.storeByte data index
        { r with
          unassembledBuffer := r.unassembledBuffer.set ((i + index) % r.capacity) (data.getD i 0) }
        i := by
    simp only [StreamReassembler.storeByte, isOccupied, inv.slot_eq low fits, List.set_set]
  rw [same]
  refine ⟨_, overwritten.storeByte ?_ low high fits⟩
  rw [List.getElem?_set_self]
  simp only [List.length_append, List.length_replicate]
  omega

/-- After any push that starts inside the window, the ring holds bytes of some
stream. -/
theorem Settled.pushAny (inv : r.Settled whole accepted) (small : r.capacity < 2 ^ 63)
    (data : List UInt8) (inWindow : data ≠ [] → index ≤ r.edge) (eof : Bool) :
    ∃ whole' accepted', (r.pushSubstring data index eof).Settled whole' accepted' := by
  obtain ⟨whole', stored⟩ : ∃ whole', (r.storeData data index).1.Assembles whole'
      (accepted ∪ Finset.Ico index (index + r.bytesCanBeStored data index)) := by
    refine storeData_invariant (fun r' accepted => ∃ whole', r'.Assembles whole' accepted)
      ⟨whole, inv.toAssembles⟩ inv.assembled ?_
    rintro r' accepted' i output capacity first low bound ⟨whole', inv'⟩
    have short : i < data.length := Nat.lt_of_lt_of_le bound (Nat.min_le_left _ _)
    have window : index ≤ r.output.totalReadBytes + r.capacity :=
      inWindow (List.length_pos_iff.mp (by omega))
    rw [inv.bytesCanBeStored_eq data window] at bound
    have reduced := Nat.mod_le (r.output.totalReadBytes + r.capacity - index) (2 ^ 64)
    have read := inv.bytesRead_le
    have rotated : r'.seperator < r.capacity := by
      rw [inv'.seperator, capacity]
      exact Nat.mod_lt _ inv.positive
    exact inv'.storeAny data (first ▸ low) (by rw [output, capacity]; omega) (by omega)
  exact ⟨whole', _, settled_of_pushed (stored.withEofData _).writeToOutput⟩

end AnyBytes

section Truncation

/-- Only the bytes that are stored, and whether they are all of them, matter. -/
theorem pushSubstring_congr {data' : List UInt8} {eof eof' : Bool}
    (count : r.bytesCanBeStored data' index = r.bytesCanBeStored data index)
    (agree : ∀ i < r.bytesCanBeStored data index, data'.getD i 0 = data.getD i 0)
    (flag : (eof' && r.bytesCanBeStored data index == data'.length) =
      (eof && r.bytesCanBeStored data index == data.length)) :
    r.pushSubstring data' index eof' = r.pushSubstring data index eof := by
  have stored : r.storeData data' index = r.storeData data index := by
    simp only [storeData, count]
    congr 1
    refine List.foldl_ext _ _ _ fun r' i membership => ?_
    rw [List.mem_range'_1] at membership
    simp only [storeByte, agree i (by omega)]
  have total : (r.storeData data index).2 = r.bytesCanBeStored data index := rfl
  have pushed : r.pushed data' index eof' = r.pushed data index eof := by
    rw [StreamReassembler.pushed, StreamReassembler.pushed, stored, total, flag]
  rw [pushSubstring_eq, pushSubstring_eq, pushed]

/-- A substring that starts inside the window is cut at its edge.  If a byte is
cut off, so is the end of the stream. -/
theorem Settled.push_truncated (inv : r.Settled whole accepted) (inWindow : index ≤ r.edge)
    (data : List UInt8) (eof : Bool) :
    r.pushSubstring (data.take (r.edge - index)) index
        (eof && decide (index + data.length ≤ r.edge)) =
      r.pushSubstring data index eof := by
  by_cases inside : index + data.length ≤ r.edge
  · rw [List.take_of_length_le (by omega), decide_eq_true inside, Bool.and_true]
  have edge : r.output.totalReadBytes + r.capacity = r.edge := rfl
  have whole := inv.bytesCanBeStored_eq data (edge.symm ▸ inWindow)
  have part := inv.bytesCanBeStored_eq (data.take (r.edge - index)) (edge.symm ▸ inWindow)
  rw [edge] at whole part
  have reduced := Nat.mod_le (r.edge - index) (2 ^ 64)
  apply pushSubstring_congr
  · rw [whole, part, List.length_take]
    omega
  · intro i bound
    rw [List.getD_eq_getElem?_getD, List.getD_eq_getElem?_getD, List.getElem?_take_of_lt (by omega)]
  · have missing : ¬ r.bytesCanBeStored data index = data.length := by omega
    simp [inside, missing]

end Truncation

section Wrapping

/-- A substring that starts beyond the window always stores its first byte. -/
theorem Settled.bytesCanBeStored_beyond (inv : r.Settled whole accepted) (beyond : r.edge < index)
    (representable : index < 2 ^ 64) (byte : UInt8) : r.bytesCanBeStored [byte] index = 1 := by
  have accounting := inv.accounting
  have bounded := inv.stream.bounded
  rw [inv.outputCapacity] at bounded
  rw [edge, ByteStream.bytesRead] at beyond
  simp only [StreamReassembler.bytesCanBeStored, ByteStream.bufferSize, Word.add, Word.sub,
    List.length_singleton]
  omega

/-- Storing such a byte and assembling what has become contiguous. -/
theorem Settled.pushed_beyond (inv : r.Settled whole accepted) (beyond : r.edge < index)
    (representable : index < 2 ^ 64) (byte : UInt8) :
    r.pushed [byte] index false = (storeByte [byte] index r 0).writeToOutput := by
  have first := inv.first_le_edge
  have stored : r.storeData [byte] index = (storeByte [byte] index r 0, 1) := by
    rw [edge, ByteStream.bytesRead] at beyond
    rw [storeData, inv.bytesCanBeStored_beyond beyond representable, if_neg (by omega)]
    rfl
  rw [StreamReassembler.pushed, stored, Bool.false_and, Bool.or_false]

/-- An occupied slot at the border line is assembled. -/
theorem first_lt_writeToOutput (positive : 0 < r.capacity)
    (seperator : r.seperator % r.capacity = r.seperator)
    (front : r.isOccupied r.seperator = true) :
    r.firstUnassembledIndex < r.writeToOutput.firstUnassembledIndex := by
  have first := (collect_frame r.capacity 0 r).2.2.2.1
  have some : 0 < (collect r.capacity 0 r).1.length := by
    obtain ⟨fuel, fuelEq⟩ := Nat.exists_eq_succ_of_ne_zero (Nat.ne_of_gt positive)
    rw [fuelEq, Nat.succ_eq_add_one, collect]
    simp only [Nat.zero_add, seperator, front, if_true, List.length_cons, Nat.succ_pos]
  show r.firstUnassembledIndex <
    (collect r.capacity 0 r).2.firstUnassembledIndex + (collect r.capacity 0 r).1.length
  omega

/-- At every index beyond the window some byte gets into the ring or even into
the output. -/
theorem Settled.push_beyond (inv : r.Settled whole accepted) (quiet : r.Quiescent)
    (beyond : r.edge < index) (representable : index < 2 ^ 64) :
    ∃ byte, r.pushSubstring [byte] index false ≠ r := by
  obtain ⟨_, view, _⟩ := inv.holds.bytes
  generalize slotEq : Word.sub 64 (0 + index + r.seperator) r.firstUnassembledIndex % r.capacity =
    slot
  have inRing : slot < r.unassembledBuffer.length := by
    rw [view.length, ← slotEq]
    exact Nat.mod_lt _ inv.positive
  obtain ⟨byte, fresh⟩ : ∃ byte, byte ≠ r.unassembledBuffer.get ⟨slot, inRing⟩ := by
    by_cases zero : r.unassembledBuffer.get ⟨slot, inRing⟩ = 0
    · exact ⟨1, by rw [zero]; decide⟩
    · exact ⟨0, Ne.symm zero⟩
  refine ⟨byte, fun unchanged => ?_⟩
  have ring := pushSubstring_ring r [byte] index false
  rw [inv.pushed_beyond beyond representable, unchanged] at ring
  by_cases front : slot = r.seperator
  · -- the byte is taken for the next one of the stream
    have occupied : (storeByte [byte] index r 0).isOccupied r.seperator = true := by
      rw [isOccupied_iff]
      simp only [storeByte, slotEq, front]
      rw [List.getElem?_set_self]
      rw [quiet.ring, ← view.length, ← front]
      exact inRing
    have grown := first_lt_writeToOutput (r := storeByte [byte] index r 0) inv.positive
      quiet.seperator occupied
    exact Nat.ne_of_lt grown ring.2
  · -- the byte waits in the slot of another index
    have free : (storeByte [byte] index r 0).isOccupied r.seperator = false := by
      rw [← quiet.front]
      simp only [isOccupied, storeByte, slotEq, List.getD_eq_getElem?_getD]
      rw [List.getElem?_set_ne front]
    rw [writeToOutput_of_front (r := storeByte [byte] index r 0) quiet.seperator free] at ring
    have stored : r.unassembledBuffer[slot]? = some byte := by
      rw [ring.1]
      simp only [storeByte, slotEq]
      rw [List.getElem?_set_self inRing]
      rfl
    rw [List.getElem?_eq_getElem inRing, Option.some_inj] at stored
    exact fresh stored.symm

end Wrapping

section Runs

/-- The calls an owner makes on a reassembler. -/
inductive Call where
  | pushSubstring (data : List UInt8) (index : ℕ) (eof : Bool)
  /-- The owner reads from the output stream. -/
  | read (len : ℕ)
  deriving DecidableEq, Repr

def apply (r : StreamReassembler) : Call → StreamReassembler
  | .pushSubstring data index eof => r.pushSubstring data index eof
  | .read len => { r with output := (r.output.read len).2 }

/-- No byte is pushed from beyond the window. -/
def InWindow (r : StreamReassembler) : Call → Prop
  | .pushSubstring data index _ => data = [] ∨ index ≤ r.edge
  | .read _ => True

instance (r : StreamReassembler) (call : Call) : Decidable (r.InWindow call) :=
  match call with
  | .pushSubstring data index _ => inferInstanceAs (Decidable (data = [] ∨ index ≤ r.edge))
  | .read _ => .isTrue trivial

/-- What every run inside the window keeps. -/
structure Confined (capacity : ℕ) (r : StreamReassembler) : Prop where
  quiet : r.Quiescent
  capacity : r.capacity = capacity
  settled : ∃ whole accepted, r.Settled whole accepted

theorem confined_new {capacity : ℕ} (positive : 0 < capacity) (representable : capacity < 2 ^ 64) :
    (new capacity).Confined capacity :=
  ⟨quiescent_new representable, rfl, [], ∅, settled_new positive representable []⟩

theorem Confined.apply {capacity : ℕ} (small : capacity < 2 ^ 63) (r : StreamReassembler)
    (call : Call) (inv : r.Confined capacity) (inWindow : r.InWindow call) :
    (r.apply call).Confined capacity := by
  obtain ⟨whole, accepted, settled⟩ := inv.settled
  cases call with
  | pushSubstring data index eof =>
      refine ⟨inv.quiet.pushSubstring data index eof, ?_, ?_⟩
      · exact (pushSubstring_frame r data index eof).1.trans inv.capacity
      · exact settled.pushAny (inv.capacity ▸ small) data inWindow.resolve_left eof
  | read len => exact ⟨inv.quiet.popOutput len, inv.capacity, whole, accepted, settled.popOutput len⟩

/-- After a run inside the window, the bytes of a substring beyond the window are
discarded exactly when the substring does not start beyond it. -/
theorem beyond_window_discarded_iff (capacity : ℕ) (positive : 1 ≤ capacity)
    (allocatable : capacity < 2 ^ 63) (calls : List Call)
    (inWindow : Guarded apply InWindow (new capacity) calls) (index : ℕ)
    (representable : index < 2 ^ 64) :
    let r := run apply (new capacity) calls
    ((∀ data eof, r.pushSubstring data index eof =
        r.pushSubstring (data.take (r.edge - index)) index
          (eof && decide (index + data.length ≤ r.edge))) ↔
      index ≤ r.edge) ∧
    ∀ data eof, data ≠ [] → r.pushSubstring data r.edge eof = r := by
  intro r
  have inv : r.Confined capacity :=
    inWindow.invariant (Confined capacity) (confined_new positive (by omega))
      (Confined.apply allocatable)
  obtain ⟨whole, accepted, settled⟩ := inv.settled
  refine ⟨⟨?_, fun inside data eof => (settled.push_truncated inside data eof).symm⟩, ?_⟩
  · intro discards
    by_contra outside
    obtain ⟨byte, changes⟩ := settled.push_beyond inv.quiet (by omega) representable
    apply changes
    rw [discards [byte] false, Nat.sub_eq_zero_of_le (by omega), List.take_zero, Bool.false_and]
    exact inv.quiet.pushSubstring_nil index
  · intro data eof nonempty
    have length := List.length_pos_iff.mpr nonempty
    rw [← settled.push_truncated (Nat.le_refl _) data eof, Nat.sub_self, List.take_zero,
      decide_eq_false (by omega), Bool.and_false]
    exact inv.quiet.pushSubstring_nil r.edge

/-- A byte from far beyond the window is written to the output. -/
theorem beyond_window_written :
    let r := (new 2).pushSubstring [120] 4 false
    (new 2).edge = 2 ∧ r.output.buffer = [120] ∧ r ≠ new 2 := by
  decide

theorem beyond_window_discarded_iff_cut :
    let r := run apply (new 2) [.pushSubstring [98, 99, 100] 1 false, .read 1]
    r.pushSubstring [97, 98, 99] 0 true = r.pushSubstring [97, 98] 0 false ∧
      r.pushSubstring [99] 2 true = r :=
  have discarded := beyond_window_discarded_iff 2 (by decide) (by decide)
    [.pushSubstring [98, 99, 100] 1 false, .read 1] (by decide) 0 (by decide)
  ⟨discarded.1.mpr (by decide) [97, 98, 99] true, discarded.2 [99] true (by decide)⟩

end Runs

end Sponge.StreamReassembler
