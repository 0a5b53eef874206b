import Sponge.StreamReassembler.Basic
import Sponge.Lib.Ring
import Mathlib.Data.Finset.Card
import Mathlib.Order.Interval.Finset.Nat

/-!
# Assembling one stream

The substrings of one stream `whole` are pushed in any order.  The invariant
relates the ring to the set of stream indices accepted so far: the slot of an
index is occupied exactly when the index is accepted and not assembled yet,
and it then holds the byte of `whole` at that index.
-/

namespace Sponge.StreamReassembler

open Lib

/-- The ring, read from `origin` on, holds the accepted bytes of `whole`. -/
structure Holds (r : StreamReassembler) (whole : List UInt8) (accepted : Finset ℕ)
    (origin : ℕ) : Prop where
  occupied : Ring.View r.occupied r.capacity origin fun x => decide (x ∈ accepted)
  bytes : ∃ content, Ring.View r.unassembledBuffer r.capacity origin content ∧
    ∀ x ∈ accepted, origin ≤ x → whole[x]? = some (content x)
  count : r.unassembledBytes = (accepted.filter (origin ≤ ·)).card

/-- The invariant of the reassembler while a push is in progress. -/
structure Assembles (r : StreamReassembler) (whole : List UInt8) (accepted : Finset ℕ) :
    Prop where
  positive : 0 < r.capacity
  stream : r.output.WellFormed
  outputCapacity : r.output.totalCapacity = r.capacity
  seperator : r.seperator = r.firstUnassembledIndex % r.capacity
  written : r.output.totalWrittenBytes = r.firstUnassembledIndex
  buffered : r.output.buffer =
    (whole.take r.firstUnassembledIndex).drop r.output.totalReadBytes
  holds : r.Holds whole accepted r.firstUnassembledIndex
  assembled : ∀ x < r.firstUnassembledIndex, x ∈ accepted
  within : ∀ x ∈ accepted, x < r.output.totalReadBytes + r.capacity ∧ x < whole.length

/-- The invariant between two calls: nothing that could be assembled waits. -/
structure Settled (r : StreamReassembler) (whole : List UInt8) (accepted : Finset ℕ) : Prop
    extends Assembles r whole accepted where
  gap : r.firstUnassembledIndex ∉ accepted

theorem settled_new {capacity : ℕ} (positive : 0 < capacity) (representable : capacity < 2 ^ 64)
    (whole : List UInt8) : (new capacity).Settled whole ∅ := by
  have view : (new capacity).Holds whole ∅ 0 := by
    refine ⟨?_, ⟨fun _ => 32, Ring.View.replicate capacity 0 32, by simp⟩, rfl⟩
    simpa [new] using Ring.View.replicate capacity 0 false
  refine ⟨⟨positive, ByteStream.wellFormed_new representable, rfl, ?_, rfl, ?_, view, ?_, ?_⟩, ?_⟩
  · simp [new]
  · simp [new, ByteStream.new]
  · simp [new]
  · simp
  · simp

section Basics

variable {r : StreamReassembler} {whole : List UInt8} {accepted : Finset ℕ}

theorem Assembles.accounting (inv : r.Assembles whole accepted) :
    r.firstUnassembledIndex = r.output.totalReadBytes + r.output.buffer.length := by
  rw [← inv.written]
  exact inv.stream.accounting

theorem Assembles.bytesRead_le (inv : r.Assembles whole accepted) :
    r.output.totalReadBytes ≤ r.firstUnassembledIndex := by
  have accounting := inv.accounting
  omega

theorem Assembles.first_le_edge (inv : r.Assembles whole accepted) :
    r.firstUnassembledIndex ≤ r.output.totalReadBytes + r.capacity := by
  have accounting := inv.accounting
  have bounded := inv.stream.bounded
  rw [inv.outputCapacity] at bounded
  omega

theorem Assembles.first_le_length (inv : r.Assembles whole accepted) :
    r.firstUnassembledIndex ≤ whole.length := by
  by_contra beyond
  have last := inv.assembled whole.length (by omega)
  exact Nat.lt_irrefl _ (inv.within _ last).2

/-- What was read and what waits make up the assembled stream. -/
theorem Assembles.take_append_buffer (inv : r.Assembles whole accepted) :
    whole.take r.output.totalReadBytes ++ r.output.buffer =
      whole.take r.firstUnassembledIndex := by
  rw [inv.buffered, List.drop_take, ← List.take_add, Nat.add_sub_cancel' inv.bytesRead_le]

theorem Assembles.take_append_read (inv : r.Assembles whole accepted) (len : ℕ) :
    whole.take r.output.totalReadBytes ++ r.output.buffer.take len =
      whole.take (r.output.totalReadBytes + min len r.output.buffer.length) := by
  have readBound := inv.bytesRead_le
  have accounting := inv.accounting
  have first := inv.first_le_length
  rw [inv.buffered, List.drop_take, List.take_take, List.take_add]
  congr 2
  simp only [List.length_take, List.length_drop]
  omega

theorem Assembles.capacity_lt (inv : r.Assembles whole accepted) : r.capacity < 2 ^ 64 := by
  rw [← inv.outputCapacity]
  exact inv.stream.representable

/-- The invariant speaks about the bytes of the stream that exist so far, so it
survives when the stream grows. -/
theorem Assembles.extend (inv : r.Assembles whole accepted) (more : List UInt8) :
    r.Assembles (whole ++ more) accepted := by
  obtain ⟨content, view, agrees⟩ := inv.holds.bytes
  refine ⟨inv.positive, inv.stream, inv.outputCapacity, inv.seperator, inv.written, ?_,
    ⟨inv.holds.occupied, ⟨content, view, ?_⟩, inv.holds.count⟩, inv.assembled, ?_⟩
  · rw [List.take_append_of_le_length inv.first_le_length]
    exact inv.buffered
  · intro x membership low
    rw [List.getElem?_append_left (inv.within x membership).2]
    exact agrees x membership low
  · intro x membership
    have bounds := inv.within x membership
    simp only [List.length_append]
    omega

theorem Settled.extend (inv : r.Settled whole accepted) (more : List UInt8) :
    r.Settled (whole ++ more) accepted :=
  ⟨inv.toAssembles.extend more, inv.gap⟩

/-- The ring does not depend on how far the output has been read, nor on its
flags. -/
theorem Settled.withOutput (inv : r.Settled whole accepted) {stream : ByteStream}
    (wellFormed : stream.WellFormed) (capacity : stream.totalCapacity = r.output.totalCapacity)
    (written : stream.totalWrittenBytes = r.output.totalWrittenBytes)
    (read : r.output.totalReadBytes ≤ stream.totalReadBytes)
    (buffer : stream.buffer =
      r.output.buffer.drop (stream.totalReadBytes - r.output.totalReadBytes)) :
    ({ r with output := stream } : StreamReassembler).Settled whole accepted := by
  refine ⟨⟨inv.positive, wellFormed, capacity.trans inv.outputCapacity, inv.seperator,
    written.trans inv.written, ?_, ⟨inv.holds.occupied, inv.holds.bytes, inv.holds.count⟩,
    inv.assembled, ?_⟩, inv.gap⟩
  · show stream.buffer = (whole.take r.firstUnassembledIndex).drop stream.totalReadBytes
    rw [buffer, inv.buffered, List.drop_drop]
    congr 1
    omega
  · intro x membership
    have bounds := inv.within x membership
    exact ⟨show x < stream.totalReadBytes + r.capacity by omega, bounds.2⟩

end Basics

section Store

variable {r : StreamReassembler} {whole data : List UInt8} {accepted : Finset ℕ} {index : ℕ}

/-- A slice of the stream agrees with it byte by byte. -/
theorem getElem?_of_slice (slice : data <+: whole.drop index) {i : ℕ} (bound : i < data.length) :
    whole[i + index]? = some (data.getD i 0) := by
  obtain ⟨rest, equality⟩ := slice
  have byte : (whole.drop index)[i]? = data[i]? := by
    rw [← equality, List.getElem?_append_left bound]
  rw [List.getElem?_drop, Nat.add_comm] at byte
  rw [byte, List.getD_eq_getElem?_getD, List.getElem?_eq_getElem bound, Option.getD_some]

/-- The rotated slot of an index is its slot in the ring of all indices. -/
theorem Assembles.slot_eq (inv : r.Assembles whole accepted) {x : ℕ}
    (low : r.firstUnassembledIndex ≤ x)
    (fits : x + r.seperator - r.firstUnassembledIndex < 2 ^ 64) :
    Word.sub 64 (x + r.seperator) r.firstUnassembledIndex % r.capacity = x % r.capacity := by
  rw [Word.sub_eq (by omega) fits]
  have regrouped : x + r.seperator - r.firstUnassembledIndex =
      (x - r.firstUnassembledIndex) + r.firstUnassembledIndex % r.capacity := by
    rw [← inv.seperator]
    omega
  rw [regrouped, Nat.add_mod_mod, Nat.sub_add_cancel low]

theorem Assembles.seperator_le (inv : r.Assembles whole accepted) :
    r.seperator ≤ r.firstUnassembledIndex := by
  rw [inv.seperator]
  exact Nat.mod_le _ _

theorem card_filter_insert {accepted : Finset ℕ} {origin x : ℕ} (low : origin ≤ x) :
    ((insert x accepted).filter (origin ≤ ·)).card =
      if x ∈ accepted then (accepted.filter (origin ≤ ·)).card
      else (accepted.filter (origin ≤ ·)).card + 1 := by
  split_ifs with known
  · rw [Finset.insert_eq_of_mem known]
  · rw [Finset.filter_insert, if_pos low, Finset.card_insert_of_notMem]
    simp [known]

theorem card_filter_of_mem {accepted : Finset ℕ} {origin : ℕ} (known : origin ∈ accepted) :
    (accepted.filter (origin ≤ ·)).card = (accepted.filter (origin + 1 ≤ ·)).card + 1 := by
  have split : accepted.filter (origin ≤ ·) =
      insert origin (accepted.filter (origin + 1 ≤ ·)) := by
    ext x
    simp only [Finset.mem_filter, Finset.mem_insert]
    constructor
    · rintro ⟨membership, low⟩
      by_cases same : x = origin
      · exact .inl same
      · exact .inr ⟨membership, by omega⟩
    · rintro (same | ⟨membership, low⟩)
      · subst x
        exact ⟨known, Nat.le_refl _⟩
      · exact ⟨membership, by omega⟩
  rw [split, Finset.card_insert_of_notMem (by simp)]

theorem card_filter_le {accepted : Finset ℕ} {edge : ℕ} (below : ∀ x ∈ accepted, x < edge)
    (origin : ℕ) : (accepted.filter (origin ≤ ·)).card ≤ edge - origin := by
  have subset : accepted.filter (origin ≤ ·) ⊆ Finset.Ico origin edge := by
    intro x membership
    rw [Finset.mem_filter] at membership
    exact Finset.mem_Ico.mpr ⟨membership.2, below x membership.1⟩
  have few := Finset.card_le_card subset
  rwa [Nat.card_Ico] at few

theorem Assembles.storeByte (inv : r.Assembles whole accepted) {i : ℕ}
    (byte : whole[i + index]? = some (data.getD i 0))
    (low : r.firstUnassembledIndex ≤ i + index)
    (high : i + index < r.output.totalReadBytes + r.capacity)
    (fits : i + index + r.seperator - r.firstUnassembledIndex < 2 ^ 64) :
    (StreamReassembler.storeByte data index r i).Assembles whole (insert (i + index) accepted) := by
  have inRing : i + index < r.firstUnassembledIndex + r.capacity := by
    have read := inv.bytesRead_le
    omega
  have slot := inv.slot_eq low fits
  obtain ⟨content, view, agrees⟩ := inv.holds.bytes
  have occupied : r.isOccupied ((i + index) % r.capacity) = decide (i + index ∈ accepted) :=
    inv.holds.occupied.getD low inRing false
  have holds : (StreamReassembler.storeByte data index r i).Holds whole
      (insert (i + index) accepted) r.firstUnassembledIndex := by
    simp only [StreamReassembler.storeByte, slot]
    refine ⟨?_, ⟨Function.update content (i + index) (data.getD i 0),
      view.set low inRing _, ?_⟩, ?_⟩
    · refine (inv.holds.occupied.set low inRing true).congr ?_
      intro x _ _
      by_cases same : x = i + index <;> simp [same]
    · intro x membership above
      by_cases same : x = i + index
      · simp only [same, Function.update_self, byte]
      · rw [Function.update_of_ne same]
        exact agrees x (Finset.mem_of_mem_insert_of_ne membership same) above
    · rw [card_filter_insert low, occupied, ← inv.holds.count]
      simp only [decide_eq_true_eq]
  refine ⟨inv.positive, inv.stream, inv.outputCapacity, inv.seperator, inv.written,
    inv.buffered, holds, ?_, ?_⟩
  · intro x below
    exact Finset.mem_insert_of_mem (inv.assembled x below)
  · intro x membership
    rcases Finset.mem_insert.mp membership with equality | known
    · subst x
      exact ⟨high, (List.getElem?_eq_some_iff.mp byte).1⟩
    · exact inv.within x known

/-- The loop of `storeData` touches the ring and nothing else. -/
theorem foldl_storeByte_frame (data : List UInt8) (index : ℕ) (positions : List ℕ)
    (r : StreamReassembler) :
    (positions.foldl (StreamReassembler.storeByte data index) r).output = r.output ∧
    (positions.foldl (StreamReassembler.storeByte data index) r).capacity = r.capacity ∧
    (positions.foldl (StreamReassembler.storeByte data index) r).firstUnassembledIndex =
      r.firstUnassembledIndex ∧
    (positions.foldl (StreamReassembler.storeByte data index) r).isEofDataReceived =
      r.isEofDataReceived := by
  induction positions generalizing r with
  | nil => exact ⟨rfl, rfl, rfl, rfl⟩
  | cons i rest inductionHypothesis =>
      exact inductionHypothesis (StreamReassembler.storeByte data index r i)

/-- When the push starts inside the window, what may be stored is what is left
of the window, reduced to 64 bits. -/
theorem Assembles.bytesCanBeStored_eq (inv : r.Assembles whole accepted) (data : List UInt8)
    (inWindow : index ≤ r.output.totalReadBytes + r.capacity) :
    r.bytesCanBeStored data index =
      min data.length ((r.output.totalReadBytes + r.capacity - index) % 2 ^ 64) := by
  have accounting := inv.accounting
  have bounded := inv.stream.bounded
  have representable := inv.capacity_lt
  rw [inv.outputCapacity] at bounded
  simp only [StreamReassembler.bytesCanBeStored, ByteStream.bufferSize, Word.add, Word.sub]
  congr 1
  omega

/-- What one turn of the loop of `storeData` keeps, the loop keeps, and it
covers an interval of indices. -/
theorem foldl_storeByte_invariant (inv : StreamReassembler → Finset ℕ → Prop) (start n : ℕ)
    (initially : inv r accepted)
    (preserved : ∀ r' accepted i, r'.output = r.output → r'.capacity = r.capacity →
      r'.firstUnassembledIndex = r.firstUnassembledIndex → start ≤ i → i < start + n →
      inv r' accepted → inv (StreamReassembler.storeByte data index r' i) (insert (i + index) accepted)) :
    inv ((List.range' start n).foldl (StreamReassembler.storeByte data index) r)
      (accepted ∪ Finset.Ico (start + index) (start + n + index)) := by
  induction n generalizing r accepted start with
  | zero => simpa using initially
  | succ n inductionHypothesis =>
      have rest := inductionHypothesis (start + 1)
        (preserved r accepted start rfl rfl rfl (Nat.le_refl _) (by omega) initially)
        fun r' accepted i output capacity first low high =>
          preserved r' accepted i output capacity first (by omega) (by omega)
      have interval : insert (start + index) accepted ∪
          Finset.Ico (start + 1 + index) (start + 1 + n + index) =
          accepted ∪ Finset.Ico (start + index) (start + (n + 1) + index) := by
        ext x
        by_cases known : x ∈ accepted
        · simp [known]
        · simp only [Finset.mem_union, Finset.mem_insert, Finset.mem_Ico, known, or_false,
            false_or]
          omega
      rw [interval] at rest
      exact rest

/-- What storing one byte that is not assembled yet keeps, `storeData` keeps.
Indices below the first unassembled one were accepted before. -/
theorem storeData_invariant (inv : StreamReassembler → Finset ℕ → Prop)
    (initially : inv r accepted) (assembled : ∀ x < r.firstUnassembledIndex, x ∈ accepted)
    (preserved : ∀ r' accepted i, r'.output = r.output → r'.capacity = r.capacity →
      r'.firstUnassembledIndex = r.firstUnassembledIndex → r.firstUnassembledIndex ≤ i + index →
      i < r.bytesCanBeStored data index → inv r' accepted →
      inv (StreamReassembler.storeByte data index r' i) (insert (i + index) accepted)) :
    inv (r.storeData data index).1
      (accepted ∪ Finset.Ico index (index + r.bytesCanBeStored data index)) := by
  have first : (if index < r.firstUnassembledIndex then r.firstUnassembledIndex - index else 0) =
      r.firstUnassembledIndex - index := by
    split_ifs <;> omega
  have covered : accepted ∪ Finset.Ico (r.firstUnassembledIndex - index + index)
        (r.firstUnassembledIndex - index +
          (r.bytesCanBeStored data index - (r.firstUnassembledIndex - index)) + index) =
      accepted ∪ Finset.Ico index (index + r.bytesCanBeStored data index) := by
    ext x
    simp only [Finset.mem_union, Finset.mem_Ico]
    by_cases known : x ∈ accepted
    · simp only [known, true_or]
    · have low : r.firstUnassembledIndex ≤ x := by
        by_contra below
        exact known (assembled x (by omega))
      simp only [known, false_or]
      omega
  rw [← covered]
  simp only [StreamReassembler.storeData, first]
  exact foldl_storeByte_invariant inv _ _ initially
    fun r' accepted i output capacity same low high =>
      preserved r' accepted i output capacity same (by omega) (by omega)

theorem Assembles.storeData (inv : r.Assembles whole accepted)
    (slice : data <+: whole.drop index)
    (inWindow : data ≠ [] → index ≤ r.output.totalReadBytes + r.capacity)
    (fits : whole.length < 2 ^ 64) :
    (r.storeData data index).1.Assembles whole
      (accepted ∪ Finset.Ico index (index + r.bytesCanBeStored data index)) := by
  refine storeData_invariant (Assembles · whole) inv inv.assembled ?_
  intro r' accepted' i output capacity first low bound inv'
  have short : i < data.length := Nat.lt_of_lt_of_le bound (Nat.min_le_left _ _)
  have byte := getElem?_of_slice slice short
  have inside := (List.getElem?_eq_some_iff.mp byte).1
  have window := inWindow (List.length_pos_iff.mp (by omega))
  rw [inv.bytesCanBeStored_eq data window] at bound
  have reduced := Nat.mod_le (r.output.totalReadBytes + r.capacity - index) (2 ^ 64)
  have rotated := inv'.seperator_le
  exact inv'.storeByte byte (first ▸ low) (by rw [output, capacity]; omega) (by omega)

theorem storeData_frame (r : StreamReassembler) (data : List UInt8) (index : ℕ) :
    (r.storeData data index).1.output = r.output ∧
    (r.storeData data index).1.capacity = r.capacity ∧
    (r.storeData data index).1.firstUnassembledIndex = r.firstUnassembledIndex ∧
    (r.storeData data index).1.isEofDataReceived = r.isEofDataReceived :=
  foldl_storeByte_frame data index _ r

end Store

end Sponge.StreamReassembler
