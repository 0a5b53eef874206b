import Sponge.StreamReassembler.Push

/-!
# Between two calls

What holds of every reassembler between two calls, whatever was pushed, also
when the substrings come from no single stream or lie beyond the window.  A
push that brings neither bytes nor the end of the stream then finds nothing
to do.
-/

namespace Sponge.StreamReassembler

open Lib

/-- Nothing is left to do: the slot at the border line is free, and the output
has been told if the stream is over. -/
structure Quiescent (r : StreamReassembler) : Prop where
  stream : r.output.WellFormed
  ring : r.occupied.length = r.capacity
  seperator : r.seperator % r.capacity = r.seperator
  front : r.isOccupied r.seperator = false
  ended : r.isEofDataReceived = true → r.unassembledBytes = 0 → r.output.endInput = r.output

theorem quiescent_new {capacity : ℕ} (representable : capacity < 2 ^ 64) :
    (new capacity).Quiescent := by
  refine ⟨ByteStream.wellFormed_new representable, List.length_replicate, Nat.zero_mod _, ?_, nofun⟩
  cases capacity <;> rfl

variable {r : StreamReassembler}

theorem storeData_occupied_length (r : StreamReassembler) (data : List UInt8) (index : ℕ) :
    (r.storeData data index).1.occupied.length = r.occupied.length := by
  simp only [storeData]
  generalize List.range' _ _ = positions
  induction positions generalizing r with
  | nil => rfl
  | cons i rest inductionHypothesis =>
      rw [List.foldl_cons, inductionHypothesis]
      exact List.length_set

theorem collect_occupied_length (fuel count : ℕ) (r : StreamReassembler) :
    (collect fuel count r).2.occupied.length = r.occupied.length := by
  induction fuel generalizing count r with
  | zero => rfl
  | succ fuel inductionHypothesis =>
      simp only [collect]
      split
      · rw [inductionHypothesis]
        exact List.length_set
      · rfl

/-- The loop of `writeToOutput` stops in front of a free slot. -/
theorem collect_front {fuel count stop : ℕ} (enough : r.occupied.count true ≤ fuel)
    (reached : stop = count + (collect fuel count r).1.length) :
    (collect fuel count r).2.isOccupied ((stop + r.seperator) % r.capacity) = false := by
  induction fuel generalizing count r with
  | zero =>
      have none : true ∉ r.occupied := List.count_eq_zero.mp (Nat.le_zero.mp enough)
      rw [← Bool.not_eq_true, isOccupied_iff]
      exact fun found => none (List.mem_of_getElem? found)
  | succ fuel inductionHypothesis =>
      simp only [collect] at reached ⊢
      split at reached
      next occupied =>
        rw [if_pos occupied]
        refine inductionHypothesis ?_ ?_
        · exact count_cleared enough occupied
        · rw [reached, List.length_cons, Nat.add_right_comm, Nat.add_assoc]
      next free =>
        rw [if_neg free, reached]
        simpa using free

theorem Quiescent.writeToOutput (stream : r.output.WellFormed)
    (ring : r.occupied.length = r.capacity) :
    r.writeToOutput.output.WellFormed ∧
    r.writeToOutput.occupied.length = r.writeToOutput.capacity ∧
    r.writeToOutput.seperator % r.writeToOutput.capacity = r.writeToOutput.seperator ∧
    r.writeToOutput.isOccupied r.writeToOutput.seperator = false := by
  obtain ⟨output, capacity, rotation, _, _⟩ := collect_frame r.capacity 0 r
  have enough : r.occupied.count true ≤ r.capacity := by
    rw [← ring]
    exact List.count_le_length
  have front : (collect r.capacity 0 r).2.isOccupied
      ((0 + (collect r.capacity 0 r).1.length + r.seperator) % r.capacity) = false :=
    collect_front enough rfl
  have length := collect_occupied_length r.capacity 0 r
  simp only [StreamReassembler.writeToOutput, output, capacity, rotation]
  refine ⟨stream.write _, length.trans ring, Nat.mod_mod _ _, ?_⟩
  rw [Nat.zero_add, Nat.add_comm] at front
  exact front

theorem Quiescent.pushSubstring (quiet : r.Quiescent) (data : List UInt8) (index : ℕ)
    (eof : Bool) : (r.pushSubstring data index eof).Quiescent := by
  obtain ⟨output, capacity, _, _⟩ := storeData_frame r data index
  have length := storeData_occupied_length r data index
  obtain ⟨stream, ring, seperator, front⟩ :
      (r.pushed data index eof).output.WellFormed ∧
      (r.pushed data index eof).occupied.length = (r.pushed data index eof).capacity ∧
      (r.pushed data index eof).seperator % (r.pushed data index eof).capacity =
        (r.pushed data index eof).seperator ∧
      (r.pushed data index eof).isOccupied (r.pushed data index eof).seperator = false := by
    apply Quiescent.writeToOutput
    · show (r.storeData data index).1.output.WellFormed
      rw [output]
      exact quiet.stream
    · exact length.trans (quiet.ring.trans capacity.symm)
  rw [pushSubstring_eq]
  generalize r.pushed data index eof = pushed at *
  split
  next => exact ⟨stream.endInput, ring, seperator, front, fun _ _ => rfl⟩
  next unfinished =>
    refine ⟨stream, ring, seperator, front, ?_⟩
    intro marked nothing
    simp [marked, nothing] at unfinished

theorem Quiescent.popOutput (quiet : r.Quiescent) (len : ℕ) :
    ({ r with output := r.output.popOutput len } : StreamReassembler).Quiescent := by
  refine ⟨quiet.stream.popOutput len, quiet.ring, quiet.seperator, quiet.front, ?_⟩
  intro marked nothing
  have ended : r.output.isInputEnded = true := by
    rw [← quiet.ended marked nothing]
    rfl
  show (r.output.popOutput len).endInput = r.output.popOutput len
  rw [ByteStream.popOutput_eq, ended]
  rfl

theorem Quiescent.setError (quiet : r.Quiescent) :
    ({ r with output := r.output.setError } : StreamReassembler).Quiescent := by
  refine ⟨quiet.stream.setError, quiet.ring, quiet.seperator, quiet.front, ?_⟩
  intro marked nothing
  have same := quiet.ended marked nothing
  show r.output.setError.endInput = r.output.setError
  rw [← same]
  rfl

/-- Nothing is written out while the slot at the border line is free. -/
theorem writeToOutput_of_front (seperator : r.seperator % r.capacity = r.seperator)
    (front : r.isOccupied r.seperator = false) : r.writeToOutput = r := by
  have nothing : collect r.capacity 0 r = ([], r) := by
    cases r.capacity with
    | zero => rfl
    | succ fuel => simp [collect, seperator, front]
  rw [StreamReassembler.writeToOutput, nothing]
  simp only [List.length_nil, Nat.add_zero, seperator, ByteStream.write_eq]
  simp

/-- A push without bytes and without the end of the stream changes nothing,
at whatever index. -/
theorem Quiescent.pushSubstring_nil (quiet : r.Quiescent) (index : ℕ) :
    r.pushSubstring [] index false = r := by
  have pushed : r.pushed [] index false = r := by
    simp only [StreamReassembler.pushed, storeData, bytesCanBeStored, List.length_nil,
      Nat.zero_min, Nat.zero_sub, List.range'_zero, List.foldl_nil, Bool.false_and, Bool.or_false]
    exact writeToOutput_of_front quiet.seperator quiet.front
  rw [pushSubstring_eq, pushed]
  split
  next finished =>
    simp only [Bool.and_eq_true, beq_iff_eq] at finished
    rw [quiet.ended finished.1 finished.2]
  next => rfl

/-- The output only ever grows, and its end is not taken back. -/
theorem pushSubstring_grows (r : StreamReassembler) (data : List UInt8) (index : ℕ) (eof : Bool) :
    r.output.totalWrittenBytes ≤ (r.pushSubstring data index eof).output.totalWrittenBytes ∧
    (r.pushSubstring data index eof).output.totalCapacity = r.output.totalCapacity := by
  obtain ⟨output, _, _, _⟩ := storeData_frame r data index
  have grown : r.output.totalWrittenBytes ≤ (r.pushed data index eof).output.totalWrittenBytes ∧
      (r.pushed data index eof).output.totalCapacity = r.output.totalCapacity := by
    simp only [StreamReassembler.pushed, StreamReassembler.writeToOutput, collect_frame, output,
      ByteStream.write_eq, Nat.le_add_right, and_self]
  rw [pushSubstring_eq]
  generalize r.pushed data index eof = pushed at grown ⊢
  split <;> exact grown

end Sponge.StreamReassembler
