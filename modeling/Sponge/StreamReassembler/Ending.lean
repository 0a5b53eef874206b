import Sponge.StreamReassembler.Push

/-!
# The end of the stream

The reassembler remembers the end of the stream as a flag and ends its output
when the flag is set and nothing waits.  This is right as long as the flag is
set only together with the last byte of the stream, or after it.
-/

namespace Sponge.StreamReassembler

open Lib

/-- What the flags of the reassembler say about the stream `whole`. -/
structure Ending (r : StreamReassembler) (whole : List UInt8) (accepted : Finset ℕ) : Prop where
  marked : r.isEofDataReceived = true → ∀ x, x + 1 = whole.length → x ∈ accepted
  ended : r.output.isInputEnded = true →
    r.isEofDataReceived = true ∧ r.firstUnassembledIndex = whole.length
  drained : r.output.isEof = true → r.output.buffer = []

theorem ending_new (capacity : ℕ) (whole : List UInt8) : (new capacity).Ending whole ∅ :=
  ⟨nofun, nofun, nofun⟩

variable {r : StreamReassembler} {whole data : List UInt8} {accepted : Finset ℕ} {index : ℕ}

/-- A stream whose end has not been seen may grow. -/
theorem Ending.extend (ending : r.Ending whole accepted) (unmarked : r.isEofDataReceived = false)
    (more : List UInt8) : r.Ending (whole ++ more) accepted := by
  refine ⟨?_, ?_, ending.drained⟩
  · intro marked
    rw [unmarked] at marked
    contradiction
  · intro ended
    rw [(ending.ended ended).1] at unmarked
    contradiction

theorem Ending.setError (ending : r.Ending whole accepted) :
    ({ r with output := r.output.setError } : StreamReassembler).Ending whole accepted :=
  ⟨ending.marked, ending.ended, ending.drained⟩

theorem Ending.popOutput (ending : r.Ending whole accepted) (wf : r.output.WellFormed) (len : ℕ) :
    ({ r with output := r.output.popOutput len } : StreamReassembler).Ending whole accepted := by
  refine ⟨ending.marked, ?_, wf.popOutput_empty⟩
  intro ended
  exact ending.ended ((r.output.popOutput_inputEnded len).symm.trans ended)

/-- The flag is set by a push with the end of the stream that is stored in full. -/
theorem pushSubstring_isEofDataReceived (r : StreamReassembler) (data : List UInt8) (index : ℕ)
    (eof : Bool) :
    (r.pushSubstring data index eof).isEofDataReceived =
      (r.isEofDataReceived || (eof && r.bytesCanBeStored data index == data.length)) := by
  rw [← (pushed_frame r data index eof).2.1, pushSubstring_eq]
  generalize r.pushed data index eof = pushed
  split <;> rfl

/-- The output is ended when the flag is set and nothing waits. -/
theorem pushSubstring_isInputEnded (r : StreamReassembler) (data : List UInt8) (index : ℕ)
    (eof : Bool) :
    (r.pushSubstring data index eof).output.isInputEnded =
      (r.output.isInputEnded || ((r.pushSubstring data index eof).isEofDataReceived &&
        (r.pushSubstring data index eof).unassembledBytes == 0)) := by
  rw [← (pushed_frame r data index eof).2.2.2.1, pushSubstring_eq]
  generalize r.pushed data index eof = pushed
  cases finished : pushed.isEofDataReceived && pushed.unassembledBytes == 0 with
  | true =>
      rw [if_pos rfl]
      show true = (pushed.output.isInputEnded || (pushed.isEofDataReceived && _))
      rw [finished, Bool.or_true]
  | false => rw [if_neg Bool.false_ne_true, finished, Bool.or_false]

theorem isEofDataReceived_of_push {eof : Bool}
    (marked : (r.pushSubstring data index eof).isEofDataReceived = true) :
    r.isEofDataReceived = true ∨ eof = true := by
  rw [pushSubstring_isEofDataReceived, Bool.or_eq_true_iff, Bool.and_eq_true] at marked
  exact marked.imp id And.left

/-- The output ends only after the flag is set. -/
theorem isInputEnded_of_push {eof : Bool}
    (ended : (r.pushSubstring data index eof).output.isInputEnded = true) :
    r.output.isInputEnded = true ∨ (r.pushSubstring data index eof).isEofDataReceived = true := by
  rw [pushSubstring_isInputEnded, Bool.or_eq_true_iff, Bool.and_eq_true] at ended
  exact ended.imp id And.left

/-- When the last byte has arrived and nothing waits, everything is assembled. -/
theorem Settled.complete (inv : r.Settled whole accepted)
    (marked : ∀ x, x + 1 = whole.length → x ∈ accepted) (nothing : r.unassembledBytes = 0) :
    r.firstUnassembledIndex = whole.length := by
  by_contra incomplete
  have bound := inv.first_le_length
  have last := marked (whole.length - 1) (by omega)
  rw [inv.holds.count, Finset.card_eq_zero] at nothing
  have waiting : whole.length - 1 ∈ accepted.filter (r.firstUnassembledIndex ≤ ·) :=
    Finset.mem_filter.mpr ⟨last, by omega⟩
  rw [nothing] at waiting
  exact absurd waiting (Finset.notMem_empty _)

/-- The flag is set by the last byte, or by an empty push at the end of what is
assembled. -/
theorem Ending.pushed_marked (ending : r.Ending whole accepted) (inv : r.Settled whole accepted)
    {eof : Bool} (last : eof = true → index + data.length = whole.length)
    (aligned : eof = true → data = [] → index ≤ r.firstUnassembledIndex)
    (marked : (r.pushed data index eof).isEofDataReceived = true) :
    ∀ x, x + 1 = whole.length →
      x ∈ accepted ∪ Finset.Ico index (index + r.bytesCanBeStored data index) := by
  intro x isLast
  rw [(pushed_frame r data index eof).2.1, Bool.or_eq_true_iff, Bool.and_eq_true,
    beq_iff_eq] at marked
  rw [Finset.mem_union, Finset.mem_Ico]
  rcases marked with before | ⟨final, stored⟩
  · exact .inl (ending.marked before x isLast)
  · have total := last final
    rw [stored]
    by_cases bytes : data = []
    · have reached := aligned final bytes
      rw [bytes, List.length_nil] at total
      exact .inl (inv.assembled x (by omega))
    · have length := List.length_pos_iff.mpr bytes
      exact .inr ⟨by omega, by omega⟩

theorem Ending.pushSubstring (ending : r.Ending whole accepted) (inv : r.Settled whole accepted)
    (slice : data <+: whole.drop index)
    (inWindow : data ≠ [] → index ≤ r.output.totalReadBytes + r.capacity)
    (fits : whole.length < 2 ^ 64) {eof : Bool}
    (last : eof = true → index + data.length = whole.length)
    (aligned : eof = true → data = [] → index ≤ r.firstUnassembledIndex) :
    (r.pushSubstring data index eof).Ending whole
      (accepted ∪ Finset.Ico index (index + r.bytesCanBeStored data index)) := by
  have settled := inv.pushed slice inWindow fits eof
  have marked := ending.pushed_marked inv last aligned
  obtain ⟨_, eofData, read, ended, _, isEof, grown⟩ := pushed_frame r data index eof
  have accounting := settled.stream.accounting
  rw [pushSubstring_eq]
  generalize r.pushed data index eof = pushed at *
  split
  next ends =>
    rw [Bool.and_eq_true, beq_iff_eq] at ends
    refine ⟨marked, fun _ => ⟨ends.1, settled.complete (marked ends.1) ends.2⟩, ?_⟩
    intro atEnd
    have drained : pushed.output.totalWrittenBytes = pushed.output.totalReadBytes :=
      beq_iff_eq.mp atEnd
    show pushed.output.buffer = []
    exact List.length_eq_zero_iff.mp (by omega)
  next =>
    have complete (before : r.output.isInputEnded = true) :
        pushed.firstUnassembledIndex = r.firstUnassembledIndex := by
      have bound := settled.first_le_length
      have reached := (ending.ended before).2
      omega
    refine ⟨marked, ?_, ?_⟩
    · intro before
      rw [ended] at before
      refine ⟨?_, (complete before).trans (ending.ended before).2⟩
      rw [eofData, (ending.ended before).1, Bool.true_or]
    · intro atEnd
      rw [isEof] at atEnd
      have before := inv.stream.ended atEnd
      rw [settled.buffered, complete before, read, ← inv.buffered]
      exact ending.drained atEnd

end Sponge.StreamReassembler
