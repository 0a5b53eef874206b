import Sponge.Lib.Word
import Mathlib.Tactic.Common
import Mathlib.Data.List.Basic

/-!
# ByteStream

A flow-controlled in-memory byte stream.  Bytes are written on the input side
and read from the output side.  The counters of bytes written and read are
natural numbers; the remaining capacity is a 64-bit subtraction, as in the
source.
-/

namespace Sponge

open Lib

/-- An in-order byte stream. -/
structure ByteStream where
  buffer : List UInt8 := []
  totalCapacity : Nat := 0
  isInputEnded : Bool := false
  totalWrittenBytes : Nat := 0
  totalReadBytes : Nat := 0
  isEof : Bool := false
  /-- Flag indicating that the stream suffered an error. -/
  hasError : Bool := false
  deriving DecidableEq, Repr

namespace ByteStream

/-- A stream with room for `capacity` bytes. -/
def new (capacity : Nat) : ByteStream := { totalCapacity := capacity }

def inputEnded (s : ByteStream) : Bool := s.isInputEnded

def bufferSize (s : ByteStream) : Nat := s.buffer.length

def bufferEmpty (s : ByteStream) : Bool := s.buffer.isEmpty

def eof (s : ByteStream) : Bool := s.isEof

def error (s : ByteStream) : Bool := s.hasError

def bytesWritten (s : ByteStream) : Nat := s.totalWrittenBytes

def bytesRead (s : ByteStream) : Nat := s.totalReadBytes

def remainingCapacity (s : ByteStream) : Nat := Word.sub 64 s.totalCapacity s.buffer.length

/-- Write as many bytes as will fit, and return how many were written.  Ending
the input does not stop a later write. -/
def write (s : ByteStream) (data : List UInt8) : ByteStream × Nat :=
  let curCapacity := s.remainingCapacity
  let (buffer, writtenBytes) :=
    if curCapacity = 0 then (s.buffer, 0)
    else if data.length > curCapacity then (s.buffer ++ data.take curCapacity, curCapacity)
    else (s.buffer ++ data, data.length)
  ({ s with buffer, totalWrittenBytes := s.totalWrittenBytes + writtenBytes }, writtenBytes)

/-- Peek at the next `len` bytes. -/
def peekOutput (s : ByteStream) (len : Nat) : List UInt8 :=
  if s.bufferSize > len then s.buffer.take len else s.buffer

/-- Remove `len` bytes from the output side.  Only here and in `endInput` is
the end-of-file flag recomputed. -/
def popOutput (s : ByteStream) (len : Nat) : ByteStream :=
  let s :=
    if s.buffer.length > len then
      { s with totalReadBytes := s.totalReadBytes + len, buffer := s.buffer.drop len }
    else { s with totalReadBytes := s.totalReadBytes + s.buffer.length, buffer := [] }
  if s.inputEnded then { s with isEof := s.totalWrittenBytes == s.totalReadBytes } else s

/-- Copy and then pop the next `len` bytes. -/
def read (s : ByteStream) (len : Nat) : List UInt8 × ByteStream :=
  (s.peekOutput len, s.popOutput len)

def endInput (s : ByteStream) : ByteStream :=
  { s with isInputEnded := true, isEof := s.totalWrittenBytes == s.totalReadBytes }

def setError (s : ByteStream) : ByteStream := { s with hasError := true }

/-- The bookkeeping every operation maintains. -/
structure WellFormed (s : ByteStream) : Prop where
  accounting : s.totalWrittenBytes = s.totalReadBytes + s.buffer.length
  bounded : s.buffer.length ≤ s.totalCapacity
  representable : s.totalCapacity < 2 ^ 64
  /-- A stream that has ended and is drained knows it. -/
  drained : s.isInputEnded = true → s.buffer = [] → s.isEof = true
  /-- End of file is only ever reported after the input has ended. -/
  ended : s.isEof = true → s.isInputEnded = true

theorem wellFormed_new {capacity : Nat} (representable : capacity < 2 ^ 64) :
    (new capacity).WellFormed :=
  ⟨rfl, Nat.zero_le _, representable, nofun, nofun⟩

theorem WellFormed.remainingCapacity_eq {s : ByteStream} (wf : s.WellFormed) :
    s.remainingCapacity = s.totalCapacity - s.buffer.length := by
  have bounded := wf.bounded
  have representable := wf.representable
  exact Word.sub_eq bounded (by omega)

/-- What a write does, for any stream: it appends a prefix of the data and
touches nothing else. -/
theorem write_eq (s : ByteStream) (data : List UInt8) :
    s.write data =
      ({ s with buffer := s.buffer ++ data.take (min data.length s.remainingCapacity),
                totalWrittenBytes := s.totalWrittenBytes + min data.length s.remainingCapacity },
        min data.length s.remainingCapacity) := by
  by_cases full : s.remainingCapacity = 0
  · simp [write, full]
  · by_cases long : data.length > s.remainingCapacity
    · simp [write, full, long, Nat.min_eq_right (Nat.le_of_lt long)]
    · have short : data.length ≤ s.remainingCapacity := by omega
      simp [write, full, long, Nat.min_eq_left short]

theorem peekOutput_eq (s : ByteStream) (len : Nat) : s.peekOutput len = s.buffer.take len := by
  unfold peekOutput bufferSize
  split_ifs with long
  · rfl
  · rw [List.take_of_length_le (by omega)]

/-- What a pop does, for any stream. -/
theorem popOutput_eq (s : ByteStream) (len : Nat) :
    s.popOutput len =
      { s with buffer := s.buffer.drop len,
               totalReadBytes := s.totalReadBytes + min len s.buffer.length,
               isEof := if s.isInputEnded then
                   s.totalWrittenBytes == s.totalReadBytes + min len s.buffer.length
                 else s.isEof } := by
  unfold popOutput inputEnded
  by_cases long : s.buffer.length > len
  · rw [if_pos long, Nat.min_eq_left (Nat.le_of_lt long)]
    split_ifs <;> simp_all
  · rw [if_neg long, Nat.min_eq_right (by omega), List.drop_eq_nil_of_le (by omega)]
    split_ifs <;> simp_all

@[simp]
theorem popOutput_buffer (s : ByteStream) (len : Nat) :
    (s.popOutput len).buffer = s.buffer.drop len := by
  rw [popOutput_eq]

@[simp]
theorem popOutput_totalReadBytes (s : ByteStream) (len : Nat) :
    (s.popOutput len).totalReadBytes = s.totalReadBytes + min len s.buffer.length := by
  rw [popOutput_eq]

@[simp]
theorem popOutput_inputEnded (s : ByteStream) (len : Nat) :
    (s.popOutput len).inputEnded = s.inputEnded := by
  rw [popOutput_eq]
  rfl

@[simp]
theorem popOutput_error (s : ByteStream) (len : Nat) :
    (s.popOutput len).error = s.error := by
  rw [popOutput_eq]
  rfl

theorem read_eq (s : ByteStream) (len : Nat) :
    s.read len = (s.buffer.take len, s.popOutput len) := by
  rw [read, peekOutput_eq]

theorem WellFormed.write {s : ByteStream} (wf : s.WellFormed) (data : List UInt8) :
    (s.write data).1.WellFormed := by
  have remaining := wf.remainingCapacity_eq
  have accounting := wf.accounting
  have bounded := wf.bounded
  rw [write_eq]
  refine ⟨?_, ?_, wf.representable, ?_, wf.ended⟩
  · simp only [List.length_append, List.length_take]
    omega
  · simp only [List.length_append, List.length_take]
    omega
  · intro inputEnded empty
    exact wf.drained inputEnded (List.append_eq_nil_iff.mp empty).1

theorem WellFormed.popOutput {s : ByteStream} (wf : s.WellFormed) (len : Nat) :
    (s.popOutput len).WellFormed := by
  have accounting := wf.accounting
  have bounded := wf.bounded
  rw [popOutput_eq]
  refine ⟨?_, ?_, wf.representable, ?_, ?_⟩
  · simp only [List.length_drop]
    omega
  · simp only [List.length_drop]
    omega
  · intro inputEnded empty
    have drained : s.buffer.length ≤ len := List.drop_eq_nil_iff.mp empty
    simp only [show s.isInputEnded = true from inputEnded, if_true, beq_iff_eq]
    omega
  · intro reported
    by_cases inputEnded : s.isInputEnded = true
    · exact inputEnded
    · simp only [inputEnded, Bool.false_eq_true, if_false] at reported
      exact wf.ended reported

theorem WellFormed.endInput {s : ByteStream} (wf : s.WellFormed) : s.endInput.WellFormed := by
  refine ⟨wf.accounting, wf.bounded, wf.representable, ?_, fun _ => rfl⟩
  intro _ empty
  have accounting := wf.accounting
  have noBytes : s.buffer = [] := empty
  simp only [ByteStream.endInput, beq_iff_eq, accounting, noBytes, List.length_nil, Nat.add_zero]

theorem WellFormed.setError {s : ByteStream} (wf : s.WellFormed) : s.setError.WellFormed :=
  ⟨wf.accounting, wf.bounded, wf.representable, wf.drained, wf.ended⟩

/-- On a well-formed stream that has ended, a pop reports end of file exactly
when it leaves nothing behind. -/
theorem WellFormed.popOutput_isEof {s : ByteStream} (wf : s.WellFormed) (len : Nat) :
    (s.popOutput len).isEof =
      if s.isInputEnded then decide (s.buffer.length ≤ len) else s.isEof := by
  have accounting := wf.accounting
  rw [popOutput_eq]
  split_ifs
  · rw [Bool.eq_iff_iff]
    simp only [beq_iff_eq, decide_eq_true_eq]
    omega
  · rfl

/-- A stream that reports the end of the file after popping has nothing left. -/
theorem WellFormed.popOutput_empty {s : ByteStream} (wf : s.WellFormed) {len : Nat}
    (atEnd : (s.popOutput len).isEof = true) : (s.popOutput len).buffer = [] := by
  rw [popOutput_buffer]
  rw [wf.popOutput_isEof] at atEnd
  split_ifs at atEnd with ended
  · exact List.drop_eq_nil_of_le (of_decide_eq_true atEnd)
  · exact absurd (wf.ended atEnd) ended

/-- Popping from an empty stream that is still open changes nothing. -/
theorem WellFormed.popOutput_idle {s : ByteStream} (wf : s.WellFormed) (len : Nat)
    (notEof : s.isEof = false) (empty : s.buffer = []) : s.popOutput len = s := by
  have notEnded : s.isInputEnded = false := by
    cases ended : s.isInputEnded with
    | false => rfl
    | true =>
        rw [wf.drained ended empty] at notEof
        exact notEof
  rw [popOutput_eq]
  cases s
  simp_all

end ByteStream

end Sponge
