import Sponge.ByteStream
import Sponge.Lib.Run

/-!
# Histories of a byte stream

Whatever is called on a stream, its buffer is what the writes have put in and
the reads have not taken out yet.  The end of the stream is a different
matter: it is a flag that some of the operations recompute, and a write is not
one of them.
-/

namespace Sponge.ByteStream

open Lib

inductive Op where
  | write (data : List UInt8)
  | read (len : ℕ)
  | popOutput (len : ℕ)
  | peekOutput (len : ℕ)
  | endInput
  deriving DecidableEq, Repr

def apply (s : ByteStream) : Op → ByteStream
  | .write data => (s.write data).1
  | .read len => (s.read len).2
  | .popOutput len => s.popOutput len
  | .peekOutput _ => s
  | .endInput => s.endInput

theorem WellFormed.apply (s : ByteStream) (op : Op) (wf : s.WellFormed) :
    (s.apply op).WellFormed := by
  cases op with
  | write data => exact wf.write data
  | read len => exact wf.popOutput len
  | popOutput len => exact wf.popOutput len
  | peekOutput len => exact wf
  | endInput => exact wf.endInput

theorem apply_totalCapacity (s : ByteStream) (op : Op) :
    (s.apply op).totalCapacity = s.totalCapacity := by
  cases op with
  | write data => rw [apply, write_eq]
  | read len => rw [apply, read_eq, popOutput_eq]
  | popOutput len => rw [apply, popOutput_eq]
  | peekOutput len => rfl
  | endInput => rfl

section Fifo

/-- The part of a write that the stream says it has accepted. -/
def accepts (s : ByteStream) : Op → List UInt8
  | .write data => data.take (s.write data).2
  | _ => []

/-- What leaves the stream: a read returns it, a pop shortens the buffer. -/
def removes (s : ByteStream) : Op → List UInt8
  | .read len => (s.read len).1
  | .popOutput len => s.buffer.take (s.bufferSize - (s.popOutput len).bufferSize)
  | _ => []

structure History where
  stream : ByteStream
  /-- The accepted parts of all writes. -/
  accepted : List UInt8 := []
  /-- The bytes removed so far. -/
  removed : List UInt8 := []

namespace History

def new (capacity : ℕ) : History where
  stream := ByteStream.new capacity

def apply (h : History) (op : Op) : History where
  stream := h.stream.apply op
  accepted := h.accepted ++ h.stream.accepts op
  removed := h.removed ++ h.stream.removes op

/-- What went in has come out or waits, and the counters count it. -/
structure Fifo (capacity : ℕ) (h : History) : Prop where
  stream : h.stream.WellFormed
  capacity : h.stream.totalCapacity = capacity
  order : h.accepted = h.removed ++ h.stream.buffer
  written : h.stream.totalWrittenBytes = h.accepted.length
  read : h.stream.totalReadBytes = h.removed.length

theorem fifo_new {capacity : ℕ} (representable : capacity < 2 ^ 64) : (new capacity).Fifo capacity :=
  ⟨wellFormed_new representable, rfl, rfl, rfl, rfl⟩

end History

/-- An operation appends what it accepts and takes what it removes off the
front. -/
theorem apply_buffer (s : ByteStream) (op : Op) :
    s.buffer ++ s.accepts op = s.removes op ++ (s.apply op).buffer := by
  cases op with
  | write data => simp only [accepts, removes, apply, write_eq, List.nil_append]
  | read len =>
      simp only [accepts, removes, apply, read_eq, popOutput_buffer, List.take_append_drop,
        List.append_nil]
  | popOutput len =>
      simp only [accepts, removes, apply, bufferSize, popOutput_buffer, List.length_drop,
        List.append_nil]
      rcases Nat.le_total len s.buffer.length with short | long
      · rw [Nat.sub_sub_self short, List.take_append_drop]
      · rw [Nat.sub_eq_zero_of_le long, Nat.sub_zero, List.take_length,
          List.drop_eq_nil_of_le long, List.append_nil]
  | peekOutput len => simp only [accepts, removes, apply, List.append_nil, List.nil_append]
  | endInput => simp only [accepts, removes, apply, List.append_nil, List.nil_append]; rfl

theorem apply_totalWrittenBytes (s : ByteStream) (op : Op) :
    (s.apply op).totalWrittenBytes = s.totalWrittenBytes + (s.accepts op).length := by
  cases op with
  | write data =>
      simp only [apply, accepts, write_eq, List.length_take, Nat.min_assoc]
      omega
  | read len => rw [apply, read_eq, popOutput_eq]; rfl
  | popOutput len => rw [apply, popOutput_eq]; rfl
  | peekOutput len => rfl
  | endInput => rfl

theorem apply_totalReadBytes (s : ByteStream) (op : Op) :
    (s.apply op).totalReadBytes = s.totalReadBytes + (s.removes op).length := by
  cases op with
  | write data => rw [apply, write_eq]; rfl
  | read len =>
      simp only [apply, removes, read_eq, popOutput_totalReadBytes, List.length_take]
  | popOutput len =>
      simp only [apply, removes, bufferSize, popOutput_buffer, popOutput_totalReadBytes,
        List.length_take, List.length_drop]
      omega
  | peekOutput len => rfl
  | endInput => rfl

theorem History.Fifo.apply {capacity : ℕ} (h : History) (op : Op) (fifo : h.Fifo capacity) :
    (h.apply op).Fifo capacity := by
  refine ⟨fifo.stream.apply h.stream op, ?_, ?_, ?_, ?_⟩
  · exact (h.stream.apply_totalCapacity op).trans fifo.capacity
  · show h.accepted ++ h.stream.accepts op = h.removed ++ h.stream.removes op ++ _
    rw [fifo.order, List.append_assoc, List.append_assoc, apply_buffer]
    rfl
  · show (h.stream.apply op).totalWrittenBytes = (h.accepted ++ _).length
    rw [apply_totalWrittenBytes, fifo.written, List.length_append]
  · show (h.stream.apply op).totalReadBytes = (h.removed ++ _).length
    rw [apply_totalReadBytes, fifo.read, List.length_append]

/-- A stream is a bounded queue: in every history the accepted bytes are those
removed so far followed by the buffer, which never outgrows the capacity, and
every call takes or gives as much as there is room or there are bytes for. -/
theorem bounded_fifo (capacity : ℕ) (representable : capacity < 2 ^ 64) (ops : List Op) :
    let h := run History.apply (History.new capacity) ops
    h.accepted = h.removed ++ h.stream.buffer ∧
    h.stream.bytesWritten - h.stream.bytesRead = h.stream.bufferSize ∧
    h.stream.bytesRead ≤ h.stream.bytesWritten ∧
    h.stream.bytesWritten = h.accepted.length ∧ h.stream.bytesRead = h.removed.length ∧
    h.stream.bufferSize ≤ capacity ∧
    h.stream.remainingCapacity = capacity - h.stream.bufferSize ∧
    (∀ data, (h.stream.write data).2 = min data.length h.stream.remainingCapacity ∧
      (h.stream.write data).1.buffer =
        h.stream.buffer ++ data.take (min data.length h.stream.remainingCapacity)) ∧
    ∀ len, h.stream.peekOutput len = h.stream.buffer.take (min len h.stream.bufferSize) ∧
      (h.stream.read len).1 = h.stream.buffer.take (min len h.stream.bufferSize) ∧
      (h.stream.read len).2.buffer = h.stream.buffer.drop (min len h.stream.bufferSize) ∧
      (h.stream.popOutput len).buffer = h.stream.buffer.drop (min len h.stream.bufferSize) := by
  intro h
  have fifo : h.Fifo capacity :=
    run_invariant (History.Fifo capacity) ops (History.fifo_new representable) History.Fifo.apply
  have accounting := fifo.stream.accounting
  have bounded := fifo.stream.bounded
  have remaining := fifo.stream.remainingCapacity_eq
  rw [fifo.capacity] at bounded remaining
  refine ⟨fifo.order, ?_, ?_, fifo.written, fifo.read, bounded, remaining, ?_, ?_⟩
  · simp only [bytesWritten, bytesRead, bufferSize]
    omega
  · simp only [bytesWritten, bytesRead]
    omega
  · intro data
    rw [write_eq]
    exact ⟨rfl, rfl⟩
  · intro len
    have taken : h.stream.buffer.take (min len h.stream.bufferSize) = h.stream.buffer.take len := by
      rw [bufferSize, ← List.take_take, List.take_length]
    have dropped : h.stream.buffer.drop (min len h.stream.bufferSize) = h.stream.buffer.drop len := by
      rcases Nat.le_total len h.stream.buffer.length with short | long
      · rw [bufferSize, Nat.min_eq_left short]
      · rw [bufferSize, Nat.min_eq_right long, List.drop_length, List.drop_eq_nil_of_le long]
    rw [taken, dropped, read_eq, peekOutput_eq, popOutput_buffer]
    exact ⟨rfl, rfl, rfl, rfl⟩

/-- Every kind of call, on a stream that is written beyond its capacity. -/
theorem bounded_fifo_overfull :
    let ops : List Op := [.write [97, 98, 99, 100], .read 1, .write [101], .peekOutput 9, .endInput,
      .popOutput 1]
    let h := run History.apply (History.new 3) ops
    h.accepted = h.removed ++ h.stream.buffer ∧ h.removed = [97, 98] ∧
      h.stream.buffer = [99, 101] :=
  ⟨(bounded_fifo 3 (by decide) [.write [97, 98, 99, 100], .read 1, .write [101], .peekOutput 9,
    .endInput, .popOutput 1]).1, by decide, by decide⟩

end Fifo

section Ended

theorem apply_inputEnded (s : ByteStream) (op : Op) :
    (s.apply op).inputEnded = (s.inputEnded || decide (op = .endInput)) := by
  cases op with
  | write data => rw [apply, write_eq]; simp [inputEnded]
  | read len => rw [apply, read_eq, popOutput_inputEnded]; simp
  | popOutput len => rw [apply, popOutput_inputEnded]; simp
  | peekOutput len => simp [apply]
  | endInput => simp [apply, inputEnded, endInput]

/-- Only a call of `endInput` ends the input, and nothing opens it again. -/
theorem inputEnded_run (s : ByteStream) (ops : List Op) :
    (run apply s ops).inputEnded = true ↔ s.inputEnded = true ∨ .endInput ∈ ops := by
  induction ops generalizing s with
  | nil => simp
  | cons op rest inductionHypothesis =>
      rw [run_cons, inductionHypothesis, apply_inputEnded, Bool.or_eq_true, decide_eq_true_eq,
        List.mem_cons, or_assoc, eq_comm (a := op)]

/-- The end-of-file flag is right. -/
structure Exact (s : ByteStream) : Prop extends WellFormed s where
  empty : s.isEof = true → s.buffer = []

theorem exact_new {capacity : ℕ} (representable : capacity < 2 ^ 64) : (new capacity).Exact :=
  ⟨wellFormed_new representable, nofun⟩

theorem Exact.eof_iff {s : ByteStream} (exact : s.Exact) :
    s.eof = true ↔ s.inputEnded = true ∧ s.bufferEmpty = true := by
  rw [eof, inputEnded, bufferEmpty, List.isEmpty_iff]
  exact ⟨fun eof => ⟨exact.ended eof, exact.empty eof⟩, fun ⟨ended, empty⟩ =>
    exact.drained ended empty⟩

theorem Exact.popOutput {s : ByteStream} (exact : s.Exact) (len : ℕ) :
    (s.popOutput len).Exact :=
  ⟨exact.toWellFormed.popOutput len, exact.toWellFormed.popOutput_empty⟩

/-- After the end, no write finds both bytes to write and room for them. -/
def NoLateWrite (s : ByteStream) : Op → Prop
  | .write data => s.inputEnded = true → data = [] ∨ s.remainingCapacity = 0
  | _ => True

instance (s : ByteStream) (op : Op) : Decidable (s.NoLateWrite op) :=
  match op with
  | .write data =>
      inferInstanceAs (Decidable (s.inputEnded = true → data = [] ∨ s.remainingCapacity = 0))
  | .read _ | .popOutput _ | .peekOutput _ | .endInput => .isTrue trivial

/-- A write is refused exactly when there is nothing to write or no room. -/
theorem write_eq_zero_iff (s : ByteStream) (data : List UInt8) :
    (s.write data).2 = 0 ↔ data = [] ∨ s.remainingCapacity = 0 := by
  rw [write_eq, ← List.length_eq_zero_iff]
  simp only
  omega

theorem Exact.apply (s : ByteStream) (op : Op) (exact : s.Exact) (late : s.NoLateWrite op) :
    (s.apply op).Exact := by
  cases op with
  | write data =>
      refine ⟨exact.toWellFormed.write data, ?_⟩
      rw [ByteStream.apply, write_eq]
      intro eof
      have eof : s.isEof = true := eof
      -- at the end of the file nothing was buffered, and nothing is accepted
      have refused := (s.write_eq_zero_iff data).mpr (late (exact.ended eof))
      rw [write_eq] at refused
      have none : min data.length s.remainingCapacity = 0 := refused
      simp only [none, exact.empty eof, List.take_zero, List.append_nil]
  | read len => exact exact.popOutput len
  | popOutput len => exact exact.popOutput len
  | peekOutput len => exact exact
  | endInput =>
      refine ⟨exact.toWellFormed.endInput, ?_⟩
      intro eof
      have accounting := exact.accounting
      have drained : s.totalWrittenBytes = s.totalReadBytes := beq_iff_eq.mp eof
      exact List.length_eq_zero_iff.mp (show s.buffer.length = 0 by omega)

/-- After the end no byte is accepted and the end-of-file flag is right
throughout a history, exactly when none of its writes after the end finds both
bytes and room. -/
theorem stays_ended_iff (capacity : ℕ) (representable : capacity < 2 ^ 64) (ops : List Op) :
    ((∀ first data, .endInput ∈ first → first ++ [.write data] <+: ops →
        ((run apply (new capacity) first).write data).2 = 0) ∧
      ∀ first, first <+: ops →
        let s := run apply (new capacity) first
        s.eof = true ↔ s.inputEnded = true ∧ s.bufferEmpty = true) ↔
      Guarded apply NoLateWrite (new capacity) ops := by
  constructor
  · rintro ⟨refuses, -⟩
    rw [guarded_iff_forall_initial]
    intro first op initial
    cases op with
    | write data =>
        intro ended
        have after : Op.endInput ∈ first := by
          rw [inputEnded_run] at ended
          exact ended.resolve_left Bool.false_ne_true
        exact (write_eq_zero_iff _ data).mp (refuses first data after initial)
    | _ => trivial
  · intro guarded
    constructor
    · intro first data after initial
      rw [write_eq_zero_iff]
      exact (guarded_iff_forall_initial _ ops).mp guarded first _ initial
        ((inputEnded_run _ first).mpr (.inr after))
    · rintro first ⟨rest, rfl⟩
      have exact : (run apply (new capacity) first).Exact :=
        ((guarded_append _ first rest).mp guarded).1.invariant Exact (exact_new representable)
          Exact.apply
      exact exact.eof_iff

/-- A byte written after the end is accepted, and the end-of-file flag does not
notice it. -/
theorem late_write_accepted :
    let s := run apply (new 4) [.endInput]
    (s.write [97]).2 = 1 ∧ (s.write [97]).1.eof = true ∧ (s.write [97]).1.bufferEmpty = false := by
  decide

/-- A history with the last write just before the end. -/
theorem stays_ended_iff_in_order :
    let ops : List Op := [.write [97, 98], .read 1, .endInput, .write [], .popOutput 1]
    Guarded apply NoLateWrite (new 4) ops ∧ (run apply (new 4) ops).eof = true ∧
      ∀ first, first <+: ops →
        let s := run apply (new 4) first
        s.eof = true ↔ s.inputEnded = true ∧ s.bufferEmpty = true :=
  have guarded : Guarded apply NoLateWrite (new 4)
      [.write [97, 98], .read 1, .endInput, .write [], .popOutput 1] := by decide
  ⟨guarded, by decide, ((stays_ended_iff 4 (by decide) _).mpr guarded).2⟩

end Ended

end Sponge.ByteStream
