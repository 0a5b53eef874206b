import Sponge.TCPReceiver.Reception
import Sponge.Lib.Run

/-!
# The receiver simulates a reassembler

A receiver sees 32-bit sequence numbers.  As long as no segment lies further
than `2^31` from the bytes written, it does exactly what a reassembler does
that is told the stream indices themselves, however often the sequence numbers
have wrapped around.
-/

namespace Sponge.TCPReceiver

open Lib

/-- What reaches a receiver: a SYN, the bytes of the stream from some index on,
or a read by the application. -/
inductive Arrival where
  | syn (seg : TCPSegment)
  | data (index : ℕ) (seg : TCPSegment)
  | read (len : ℕ)
  deriving DecidableEq, Repr

def Arrival.isSyn : Arrival → Bool
  | .syn _ => true
  | _ => false

/-- The receiver does not see the index of a data segment. -/
def arrive (r : TCPReceiver) : Arrival → TCPReceiver
  | .syn seg => r.segmentReceived seg
  | .data _ seg => r.segmentReceived seg
  | .read len => r.withStreamOut (r.streamOut.read len).2

/-- The arrivals of the stream `whole` of a peer that starts at `isn`. -/
def Expected (isn : WrappingInt32) (whole : List UInt8) (capacity : ℕ) (r : TCPReceiver) :
    Arrival → Prop
  | .syn seg =>
      seg.header.syn = true ∧ seg.header.fin = false ∧ seg.payload = [] ∧ seg.header.seqno = isn
  | .data index seg =>
      seg.header.syn = false ∧ seg.header.seqno = wrap (1 + index) isn ∧
        seg.payload <+: whole.drop index ∧ index ≤ r.streamOut.bytesRead + capacity ∧
        r.streamOut.bytesWritten < index + 2 ^ 31
  | .read _ => True

instance (isn : WrappingInt32) (whole : List UInt8) (capacity : ℕ) (r : TCPReceiver)
    (arrival : Arrival) : Decidable (Expected isn whole capacity r arrival) :=
  match arrival with
  | .syn _ => inferInstanceAs (Decidable (_ ∧ _))
  | .data _ _ => inferInstanceAs (Decidable (_ ∧ _))
  | .read _ => .isTrue trivial

/-- The specification: a reassembler that is given the stream indices of the
data that arrives after the first SYN. -/
structure Reference where
  synReceived : Bool := false
  reassembler : StreamReassembler
  deriving DecidableEq, Repr

def Reference.arrive (reference : Reference) : Arrival → Reference
  | .syn _ => { reference with synReceived := true }
  | .data index seg =>
      if reference.synReceived then
        { reference with
          reassembler := reference.reassembler.pushSubstring seg.payload index seg.header.fin }
      else reference
  | .read len =>
      { reference with
        reassembler :=
          { reference.reassembler with output := (reference.reassembler.output.read len).2 } }

/-- The receiver and its specification are in the same state. -/
structure Simulates (isn : WrappingInt32) (whole : List UInt8) (capacity : ℕ) (r : TCPReceiver)
    (reference : Reference) : Prop where
  same : r.reassembler = reference.reassembler
  opened : r.isn = if reference.synReceived then some isn else none
  quiet : r.reassembler.Quiescent
  settled : ∃ accepted, r.reassembler.Settled whole accepted
  capacity : r.reassembler.capacity = capacity

variable {isn : WrappingInt32} {whole : List UInt8} {capacity : ℕ} {r : TCPReceiver}
  {reference : Reference}

theorem simulates_new (isn : WrappingInt32) (whole : List UInt8) (positive : 1 ≤ capacity)
    (small : capacity < 2 ^ 31) :
    Simulates isn whole capacity (new capacity) { reassembler := .new capacity } :=
  ⟨rfl, rfl, StreamReassembler.quiescent_new (by omega),
    ⟨∅, StreamReassembler.settled_new positive (by omega) whole⟩, rfl⟩

/-- A repeated SYN may look like an empty segment in the middle of the stream,
when the bytes written are close to a multiple of `2^32`. -/
theorem Simulates.syn (simulates : Simulates isn whole capacity r reference) {seg : TCPSegment}
    (expected : Expected isn whole capacity r (.syn seg)) :
    Simulates isn whole capacity (r.arrive (.syn seg)) (reference.arrive (.syn seg)) := by
  obtain ⟨syn, noFin, empty, seqno⟩ := expected
  rw [arrive, segmentReceived_of_nothing simulates.quiet empty noFin, syn, seqno]
  refine ⟨simulates.same, ?_, simulates.quiet, simulates.settled, simulates.capacity⟩
  rw [simulates.opened]
  cases reference.synReceived <;> rfl

theorem Simulates.data (simulates : Simulates isn whole capacity r reference)
    (small : capacity < 2 ^ 31) (short : whole.length < 2 ^ 62) {index : ℕ} {seg : TCPSegment}
    (expected : Expected isn whole capacity r (.data index seg)) :
    Simulates isn whole capacity (r.arrive (.data index seg))
      (reference.arrive (.data index seg)) := by
  obtain ⟨noSyn, seqno, slice, inWindow, near⟩ := expected
  have opened := simulates.opened
  rw [arrive, Reference.arrive, segmentReceived_eq]
  cases started : reference.synReceived with
  | false =>
      rw [started] at opened
      have ignored : r.streamIndex seg = none := by simp [streamIndex, opened, noSyn]
      rw [ignored]
      exact simulates
  | true =>
      rw [started] at opened
      obtain ⟨accepted, settled⟩ := simulates.settled
      have read : r.streamOut.bytesRead ≤ r.streamOut.bytesWritten := by
        have accounting := settled.stream.accounting
        show r.reassembler.output.totalReadBytes ≤ r.reassembler.output.totalWrittenBytes
        omega
      have found : r.streamIndex seg = some index :=
        streamIndex_of_near opened seqno (by omega) near
      have window : index ≤ r.reassembler.output.totalReadBytes + r.reassembler.capacity := by
        rw [simulates.capacity]
        exact inWindow
      rw [found, if_pos rfl]
      refine ⟨by rw [simulates.same], by rw [opened]; simp,
        simulates.quiet.pushSubstring _ _ _,
        ⟨_, settled.pushSubstring slice (fun _ => window) (by omega) seg.header.fin⟩, ?_⟩
      exact (StreamReassembler.pushSubstring_frame _ _ _ _).1.trans simulates.capacity

theorem Simulates.read (simulates : Simulates isn whole capacity r reference) (len : ℕ) :
    Simulates isn whole capacity (r.arrive (.read len)) (reference.arrive (.read len)) := by
  obtain ⟨accepted, settled⟩ := simulates.settled
  refine ⟨?_, simulates.opened, simulates.quiet.popOutput len,
    ⟨accepted, settled.popOutput len⟩, simulates.capacity⟩
  simp only [arrive, Reference.arrive, withStreamOut, streamOut, simulates.same]

theorem Simulates.arrive (simulates : Simulates isn whole capacity r reference)
    (small : capacity < 2 ^ 31) (short : whole.length < 2 ^ 62) {arrival : Arrival}
    (expected : Expected isn whole capacity r arrival) :
    Simulates isn whole capacity (r.arrive arrival) (reference.arrive arrival) := by
  cases arrival with
  | syn seg => exact simulates.syn expected
  | data index seg => exact simulates.data small short expected
  | read len => exact simulates.read len

theorem Reference.synReceived_run (reference : Reference) (arrivals : List Arrival) :
    (run Reference.arrive reference arrivals).synReceived =
      (reference.synReceived || arrivals.any Arrival.isSyn) := by
  induction arrivals generalizing reference with
  | nil => simp
  | cons arrival rest inductionHypothesis =>
      rw [run_cons, inductionHypothesis, List.any_cons, ← Bool.or_assoc]
      congr 1
      cases arrival with
      | syn seg => simp [Reference.arrive, Arrival.isSyn]
      | data index seg => simp [Reference.arrive, Arrival.isSyn, apply_ite Reference.synReceived]
      | read len => simp [Reference.arrive, Arrival.isSyn]

/-- What the receiver advertises, from the state of its specification. -/
theorem Simulates.ackno_eq (simulates : Simulates isn whole capacity r reference) :
    r.ackno =
      if reference.synReceived then
        some (wrap (r.streamOut.bytesWritten + 1 + if r.streamOut.inputEnded then 1 else 0) isn)
      else none := by
  rw [ackno, simulates.opened]
  cases reference.synReceived <;> cases r.streamOut.inputEnded <;> rfl

theorem Simulates.windowSize_eq (simulates : Simulates isn whole capacity r reference) :
    r.windowSize = capacity - (r.streamOut.bytesWritten - r.streamOut.bytesRead) := by
  obtain ⟨accepted, settled⟩ := simulates.settled
  have accounting := settled.stream.accounting
  have remaining := settled.stream.remainingCapacity_eq
  rw [settled.outputCapacity, simulates.capacity] at remaining
  have buffered : r.streamOut.bytesWritten - r.streamOut.bytesRead =
      r.reassembler.output.buffer.length := by
    show r.reassembler.output.totalWrittenBytes - r.reassembler.output.totalReadBytes = _
    omega
  rw [buffered]
  exact remaining

/-- For every stream, every peer and every order of arrivals, the receiver's
stream and its count of unassembled bytes are those of a reassembler that is
given the stream indices, and it advertises the acknowledgment number and the
window that belong to them.  No counter leaves the range of 64 bits. -/
theorem simulates_reassembler {isn : WrappingInt32} {capacity : ℕ} (positive : 1 ≤ capacity)
    (small : capacity < 2 ^ 31) {whole : List UInt8} (short : whole.length < 2 ^ 62)
    {arrivals : List Arrival}
    (expected : Guarded arrive (Expected isn whole capacity) (new capacity) arrivals) :
    let r := run arrive (new capacity) arrivals
    let reference := run Reference.arrive { reassembler := .new capacity } arrivals
    r.streamOut = reference.reassembler.output ∧
    r.unassembledBytes = reference.reassembler.unassembledBytes ∧
    r.ackno =
      (if arrivals.any Arrival.isSyn then
        some (wrap (r.streamOut.bytesWritten + 1 + if r.streamOut.inputEnded then 1 else 0) isn)
      else none) ∧
    r.windowSize = capacity - (r.streamOut.bytesWritten - r.streamOut.bytesRead) ∧
    r.streamOut.bytesWritten < 2 ^ 62 := by
  have simulates := Guarded.simulation (Simulates isn whole capacity) expected
    (simulates_new isn whole positive small)
    fun _ _ _ simulates expected => simulates.arrive small short expected
  have opened := Reference.synReceived_run { reassembler := .new capacity } arrivals
  rw [Bool.false_or] at opened
  refine ⟨?_, ?_, ?_, simulates.windowSize_eq, ?_⟩
  · rw [← simulates.same]
    rfl
  · rw [← simulates.same]
    rfl
  · rw [← opened]
    exact simulates.ackno_eq
  · obtain ⟨accepted, settled⟩ := simulates.settled
    refine Nat.lt_of_le_of_lt ?_ short
    exact settled.written.trans_le settled.first_le_length

/-- Data before the SYN, out of order and again, of a peer whose sequence
numbers wrap around after two bytes. -/
def arrivalsAcrossWrap : List Arrival :=
  [.data 0 { header := { seqno := ⟨4294967295⟩ }, payload := [97] },
    .syn { header := { seqno := ⟨4294967294⟩, syn := true } },
    .data 2 { header := { seqno := ⟨1⟩, fin := true }, payload := [99] },
    .data 0 { header := { seqno := ⟨4294967295⟩ }, payload := [97, 98] },
    .read 2,
    .syn { header := { seqno := ⟨4294967294⟩, syn := true } }]

theorem simulates_reassembler_across_wrap :
    Guarded arrive (Expected ⟨4294967294⟩ [97, 98, 99] 4) (new 4) arrivalsAcrossWrap ∧
    (run arrive (new 4) arrivalsAcrossWrap).streamOut =
      (run Reference.arrive { reassembler := .new 4 } arrivalsAcrossWrap).reassembler.output ∧
    (run arrive (new 4) arrivalsAcrossWrap).ackno = some ⟨3⟩ := by
  have expected : Guarded arrive (Expected ⟨4294967294⟩ [97, 98, 99] 4) (new 4)
      arrivalsAcrossWrap := by decide
  have simulated := simulates_reassembler (by decide) (by decide) (by decide) expected
  exact ⟨expected, simulated.1, by decide⟩

end Sponge.TCPReceiver
