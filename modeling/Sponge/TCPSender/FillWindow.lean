import Sponge.TCPSender.Basic
import Mathlib.Logic.Relation

/-!
# What filling the window can do

`fillWindow` is a loop with three places that send a segment.  Here it is cut
once into single steps, so that an invariant of the sender is proved by one
case analysis over `FillStep` and never by unfolding the loop.
-/

namespace Sponge.TCPSender

open Lib Relation

@[simp]
theorem pushSegment_stream (s : TCPSender) (seg : TCPSegment) :
    (s.pushSegment seg).stream = s.stream := rfl

@[simp]
theorem pushSegment_isn (s : TCPSender) (seg : TCPSegment) :
    (s.pushSegment seg).isn = s.isn := rfl

@[simp]
theorem pushSegment_previousAckno (s : TCPSender) (seg : TCPSegment) :
    (s.pushSegment seg).previousAckno = s.previousAckno := rfl

@[simp]
theorem pushSegment_isFinSent (s : TCPSender) (seg : TCPSegment) :
    (s.pushSegment seg).isFinSent = s.isFinSent := rfl

@[simp]
theorem pushSegment_nextSeqno (s : TCPSender) (seg : TCPSegment) :
    (s.pushSegment seg).nextSeqno = s.nextSeqno + seg.lengthInSequenceSpace := rfl

@[simp]
theorem pushSegment_bytesInFlight (s : TCPSender) (seg : TCPSegment) :
    (s.pushSegment seg).bytesInFlight = s.bytesInFlight + seg.lengthInSequenceSpace := rfl

/-- The segment as `pushSegment` puts it on the queues. -/
def stamped (s : TCPSender) (seg : TCPSegment) : TCPSegment :=
  { seg with header := { seg.header with seqno := wrap s.nextSeqno s.isn } }

@[simp]
theorem pushSegment_segmentsOut (s : TCPSender) (seg : TCPSegment) :
    (s.pushSegment seg).segmentsOut = s.segmentsOut ++ [s.stamped seg] := rfl

@[simp]
theorem pushSegment_outstandingSegments (s : TCPSender) (seg : TCPSegment) :
    (s.pushSegment seg).outstandingSegments = s.outstandingSegments ++ [s.stamped seg] := rfl

/-- One step of `fillWindow`. -/
inductive FillStep (s : TCPSender) : TCPSender → Prop where
  | syn : s.nextSeqno = 0 → FillStep s (s.pushSegment { header := { syn := true } })
  | fin : s.nextSeqno ≠ 0 → s.stream.eof = true → s.isFinSent = false →
      FillStep s ({ s with isFinSent := true }.pushSegment { header := { fin := true } })
  | data (len : ℕ) (fin : Bool) : s.nextSeqno ≠ 0 → s.stream.eof = false →
      0 < len → len ≤ TCPConfig.maxPayloadSize →
      (s.stream.buffer ≠ [] ∨ fin = true) → (fin = true → (s.stream.popOutput len).eof = true) →
      FillStep s
        ({ s with
            stream := s.stream.popOutput len
            isFinSent := s.isFinSent || fin }.pushSegment
          { header := { fin }, payload := s.stream.buffer.take len })
  | idle (len : ℕ) : s.nextSeqno ≠ 0 → s.stream.eof = false → s.stream.buffer = [] →
      FillStep s { s with stream := s.stream.popOutput len }

theorem FillStep.nextSeqno_le {s s' : TCPSender} (step : FillStep s s') :
    s.nextSeqno ≤ s'.nextSeqno := by
  cases step with
  | syn => exact Nat.le_add_right _ _
  | fin => exact Nat.le_add_right _ _
  | data => exact Nat.le_add_right _ _
  | idle => exact Nat.le_refl _

theorem FillStep.segmentsOut_grows {s s' : TCPSender} (step : FillStep s s') :
    s.segmentsOut <+: s'.segmentsOut := by
  cases step with
  | syn => exact List.prefix_append _ _
  | fin => exact List.prefix_append _ _
  | data => exact List.prefix_append _ _
  | idle => exact List.prefix_rfl

/-- How many bytes a turn of the loop asks the stream for. -/
def bytesToSend (available : ℕ) : ℕ :=
  if available < TCPConfig.maxPayloadSize then available else TCPConfig.maxPayloadSize

theorem bytesToSend_pos {available : ℕ} (room : available ≠ 0) : 0 < bytesToSend available := by
  unfold bytesToSend TCPConfig.maxPayloadSize
  split_ifs <;> omega

theorem bytesToSend_le (available : ℕ) : bytesToSend available ≤ TCPConfig.maxPayloadSize := by
  unfold bytesToSend
  split_ifs <;> omega

/-- Does a turn of the loop put FIN on its segment? -/
def addsFin (s : TCPSender) (window : UInt16) (len : ℕ) : Bool :=
  decide (Word.sub 64 window.toNat (s.stream.buffer.take len).length > 0) &&
    (s.stream.popOutput len).eof

/-- The segment of a turn that asks for `len` bytes. -/
def turnSegment (s : TCPSender) (window : UInt16) (len : ℕ) : TCPSegment :=
  { header := { fin := s.addsFin window len }, payload := s.stream.buffer.take len }

/-- The sender in such a turn, before the segment is pushed. -/
def turnSender (s : TCPSender) (window : UInt16) (len : ℕ) : TCPSender :=
  { s with
    stream := s.stream.popOutput len
    isFinSent := s.isFinSent || s.addsFin window len }

theorem turnSegment_length (s : TCPSender) (window : UInt16) (len : ℕ) :
    (s.turnSegment window len).lengthInSequenceSpace =
      min len s.stream.buffer.length + if s.addsFin window len then 1 else 0 := by
  cases fin : s.addsFin window len <;> simp [turnSegment, TCPSegment.lengthInSequenceSpace, fin]

/-- One turn of the loop. -/
theorem fillLoop_succ (window : UInt16) (fuel available : ℕ) (s : TCPSender) :
    fillLoop window (fuel + 1) available s =
      if available = 0 then s
      else if s.stream.eof then
        if s.isFinSent then s
        else { s with isFinSent := true }.pushSegment { header := { fin := true } }
      else if (s.turnSegment window (bytesToSend available)).lengthInSequenceSpace ≠ 0 then
        let s' := (s.turnSender window (bytesToSend available)).pushSegment
          (s.turnSegment window (bytesToSend available))
        fillLoop window fuel (s'.availableWindowSize window) s'
      else s.turnSender window (bytesToSend available) := by
  simp only [fillLoop, ByteStream.read_eq]
  rfl

theorem fillLoop_finished (window : UInt16) (fuel available : ℕ) {s : TCPSender}
    (eof : s.stream.eof = true) (sent : s.isFinSent = true) :
    fillLoop window fuel available s = s := by
  cases fuel with
  | zero => rfl
  | succ fuel => simp [fillLoop_succ, eof, sent]

/-- Every turn but the last two takes a byte out of the stream, so the fuel that
`fillWindow` gives the loop is never used up. -/
theorem fillLoop_fuel_stable (window : UInt16) {fuel : ℕ} {s : TCPSender}
    (enough : s.stream.buffer.length + 2 ≤ fuel) (available extra : ℕ) :
    fillLoop window (fuel + extra) available s = fillLoop window fuel available s := by
  induction fuel generalizing available s with
  | zero => contradiction
  | succ fuel inductionHypothesis =>
      rw [Nat.succ_add, fillLoop_succ, fillLoop_succ]
      split_ifs with noRoom eof finSent occupies
      · rfl
      · rfl
      · rfl
      · have positive := bytesToSend_pos noRoom
        rw [turnSegment_length] at occupies
        by_cases empty : s.stream.buffer = []
        · -- a turn without a byte must have sent FIN, and the next one stops
          have adds : s.addsFin window (bytesToSend available) = true := by
            by_contra noFin
            simp [empty, noFin] at occupies
          have ended : (s.stream.popOutput (bytesToSend available)).eof = true :=
            (Bool.and_eq_true_iff.mp adds).2
          have sent : (s.isFinSent || s.addsFin window (bytesToSend available)) = true := by
            rw [adds, Bool.or_true]
          rw [fillLoop_finished window _ _ ended sent, fillLoop_finished window _ _ ended sent]
        · have length := List.length_pos_iff.mpr empty
          apply inductionHypothesis
          rw [pushSegment_stream, turnSender, ByteStream.popOutput_buffer, List.length_drop]
          omega
      · rfl

theorem fillLoop_steps (window : UInt16) (fuel available : ℕ) (s : TCPSender)
    (started : s.nextSeqno ≠ 0) : ReflTransGen FillStep s (fillLoop window fuel available s) := by
  induction fuel generalizing available s with
  | zero => exact .refl
  | succ fuel inductionHypothesis =>
      rw [fillLoop_succ]
      split_ifs with noRoom eof finSent occupies
      · exact .refl
      · exact .refl
      · exact .single (.fin started eof (by simpa using finSent))
      · have positive := bytesToSend_pos noRoom
        rw [turnSegment_length] at occupies
        refine .head (.data (bytesToSend available) (s.addsFin window (bytesToSend available))
          started (by simpa using eof) positive (bytesToSend_le available) ?_ ?_) ?_
        · by_contra neither
          simp only [not_or, Decidable.not_not, Bool.not_eq_true] at neither
          simp [neither] at occupies
        · intro adds
          exact (Bool.and_eq_true_iff.mp adds).2
        · refine inductionHypothesis _ _ ?_
          rw [pushSegment_nextSeqno]
          exact Nat.ne_of_gt (Nat.add_pos_left (Nat.pos_of_ne_zero started) _)
      · have positive := bytesToSend_pos noRoom
        rw [turnSegment_length, Decidable.not_not, Nat.add_eq_zero_iff] at occupies
        have noFin : s.addsFin window (bytesToSend available) = false := by
          by_contra adds
          simp [adds] at occupies
        have empty : s.stream.buffer = [] := by
          apply List.length_eq_zero_iff.mp
          omega
        simp only [turnSender, noFin, Bool.or_false]
        exact .single (.idle _ started (by simpa using eof) empty)

theorem fillWindow_steps (s : TCPSender) : ReflTransGen FillStep s s.fillWindow := by
  unfold fillWindow
  split_ifs with unsent unacked
  · exact .single (.syn unsent)
  · exact .refl
  · exact fillLoop_steps _ _ _ s unsent

/-- What every step preserves, filling the window preserves. -/
theorem fillWindow_invariant (inv : TCPSender → Prop) {s : TCPSender} (initially : inv s)
    (preserved : ∀ s s', FillStep s s' → inv s → inv s') : inv s.fillWindow := by
  have steps := s.fillWindow_steps
  generalize s.fillWindow = filled at steps
  induction steps with
  | refl => exact initially
  | tail _ step inductionHypothesis => exact preserved _ _ step inductionHypothesis

end Sponge.TCPSender
