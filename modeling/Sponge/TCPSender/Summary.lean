import Sponge.TCPSender.Finished
import Sponge.TCPState

/-!
# What the summary of a sender says

`TCPState` reconstructs the state of the protocol from counters.  They tell
the truth because nothing is sent between the SYN and its acknowledgment, and
because sequence numbers count the bytes read from the stream.
-/

namespace Sponge.TCPSender

open Lib

variable {s : TCPSender} {accepted : List UInt8} {filled : List TCPSegment}

theorem Chunks.noSyn {isn : WrappingInt32} {offset : ℕ} {segments : List TCPSegment}
    (chunks : Chunks isn offset segments) {seg : TCPSegment} (membership : seg ∈ segments) :
    seg.header.syn = false := by
  obtain ⟨before, after, rfl⟩ := List.append_of_mem membership
  rw [chunks.split.1.header]

/-- As long as everything is in flight, everything is still queued. -/
theorem Segmented.outstanding_eq (inv : s.Segmented accepted filled) (partitioned : s.Partitioned)
    (all : s.nextSeqno = s.bytesInFlight) : s.outstandingSegments = filled := by
  obtain ⟨older, split⟩ := inv.outstanding
  have nothing : totalLength older = 0 := by
    have total := inv.nextSeqno
    rw [← split, all, ← partitioned.totalLength_eq] at total
    simp only [totalLength, List.map_append, List.sum_append] at total ⊢
    omega
  cases older with
  | nil => exact split
  | cons first rest =>
      rcases inv.shape with empty | ⟨chunks, syn, _⟩
      · rw [empty] at split
        contradiction
      · rw [syn, List.cons_append, List.cons.injEq] at split
        rw [split.1, totalLength_cons] at nothing
        simp [synSegment, TCPSegment.lengthInSequenceSpace] at nothing

/-- Everything is in flight until the SYN is acknowledged. -/
theorem Sound.unacknowledged_iff (inv : s.Sound) :
    s.nextSeqno = s.bytesInFlight ↔ s.previousAckno = 0 := by
  obtain ⟨⟨accepted, filled, segmented⟩, partitioned⟩ := inv
  have inFlight := partitioned.inFlight_le
  have base := partitioned.base_le
  constructor
  · intro all
    have outstanding := segmented.outstanding_eq partitioned all
    rcases segmented.shape with empty | ⟨chunks, syn, _⟩
    · have unsent := segmented.nextSeqno
      have acked := partitioned.acked_le
      rw [empty, totalLength_nil] at unsent
      omega
    · have unacked := partitioned.unacked (synSegment s.isn) (by rw [outstanding, syn]; rfl)
      simp [synSegment, TCPSegment.lengthInSequenceSpace] at unacked
      omega
  · intro unacked
    omega

theorem Sound.syn_outstanding_iff (inv : s.Sound) :
    (∃ seg ∈ s.outstandingSegments, seg.header.syn = true) ↔
      s.nextSeqno ≠ 0 ∧ s.previousAckno = 0 := by
  have unacknowledged := inv.unacknowledged_iff
  obtain ⟨⟨accepted, filled, segmented⟩, partitioned⟩ := inv
  rw [← unacknowledged]
  constructor
  · rintro ⟨seg, membership, isSyn⟩
    obtain ⟨older, split⟩ := segmented.outstanding
    rcases segmented.shape with empty | ⟨chunks, syn, inOrder⟩
    · rw [empty, List.append_eq_nil_iff] at split
      rw [split.2] at membership
      contradiction
    · cases older with
      | nil =>
          have total := segmented.nextSeqno
          rw [← split, List.nil_append, partitioned.totalLength_eq] at total
          refine ⟨?_, total⟩
          rw [segmented.nextSeqno, syn, totalLength_cons]
          simp only [synSegment, TCPSegment.lengthInSequenceSpace, if_true]
          omega
      | cons first rest =>
          rw [syn, List.cons_append, List.cons.injEq] at split
          have noSyn := inOrder.noSyn (split.2 ▸ List.mem_append_right rest membership)
          rw [isSyn] at noSyn
          contradiction
  · rintro ⟨started, all⟩
    obtain ⟨chunks, syn, _⟩ := segmented.shape_of_started started
    refine ⟨synSegment s.isn, ?_, rfl⟩
    rw [segmented.outstanding_eq partitioned all, syn]
    exact List.mem_cons_self

/-- A sound sender that sends nothing between the SYN and its acknowledgment. -/
structure Handshaken (s : TCPSender) : Prop where
  sound : s.Sound
  quiet : s.previousAckno = 0 → s.nextSeqno ≤ 1

theorem handshaken_new {capacity : ℕ} (representable : capacity < 2 ^ 64) (retxTimeout : UInt16)
    (fixedIsn : Option WrappingInt32) (random : UInt32) :
    (new capacity retxTimeout fixedIsn random).Handshaken :=
  ⟨sound_new representable _ _ _, fun _ => Nat.zero_le 1⟩

theorem Handshaken.fillWindow_quiet (inv : s.Handshaken) (unacked : s.previousAckno = 0) :
    s.fillWindow.nextSeqno ≤ 1 := by
  unfold TCPSender.fillWindow
  split_ifs with unsent waiting
  · rw [pushSegment_nextSeqno, unsent]
    exact Nat.le_refl 1
  · exact inv.quiet unacked
  · exact absurd (inv.sound.unacknowledged_iff.mpr unacked) waiting

theorem Handshaken.apply (s : TCPSender) (op : Op) (inv : s.Handshaken) (careful : s.Careful op) :
    (s.apply op).Handshaken := by
  refine ⟨inv.sound.apply s op careful, ?_⟩
  intro unacked
  cases op with
  | fillWindow =>
      rw [TCPSender.apply, fillWindow_previousAckno] at unacked
      exact inv.fillWindow_quiet unacked
  | ackReceived ackno windowSize =>
      rw [TCPSender.apply] at unacked ⊢
      rcases s.ackReceived_cases ackno windowSize with ⟨⟨new, _⟩, taken⟩ | ⟨_, ignored⟩
      · rw [taken, restartTimer, fillWindow_previousAckno, acknowledge] at unacked
        exact absurd unacked (Nat.ne_of_gt (Nat.zero_lt_of_lt new))
      · rw [ignored] at unacked ⊢
        exact inv.quiet unacked
  | tick ms =>
      rw [TCPSender.apply, tick_previousAckno] at unacked
      rw [TCPSender.apply, tick_nextSeqno]
      exact inv.quiet unacked
  | _ => exact inv.quiet unacked

theorem Partitioned.bytesInFlight_eq_zero_iff (inv : s.Partitioned) :
    s.bytesInFlight = 0 ↔ s.outstandingSegments = [] := by
  have covers := inv.covers
  rw [← inv.totalLength_eq]
  cases queue : s.outstandingSegments with
  | nil => simp
  | cons seg rest =>
      rw [queue] at covers
      have occupies := covers.1
      simp only [totalLength_cons, reduceCtorEq, iff_false]
      omega

/-- Before the FIN, the end of the stream is still ahead of the sequence numbers. -/
theorem Sound.nextSeqno_lt (inv : s.Sound) (started : s.nextSeqno ≠ 0)
    (unsent : s.isFinSent = false) : s.nextSeqno < s.stream.bytesWritten + 2 := by
  obtain ⟨⟨accepted, filled, segmented⟩, _⟩ := inv
  have accounting := segmented.stream.accounting
  have next := segmented.nextSeqno_eq started
  rw [unsent, if_neg Bool.false_ne_true] at next
  rw [ByteStream.bytesWritten]
  omega

/-- The FIN is not sent before the SYN is acknowledged. -/
theorem Handshaken.acknowledged_of_finSent (inv : s.Handshaken) (sent : s.isFinSent = true) :
    s.nextSeqno ≠ 0 ∧ s.previousAckno ≠ 0 := by
  have next := (inv.sound.bytesWritten_eq sent).2
  refine ⟨by omega, ?_⟩
  intro unacked
  have quiet := inv.quiet unacked
  omega

/-- The summary in the words of the protocol. -/
theorem Handshaken.summary_eq (inv : s.Handshaken) (noError : s.stream.error = false) :
    TCPState.senderSummary s =
      if s.nextSeqno = 0 then .closed
      else if s.previousAckno = 0 then .synSent
      else if s.isFinSent = false then .synAcked
      else if s.outstandingSegments = [] then .finAcked
      else .finSent := by
  have waiting := inv.sound.unacknowledged_iff
  unfold TCPState.senderSummary
  rw [noError, if_neg Bool.false_ne_true]
  by_cases unsent : s.nextSeqno = 0
  · rw [if_pos unsent, if_pos unsent]
  rw [if_neg unsent, if_neg unsent]
  by_cases unacked : s.previousAckno = 0
  · rw [if_pos (waiting.mpr unacked), if_pos unacked]
  rw [if_neg (mt waiting.mp unacked), if_neg unacked]
  cases fin : s.isFinSent with
  | false =>
      rw [if_pos (inv.sound.nextSeqno_lt unsent fin), if_pos rfl, ite_self]
  | true =>
      obtain ⟨eof, next⟩ := inv.sound.bytesWritten_eq fin
      rw [eof, Bool.not_true, if_neg Bool.false_ne_true, next, if_neg (Nat.lt_irrefl _)]
      simp only [ne_eq, ite_not, inv.sound.partitioned.bytesInFlight_eq_zero_iff, Bool.true_eq_false,
        if_false]

end Sponge.TCPSender
