import Sponge.TCPSender.Summary
import Sponge.TCPState.Diagram

/-!
# The phases of a sender

The summary of a sender is computed anew from its counters each time.  It still
never goes back, and only an acknowledgment completes it: a FIN is in flight
when it is sent, and the timer rests once nothing is in flight behind it.
-/

namespace Sponge.TCPSender

open Lib

variable {s : TCPSender}

/-- A FIN that is sent to fill the window is in flight. -/
theorem fillWindow_isFinSent (s : TCPSender) (sent : s.fillWindow.isFinSent = true) :
    s.isFinSent = true ∨ s.fillWindow.bytesInFlight ≠ 0 := by
  refine fillWindow_invariant
    (fun filled => filled.isFinSent = true → s.isFinSent = true ∨ filled.bytesInFlight ≠ 0)
    .inl ?_ sent
  intro filled next step known
  cases step with
  | syn =>
      intro before
      rw [pushSegment_bytesInFlight]
      exact (known before).imp_right fun some => by omega
  | fin =>
      intro _
      right
      rw [pushSegment_bytesInFlight]
      exact Nat.succ_ne_zero _
  | data len fin _ _ _ _ some =>
      intro now
      rw [pushSegment_bytesInFlight]
      rw [pushSegment_isFinSent, Bool.or_eq_true] at now
      rcases now with before | now
      · exact (known before).imp_right fun some => by show filled.bytesInFlight + _ ≠ 0; omega
      · right
        simp only [TCPSegment.lengthInSequenceSpace, now]
        simp
  | idle => exact known

/-- A call that completes a sender acknowledges its FIN. -/
theorem Sound.finished_of_apply (inv : s.Sound) {op : Op} (careful : s.Careful op)
    (finished : (s.apply op).Finished) :
    s.Finished ∨ ∃ ackno windowSize, op = .ackReceived ackno windowSize ∧ s.isFinSent = true ∧
      unwrap ackno s.isn s.previousAckno = s.nextSeqno := by
  cases op with
  | fillWindow =>
      left
      rw [TCPSender.apply] at finished
      have sent := (s.fillWindow_isFinSent finished.sent).resolve_right
        (not_not.mpr finished.acknowledged)
      rwa [inv.fillWindow_finSent sent] at finished
  | ackReceived ackno windowSize =>
      rw [TCPSender.apply] at finished
      rcases s.ackReceived_cases ackno windowSize with ⟨⟨new, within⟩, taken⟩ | ⟨_, ignored⟩
      · have remaining := inv.acknowledge careful windowSize new within
        rw [taken] at finished
        have sent : s.isFinSent = true := (fillWindow_isFinSent _ finished.sent).resolve_right
          (not_not.mpr finished.acknowledged)
        have nothing := finished.acknowledged
        have base := remaining.partitioned.base_le
        have acked := remaining.partitioned.acked_le
        rw [remaining.fillWindow_finSent sent] at nothing
        refine .inr ⟨ackno, windowSize, rfl, sent, ?_⟩
        show unwrap ackno s.isn s.previousAckno = s.nextSeqno
        have nothing : (({ s with windowSize } : TCPSender).acknowledge
          (unwrap ackno s.isn s.previousAckno)).bytesInFlight = 0 := nothing
        rw [nothing] at base
        exact Nat.le_antisymm acked base
      · rw [ignored] at finished
        exact .inl ⟨finished.sent, finished.acknowledged⟩
  | tick ms =>
      rw [TCPSender.apply] at finished
      exact .inl ⟨(s.tick_isFinSent ms).symm.trans finished.sent,
        (s.tick_bytesInFlight ms).symm.trans finished.acknowledged⟩
  | _ => exact .inl ⟨finished.sent, finished.acknowledged⟩

/-- Without an acknowledgment nothing completes a sender. -/
theorem Sound.finished_of_run (inv : s.Sound) {ops : List Op}
    (careful : Guarded TCPSender.apply Careful s ops) (noAck : ∀ op ∈ ops, ∀ a w, op ≠ .ackReceived a w)
    (finished : (run TCPSender.apply s ops).Finished) : s.Finished := by
  have guarded : Guarded TCPSender.apply
      (fun s op => s.Careful op ∧ ∀ a w, op ≠ .ackReceived a w) s ops :=
    careful.and (guarded_of_forall s fun op membership _ => noAck op membership)
  refine (guarded.invariant (fun s' => s'.Sound ∧ (s'.Finished → s.Finished)) ⟨inv, id⟩ ?_).2
    finished
  intro s' op known permitted
  refine ⟨.apply s' op known.1 permitted.1, fun finished => ?_⟩
  rcases known.1.finished_of_apply permitted.1 finished with before | ⟨ackno, windowSize, ack, _⟩
  · exact known.2 before
  · exact absurd ack (permitted.2 ackno windowSize)

theorem restartTimer_stops (nothing : s.outstandingSegments = []) :
    s.restartTimer.retxTimer.isRunning = false := by
  simp [restartTimer, nothing, RetransmissionTimer.stop]

/-- With everything acknowledged up to the FIN, the timer rests. -/
def Rests (s : TCPSender) : Prop :=
  s.Finished → s.retxTimer.isRunning = false ∧ s.consecutiveRetransmissions = 0

theorem Rests.tick (rests : s.Rests) {ms : ℕ} (finished : s.Finished) :
    (s.tick ms).retxTimer.isRunning = false ∧ (s.tick ms).consecutiveRetransmissions = 0 := by
  obtain ⟨stopped, none⟩ := rests finished
  have quiet : s.retxTimer.expires ms = false := by
    rw [RetransmissionTimer.expires, stopped, Bool.false_and]
  rw [tick_isRunning, tick_consecutiveRetransmissions, quiet, if_neg (by simp)]
  exact ⟨stopped, none⟩

theorem Rests.apply (s : TCPSender) (op : Op) (sound : s.Sound) (rests : s.Rests)
    (careful : s.Careful op) : (s.apply op).Rests := by
  intro finished
  have sound' := Sound.apply s op sound careful
  have nothing := sound'.partitioned.bytesInFlight_eq_zero_iff.mp finished.acknowledged
  rcases sound.finished_of_apply careful finished with before | ⟨ackno, windowSize, rfl, sent, last⟩
  · cases op with
    | fillWindow =>
        rw [TCPSender.apply, sound.fillWindow_finSent before.sent]
        exact rests before
    | ackReceived ackno windowSize =>
        have base := sound.partitioned.base_le
        have nothing := before.acknowledged
        obtain ⟨_, ignored⟩ := (s.ackReceived_cases ackno windowSize).resolve_left (by omega)
        rw [TCPSender.apply, ignored]
        exact rests before
    | tick ms => exact rests.tick before
    | _ => exact rests before
  · rw [TCPSender.apply] at nothing ⊢
    rcases s.ackReceived_cases ackno windowSize with ⟨_, taken⟩ | ⟨old, ignored⟩
    · rw [taken] at nothing ⊢
      exact ⟨restartTimer_stops nothing, fillWindow_consecutiveRetransmissions _⟩
    · have acked := sound.partitioned.acked_le
      have all : s.previousAckno = s.nextSeqno := by omega
      rw [ignored]
      exact rests ⟨sent, sound.partitioned.bytesInFlight_eq_zero all⟩

theorem previousAckno_le_apply (s : TCPSender) (op : Op) :
    s.previousAckno ≤ (s.apply op).previousAckno := by
  cases op with
  | fillWindow => exact Nat.le_of_eq s.fillWindow_previousAckno.symm
  | ackReceived ackno windowSize =>
      rw [TCPSender.apply]
      rcases s.ackReceived_cases ackno windowSize with ⟨⟨new, _⟩, taken⟩ | ⟨_, ignored⟩
      · rw [taken, restartTimer, fillWindow_previousAckno, acknowledge]
        exact Nat.le_of_lt new
      · rw [ignored]
  | tick ms => exact Nat.le_of_eq (s.tick_previousAckno ms).symm
  | _ => exact Nat.le_refl _

theorem previousAckno_le_run (s : TCPSender) (ops : List Op) :
    s.previousAckno ≤ (run apply s ops).previousAckno :=
  run_invariant (fun s' : TCPSender => s.previousAckno ≤ s'.previousAckno) ops (Nat.le_refl _)
    fun s' op before => Nat.le_trans before (s'.previousAckno_le_apply op)

theorem later_run (s : TCPSender) (ops : List Op) : s.Later (run apply s ops) :=
  run_invariant s.Later ops (.refl s) fun s' op before => before.trans (s'.later_apply op)

/-- Between the SYN and its acknowledgment, the next sequence number is the one that
acknowledges it. -/
theorem Handshaken.ackReceived_syn (inv : s.Handshaken) (started : s.nextSeqno ≠ 0)
    {ackno : WrappingInt32} (last : s.previousAckno = 0 → ackno = s.relativeNextSeqno)
    (windowSize : UInt16) : (s.ackReceived ackno windowSize).previousAckno ≠ 0 := by
  by_cases unacked : s.previousAckno = 0
  · have quiet := inv.quiet unacked
    have position : unwrap ackno s.isn s.previousAckno = s.nextSeqno := by
      rw [last unacked, relativeNextSeqno]
      exact unwrap_wrap _ (by omega) (by omega)
    rcases s.ackReceived_cases ackno windowSize with ⟨⟨above, _⟩, taken⟩ | ⟨old, _⟩
    · rw [taken, restartTimer, fillWindow_previousAckno, acknowledge]
      exact Nat.ne_of_gt (Nat.zero_lt_of_lt above)
    · omega
  · have grown := s.previousAckno_le_apply (.ackReceived ackno windowSize)
    rw [TCPSender.apply] at grown
    omega

theorem summary_of_error (error : s.stream.error = true) :
    TCPState.senderSummary s = .error := by
  rw [TCPState.senderSummary, if_pos error]

theorem rank_le_error (summary : TCPSenderStateSummary) :
    summary.rank ≤ TCPSenderStateSummary.error.rank := by
  cases summary <;> decide

theorem Handshaken.finSent_of_rank (inv : s.Handshaken) (noError : s.stream.error = false)
    (reached : TCPSenderStateSummary.finSent.rank ≤ (TCPState.senderSummary s).rank) :
    s.isFinSent = true := by
  by_contra unsent
  rw [inv.summary_eq noError, if_pos (Bool.eq_false_iff.mpr unsent)] at reached
  split_ifs at reached <;> contradiction

/-- No method takes the summary back. -/
theorem Handshaken.rank_apply (s : TCPSender) (op : Op) (inv : s.Handshaken)
    (careful : s.Careful op) :
    (TCPState.senderSummary s).rank ≤ (TCPState.senderSummary (s.apply op)).rank := by
  by_cases error : s.stream.error = true
  · rw [summary_of_error error, summary_of_error (s.error_apply op error)]
  by_cases reset : op = .setError
  · rw [reset, summary_of_error (s := s.apply .setError) rfl]
    exact rank_le_error _
  have noError : s.stream.error = false := Bool.eq_false_iff.mpr error
  have inv' := Handshaken.apply s op inv careful
  have later := s.later_apply op
  have acked := s.previousAckno_le_apply op
  have finished : s.isFinSent = true → s.outstandingSegments = [] →
      (s.apply op).outstandingSegments = [] := by
    intro sent nothing
    have none := inv.sound.partitioned.bytesInFlight_eq_zero_iff.mpr nothing
    have still := Finished.apply s op inv.sound ⟨sent, none⟩
    exact inv'.sound.partitioned.bytesInFlight_eq_zero_iff.mp still.acknowledged
  rw [inv.summary_eq noError, inv'.summary_eq ((s.apply_error reset).trans noError)]
  have started := later.nextSeqno
  have sent := later.finSent
  split_ifs <;> first | decide | (exfalso; first | omega | simp_all)

end Sponge.TCPSender
