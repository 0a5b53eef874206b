import Sponge.TCPSender.Segmentation

/-!
# After the FIN

Once the FIN is sent the sender has nothing more to send, and once it is
acknowledged nothing is in flight for good.
-/

namespace Sponge.TCPSender

open Lib

/-- What a sender keeps as long as its owner is careful. -/
structure Sound (s : TCPSender) : Prop where
  segmented : ∃ accepted filled, s.Segmented accepted filled
  partitioned : s.Partitioned

/-- The stream is not written after its end, and acknowledgments arrive while
fewer than `2^31` sequence numbers are in flight. -/
def Careful (s : TCPSender) : Op → Prop
  | .write _ => s.stream.inputEnded = false
  | .ackReceived _ _ => s.bytesInFlight < 2 ^ 31
  | _ => True

theorem sound_new {capacity : ℕ} (representable : capacity < 2 ^ 64) (retxTimeout : UInt16)
    (fixedIsn : Option WrappingInt32) (random : UInt32) :
    (new capacity retxTimeout fixedIsn random).Sound :=
  ⟨⟨[], [], segmented_new representable retxTimeout fixedIsn random⟩, partitioned_new _ _ _ _⟩

variable {s : TCPSender}

theorem Sound.apply (s : TCPSender) (op : Op) (inv : s.Sound) (careful : s.Careful op) :
    (s.apply op).Sound := by
  obtain ⟨⟨accepted, filled, segmented⟩, partitioned⟩ := inv
  have permitted : History.Permitted { sender := s, accepted, filled } op := by
    cases op with
    | write data => exact careful
    | _ => trivial
  have segmented' := History.Segmented.apply { sender := s, accepted, filled } op segmented permitted
  refine ⟨⟨_, _, segmented'⟩, ?_⟩
  cases op with
  | ackReceived ackno windowSize => exact partitioned.ackReceived careful ackno windowSize
  | fillWindow => exact partitioned.fillWindow
  | tick ms => exact partitioned.tick ms
  | _ => exact partitioned.congr rfl rfl rfl rfl rfl

theorem apply_error (s : TCPSender) {op : Op} (noError : op ≠ .setError) :
    (s.apply op).stream.error = s.stream.error := by
  cases op with
  | setError => contradiction
  | fillWindow => exact fillWindow_error s
  | write data =>
      simp only [TCPSender.apply, ByteStream.write_eq]
      rfl
  | ackReceived ackno windowSize =>
      rw [TCPSender.apply]
      rcases s.ackReceived_cases ackno windowSize with ⟨_, taken⟩ | ⟨_, ignored⟩
      · rw [taken]
        exact fillWindow_error _
      · rw [ignored]
  | tick ms => rw [TCPSender.apply, tick_stream]
  | _ => rfl

theorem error_apply (s : TCPSender) (op : Op) (error : s.stream.error = true) :
    (s.apply op).stream.error = true := by
  by_cases reset : op = .setError
  · rw [reset]
    rfl
  · exact (s.apply_error reset).trans error

theorem Segmented.started {accepted : List UInt8} {filled : List TCPSegment}
    (inv : s.Segmented accepted filled) (sent : s.isFinSent = true) : s.nextSeqno ≠ 0 := by
  rcases inv.shape with empty | ⟨rest, split, chunks⟩
  · rw [inv.finSent, empty] at sent
    contradiction
  · rw [inv.nextSeqno, split, totalLength_cons, synSegment, TCPSegment.lengthInSequenceSpace]
    simp only [if_true]
    omega

theorem Sound.fillWindow_finSent (inv : s.Sound) (sent : s.isFinSent = true) :
    s.fillWindow = s := by
  obtain ⟨⟨accepted, filled, segmented⟩, _⟩ := inv
  have eof := segmented.finEof sent
  rcases Relation.ReflTransGen.cases_head s.fillWindow_steps with same | ⟨next, step, _⟩
  · exact same.symm
  · exfalso
    cases step with
    | syn unsent => exact segmented.started sent unsent
    | fin started atEnd unsent =>
        rw [sent] at unsent
        contradiction
    | data len fin started running =>
        rw [ByteStream.eof, eof] at running
        contradiction
    | idle len started running =>
        rw [ByteStream.eof, eof] at running
        contradiction

/-- The FIN is sent, and everything is acknowledged. -/
structure Finished (s : TCPSender) : Prop where
  sent : s.isFinSent = true
  acknowledged : s.bytesInFlight = 0

theorem Partitioned.bytesInFlight_eq_zero (inv : s.Partitioned)
    (acked : s.previousAckno = s.nextSeqno) : s.bytesInFlight = 0 := by
  have total := inv.totalLength_eq
  have bound := inv.inFlight_le
  cases queue : s.outstandingSegments with
  | nil =>
      rw [queue, totalLength_nil] at total
      exact total.symm
  | cons oldest rest =>
      have unacked := inv.unacked oldest (by rw [queue]; rfl)
      rw [queue, totalLength_cons] at total
      omega

theorem Sound.acknowledge (inv : s.Sound) (few : s.bytesInFlight < 2 ^ 31) (windowSize : UInt16)
    {ackno : ℕ} (new : s.previousAckno < ackno) (sent : ackno ≤ s.nextSeqno) :
    (({ s with windowSize } : TCPSender).acknowledge ackno).Sound := by
  obtain ⟨⟨accepted, filled, segmented⟩, partitioned⟩ := inv
  have opened : ({ s with windowSize } : TCPSender).Partitioned :=
    partitioned.congr rfl rfl rfl rfl rfl
  refine ⟨⟨accepted, filled, ?_⟩, opened.acknowledge few new sent⟩
  exact segmented.congr rfl rfl rfl rfl (popAcknowledged_suffix _ _ _ _) (fun _ => .inl)

/-- After the FIN an acknowledgment makes the sender send nothing. -/
theorem Sound.ackReceived_relativeNextSeqno (inv : s.Sound) (sent : s.isFinSent = true)
    (few : s.bytesInFlight < 2 ^ 31) (ackno : WrappingInt32) (windowSize : UInt16) :
    (s.ackReceived ackno windowSize).relativeNextSeqno = s.relativeNextSeqno := by
  rcases s.ackReceived_cases ackno windowSize with ⟨⟨new, within⟩, taken⟩ | ⟨_, ignored⟩
  · rw [taken, (inv.acknowledge few windowSize new within).fillWindow_finSent sent]
    rfl
  · rw [ignored]
    rfl

/-- An acknowledgment number equal to the next sequence number acknowledges
everything. -/
theorem Sound.ackReceived_finished (inv : s.Sound) (sent : s.isFinSent = true)
    (few : s.bytesInFlight < 2 ^ 31) {ackno : WrappingInt32} (last : ackno = s.relativeNextSeqno)
    (windowSize : UInt16) : (s.ackReceived ackno windowSize).Finished := by
  have inFlight := inv.partitioned.inFlight_le
  have base := inv.partitioned.base_le
  have acked := inv.partitioned.acked_le
  have position : unwrap ackno s.isn s.previousAckno = s.nextSeqno := by
    rw [last, relativeNextSeqno]
    exact unwrap_wrap s.isn (by omega) (by omega)
  rcases s.ackReceived_cases ackno windowSize with ⟨⟨new, within⟩, taken⟩ | ⟨old, ignored⟩
  · have remaining := inv.acknowledge few windowSize new within
    rw [taken, remaining.fillWindow_finSent sent]
    exact ⟨sent, remaining.partitioned.bytesInFlight_eq_zero position⟩
  · rw [ignored]
    refine ⟨sent, inv.partitioned.bytesInFlight_eq_zero ?_⟩
    omega

theorem Finished.apply (s : TCPSender) (op : Op) (sound : s.Sound) (finished : s.Finished) :
    (s.apply op).Finished := by
  have base := sound.partitioned.base_le
  have acked := sound.partitioned.acked_le
  have nothing := finished.acknowledged
  cases op with
  | fillWindow =>
      rw [TCPSender.apply, sound.fillWindow_finSent finished.sent]
      exact finished
  | ackReceived ackno windowSize =>
      obtain ⟨_, ignored⟩ := (s.ackReceived_cases ackno windowSize).resolve_left (by omega)
      rw [TCPSender.apply, ignored]
      exact ⟨finished.sent, nothing⟩
  | tick ms =>
      exact ⟨(s.tick_isFinSent ms).trans finished.sent, (s.tick_bytesInFlight ms).trans nothing⟩
  | _ => exact ⟨finished.sent, nothing⟩

/-- What a finished sender shows to an observer. -/
theorem Sound.bytesWritten_eq (inv : s.Sound) (sent : s.isFinSent = true) :
    s.stream.eof = true ∧ s.nextSeqno = s.stream.bytesWritten + 2 := by
  obtain ⟨⟨accepted, filled, segmented⟩, _⟩ := inv
  have eof := segmented.finEof sent
  have accounting := segmented.stream.accounting
  have next := segmented.nextSeqno_eq (segmented.started sent)
  rw [segmented.eofDrained eof, List.length_nil] at accounting
  rw [sent, if_pos rfl] at next
  refine ⟨eof, ?_⟩
  rw [ByteStream.bytesWritten]
  omega

end Sponge.TCPSender
