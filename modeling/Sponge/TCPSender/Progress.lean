import Sponge.TCPSender.FillWindow
import Sponge.Lib.Run

/-!
# What the methods of a sender leave alone

Filling the window and the passing of time touch few parts of a sender.  And
whatever its owner does, a sender never takes back what it has said: its
initial sequence number, the numbers it has used, its FIN.
-/

namespace Sponge.TCPSender

open Lib

universe u

/-- A part of the sender that no step changes. -/
theorem fillWindow_frame {Part : Type u} (part : TCPSender → Part)
    (kept : ∀ s s', FillStep s s' → part s' = part s) (s : TCPSender) :
    part s.fillWindow = part s :=
  fillWindow_invariant (fun filled => part filled = part s) rfl
    fun _ _ step same => (kept _ _ step).trans same

theorem fillWindow_previousAckno (s : TCPSender) :
    s.fillWindow.previousAckno = s.previousAckno := by
  apply fillWindow_frame previousAckno
  intro s s' step
  cases step <;> rfl

theorem fillWindow_windowSize (s : TCPSender) : s.fillWindow.windowSize = s.windowSize := by
  apply fillWindow_frame windowSize
  intro s s' step
  cases step <;> rfl

theorem fillWindow_consecutiveRetransmissions (s : TCPSender) :
    s.fillWindow.consecutiveRetransmissions = s.consecutiveRetransmissions := by
  apply fillWindow_frame consecutiveRetransmissions
  intro s s' step
  cases step <;> rfl

theorem fillWindow_error (s : TCPSender) : s.fillWindow.stream.error = s.stream.error := by
  apply fillWindow_frame fun s => s.stream.error
  intro s s' step
  cases step with
  | syn => rfl
  | fin => rfl
  | data len => exact s.stream.popOutput_error len
  | idle len => exact s.stream.popOutput_error len

/-- The two things that can happen to an acknowledgment: one of new data is taken
in, and of any other only the window is believed. -/
theorem ackReceived_cases (s : TCPSender) (ackno : WrappingInt32) (windowSize : UInt16) :
    let absolute := unwrap ackno s.isn s.previousAckno
    ((s.previousAckno < absolute ∧ absolute ≤ s.nextSeqno) ∧
      s.ackReceived ackno windowSize =
        (({ s with windowSize } : TCPSender).acknowledge absolute).fillWindow.restartTimer) ∨
    (¬ (s.previousAckno < absolute ∧ absolute ≤ s.nextSeqno) ∧
      s.ackReceived ackno windowSize = { s with windowSize }) := by
  intro absolute
  have accepts_iff : ({ s with windowSize } : TCPSender).acceptsAckno absolute = true ↔
      s.previousAckno < absolute ∧ absolute ≤ s.nextSeqno := by
    rw [acceptsAckno, Bool.and_eq_true, decide_eq_true_eq, decide_eq_true_eq, and_comm]
  by_cases acceptable : s.previousAckno < absolute ∧ absolute ≤ s.nextSeqno
  · exact .inl ⟨acceptable, if_pos (accepts_iff.mpr acceptable)⟩
  · exact .inr ⟨acceptable, if_neg (mt accepts_iff.mp acceptable)⟩

section Tick

variable (s : TCPSender) (ms : ℕ)

/-- The timer after a tick. -/
def timerAfter : RetransmissionTimer :=
  if s.retxTimer.expires ms then
    (if s.windowSize ≠ 0 then (s.retxTimer.tick ms).1.doubleRto
      else (s.retxTimer.tick ms).1).stop.start
  else (s.retxTimer.tick ms).1

/-- What a tick does: it may send the oldest outstanding segment again, and
count it. -/
theorem tick_eq :
    s.tick ms =
      { s with
        segmentsOut := s.segmentsOut ++
          if s.retxTimer.expires ms then s.outstandingSegments.head?.toList else []
        consecutiveRetransmissions :=
          if s.retxTimer.expires ms = true ∧ s.windowSize ≠ 0 then
            (s.consecutiveRetransmissions + 1) % 2 ^ 32
          else s.consecutiveRetransmissions
        retxTimer := s.timerAfter ms } := by
  have expired : (s.retxTimer.tick ms).2 = s.retxTimer.expires ms := by
    unfold RetransmissionTimer.tick
    cases running : s.retxTimer.isRunning with
    | false => simp [RetransmissionTimer.expires, running]
    | true => rfl
  simp only [tick, expired, timerAfter]
  cases s.retxTimer.expires ms with
  | false => simp
  | true =>
      by_cases closed : s.windowSize = 0
      · simp [retransmit, closed]
      · simp [retransmit, closed]

@[simp]
theorem tick_isn : (s.tick ms).isn = s.isn := by rw [tick_eq]

@[simp]
theorem tick_stream : (s.tick ms).stream = s.stream := by rw [tick_eq]

@[simp]
theorem tick_nextSeqno : (s.tick ms).nextSeqno = s.nextSeqno := by rw [tick_eq]

@[simp]
theorem tick_previousAckno : (s.tick ms).previousAckno = s.previousAckno := by rw [tick_eq]

@[simp]
theorem tick_outstandingSegments :
    (s.tick ms).outstandingSegments = s.outstandingSegments := by rw [tick_eq]

@[simp]
theorem tick_bytesInFlight : (s.tick ms).bytesInFlight = s.bytesInFlight := by rw [tick_eq]

@[simp]
theorem tick_isFinSent : (s.tick ms).isFinSent = s.isFinSent := by rw [tick_eq]

theorem tick_segmentsOut :
    (s.tick ms).segmentsOut = s.segmentsOut ++
      if s.retxTimer.expires ms then s.outstandingSegments.head?.toList else [] := by
  rw [tick_eq]

theorem tick_consecutiveRetransmissions :
    (s.tick ms).consecutiveRetransmissions =
      if s.retxTimer.expires ms = true ∧ s.windowSize ≠ 0 then
        (s.consecutiveRetransmissions + 1) % 2 ^ 32
      else s.consecutiveRetransmissions := by
  rw [tick_eq]

/-- A tick neither starts nor stops the timer. -/
theorem tick_isRunning : (s.tick ms).retxTimer.isRunning = s.retxTimer.isRunning := by
  have ticked : (s.retxTimer.tick ms).1.isRunning = s.retxTimer.isRunning := by
    unfold RetransmissionTimer.tick
    split <;> rfl
  rw [tick_eq]
  show (s.timerAfter ms).isRunning = _
  unfold timerAfter
  split
  next expires => exact (Bool.and_eq_true_iff.mp expires).1.symm
  next => exact ticked

end Tick

/-- What a sender never takes back, from a state to a later one. -/
structure Later (s s' : TCPSender) : Prop where
  isn : s'.isn = s.isn
  nextSeqno : s.nextSeqno ≤ s'.nextSeqno
  finSent : s.isFinSent = true → s'.isFinSent = true
  inputEnded : s.stream.inputEnded = true → s'.stream.inputEnded = true

theorem Later.refl (s : TCPSender) : s.Later s := ⟨rfl, Nat.le_refl _, id, id⟩

theorem Later.trans {s s' s'' : TCPSender} (first : s.Later s') (second : s'.Later s'') :
    s.Later s'' :=
  ⟨second.isn.trans first.isn, Nat.le_trans first.nextSeqno second.nextSeqno,
    second.finSent ∘ first.finSent, second.inputEnded ∘ first.inputEnded⟩

theorem FillStep.later {s s' : TCPSender} (step : FillStep s s') : s.Later s' := by
  have grown := step.nextSeqno_le
  cases step with
  | syn => exact ⟨rfl, grown, id, id⟩
  | fin => exact ⟨rfl, grown, fun _ => rfl, id⟩
  | data len fin =>
      refine ⟨rfl, grown, ?_, fun ended => (s.stream.popOutput_inputEnded len).trans ended⟩
      intro sent
      rw [pushSegment_isFinSent, sent, Bool.true_or]
  | idle len =>
      exact ⟨rfl, grown, id, fun ended => (s.stream.popOutput_inputEnded len).trans ended⟩

theorem later_fillWindow (s : TCPSender) : s.Later s.fillWindow :=
  fillWindow_invariant s.Later (.refl s) fun _ _ step before => before.trans step.later

/-- Filling the window sends the SYN if nothing else. -/
theorem fillWindow_started (s : TCPSender) : s.fillWindow.nextSeqno ≠ 0 := by
  by_cases unsent : s.nextSeqno = 0
  · rw [fillWindow, if_pos unsent, pushSegment_nextSeqno]
    exact Nat.succ_ne_zero _
  · have grown := s.later_fillWindow.nextSeqno
    omega

theorem later_ackReceived (s : TCPSender) (ackno : WrappingInt32) (windowSize : UInt16) :
    s.Later (s.ackReceived ackno windowSize) := by
  rcases s.ackReceived_cases ackno windowSize with ⟨_, taken⟩ | ⟨_, ignored⟩
  · rw [taken]
    have acknowledged : s.Later (({ s with windowSize } : TCPSender).acknowledge
        (unwrap ackno s.isn s.previousAckno)) := ⟨rfl, Nat.le_refl _, id, id⟩
    have filled := acknowledged.trans (later_fillWindow _)
    exact ⟨filled.isn, filled.nextSeqno, filled.finSent, filled.inputEnded⟩
  · rw [ignored]
    exact ⟨rfl, Nat.le_refl _, id, id⟩

theorem later_apply (s : TCPSender) (op : Op) : s.Later (s.apply op) := by
  cases op with
  | write data =>
      refine ⟨rfl, Nat.le_refl _, id, ?_⟩
      intro ended
      rw [apply, ByteStream.write_eq]
      exact ended
  | endInput => exact ⟨rfl, Nat.le_refl _, id, fun _ => rfl⟩
  | setError => exact ⟨rfl, Nat.le_refl _, id, id⟩
  | fillWindow => exact later_fillWindow s
  | ackReceived ackno windowSize => exact later_ackReceived s ackno windowSize
  | tick ms =>
      refine ⟨s.tick_isn ms, Nat.le_of_eq (s.tick_nextSeqno ms).symm, ?_, ?_⟩
      · exact (s.tick_isFinSent ms).trans
      · intro ended
        rw [apply, tick_stream]
        exact ended
  | sendEmptySegment => exact ⟨rfl, Nat.le_refl _, id, id⟩
  | popSegment => exact ⟨rfl, Nat.le_refl _, id, id⟩

section Unacceptable

/-- An unacceptable acknowledgment leaves the sender unchanged exactly when it
repeats the window that the sender already has. -/
theorem unacceptable_ackReceived_iff (s : TCPSender) (ackno : WrappingInt32) (windowSize : UInt16)
    (unacceptable : s.nextSeqno < unwrap ackno s.isn s.previousAckno ∨
      unwrap ackno s.isn s.previousAckno < s.previousAckno) :
    s.ackReceived ackno windowSize = s ↔ windowSize = s.windowSize := by
  obtain ⟨_, ignored⟩ := (s.ackReceived_cases ackno windowSize).resolve_left (by omega)
  rw [ignored]
  constructor
  · intro unchanged
    rw [← unchanged]
  · rintro rfl
    rfl

/-- An acknowledgment of a byte that was never sent opens the window. -/
theorem unacceptable_ackReceived_opens_window :
    let s := run apply (new 10 1000 (some ⟨0⟩) 0)
      [.fillWindow, .ackReceived ⟨1⟩ 1, .write [97, 98], .fillWindow]
    s.nextSeqno < unwrap ⟨100⟩ s.isn s.previousAckno ∧ s.ackReceived ⟨100⟩ 5 ≠ s ∧
      s.fillWindow = s ∧ (s.ackReceived ⟨100⟩ 5).fillWindow.nextSeqno = s.nextSeqno + 1 := by
  decide

theorem unacceptable_ackReceived_iff_beyond :
    let s := run apply (new 10 1000 (some ⟨0⟩) 0)
      [.fillWindow, .ackReceived ⟨1⟩ 1, .write [97, 98], .fillWindow]
    s.ackReceived ⟨100⟩ 1 = s :=
  (unacceptable_ackReceived_iff (run apply (new 10 1000 (some ⟨0⟩) 0)
    [.fillWindow, .ackReceived ⟨1⟩ 1, .write [97, 98], .fillWindow]) ⟨100⟩ 1 (by decide)).mpr
    (by decide)

end Unacceptable

theorem fillWindow_segmentsOut_grows (s : TCPSender) :
    s.segmentsOut <+: s.fillWindow.segmentsOut :=
  fillWindow_invariant (fun filled => s.segmentsOut <+: filled.segmentsOut) List.prefix_rfl
    fun _ _ step grown => grown.trans step.segmentsOut_grows

/-- Only its owner takes segments off the queue. -/
theorem segmentsOut_grows (s : TCPSender) {op : Op} (notPop : op ≠ .popSegment) :
    s.segmentsOut <+: (s.apply op).segmentsOut := by
  cases op with
  | fillWindow => exact s.fillWindow_segmentsOut_grows
  | ackReceived ackno windowSize =>
      rw [apply]
      rcases s.ackReceived_cases ackno windowSize with ⟨_, taken⟩ | ⟨_, ignored⟩
      · rw [taken]
        exact fillWindow_segmentsOut_grows (({ s with windowSize } : TCPSender).acknowledge _)
      · have kept := congrArg segmentsOut ignored
        exact kept ▸ List.prefix_rfl
  | tick ms =>
      rw [apply, tick_segmentsOut]
      exact List.prefix_append _ _
  | sendEmptySegment => exact List.prefix_append _ _
  | popSegment => contradiction
  | _ => exact List.prefix_rfl

end Sponge.TCPSender
