import Sponge.TCPSender.Segmentation
import Sponge.TCPSender.Window

/-!
# Counting retransmissions

The timer, the queue of outstanding segments and the count of consecutive
retransmissions are three separate pieces of state.  They fit together from the
first SYN on; before it the timer runs although nothing is outstanding.
-/

namespace Sponge.TCPSender

open Lib

/-- The timer runs only for a segment that may have to be sent again, or before
the SYN. -/
structure Timed (s : TCPSender) : Prop where
  running : s.retxTimer.isRunning = true → s.outstandingSegments ≠ [] ∨ s.nextSeqno = 0
  unsent : s.nextSeqno = 0 → s.outstandingSegments = []

/-- Only a segment that may have to be sent again is counted. -/
def CountsOutstanding (s : TCPSender) : Prop :=
  s.outstandingSegments = [] → s.consecutiveRetransmissions = 0

theorem timed_new (capacity : ℕ) (retxTimeout : UInt16) (fixedIsn : Option WrappingInt32)
    (random : UInt32) : (new capacity retxTimeout fixedIsn random).Timed :=
  ⟨fun _ => .inr rfl, fun _ => rfl⟩

variable {s s' : TCPSender}

theorem Timed.congr (inv : s.Timed) (running : s'.retxTimer.isRunning = s.retxTimer.isRunning)
    (outstanding : s'.outstandingSegments = s.outstandingSegments)
    (nextSeqno : s'.nextSeqno = s.nextSeqno) : s'.Timed := by
  refine ⟨?_, ?_⟩
  · rw [running, outstanding, nextSeqno]
    exact inv.running
  · rw [nextSeqno, outstanding]
    exact inv.unsent

theorem CountsOutstanding.congr (inv : s.CountsOutstanding)
    (outstanding : s'.outstandingSegments = s.outstandingSegments)
    (count : s'.consecutiveRetransmissions = s.consecutiveRetransmissions) :
    s'.CountsOutstanding := by
  rw [CountsOutstanding, outstanding, count]
  exact inv

theorem pushSegment_outstandingSegments_ne (s : TCPSender) (seg : TCPSegment) :
    (s.pushSegment seg).outstandingSegments ≠ [] := by
  rw [pushSegment_outstandingSegments]
  exact List.concat_ne_nil _ _

theorem timed_pushSegment (s : TCPSender) {seg : TCPSegment}
    (occupies : 0 < seg.lengthInSequenceSpace ∨ s.nextSeqno ≠ 0) : (s.pushSegment seg).Timed := by
  refine ⟨fun _ => .inl (s.pushSegment_outstandingSegments_ne seg), ?_⟩
  rw [pushSegment_nextSeqno]
  intro unsent
  omega

theorem countsOutstanding_pushSegment (s : TCPSender) (seg : TCPSegment) :
    (s.pushSegment seg).CountsOutstanding :=
  fun empty => absurd empty (s.pushSegment_outstandingSegments_ne seg)

theorem Timed.fillStep (step : FillStep s s') (inv : s.Timed) : s'.Timed := by
  cases step with
  | syn => exact timed_pushSegment s (.inl Nat.zero_lt_one)
  | fin started => exact timed_pushSegment _ (.inr started)
  | data len fin started => exact timed_pushSegment _ (.inr started)
  | idle len => exact inv.congr rfl rfl rfl

theorem Timed.fillWindow (inv : s.Timed) : s.fillWindow.Timed :=
  fillWindow_invariant Timed inv fun _ _ => Timed.fillStep

theorem CountsOutstanding.fillStep (step : FillStep s s') (inv : s.CountsOutstanding) :
    s'.CountsOutstanding := by
  cases step with
  | syn => exact countsOutstanding_pushSegment s _
  | fin started => exact countsOutstanding_pushSegment _ _
  | data len fin started => exact countsOutstanding_pushSegment _ _
  | idle len => exact inv.congr rfl rfl

theorem CountsOutstanding.fillWindow (inv : s.CountsOutstanding) : s.fillWindow.CountsOutstanding :=
  fillWindow_invariant CountsOutstanding inv fun _ _ => CountsOutstanding.fillStep

/-- An acknowledgment of new data sets the count to zero. -/
theorem ackReceived_consecutiveRetransmissions (s : TCPSender) (ackno : WrappingInt32)
    (windowSize : UInt16) :
    ((s.ackReceived ackno windowSize).consecutiveRetransmissions = s.consecutiveRetransmissions ∧
      (s.ackReceived ackno windowSize).previousAckno = s.previousAckno) ∨
    (s.ackReceived ackno windowSize).consecutiveRetransmissions = 0 := by
  rcases s.ackReceived_cases ackno windowSize with ⟨_, taken⟩ | ⟨_, ignored⟩
  · rw [taken]
    exact .inr (fillWindow_consecutiveRetransmissions _)
  · rw [ignored]
    exact .inl ⟨rfl, rfl⟩

theorem Timed.ackReceived (inv : s.Timed) (ackno : WrappingInt32) (windowSize : UInt16) :
    (s.ackReceived ackno windowSize).Timed := by
  rcases s.ackReceived_cases ackno windowSize with ⟨_, taken⟩ | ⟨_, ignored⟩
  · rw [taken]
    generalize ({ s with windowSize } : TCPSender).acknowledge
      (unwrap ackno s.isn s.previousAckno) = s'
    refine ⟨?_, fun unsent => absurd unsent s'.fillWindow_started⟩
    intro running
    refine .inl fun empty => ?_
    have empty : s'.fillWindow.outstandingSegments = [] := empty
    simp [restartTimer, empty, RetransmissionTimer.stop] at running
  · rw [ignored]
    exact inv.congr rfl rfl rfl

theorem CountsOutstanding.ackReceived (inv : s.CountsOutstanding) (ackno : WrappingInt32)
    (windowSize : UInt16) : (s.ackReceived ackno windowSize).CountsOutstanding := by
  rcases s.ackReceived_cases ackno windowSize with ⟨_, taken⟩ | ⟨_, ignored⟩
  · rw [taken]
    exact fun _ => fillWindow_consecutiveRetransmissions _
  · rw [ignored]
    exact inv.congr rfl rfl

theorem Timed.tick (inv : s.Timed) (ms : ℕ) : (s.tick ms).Timed := by
  refine ⟨?_, ?_⟩
  · rw [tick_isRunning, tick_outstandingSegments, tick_nextSeqno]
    exact inv.running
  · rw [tick_nextSeqno, tick_outstandingSegments]
    exact inv.unsent

/-- A tick keeps the count right unless the timer expires before the SYN. -/
theorem CountsOutstanding.tick (inv : s.CountsOutstanding) (timed : s.Timed) {ms : ℕ}
    (patient : s.nextSeqno = 0 → s.windowSize ≠ 0 → s.retxTimer.expires ms = false) :
    (s.tick ms).CountsOutstanding := by
  rw [CountsOutstanding, tick_outstandingSegments, tick_consecutiveRetransmissions]
  intro empty
  rw [if_neg ?_, inv empty]
  rintro ⟨expires, nonzero⟩
  have running : s.retxTimer.isRunning = true := (Bool.and_eq_true_iff.mp expires).1
  rcases timed.running running with some | unsent
  · exact some empty
  · rw [patient unsent nonzero] at expires
    contradiction

/-- The timer does not expire before the SYN, unless the window is zero. -/
def PatientBeforeSyn (s : TCPSender) : Op → Prop
  | .tick ms => s.nextSeqno = 0 → s.windowSize ≠ 0 → s.retxTimer.expires ms = false
  | _ => True

instance (s : TCPSender) (op : Op) : Decidable (s.PatientBeforeSyn op) :=
  match op with
  | .tick _ => inferInstanceAs (Decidable (_ → _ → _))
  | .write _ | .endInput | .setError | .fillWindow | .ackReceived _ _ | .sendEmptySegment
  | .popSegment => .isTrue trivial

theorem Timed.apply (s : TCPSender) (op : Op) (inv : s.Timed) : (s.apply op).Timed := by
  cases op with
  | fillWindow => exact inv.fillWindow
  | ackReceived ackno windowSize => exact inv.ackReceived ackno windowSize
  | tick ms => exact inv.tick ms
  | _ => exact inv.congr rfl rfl rfl

theorem CountsOutstanding.apply (s : TCPSender) (op : Op) (timed : s.Timed)
    (inv : s.CountsOutstanding) (patient : s.PatientBeforeSyn op) :
    (s.apply op).CountsOutstanding := by
  cases op with
  | fillWindow => exact inv.fillWindow
  | ackReceived ackno windowSize => exact inv.ackReceived ackno windowSize
  | tick ms => exact inv.tick timed patient
  | _ => exact inv.congr rfl rfl

/-- Only a tick counts up, and the count starts again when new data is
acknowledged. -/
theorem apply_consecutiveRetransmissions (s : TCPSender) (op : Op) (noTick : ∀ ms, op ≠ .tick ms) :
    ((s.apply op).consecutiveRetransmissions = s.consecutiveRetransmissions ∧
      (s.apply op).previousAckno = s.previousAckno) ∨
    (s.apply op).consecutiveRetransmissions = 0 := by
  cases op with
  | fillWindow =>
      exact .inl ⟨fillWindow_consecutiveRetransmissions s, fillWindow_previousAckno s⟩
  | ackReceived ackno windowSize => exact ackReceived_consecutiveRetransmissions s ackno windowSize
  | tick ms => exact absurd rfl (noTick ms)
  | _ => exact .inl ⟨rfl, rfl⟩

end Sponge.TCPSender
