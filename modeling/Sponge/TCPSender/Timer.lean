import Sponge.TCPSender.Progress

/-!
# The retransmission timer

The timer is started, stopped, doubled and reset by three methods, some of them
several times in one call.  Each of these operations keeps one relation between
the timer and the count of consecutive retransmissions.
-/

namespace Sponge

open Lib

namespace RetransmissionTimer

/-- The timer after `count` retransmissions in a row, when it was set up with
`timeout`. -/
structure BackedOff (timeout count : ℕ) (timer : RetransmissionTimer) : Prop where
  initRto : timer.initRto = timeout
  elapsed : timeout * 2 ^ count < 2 ^ 64 →
    timer.rto = timeout * 2 ^ count ∧ timer.t < timer.rto

variable {timeout count : ℕ} {timer : RetransmissionTimer}

theorem backedOff_new {retxTimeout : UInt16} (positive : 1 ≤ retxTimeout.toNat) :
    (new retxTimeout).BackedOff retxTimeout.toNat 0 := by
  refine ⟨rfl, fun _ => ⟨?_, positive⟩⟩
  rw [Nat.pow_zero, Nat.mul_one]
  rfl

theorem BackedOff.stop (inv : timer.BackedOff timeout count) :
    timer.stop.BackedOff timeout count := by
  refine ⟨inv.initRto, fun bounded => ?_⟩
  obtain ⟨rto, below⟩ := inv.elapsed bounded
  exact ⟨rto, Nat.zero_lt_of_lt below⟩

theorem BackedOff.start (inv : timer.BackedOff timeout count) :
    timer.start.BackedOff timeout count := by
  refine ⟨inv.initRto, fun bounded => ?_⟩
  obtain ⟨rto, below⟩ := inv.elapsed bounded
  refine ⟨rto, ?_⟩
  simp only [RetransmissionTimer.start]
  split
  · exact below
  · exact Nat.zero_lt_of_lt below

theorem BackedOff.tick (inv : timer.BackedOff timeout count) (ms : ℕ) :
    (timer.tick ms).1.BackedOff timeout count := by
  unfold RetransmissionTimer.tick
  split
  next running =>
      refine ⟨inv.initRto, fun bounded => ?_⟩
      obtain ⟨rto, below⟩ := inv.elapsed bounded
      refine ⟨rto, ?_⟩
      show (if timer.expires ms then 0 else Word.add 64 timer.t ms) < timer.rto
      split
      next => exact Nat.zero_lt_of_lt below
      next waits =>
          rw [expires, running, Bool.true_and, decide_eq_true_eq] at waits
          exact Nat.lt_of_not_le waits
  next => exact inv

theorem BackedOff.doubleRto (inv : timer.BackedOff timeout count) :
    timer.doubleRto.BackedOff timeout (count + 1) := by
  refine ⟨inv.initRto, fun bounded => ?_⟩
  rw [Nat.pow_succ, ← Nat.mul_assoc] at bounded ⊢
  obtain ⟨rto, below⟩ := inv.elapsed (by omega)
  have doubled : timer.doubleRto.rto = timeout * 2 ^ count * 2 := by
    rw [RetransmissionTimer.doubleRto, rto, Nat.mod_eq_of_lt bounded]
  refine ⟨doubled, ?_⟩
  rw [doubled]
  show timer.t < _
  omega

/-- Setting the RTO back restarts the relation, once the timer is stopped. -/
theorem BackedOff.setRtoInit (inv : timer.BackedOff timeout count) (positive : 1 ≤ timeout) :
    timer.setRtoInit.stop.BackedOff timeout 0 := by
  refine ⟨inv.initRto, fun _ => ?_⟩
  rw [Nat.pow_zero, Nat.mul_one]
  refine ⟨inv.initRto, ?_⟩
  show 0 < timer.initRto
  rw [inv.initRto]
  exact positive

end RetransmissionTimer

namespace TCPSender

variable {retxTimeout : UInt16} {s s' : TCPSender}

/-- The backoff still fits the 64 bits of the RTO. -/
def InRange (retxTimeout : UInt16) (s : TCPSender) : Prop :=
  retxTimeout.toNat * 2 ^ s.consecutiveRetransmissions < 2 ^ 64

instance (retxTimeout : UInt16) (s : TCPSender) : Decidable (s.InRange retxTimeout) :=
  inferInstanceAs (Decidable (_ < _))

/-- In range, the counter is far from the end of its type. -/
theorem InRange.counter (inRange : s.InRange retxTimeout) (positive : 1 ≤ retxTimeout.toNat) :
    s.consecutiveRetransmissions + 1 < 2 ^ 32 := by
  have power : 2 ^ s.consecutiveRetransmissions < 2 ^ 64 :=
    Nat.lt_of_le_of_lt (Nat.le_mul_of_pos_left _ positive) inRange
  have few := (Nat.pow_lt_pow_iff_right (Nat.one_lt_two)).mp power
  omega

structure Clocked (retxTimeout : UInt16) (s : TCPSender) : Prop where
  timer : s.retxTimer.BackedOff retxTimeout.toNat s.consecutiveRetransmissions
  /-- Before the SYN, the timer runs from its construction on. -/
  running : s.nextSeqno ≠ 0 → (s.retxTimer.isRunning = true ↔ s.outstandingSegments ≠ [])

theorem clocked_new (capacity : ℕ) (positive : 1 ≤ retxTimeout.toNat)
    (fixedIsn : Option WrappingInt32) (random : UInt32) :
    (new capacity retxTimeout fixedIsn random).Clocked retxTimeout :=
  ⟨RetransmissionTimer.backedOff_new positive, fun started => absurd rfl started⟩

theorem Clocked.fillStep (step : FillStep s s') (inv : s.Clocked retxTimeout) :
    s'.Clocked retxTimeout := by
  have pushed (segments : List TCPSegment) (seg : TCPSegment) :
      s.retxTimer.start.isRunning = true ↔ segments ++ [seg] ≠ [] :=
    iff_of_true rfl (List.append_ne_nil_of_right_ne_nil _ (List.cons_ne_nil _ _))
  cases step with
  | syn => exact ⟨inv.timer.start, fun _ => pushed _ _⟩
  | fin => exact ⟨inv.timer.start, fun _ => pushed _ _⟩
  | data => exact ⟨inv.timer.start, fun _ => pushed _ _⟩
  | idle => exact ⟨inv.timer, inv.running⟩

/-- The timer is restarted three times while an acknowledgment is handled. -/
theorem Clocked.ackReceived (inv : s.Clocked retxTimeout) (positive : 1 ≤ retxTimeout.toNat)
    (ackno : WrappingInt32) (windowSize : UInt16) :
    (s.ackReceived ackno windowSize).Clocked retxTimeout := by
  rcases s.ackReceived_cases ackno windowSize with ⟨_, taken⟩ | ⟨_, ignored⟩
  · rw [taken]
    generalize acknowledged : ({ s with windowSize } : TCPSender).acknowledge
      (unwrap ackno s.isn s.previousAckno) = s'
    have reset : s'.retxTimer.BackedOff retxTimeout.toNat s'.consecutiveRetransmissions := by
      rw [← acknowledged]
      exact (inv.timer.setRtoInit positive).start
    have filled : s'.fillWindow.retxTimer.BackedOff retxTimeout.toNat
        s'.fillWindow.consecutiveRetransmissions := by
      apply fillWindow_invariant (fun s => s.retxTimer.BackedOff retxTimeout.toNat
        s.consecutiveRetransmissions) reset
      intro s s' step timer
      cases step with
      | idle => exact timer
      | _ => exact timer.start
    unfold restartTimer
    split
    next outstanding =>
        exact ⟨filled.stop.start, fun _ => iff_of_true rfl (List.length_pos_iff.mp outstanding)⟩
    next none =>
        refine ⟨filled.stop, fun _ => iff_of_false Bool.false_ne_true ?_⟩
        exact fun outstanding => none (List.length_pos_iff.mpr outstanding)
  · rw [ignored]
    exact ⟨inv.timer, inv.running⟩

theorem Clocked.tick (inv : s.Clocked retxTimeout) (ms : ℕ)
    (counter : s.consecutiveRetransmissions + 1 < 2 ^ 32) : (s.tick ms).Clocked retxTimeout := by
  refine ⟨?_, ?_⟩
  · rw [tick_consecutiveRetransmissions, Nat.mod_eq_of_lt counter, tick_eq]
    show (s.timerAfter ms).BackedOff _ _
    have ticked := inv.timer.tick ms
    unfold timerAfter
    by_cases expires : s.retxTimer.expires ms = true
    · by_cases closed : s.windowSize = 0
      · rw [if_pos expires, if_neg (not_not.mpr closed), if_neg (fun counts => counts.2 closed)]
        exact ticked.stop.start
      · rw [if_pos expires, if_pos closed, if_pos ⟨expires, closed⟩]
        exact ticked.doubleRto.stop.start
    · rw [if_neg expires, if_neg (fun counts => expires counts.1)]
      exact ticked
  · rw [tick_nextSeqno, tick_isRunning, tick_outstandingSegments]
    exact inv.running

theorem Clocked.apply (inv : s.Clocked retxTimeout) (positive : 1 ≤ retxTimeout.toNat) (op : Op)
    (counter : s.consecutiveRetransmissions + 1 < 2 ^ 32) : (s.apply op).Clocked retxTimeout := by
  cases op with
  | fillWindow =>
      exact fillWindow_invariant (Clocked retxTimeout) inv fun _ _ => Clocked.fillStep
  | ackReceived ackno windowSize => exact inv.ackReceived positive ackno windowSize
  | tick ms => exact inv.tick ms counter
  | _ => exact ⟨inv.timer, inv.running⟩

/-- The timer expires when its time reaches the RTO; the sum does not wrap here. -/
theorem expires_iff {timer : RetransmissionTimer} {ms : ℕ} (fits : timer.t + ms < 2 ^ 64) :
    timer.expires ms = true ↔ timer.isRunning = true ∧ timer.rto ≤ timer.t + ms := by
  rw [RetransmissionTimer.expires, Bool.and_eq_true, decide_eq_true_eq, Word.add,
    Nat.mod_eq_of_lt fits]

/-- What a tick leaves when the timer expires over an outstanding segment. -/
structure Retransmitted (s : TCPSender) (oldest : TCPSegment) (s' : TCPSender) : Prop where
  segmentsOut : s'.segmentsOut = s.segmentsOut ++ [oldest]
  outstandingSegments : s'.outstandingSegments = s.outstandingSegments
  restarted : s'.retxTimer.t = 0 ∧ s'.retxTimer.isRunning = true
  count : s'.consecutiveRetransmissions =
    if s.windowSize = 0 then s.consecutiveRetransmissions else s.consecutiveRetransmissions + 1

theorem retransmitted_tick {oldest : TCPSegment} {rest : List TCPSegment} {ms : ℕ}
    (outstanding : s.outstandingSegments = oldest :: rest)
    (expires : s.retxTimer.expires ms = true)
    (counter : s.consecutiveRetransmissions + 1 < 2 ^ 32) :
    s.Retransmitted oldest (s.tick ms) where
  segmentsOut := by
    rw [tick_segmentsOut, if_pos expires, outstanding]
    rfl
  outstandingSegments := s.tick_outstandingSegments ms
  restarted := by
    rw [tick_eq]
    show (s.timerAfter ms).t = 0 ∧ (s.timerAfter ms).isRunning = true
    rw [timerAfter, if_pos expires]
    exact ⟨rfl, rfl⟩
  count := by
    rw [tick_consecutiveRetransmissions, Nat.mod_eq_of_lt counter]
    by_cases closed : s.windowSize = 0
    · rw [if_neg (fun counts => counts.2 closed), if_pos closed]
    · rw [if_pos ⟨expires, closed⟩, if_neg closed]

/-- A tick sends something exactly when the timer expires. -/
theorem Clocked.tick_sends_iff (inv : s.Clocked retxTimeout) (started : s.nextSeqno ≠ 0) (ms : ℕ) :
    (s.tick ms).segmentsOut ≠ s.segmentsOut ↔ s.retxTimer.expires ms = true := by
  rw [tick_segmentsOut]
  constructor
  · intro sends
    by_contra waits
    rw [if_neg waits, List.append_nil] at sends
    exact sends rfl
  · intro expires
    have outstanding := (inv.running started).mp (Bool.and_eq_true_iff.mp expires).1
    obtain ⟨oldest, rest, outstanding⟩ := List.exists_cons_of_ne_nil outstanding
    rw [if_pos expires, outstanding]
    exact fun same => List.cons_ne_nil _ _ (List.append_right_eq_self.mp same)

/-- As long as the backoff is in range, the RTO is the timeout doubled once for
each consecutive retransmission, and the time since the last restart is below
it.  After the SYN the timer runs exactly while something is outstanding, and a
tick that reaches the RTO sends the oldest outstanding segment again.  A run may
also leave the range and come back to it by an acknowledgment, unless the
counter overflows on the way. -/
theorem timer_invariants (capacity : ℕ) (retxTimeout : UInt16) (positive : 1 ≤ retxTimeout.toNat)
    (fixedIsn : Option WrappingInt32) (random : UInt32) (ops : List Op)
    (asLongAs : Guarded apply
      (fun s _ => s.InRange retxTimeout ∨ s.consecutiveRetransmissions + 1 < 2 ^ 32)
      (new capacity retxTimeout fixedIsn random) ops) :
    let s := run apply (new capacity retxTimeout fixedIsn random) ops
    (s.InRange retxTimeout →
      s.retxTimer.rto = retxTimeout.toNat * 2 ^ s.consecutiveRetransmissions ∧
      s.retxTimer.t < s.retxTimer.rto) ∧
    (s.nextSeqno ≠ 0 → (s.retxTimer.isRunning = true ↔ s.outstandingSegments ≠ [])) ∧
    (s.nextSeqno ≠ 0 → s.InRange retxTimeout → ∀ ms, s.retxTimer.t + ms < 2 ^ 64 →
      ((s.tick ms).segmentsOut ≠ s.segmentsOut ↔
        s.retxTimer.isRunning = true ∧ s.retxTimer.rto ≤ s.retxTimer.t + ms) ∧
      (s.retxTimer.isRunning = true → s.retxTimer.rto ≤ s.retxTimer.t + ms →
        ∃ oldest rest, s.outstandingSegments = oldest :: rest ∧
          s.Retransmitted oldest (s.tick ms))) := by
  intro s
  have inv : s.Clocked retxTimeout := by
    refine asLongAs.invariant (Clocked retxTimeout) (clocked_new capacity positive fixedIsn random) ?_
    intro s op inv condition
    exact inv.apply positive op (condition.elim (fun inRange => inRange.counter positive) id)
  refine ⟨inv.timer.elapsed, inv.running, ?_⟩
  intro started inRange ms fits
  rw [inv.tick_sends_iff started, expires_iff fits]
  refine ⟨Iff.rfl, ?_⟩
  intro running reached
  obtain ⟨oldest, rest, outstanding⟩ :=
    List.exists_cons_of_ne_nil ((inv.running started).mp running)
  refine ⟨oldest, rest, outstanding, ?_⟩
  exact retransmitted_tick outstanding ((expires_iff fits).mpr ⟨running, reached⟩)
    (inRange.counter positive)

/-- The SYN has been sent three times. -/
theorem timer_invariants_backoff :
    let ops : List Op := [.fillWindow, .tick 1000, .tick 2000, .tick 3999]
    let s := run apply (new 10 1000 (some ⟨0⟩) 0) ops
    s.consecutiveRetransmissions = 2 ∧ s.retxTimer.rto = 1000 * 2 ^ 2 ∧
      s.tick 0 = s ∧ (s.tick 1).segmentsOut ≠ s.segmentsOut := by
  have general := timer_invariants 10 1000 (by decide) (some ⟨0⟩) 0
    [.fillWindow, .tick 1000, .tick 2000, .tick 3999] (by decide)
  refine ⟨by decide, (general.1 (by decide)).1, by decide, ?_⟩
  exact ((general.2.2 (by decide) (by decide) 1 (by decide)).1).mpr (by decide)

end TCPSender

end Sponge
