import Sponge.TCPConnection.Death
import Sponge.TCPReceiver.Reception
import Sponge.TCPSender.Finished
import Sponge.TCPSender.Retransmission

/-!
# Giving up

`tick` resets the connection when there were too many consecutive
retransmissions.  A trace records how often the oldest outstanding segment was
really put on the wire again since new data was last acknowledged, and whether
the timer has since expired before there was anything to send again.
-/

namespace Sponge.TCPConnection

open Lib
open TCPSender (Op)

/-- How often does a segment occur in a list, whatever the receiver stamped on it? -/
def copies (segments : List TCPSegment) : Option TCPSegment → ℕ
  | some seg => (segments.map unstamped).count (unstamped seg)
  | none => 0

/-- The timer does not expire before the SYN, unless the window is zero. -/
def PatientBeforeSyn (c : TCPConnection) : Call → Prop
  | .tick ms => c.sender.PatientBeforeSyn (.tick ms)
  | _ => True

instance (c : TCPConnection) (call : Call) : Decidable (c.PatientBeforeSyn call) :=
  match call with
  | .tick ms => inferInstanceAs (Decidable (c.sender.PatientBeforeSyn (.tick ms)))
  | .connect | .write _ | .endInputStream | .segmentReceived _ | .readInbound _ | .popSegment =>
      .isTrue trivial

/-- A connection, and what has happened since new data was last acknowledged. -/
structure Trace where
  conn : TCPConnection
  /-- How often has a tick put the oldest outstanding segment on the wire again? -/
  resent : ℕ := 0
  /-- Has the timer expired before the SYN? -/
  expiredEarly : Bool := false

namespace Trace

def apply (t : Trace) (call : Call) : Trace where
  conn := t.conn.apply call
  resent :=
    if t.conn.sender.previousAckno < (t.conn.apply call).sender.previousAckno then 0
    else
      match call with
      | .tick ms =>
          t.resent + copies (t.conn.appended (.tick ms)) t.conn.sender.outstandingSegments.head?
      | _ => t.resent
  expiredEarly :=
    if t.conn.sender.previousAckno < (t.conn.apply call).sender.previousAckno then false
    else t.expiredEarly || !decide (t.conn.PatientBeforeSyn call)

/-- The invariant of a trace. -/
structure Counted (t : Trace) : Prop where
  drained : t.conn.sender.segmentsOut = []
  opened : t.conn.receiver.Opened
  timed : t.conn.sender.Timed
  limited : t.conn.sender.stream.error = false →
    t.conn.sender.consecutiveRetransmissions ≤ TCPConfig.maxRetxAttempts
  idle : t.expiredEarly = false → t.conn.sender.CountsOutstanding
  counted : t.expiredEarly = false →
    min t.conn.sender.consecutiveRetransmissions TCPConfig.maxRetxAttempts ≤ t.resent

end Trace

theorem timed_apply {c : TCPConnection} (drained : c.sender.segmentsOut = [])
    (timed : c.sender.Timed) (call : Call) : (c.apply call).sender.Timed :=
  sender_invariant TCPSender.Timed (fun _ _ => True) drained (fun _ _ _ => trivial)
    (fun _ _ => trivial) timed fun s op inv _ => inv.apply s op

theorem countsOutstanding_apply {c : TCPConnection} (drained : c.sender.segmentsOut = [])
    (timed : c.sender.Timed) (idle : c.sender.CountsOutstanding) {call : Call}
    (patient : c.PatientBeforeSyn call) : (c.apply call).sender.CountsOutstanding := by
  have both : (c.apply call).sender.Timed ∧ (c.apply call).sender.CountsOutstanding := by
    refine sender_invariant (fun s => s.Timed ∧ s.CountsOutstanding) TCPSender.PatientBeforeSyn
      drained ?_ ?_ ⟨timed, idle⟩ ?_
    · intro s op routine
      cases routine <;> trivial
    · intro op first
      cases call with
      | tick ms =>
          cases first
          exact patient
      | _ => cases first <;> trivial
    · intro s op known patient
      exact ⟨known.1.apply s op, known.2.apply s op known.1 patient⟩
  exact both.2

/-- An error of the outbound stream stays. -/
theorem noError_of_apply {c : TCPConnection} (drained : c.sender.segmentsOut = []) {call : Call}
    (noError : (c.apply call).sender.stream.error = false) : c.sender.stream.error = false := by
  by_contra failed
  have error := sender_invariant (fun s => s.stream.error = true) (fun _ _ => True) drained
    (fun _ _ _ => trivial) (fun op (_ : op ∈ call.senderOp) => trivial)
    (Bool.eq_true_of_not_eq_false failed) fun s op error _ => s.error_apply op error
  rw [noError] at error
  contradiction

theorem opened_apply {c : TCPConnection} (opened : c.receiver.Opened) (call : Call) :
    (c.apply call).receiver.Opened := by
  refine receiver_invariant TCPReceiver.Opened call opened (fun _ => id) ?_
    fun _ seg opened => opened.segmentReceived seg
  intro r len opened
  rw [TCPReceiver.Opened, TCPReceiver.withStreamOut_streamOut, ByteStream.popOutput_inputEnded]
  exact opened

theorem tick_sender_frame {c : TCPConnection} (drained : c.sender.segmentsOut = []) (ms : ℕ) :
    (c.apply (.tick ms)).sender.consecutiveRetransmissions =
      (c.sender.tick ms).consecutiveRetransmissions ∧
    (c.apply (.tick ms)).sender.previousAckno = c.sender.previousAckno := by
  rw [sender_apply drained, afterMethods, methodOps]
  cases c.givesUp ms <;> exact ⟨rfl, c.sender.tick_previousAckno ms⟩

theorem consecutiveRetransmissions_apply {c : TCPConnection} (drained : c.sender.segmentsOut = [])
    {call : Call} (noTick : ∀ ms, call ≠ .tick ms) :
    ((c.apply call).sender.consecutiveRetransmissions = c.sender.consecutiveRetransmissions ∧
      (c.apply call).sender.previousAckno = c.sender.previousAckno) ∨
    (c.apply call).sender.consecutiveRetransmissions = 0 := by
  refine sender_invariant
    (fun s => (s.consecutiveRetransmissions = c.sender.consecutiveRetransmissions ∧
      s.previousAckno = c.sender.previousAckno) ∨ s.consecutiveRetransmissions = 0)
    (fun _ op => ∀ ms, op ≠ .tick ms) drained ?_ ?_ (.inl ⟨rfl, rfl⟩) ?_
  · intro s op routine
    cases routine <;> exact fun ms => Op.noConfusion
  · intro op first
    cases call with
    | tick ms => exact absurd rfl (noTick ms)
    | _ => cases first <;> exact fun ms => Op.noConfusion
  · intro s op known quiet
    rcases s.apply_consecutiveRetransmissions op quiet with ⟨count, acked⟩ | reset
    · rw [count, acked]
      exact known
    · exact .inr reset

/-- The oldest outstanding segment is put on the wire by a tick on which the
timer expires, unless the connection gives up. -/
theorem copies_appended {c : TCPConnection} (drained : c.sender.segmentsOut = []) {ms : ℕ}
    (persists : c.givesUp ms = false) (expires : c.sender.retxTimer.expires ms = true)
    {oldest : TCPSegment} (isOldest : c.sender.outstandingSegments.head? = some oldest) :
    copies (c.appended (.tick ms)) (some oldest) = 1 := by
  rw [appended_eq drained, emitted_tick drained persists, expires, if_pos rfl,
    isOldest]
  simp [copies]

theorem Trace.Counted.tick {t : Trace} (inv : t.Counted) (onTime : t.expiredEarly = false)
    {ms : ℕ} (patient : t.conn.PatientBeforeSyn (.tick ms)) :
    min (t.conn.sender.tick ms).consecutiveRetransmissions TCPConfig.maxRetxAttempts ≤
      t.resent + copies (t.conn.appended (.tick ms)) t.conn.sender.outstandingSegments.head? := by
  have counted := inv.counted onTime
  have count := t.conn.sender.tick_consecutiveRetransmissions ms
  cases gives : t.conn.givesUp ms with
  | true =>
      have exceeded := of_decide_eq_true gives
      split_ifs at count with expired
      · have grown := Nat.mod_le (t.conn.sender.consecutiveRetransmissions + 1) (2 ^ 32)
        omega
      · omega
  | false =>
      split_ifs at count with expired
      · have running : t.conn.sender.retxTimer.isRunning = true :=
          (Bool.and_eq_true_iff.mp expired.1).1
        have outstanding : t.conn.sender.outstandingSegments ≠ [] := by
          rcases inv.timed.running running with some | unsent
          · exact some
          · have calm := patient unsent expired.2
            rw [expired.1] at calm
            contradiction
        obtain ⟨oldest, rest, queue⟩ := List.exists_cons_of_ne_nil outstanding
        have isOldest : t.conn.sender.outstandingSegments.head? = some oldest := by
          rw [queue, List.head?_cons]
        have grown := Nat.mod_le (t.conn.sender.consecutiveRetransmissions + 1) (2 ^ 32)
        rw [isOldest, copies_appended inv.drained gives expired.1 isOldest]
        omega
      · omega

/-- The count exceeds the limit only together with an error. -/
theorem Trace.Counted.limited_apply {t : Trace} (inv : t.Counted) (call : Call)
    (noError : (t.conn.apply call).sender.stream.error = false) :
    (t.conn.apply call).sender.consecutiveRetransmissions ≤ TCPConfig.maxRetxAttempts := by
  rcases em (∃ ms, call = .tick ms) with ⟨ms, rfl⟩ | noTick
  · rw [(tick_sender_frame inv.drained ms).1]
    cases gives : t.conn.givesUp ms with
    | true =>
        rw [sender_apply inv.drained, afterMethods, methodOps, gives] at noError
        contradiction
    | false => exact Nat.not_lt.mp (of_decide_eq_false gives)
  · have limited := inv.limited (noError_of_apply inv.drained noError)
    rcases consecutiveRetransmissions_apply inv.drained (not_exists.mp noTick) with
      ⟨count, _⟩ | reset <;> omega

theorem count_reset {c : TCPConnection} (drained : c.sender.segmentsOut = []) {call : Call}
    (acked : c.sender.previousAckno < (c.apply call).sender.previousAckno) :
    (c.apply call).sender.consecutiveRetransmissions = 0 := by
  rcases em (∃ ms, call = .tick ms) with ⟨ms, rfl⟩ | noTick
  · rw [(tick_sender_frame drained ms).2] at acked
    exact absurd acked (Nat.lt_irrefl _)
  · rcases consecutiveRetransmissions_apply drained (not_exists.mp noTick) with ⟨_, same⟩ | reset
    · omega
    · exact reset

theorem Trace.Counted.counted_apply {t : Trace} (inv : t.Counted)
    (onTime : t.expiredEarly = false) {call : Call} (patient : t.conn.PatientBeforeSyn call) :
    min (t.conn.apply call).sender.consecutiveRetransmissions TCPConfig.maxRetxAttempts ≤
      (t.apply call).resent := by
  rcases em (∃ ms, call = .tick ms) with ⟨ms, rfl⟩ | noTick
  · obtain ⟨count, acked⟩ := tick_sender_frame inv.drained ms
    simpa [Trace.apply, count, acked] using inv.tick onTime patient
  · have counted := inv.counted onTime
    rcases consecutiveRetransmissions_apply inv.drained (not_exists.mp noTick) with
      ⟨count, acked⟩ | reset
    · cases call with
      | tick ms => exact absurd ⟨ms, rfl⟩ noTick
      | _ => simpa [Trace.apply, count, acked] using counted
    · simp [reset]

theorem Trace.Counted.apply (t : Trace) (call : Call) (inv : t.Counted) :
    (t.apply call).Counted := by
  have frame := And.intro (drained_apply inv.drained call) (opened_apply inv.opened call)
  have timed := timed_apply inv.drained inv.timed call
  by_cases acked : t.conn.sender.previousAckno < (t.conn.apply call).sender.previousAckno
  · -- the count starts again, so nothing has to have been sent again
    have reset := count_reset inv.drained acked
    refine ⟨frame.1, frame.2, timed, inv.limited_apply call, fun _ _ => reset, fun _ => ?_⟩
    simp [Trace.apply, reset]
  · have early (onTime : (t.apply call).expiredEarly = false) :
        t.expiredEarly = false ∧ t.conn.PatientBeforeSyn call := by
      simpa [Trace.apply, acked] using onTime
    refine ⟨frame.1, frame.2, timed, inv.limited_apply call, ?_, ?_⟩
    · intro onTime
      obtain ⟨before, patient⟩ := early onTime
      exact countsOutstanding_apply inv.drained inv.timed (inv.idle before) patient
    · intro onTime
      obtain ⟨before, patient⟩ := early onTime
      exact inv.counted_apply before patient

/-- What it takes to be in LISTEN. -/
theorem state_listen_iff (c : TCPConnection) :
    c.state = .ofState .listen ↔
      (c.sender.stream.error = false ∧ c.sender.nextSeqno = 0) ∧
      (c.receiver.streamOut.error = false ∧ c.receiver.isn = none) ∧
      c.isActive = true ∧ c.lingerAfterStreamsFinish = true := by
  have sender : TCPState.senderSummary c.sender = .closed ↔
      c.sender.stream.error = false ∧ c.sender.nextSeqno = 0 := by
    unfold TCPState.senderSummary
    split_ifs <;> simp_all
  have receiver : TCPState.receiverSummary c.receiver = .listen ↔
      c.receiver.streamOut.error = false ∧ c.receiver.isn = none := by
    unfold TCPState.receiverSummary TCPReceiver.ackno
    cases c.receiver.isn <;> split_ifs <;> simp_all
  rw [state, TCPState.ofParts, TCPState.ofState, TCPState.mk.injEq, sender, receiver, active]
  cases c.isActive <;> simp

theorem Trace.Counted.listen_tick {t : Trace} (inv : t.Counted)
    (listening : t.conn.state = .ofState .listen) {ms : ℕ}
    (patient : t.conn.PatientBeforeSyn (.tick ms)) :
    (t.conn.apply (.tick ms)).state = .ofState .listen := by
  obtain ⟨⟨sendError, unsent⟩, ⟨receiveError, noIsn⟩, active, linger⟩ :=
    (state_listen_iff _).mp listening
  have count : (t.conn.sender.tick ms).consecutiveRetransmissions =
      t.conn.sender.consecutiveRetransmissions := by
    rw [TCPSender.tick_consecutiveRetransmissions, if_neg ?_]
    rintro ⟨expires, nonzero⟩
    rw [patient unsent nonzero] at expires
    contradiction
  have persists : t.conn.givesUp ms = false := by
    rw [givesUp, count]
    exact decide_eq_false (Nat.not_lt.mpr (inv.limited sendError))
  have running : t.conn.receiver.streamOut.inputEnded = false := by
    cases ended : t.conn.receiver.streamOut.inputEnded with
    | false => rfl
    | true =>
        have some := inv.opened ended
        rw [noIsn] at some
        contradiction
  rw [TCPConnection.apply, tick_eq, persists]
  simp only [Bool.false_eq_true, if_false, flushSender_eq]
  rw [state_listen_iff]
  refine ⟨⟨?_, ?_⟩, ⟨receiveError, noIsn⟩, ?_, linger⟩
  · show (t.conn.sender.tick ms).stream.error = false
    rw [TCPSender.tick_stream]
    exact sendError
  · exact (t.conn.sender.tick_nextSeqno ms).trans unsent
  · simp [isDone, running, active]

theorem Trace.Counted.listen_ticks {t : Trace} (inv : t.Counted)
    (listening : t.conn.state = .ofState .listen) (ticks : List ℕ)
    (patient : Guarded TCPConnection.apply PatientBeforeSyn t.conn (ticks.map .tick)) :
    (run TCPConnection.apply t.conn (ticks.map .tick)).state = .ofState .listen := by
  induction ticks generalizing t with
  | nil => exact listening
  | cons ms rest inductionHypothesis =>
      exact inductionHypothesis (Trace.Counted.apply t (.tick ms) inv)
        (inv.listen_tick listening patient.1) patient.2

/-- A connection gives up only when its oldest outstanding segment was put on the
wire again as often as allowed since new data was last acknowledged, unless the
timer has since expired before the SYN.  A connection in LISTEN stays there while
only time passes and the timer does not expire. -/
theorem gives_up_after_retransmissions (cfg : TCPConfig) (random : UInt32) (calls : List Call) :
    let t := run Trace.apply { conn := new cfg random } calls
    t.conn = run apply (new cfg random) calls ∧
    (t.expiredEarly = false → ∀ ms,
      TCPConfig.maxRetxAttempts < (t.conn.tick ms).sender.consecutiveRetransmissions →
      t.conn.sender.outstandingSegments ≠ [] ∧ TCPConfig.maxRetxAttempts ≤ t.resent) ∧
    (t.conn.state = .ofState .listen → ∀ ticks : List ℕ,
      Guarded apply PatientBeforeSyn t.conn (ticks.map .tick) →
      (run apply t.conn (ticks.map .tick)).state = .ofState .listen) := by
  intro t
  have view : t.conn = run apply (new cfg random) calls := run_view (fun _ _ => rfl) _ calls
  have inv : t.Counted := by
    refine run_invariant Trace.Counted calls ?_ Trace.Counted.apply
    exact ⟨rfl, nofun, TCPSender.timed_new _ _ _ _, fun _ => Nat.zero_le _, fun _ _ => rfl,
      fun _ => Nat.le_refl _⟩
  refine ⟨view, ?_, inv.listen_ticks⟩
  intro onTime ms exceeded
  have counted := inv.counted onTime
  have count := t.conn.sender.tick_consecutiveRetransmissions ms
  have same := (tick_sender_frame inv.drained ms).1
  rw [TCPConnection.apply] at same
  rw [same, count] at exceeded
  have many : TCPConfig.maxRetxAttempts ≤ t.conn.sender.consecutiveRetransmissions := by
    split_ifs at exceeded
    · have grown := Nat.mod_le (t.conn.sender.consecutiveRetransmissions + 1) (2 ^ 32)
      omega
    · exact Nat.le_of_lt exceeded
  refine ⟨?_, by omega⟩
  intro empty
  rw [inv.idle onTime empty] at many
  contradiction

/-- A connection that has sent nothing gives up after nine timeouts, and one
whose SYN is lost after only eight retransmissions. -/
theorem gives_up_too_early :
    let listening := run Trace.apply { conn := new {} 0 } (List.replicate 8 (.tick 1000000))
    let connecting := run Trace.apply { conn := new {} 0 }
      (.connect :: List.replicate 8 (.tick 1000000))
    (listening.conn.state = .ofState .listen ∧
      (listening.conn.tick 1000000).sender.consecutiveRetransmissions >
        TCPConfig.maxRetxAttempts ∧
      (listening.conn.tick 1000000).state = .ofState .reset ∧
      listening.conn.sender.outstandingSegments = []) ∧
    (connecting.conn.tick 1000000).sender.consecutiveRetransmissions >
      TCPConfig.maxRetxAttempts ∧ ¬ connecting.resent > TCPConfig.maxRetxAttempts := by
  decide

/-- The timer of a listening connection expires.  Later its peer acknowledges the
SYN and falls silent. -/
def silentPeer : List Call :=
  [.tick 1000000, .segmentReceived { header := { syn := true } },
    .segmentReceived { header := { seqno := ⟨1⟩, ack := true, ackno := ⟨1⟩, win := 1000 } },
    .write [97]] ++ List.replicate 8 (.tick 1000000)

theorem gives_up_after_retransmissions_silent_peer :
    let t := run Trace.apply { conn := new {} 0 } silentPeer
    (t.conn.tick 1000000).active = false ∧ t.conn.sender.outstandingSegments ≠ [] ∧
      TCPConfig.maxRetxAttempts ≤ t.resent :=
  have retransmitted := gives_up_after_retransmissions {} 0 silentPeer
  ⟨by decide +kernel, retransmitted.2.1 (by decide +kernel) 1000000 (by decide +kernel)⟩

end Sponge.TCPConnection
