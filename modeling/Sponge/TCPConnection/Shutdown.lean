import Sponge.TCPConnection.GivingUp
import Sponge.TCPSender.Finished

/-!
# Clean shutdown

Without resets a connection becomes inactive in two places: when a segment
acknowledges the FIN of the side that closed last, and when a tick finds that
everything is done.  Both believe the connection's own flags, and these are
right as long as a segment without the ACK flag does not look like an
acknowledgment of the FIN.
-/

namespace Sponge.TCPConnection

open Lib
open TCPSender (Op)

/-- No reset is received, and none is on the outbound queue afterwards. -/
def WithoutReset (c : TCPConnection) (call : Call) : Prop :=
  call.carriesRst = false ∧ ∀ seg ∈ (c.apply call).segmentsOut, seg.header.rst = false

instance (c : TCPConnection) (call : Call) : Decidable (c.WithoutReset call) :=
  inferInstanceAs (Decidable (_ ∧ _))

/-- The application does not write after the end of its stream, and segments
arrive while fewer than `2^31` sequence numbers are outstanding. -/
def Bounded (c : TCPConnection) : Call → Prop
  | .write _ => c.sender.stream.inputEnded = false
  | .segmentReceived _ => c.bytesInFlight < 2 ^ 31
  | _ => True

instance (c : TCPConnection) (call : Call) : Decidable (c.Bounded call) :=
  match call with
  | .write _ => inferInstanceAs (Decidable (_ = _))
  | .segmentReceived _ => inferInstanceAs (Decidable (_ < _))
  | .connect | .endInputStream | .tick _ | .readInbound _ | .popSegment => .isTrue trivial

/-- The application does not write after the end of its stream, fewer than
`2^31` sequence numbers are in flight, and no segment without the ACK flag
carries the number that would acknowledge the FIN while it is in flight. -/
def Orderly (c : TCPConnection) : Call → Prop
  | .write _ => c.sender.stream.inputEnded = false
  | .segmentReceived seg =>
      c.bytesInFlight < 2 ^ 31 ∧
        (seg.header.ack = false → c.isFinSent = true → c.bytesInFlight ≠ 0 →
          seg.header.ackno ≠ c.sender.relativeNextSeqno)
  | _ => True

instance (c : TCPConnection) (call : Call) : Decidable (c.Orderly call) :=
  match call with
  | .write _ => inferInstanceAs (Decidable (_ = _))
  | .segmentReceived _ => inferInstanceAs (Decidable (_ ∧ (_ → _ → _ → _)))
  | .connect | .endInputStream | .tick _ | .readInbound _ | .popSegment => .isTrue trivial

/-- The time of all ticks since a segment last arrived. -/
def elapsed (sum : ℕ) : Call → ℕ
  | .tick ms => sum + ms
  | .segmentReceived _ => 0
  | _ => sum

/-- The connection's flags mean what they say. -/
structure Faithful (c : TCPConnection) : Prop where
  drained : c.sender.segmentsOut = []
  opened : c.receiver.Opened
  sendError : c.sender.stream.error = false
  receiveError : c.receiver.streamOut.error = false
  sound : c.sender.Sound
  finSent : c.isFinSent = true → c.sender.isFinSent = true
  finAcked : c.isFinAcked = true → c.isFinSent = true ∧ c.sender.Finished
  closedSecond : c.lingerAfterStreamsFinish = false → c.receiver.streamOut.inputEnded = true

theorem faithful_new {cfg : TCPConfig} (representable : cfg.sendCapacity < 2 ^ 64)
    (random : UInt32) : (new cfg random).Faithful :=
  ⟨rfl, nofun, rfl, rfl, TCPSender.sound_new representable _ _ _, nofun, nofun, nofun⟩

variable {c : TCPConnection}

theorem persists_of_withoutReset (drained : c.sender.segmentsOut = []) {ms : ℕ}
    (noReset : c.WithoutReset (.tick ms)) : c.givesUp ms = false := by
  cases gives : c.givesUp ms with
  | false => rfl
  | true =>
      have reset := noReset.2 (rstSegment (c.afterMethods (.tick ms))) (by
        rw [segmentsOut_apply drained Call.noConfusion, emitted, Call.givesUp, gives, if_pos rfl]
        exact List.mem_append_right _ (List.mem_singleton.mpr rfl))
      contradiction

theorem Bounded.careful {call : Call} (bounded : c.Bounded call) :
    ∀ op ∈ call.senderOp, c.sender.Careful op := by
  intro op first
  cases call with
  | write data =>
      cases first
      exact bounded
  | segmentReceived seg =>
      cases first
      exact bounded
  | _ => cases first <;> trivial

theorem Orderly.bounded {call : Call} (orderly : c.Orderly call) : c.Bounded call := by
  cases call with
  | write data => exact orderly
  | segmentReceived seg => exact orderly.1
  | _ => trivial

theorem Orderly.careful {call : Call} (orderly : c.Orderly call) :
    ∀ op ∈ call.senderOp, c.sender.Careful op := orderly.bounded.careful

theorem careful_of_routine {resets : Bool} (s : TCPSender) (op : Op) (routine : Routine resets op) :
    s.Careful op := by
  cases routine <;> trivial

theorem Faithful.methods_sound (inv : c.Faithful) {call : Call} (orderly : c.Orderly call) :
    (c.afterMethods call).Sound :=
  (methodOps_guarded careful_of_routine orderly.careful).invariant TCPSender.Sound inv.sound
    TCPSender.Sound.apply

theorem Faithful.sender_sound (inv : c.Faithful) {call : Call} (orderly : c.Orderly call) :
    (c.apply call).sender.Sound :=
  sender_invariant TCPSender.Sound TCPSender.Careful inv.drained careful_of_routine
    orderly.careful inv.sound TCPSender.Sound.apply

/-- Once the FIN is acknowledged, every call leaves it so. -/
theorem Faithful.sender_finished (inv : c.Faithful) {call : Call} (orderly : c.Orderly call)
    (finished : c.sender.Finished) : (c.apply call).sender.Finished := by
  have both : (c.apply call).sender.Sound ∧ (c.apply call).sender.Finished := by
    refine sender_invariant (fun s => s.Sound ∧ s.Finished) TCPSender.Careful inv.drained
      careful_of_routine orderly.careful ⟨inv.sound, finished⟩ ?_
    intro s op known careful
    exact ⟨TCPSender.Sound.apply s op known.1 careful, .apply s op known.1 known.2⟩
  exact both.2

theorem sender_error_apply (drained : c.sender.segmentsOut = []) {call : Call}
    (calm : call.resets c = false) :
    (c.apply call).sender.stream.error = c.sender.stream.error := by
  refine sender_invariant (fun s => s.stream.error = c.sender.stream.error)
    (fun _ op => op ≠ .setError) drained ?_ ?_ rfl ?_
  · intro s op routine
    cases routine with
    | setError reset =>
        rw [calm] at reset
        contradiction
    | _ => exact Op.noConfusion
  · intro op first
    cases call <;> cases first <;> exact Op.noConfusion
  · intro s op known noError
    exact (s.apply_error noError).trans known

theorem Faithful.sender_finSent (inv : c.Faithful) {call : Call} (orderly : c.Orderly call)
    (sent : (c.apply call).isFinSent = true) : (c.apply call).sender.isFinSent = true := by
  rw [isFinSent_apply inv.drained, Bool.or_eq_true_iff] at sent
  rcases sent with before | now
  · exact (later_apply inv.drained call).finSent (inv.finSent before)
  · obtain ⟨seg, membership, fin⟩ := List.any_eq_true.mp now
    rw [sender_apply inv.drained]
    obtain ⟨accepted, filled, segmented⟩ := (inv.methods_sound orderly).segmented
    rw [emitted] at membership
    split at membership
    · rw [List.mem_singleton.mp membership] at fin
      contradiction
    · obtain ⟨queued, waiting, rfl⟩ := List.mem_map.mp membership
      rw [stamp_fin] at fin
      rcases segmented.queued queued waiting with known | nothing
      · exact segmented.finSent.trans (List.any_eq_true.mpr ⟨queued, known, fin⟩)
      · simp [TCPSegment.lengthInSequenceSpace, fin] at nothing

theorem inputEnded_apply (ended : c.receiver.streamOut.inputEnded = true) (call : Call) :
    (c.apply call).receiver.streamOut.inputEnded = true := by
  refine receiver_invariant (fun r => r.streamOut.inputEnded = true) call ended (fun _ => id) ?_
    fun _ seg ended => TCPReceiver.segmentReceived_inputEnded ended seg
  intro r len ended
  rw [TCPReceiver.withStreamOut_streamOut, ByteStream.popOutput_inputEnded]
  exact ended

theorem receiver_error_apply {call : Call} (calm : call.resets c = false) :
    (c.apply call).receiver.streamOut.error = c.receiver.streamOut.error := by
  obtain ⟨noRst, persists⟩ := Bool.or_eq_false_iff.mp calm
  rw [receiver_apply]
  cases call with
  | segmentReceived seg =>
      rw [receiverAfter]
      rw [Call.carriesRst] at noRst
      rw [noRst, if_neg Bool.false_ne_true]
      split_ifs
      · exact TCPReceiver.segmentReceived_error _ seg
      · rfl
      · exact TCPReceiver.segmentReceived_error _ seg
  | tick ms =>
      rw [Call.givesUp] at persists
      rw [receiverAfter, persists, if_neg Bool.false_ne_true]
  | readInbound len =>
      rw [receiverAfter, TCPReceiver.withStreamOut_streamOut, ByteStream.popOutput_error]
  | _ => rfl

/-- Only a segment that reaches a live connection changes the two bits. -/
theorem bits_apply {call : Call} (quiet : ∀ seg, call = .segmentReceived seg → c.isActive = false) :
    (c.apply call).isFinAcked = c.isFinAcked ∧
      (c.apply call).lingerAfterStreamsFinish = c.lingerAfterStreamsFinish := by
  cases call with
  | segmentReceived seg =>
      rw [apply, segmentReceived_dead (quiet seg rfl)]
      exact ⟨rfl, rfl⟩
  | tick ms => exact (c.tick_frame ms).2
  | _ => exact (application_frame rfl).2

/-- Does the segment count as an acknowledgment of the FIN? -/
def acksFin (c : TCPConnection) (seg : TCPSegment) : Bool :=
  c.isFinSent && decide (seg.header.ackno =
    (run TCPSender.apply c.sender (c.processOps seg)).relativeNextSeqno)

theorem bits_segmentReceived {seg : TCPSegment} (active : c.isActive = true)
    (noRst : seg.header.rst = false) :
    (c.segmentReceived seg).isFinAcked = (c.isFinAcked || c.acksFin seg) ∧
    (c.segmentReceived seg).lingerAfterStreamsFinish = (c.lingerAfterStreamsFinish &&
      (c.isFinSent || !(c.receiver.segmentReceived seg).streamOut.inputEnded)) ∧
    (c.segmentReceived seg).isActive = !(c.acksFin seg && !c.lingerAfterStreamsFinish) := by
  rw [segmentReceived_live active noRst, flushSender_eq, acksFin]
  unfold updateShutdown
  simp only
  cases sent : c.isFinSent with
  | false => simp [active]
  | true =>
      simp only [if_true]
      split_ifs with last
      · simp [last, active]
      · simp [last, active]

/-- After the FIN nothing is left to do with a segment but to read its
acknowledgment. -/
theorem Faithful.processed_eq (inv : c.Faithful) {seg : TCPSegment}
    (few : c.bytesInFlight < 2 ^ 31) (sent : c.isFinSent = true) :
    run TCPSender.apply c.sender (c.processOps seg) =
      if seg.header.ack then c.sender.ackReceived seg.header.ackno seg.header.win
      else c.sender := by
  have finSent := inv.finSent sent
  have acked := TCPSender.Sound.apply c.sender
    (.ackReceived seg.header.ackno seg.header.win) inv.sound few
  have ackedIdle := acked.fillWindow_finSent ((c.sender.later_apply _).finSent finSent)
  have idle := inv.sound.fillWindow_finSent finSent
  rw [TCPSender.apply] at ackedIdle
  rw [processOps, run_append]
  cases seg.header.ack <;> cases (c.receiver.segmentReceived seg).ackno.isSome <;>
    simp [TCPSender.apply, idle, ackedIdle]

/-- A segment that counts as an acknowledgment of the FIN is one. -/
theorem Faithful.processed_finished (inv : c.Faithful) {seg : TCPSegment}
    (orderly : c.Orderly (.segmentReceived seg)) (acks : c.acksFin seg = true) :
    (run TCPSender.apply c.sender (c.processOps seg)).Finished := by
  obtain ⟨few, honest⟩ := orderly
  rw [acksFin, Bool.and_eq_true, decide_eq_true_eq] at acks
  obtain ⟨sent, last⟩ := acks
  have finSent := inv.finSent sent
  rw [inv.processed_eq few sent] at last ⊢
  cases ack : seg.header.ack with
  | false =>
      rw [ack, if_neg Bool.false_ne_true] at last
      refine ⟨finSent, ?_⟩
      by_contra inFlight
      exact honest ack sent inFlight last
  | true =>
      rw [ack, if_pos rfl, inv.sound.ackReceived_relativeNextSeqno finSent few] at last
      exact inv.sound.ackReceived_finished finSent few last seg.header.win

theorem Faithful.acksFin_finished (inv : c.Faithful) {seg : TCPSegment} (active : c.isActive = true)
    (noRst : seg.header.rst = false) (orderly : c.Orderly (.segmentReceived seg))
    (acks : c.acksFin seg = true) : (c.apply (.segmentReceived seg)).sender.Finished := by
  have processed := inv.processed_finished orderly acks
  have guarded : Guarded TCPSender.apply TCPSender.Careful c.sender
      (c.methodOps (.segmentReceived seg)) :=
    methodOps_guarded careful_of_routine orderly.careful
  rw [sender_apply inv.drained, afterMethods, methodOps, active, noRst]
  rw [methodOps, active, noRst] at guarded
  simp only [Bool.not_true, Bool.false_eq_true, if_false, run_append] at guarded ⊢
  obtain ⟨processing, replying⟩ := (guarded_append _ _ _).mp guarded
  have sound := processing.invariant TCPSender.Sound inv.sound TCPSender.Sound.apply
  have both := replying.invariant (fun s => s.Sound ∧ s.Finished) ⟨sound, processed⟩
    fun s op known careful =>
      ⟨TCPSender.Sound.apply s op known.1 careful, .apply s op known.1 known.2⟩
  exact ⟨both.2.sent, both.2.acknowledged⟩

theorem resets_eq_false (drained : c.sender.segmentsOut = []) {call : Call}
    (noReset : c.WithoutReset call) : call.resets c = false := by
  rw [Call.resets, noReset.1, Bool.false_or]
  cases call with
  | tick ms => exact persists_of_withoutReset drained noReset
  | _ => rfl

theorem Faithful.apply (inv : c.Faithful) {call : Call} (noReset : c.WithoutReset call)
    (orderly : c.Orderly call) : (c.apply call).Faithful := by
  have calm := resets_eq_false inv.drained noReset
  have finSent (sent : c.isFinSent = true) : (c.apply call).isFinSent = true := by
    rw [isFinSent_apply inv.drained, sent, Bool.true_or]
  have finAcked (acked : c.isFinAcked = true) :
      (c.apply call).isFinSent = true ∧ (c.apply call).sender.Finished :=
    ⟨finSent (inv.finAcked acked).1, inv.sender_finished orderly (inv.finAcked acked).2⟩
  have closedSecond (second : c.lingerAfterStreamsFinish = false) :=
    inputEnded_apply (inv.closedSecond second) call
  refine ⟨drained_apply inv.drained call, opened_apply inv.opened call,
    (sender_error_apply inv.drained calm).trans inv.sendError,
    (receiver_error_apply calm).trans inv.receiveError, inv.sender_sound orderly,
    inv.sender_finSent orderly, ?_, ?_⟩
  all_goals by_cases live : ∃ seg, call = .segmentReceived seg ∧ c.isActive = true
  · obtain ⟨seg, rfl, active⟩ := live
    rw [TCPConnection.apply, (bits_segmentReceived active noReset.1).1, Bool.or_eq_true_iff]
    rintro (before | now)
    · exact finAcked before
    · exact ⟨finSent (Bool.and_eq_true_iff.mp now).1,
        inv.acksFin_finished active noReset.1 orderly now⟩
  · rw [(bits_apply fun seg same => Bool.eq_false_iff.mpr fun active =>
      live ⟨seg, same, active⟩).1]
    exact finAcked
  · obtain ⟨seg, rfl, active⟩ := live
    intro second
    rw [TCPConnection.apply, (bits_segmentReceived active noReset.1).2.1,
      Bool.and_eq_false_iff] at second
    rcases second with before | now
    · exact closedSecond before
    · rw [Bool.or_eq_false_iff, Bool.not_eq_false'] at now
      rw [receiver_apply, receiverAfter, active, show seg.header.rst = false from noReset.1]
      exact now.2
  · rw [(bits_apply fun seg same => Bool.eq_false_iff.mpr fun active =>
      live ⟨seg, same, active⟩).2]
    exact closedSecond

theorem faithful_run {cfg : TCPConfig} (representable : cfg.sendCapacity < 2 ^ 64)
    (random : UInt32) {calls : List Call}
    (noReset : Guarded apply WithoutReset (new cfg random) calls)
    (orderly : Guarded apply Orderly (new cfg random) calls) :
    (run apply (new cfg random) calls).Faithful := by
  refine (noReset.and orderly).invariant Faithful (faithful_new representable random) ?_
  exact fun _ _ inv permitted => inv.apply permitted.1 permitted.2

/-- The observable outcome of a clean shutdown. -/
theorem Faithful.state_closed (inv : c.Faithful) (inactive : c.isActive = false)
    (finished : c.sender.Finished) (ended : c.receiver.streamOut.inputEnded = true) :
    c.state = .ofState .closed := by
  obtain ⟨eof, next⟩ := inv.sound.bytesWritten_eq finished.sent
  have sender : TCPState.senderSummary c.sender = .finAcked := by
    have nothing := finished.acknowledged
    unfold TCPState.senderSummary
    rw [inv.sendError, eof, nothing, next]
    simp
  have receiver : TCPState.receiverSummary c.receiver = .finRecv := by
    obtain ⟨isn, known⟩ := Option.isSome_iff_exists.mp (inv.opened ended)
    unfold TCPState.receiverSummary TCPReceiver.ackno
    rw [inv.receiveError, ended, known]
    simp
  rw [state, TCPState.ofParts, sender, receiver, active, inactive]
  rfl

/-- Where a connection becomes inactive, its flags say that everything is done. -/
theorem Faithful.deactivated (inv : c.Faithful) {call : Call} (noReset : c.WithoutReset call)
    (active : c.isActive = true) (inactive : (c.apply call).isActive = false) :
    (c.apply call).isFinAcked = true ∧ (c.apply call).receiver.streamOut.inputEnded = true ∧
      ((c.apply call).lingerAfterStreamsFinish = true →
        10 * c.cfg.rtTimeout.toNat ≤ (c.apply call).timeSinceLastSegmentReceived) := by
  cases call with
  | segmentReceived seg =>
      obtain ⟨finAcked, linger, stays⟩ := bits_segmentReceived active noReset.1
      rw [TCPConnection.apply, stays, Bool.not_eq_false', Bool.and_eq_true,
        Bool.not_eq_true'] at inactive
      refine ⟨?_, inputEnded_apply (inv.closedSecond inactive.2) _, ?_⟩
      · rw [TCPConnection.apply, finAcked, inactive.1, Bool.or_true]
      · rw [TCPConnection.apply, linger, inactive.2, Bool.false_and]
        exact fun absurd => Bool.noConfusion absurd
  | tick ms =>
      rw [TCPConnection.apply, tick_eq, persists_of_withoutReset inv.drained noReset] at inactive ⊢
      simp only [Bool.false_eq_true, if_false, flushSender_eq, active, Bool.true_and,
        Bool.not_eq_false', isDone, Bool.and_eq_true, Bool.or_eq_true, Bool.not_eq_true',
        decide_eq_true_eq] at inactive ⊢
      obtain ⟨⟨ended, acked⟩, waited⟩ := inactive
      refine ⟨acked, ended, fun lingers => ?_⟩
      rcases waited with second | enough
      · rw [lingers] at second
        contradiction
      · exact enough
  | _ =>
      rw [application_isActive rfl active] at inactive
      contradiction

theorem cfg_apply (c : TCPConnection) (call : Call) : (c.apply call).cfg = c.cfg := by
  cases call with
  | segmentReceived seg => exact (c.segmentReceived_frame seg).1
  | tick ms => exact (c.tick_frame ms).1.1
  | _ => exact (application_frame rfl).1.1

/-- The connection's clock may wrap, and so never runs ahead. -/
theorem time_apply {sum : ℕ} (bound : c.timeSinceLastSegmentReceived ≤ sum) (call : Call) :
    (c.apply call).timeSinceLastSegmentReceived ≤ elapsed sum call := by
  cases call with
  | segmentReceived seg =>
      rw [apply, (c.segmentReceived_frame seg).2]
      exact Nat.zero_le _
  | tick ms =>
      have wrapped := Word.add_le 64 c.timeSinceLastSegmentReceived ms
      rw [apply, (c.tick_frame ms).1.2, elapsed]
      omega
  | _ =>
      rw [(application_frame rfl).1.2]
      exact bound

theorem time_run {sum : ℕ} (bound : c.timeSinceLastSegmentReceived ≤ sum) (calls : List Call) :
    (run apply c calls).timeSinceLastSegmentReceived ≤ run elapsed sum calls := by
  induction calls generalizing c sum with
  | nil => exact bound
  | cons call rest inductionHypothesis => exact inductionHypothesis (time_apply bound call)

/-- In every run without resets whose calls are all orderly, a connection that
becomes inactive has shut down cleanly. -/
theorem clean_shutdown (cfg : TCPConfig) (representable : cfg.sendCapacity < 2 ^ 64)
    (random : UInt32) (calls : List Call) (call : Call)
    (noReset : Guarded apply WithoutReset (new cfg random) (calls ++ [call]))
    (orderly : Guarded apply Orderly (new cfg random) (calls ++ [call])) :
    let before := run apply (new cfg random) calls
    let after := run apply (new cfg random) (calls ++ [call])
    before.active = true → after.active = false →
    after.inboundStream.inputEnded = true ∧ after.isFinSent = true ∧ after.bytesInFlight = 0 ∧
      after.state = .ofState .closed ∧
      (after.lingerAfterStreamsFinish = true →
        10 * cfg.rtTimeout.toNat ≤ run elapsed 0 (calls ++ [call])) := by
  intro before after active inactive
  have same : after = before.apply call := run_append _ calls [call]
  have faithful : before.Faithful := faithful_run representable random
    ((guarded_concat _ calls call).mp noReset).1 ((guarded_concat _ calls call).mp orderly).1
  have faithful' : after.Faithful := faithful_run representable random noReset orderly
  have clock : after.timeSinceLastSegmentReceived ≤ run elapsed 0 (calls ++ [call]) :=
    time_run (Nat.le_refl 0) _
  have config : before.cfg = cfg :=
    run_invariant (fun c : TCPConnection => c.cfg = cfg) calls rfl
      fun c call known => (cfg_apply c call).trans known
  obtain ⟨acked, ended, lingered⟩ := faithful.deactivated
    ((guarded_concat _ calls call).mp noReset).2 active (same ▸ inactive)
  rw [← same] at acked ended lingered
  obtain ⟨sent, finished⟩ := faithful'.finAcked acked
  refine ⟨ended, sent, finished.acknowledged, faithful'.state_closed inactive finished ended, ?_⟩
  intro lingers
  rw [← config]
  exact Nat.le_trans (lingered lingers) clock

/-- A segment without the ACK flag ends the connection while its FIN is still
in flight. -/
theorem unclean_shutdown :
    let calls : List Call := [.connect,
      .segmentReceived { header := { syn := true, ack := true, ackno := ⟨1⟩, win := 10 } },
      .segmentReceived
        { header := { seqno := ⟨1⟩, fin := true, ack := true, ackno := ⟨1⟩, win := 10 } },
      .endInputStream]
    let call : Call := .segmentReceived { header := { seqno := ⟨2⟩, ackno := ⟨2⟩ } }
    let before := run apply (new {} 0) calls
    let after := run apply (new {} 0) (calls ++ [call])
    Guarded apply WithoutReset (new {} 0) (calls ++ [call]) ∧
      before.active = true ∧ after.active = false ∧ after.bytesInFlight = 1 ∧
      after.state ≠ .ofState .closed := by
  decide

theorem clean_shutdown_passive_close :
    let calls : List Call := [.connect,
      .segmentReceived { header := { syn := true, ack := true, ackno := ⟨1⟩, win := 10 } },
      .segmentReceived
        { header := { seqno := ⟨1⟩, fin := true, ack := true, ackno := ⟨1⟩, win := 10 } },
      .endInputStream]
    let call : Call :=
      .segmentReceived { header := { seqno := ⟨2⟩, ack := true, ackno := ⟨2⟩, win := 10 } }
    let after := run apply (new {} 0) (calls ++ [call])
    after.active = false ∧ after.bytesInFlight = 0 ∧ after.state = .ofState .closed :=
  have clean := clean_shutdown {} (by decide) 0
    [.connect,
      .segmentReceived { header := { syn := true, ack := true, ackno := ⟨1⟩, win := 10 } },
      .segmentReceived
        { header := { seqno := ⟨1⟩, fin := true, ack := true, ackno := ⟨1⟩, win := 10 } },
      .endInputStream]
    (.segmentReceived { header := { seqno := ⟨2⟩, ack := true, ackno := ⟨2⟩, win := 10 } })
    (by decide) (by decide) (by decide) (by decide)
  ⟨by decide, clean.2.2.1, clean.2.2.2.1⟩

end Sponge.TCPConnection
