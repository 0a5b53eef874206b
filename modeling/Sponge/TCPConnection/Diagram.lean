import Sponge.Network.Lingering
import Sponge.TCPConnection.Listening
import Sponge.TCPConnection.Phases

/-!
# Along the state diagram

With a peer that keeps to the order of the protocol, `state()` always names one
of the official states, and every call moves it along the arrows of the diagram.
A reset may come at any time; what leaves the diagram is an acknowledgment before
the peer's SYN, a FIN before our SYN is acknowledged, and waking up a connection
that is over.
-/

namespace Sponge.TCPConnection

open Lib

/-- Would the call wake up a connection that is over? -/
def Call.wakes : Call → Bool
  | .connect => true
  | .segmentReceived seg => seg.header.syn
  | _ => false

/-- The segment acknowledges the SYN, if it is not acknowledged already. -/
def AcksSyn (c : TCPConnection) (seg : TCPSegment) : Prop :=
  c.sender.previousAckno ≠ 0 ∨
    seg.header.ack = true ∧ c.sender.nextSeqno ≠ 0 ∧
      seg.header.ackno = c.sender.relativeNextSeqno

instance (c : TCPConnection) (seg : TCPSegment) : Decidable (c.AcksSyn seg) :=
  inferInstanceAs (Decidable (_ ∨ _))

/-- The peer acknowledges nothing before its SYN, and does not close before ours is
acknowledged. -/
def InSequence (c : TCPConnection) : Call → Prop
  | .segmentReceived seg =>
      (seg.header.ack = true → seg.header.syn = true ∨ c.receiver.isn ≠ none) ∧
        (seg.header.fin = true → c.AcksSyn seg)
  | _ => True

instance (c : TCPConnection) (call : Call) : Decidable (c.InSequence call) :=
  match call with
  | .segmentReceived _ => inferInstanceAs (Decidable (_ ∧ _))
  | .connect | .write _ | .endInputStream | .tick _ | .readInbound _ | .popSegment =>
      .isTrue trivial

/-- An orderly call in the sequence of the protocol, which does not wake up the dead. -/
structure Conforming (c : TCPConnection) (call : Call) : Prop where
  orderly : c.Orderly call
  inSequence : c.InSequence call
  asleep : c.isActive = false → call.wakes = false

instance (c : TCPConnection) (call : Call) : Decidable (c.Conforming call) :=
  decidable_of_iff (c.Orderly call ∧ c.InSequence call ∧ (c.isActive = false → call.wakes = false))
    ⟨fun ⟨orderly, inSequence, asleep⟩ => ⟨orderly, inSequence, asleep⟩,
      fun ⟨orderly, inSequence, asleep⟩ => ⟨orderly, inSequence, asleep⟩⟩

/-- What a connection keeps that was never reset: the two halves of the handshake
go together, lingering is decided when the inbound stream ends, and a connection
that need not linger is over with the acknowledgment of its FIN. -/
structure Regular (c : TCPConnection) : Prop where
  closing : c.Closing
  tracked : ∃ (e : Endpoint) (filled : List TCPSegment), e.conn = c ∧ e.Tracked filled
  rests : c.sender.Rests
  answered : c.receiver.isn ≠ none → c.sender.nextSeqno ≠ 0
  greeted : c.sender.previousAckno ≠ 0 → c.receiver.isn ≠ none
  acknowledged : c.receiver.streamOut.inputEnded = true ∨
    c.receiver.reassembler.isEofDataReceived = true → c.sender.previousAckno ≠ 0
  second : c.receiver.streamOut.inputEnded = true → c.isFinSent = false →
    c.lingerAfterStreamsFinish = false
  waits : c.isActive = true → c.lingerAfterStreamsFinish = false → ¬ c.sender.Finished

/-- The connection was reset, by either side. -/
structure WasReset (c : TCPConnection) : Prop where
  drained : c.sender.segmentsOut = []
  inactive : c.isActive = false
  sendError : c.sender.stream.error = true
  receiveError : c.receiver.streamOut.error = true

theorem regular_new {cfg : TCPConfig} (representable : cfg.sendCapacity < 2 ^ 64)
    (random : UInt32) : (new cfg random).Regular where
  closing := closing_new representable random
  tracked := ⟨Endpoint.new cfg random, [], rfl, Endpoint.tracked_new representable random⟩
  rests := fun finished => Bool.noConfusion finished.sent
  answered := fun known => absurd rfl known
  greeted := fun acked => absurd rfl acked
  acknowledged := fun ended => by rcases ended with ended | ended <;> exact Bool.noConfusion ended
  second := fun ended => Bool.noConfusion ended
  waits := fun _ skips => Bool.noConfusion skips

variable {c : TCPConnection}

theorem Regular.handshaken (inv : c.Regular) : c.sender.Handshaken := by
  obtain ⟨e, filled, rfl, tracked⟩ := inv.tracked
  exact tracked.handshaken

theorem Regular.noticed (inv : c.Regular) : c.isFinSent = c.sender.isFinSent := by
  obtain ⟨e, filled, rfl, tracked⟩ := inv.tracked
  exact tracked.noticed.trans tracked.isFinSent_eq

theorem Regular.finished_iff (inv : c.Regular) :
    c.sender.Finished ↔ c.sender.isFinSent = true ∧ c.sender.outstandingSegments = [] := by
  rw [← inv.handshaken.sound.partitioned.bytesInFlight_eq_zero_iff]
  exact ⟨fun finished => ⟨finished.sent, finished.acknowledged⟩, fun ⟨sent, nothing⟩ => ⟨sent, nothing⟩⟩

/-- A connection that is over has shut down cleanly. -/
theorem Regular.complete_of_inactive (inv : c.Regular) (inactive : c.isActive = false) :
    c.sender.Finished ∧ c.receiver.streamOut.inputEnded = true := by
  obtain ⟨acked, ended⟩ := inv.closing.done inactive
  exact ⟨(inv.closing.faithful.finAcked acked).2, ended⟩

theorem Regular.state_closed (inv : c.Regular) (inactive : c.isActive = false) :
    c.state = .ofState .closed := by
  obtain ⟨finished, ended⟩ := inv.complete_of_inactive inactive
  exact inv.closing.faithful.state_closed inactive finished ended

/-- As long as the inbound stream runs, the peer has not closed first. -/
theorem Regular.lingers (inv : c.Regular) (running : c.receiver.streamOut.inputEnded = false) :
    c.lingerAfterStreamsFinish = true := by
  by_contra skips
  have ended := inv.closing.faithful.closedSecond (Bool.eq_false_iff.mpr skips)
  rw [running] at ended
  exact Bool.noConfusion ended

/-- The summary is always that of an official state. -/
theorem Regular.official (inv : c.Regular) : ∃ state, c.state = .ofState state := by
  cases active : c.isActive with
  | false => exact ⟨.closed, inv.state_closed active⟩
  | true =>
      have faithful := inv.closing.faithful
      have opened := faithful.opened
      have answered := inv.answered
      have greeted := inv.greeted
      have waits := inv.waits active
      rw [inv.finished_iff] at waits
      rw [state, TCPState.ofParts, inv.handshaken.summary_eq faithful.sendError,
        TCPReceiver.summary_eq faithful.receiveError, TCPConnection.active, active, if_pos rfl]
      cases ended : c.receiver.streamOut.inputEnded with
      | false =>
          rw [inv.lingers ended]
          by_cases unheard : c.receiver.isn = none
          · have unacked : c.sender.previousAckno = 0 :=
              not_not.mp fun acked => greeted acked unheard
            rw [if_pos unheard, if_pos unacked]
            split_ifs
            · exact ⟨.listen, rfl⟩
            · exact ⟨.synSent, rfl⟩
          · rw [if_neg unheard, if_neg (answered unheard), if_neg Bool.false_ne_true]
            split_ifs
            · exact ⟨.synRcvd, rfl⟩
            · exact ⟨.established, rfl⟩
            · exact ⟨.finWait2, rfl⟩
            · exact ⟨.finWait1, rfl⟩
      | true =>
          have heard : c.receiver.isn ≠ none := Option.isSome_iff_ne_none.mp (opened ended)
          rw [if_neg heard, if_neg (answered heard), if_neg (inv.acknowledged (.inl ended)),
            if_pos rfl]
          have second := inv.second ended
          rw [inv.noticed] at second
          split_ifs with unsent nothing
          · rw [second unsent]
            exact ⟨.closeWait, rfl⟩
          · cases linger : c.lingerAfterStreamsFinish with
            | false => exact absurd ⟨Bool.eq_true_of_not_eq_false unsent, nothing⟩ (waits linger)
            | true => exact ⟨.timeWait, rfl⟩
          · cases c.lingerAfterStreamsFinish with
            | false => exact ⟨.lastAck, rfl⟩
            | true => exact ⟨.closing, rfl⟩

theorem WasReset.official (reset : c.WasReset) : c.state = .ofState .reset := by
  rw [state, TCPState.ofParts, TCPSender.summary_of_error reset.sendError,
    TCPReceiver.summary_of_error reset.receiveError, active, reset.inactive]
  rfl

/-! ### What a call does to the two halves -/

/-- A segment that opens the inbound half is answered by our SYN. -/
theorem process_started {seg : TCPSegment}
    (heard : (c.receiver.segmentReceived seg).isn ≠ none) :
    (c.process seg).sender.nextSeqno ≠ 0 := by
  have ackno : (c.receiver.segmentReceived seg).ackno.isSome = true := by
    rw [TCPReceiver.ackno_eq, Option.isSome_map]
    exact Option.isSome_iff_ne_none.mpr heard
  unfold process
  cases seg.header.ack <;> simp only [ackno, if_true, if_false, Bool.false_eq_true] <;>
    exact TCPSender.fillWindow_started _

theorem started_live (drained : c.sender.segmentsOut = []) {seg : TCPSegment}
    (active : c.isActive = true) (noRst : seg.header.rst = false)
    (heard : (c.receiver.segmentReceived seg).isn ≠ none) :
    (c.apply (.segmentReceived seg)).sender.nextSeqno ≠ 0 := by
  have started := process_started heard
  have grown := ((c.process seg).sender.later_run ((c.process seg).replyOps seg)).nextSeqno
  rw [sender_apply drained, afterMethods_live active noRst]
  show (run TCPSender.apply _ _).nextSeqno ≠ 0
  omega

/-- The number that acknowledges our SYN is taken in. -/
theorem acked_live (inv : c.Regular) {seg : TCPSegment} (active : c.isActive = true)
    (noRst : seg.header.rst = false) (acks : c.AcksSyn seg) :
    (c.apply (.segmentReceived seg)).sender.previousAckno ≠ 0 := by
  have drained := inv.closing.faithful.drained
  by_cases acked : c.sender.previousAckno = 0
  · obtain ⟨ack, started, last⟩ := acks.resolve_left (not_not.mpr acked)
    have methods : c.methodOps (.segmentReceived seg) =
        .ackReceived seg.header.ackno seg.header.win ::
          ((if (c.receiver.segmentReceived seg).ackno.isSome then [.fillWindow] else []) ++
            (c.process seg).replyOps seg) := by
      simp [methodOps, processOps, active, noRst, ack]
    have taken := inv.handshaken.ackReceived_syn started (fun _ => last) seg.header.win
    have grown := (c.sender.apply (.ackReceived seg.header.ackno seg.header.win)).previousAckno_le_run
      ((if (c.receiver.segmentReceived seg).ackno.isSome then [.fillWindow] else []) ++
        (c.process seg).replyOps seg)
    rw [sender_apply drained, afterMethods, methods, run_cons]
    rw [TCPSender.apply] at grown
    show (run TCPSender.apply _ _).previousAckno ≠ 0
    rw [TCPSender.apply]
    omega
  · have grown := previousAckno_le_apply drained (.segmentReceived seg)
    omega

/-- What a call cannot change that hears nothing. -/
structure Unheard (c c' : TCPConnection) : Prop where
  isn : c'.receiver.isn = c.receiver.isn
  ended : c'.receiver.streamOut.inputEnded = c.receiver.streamOut.inputEnded
  seen : c'.receiver.reassembler.isEofDataReceived = c.receiver.reassembler.isEofDataReceived
  acked : c'.sender.previousAckno = c.sender.previousAckno

theorem previousAckno_apply_quiet (drained : c.sender.segmentsOut = []) {call : Call}
    (quiet : ∀ seg, call ≠ .segmentReceived seg) :
    (c.apply call).sender.previousAckno = c.sender.previousAckno :=
  (previousAckno_apply drained call).resolve_right fun ⟨seg, same, _⟩ => quiet seg same

/-- Only a segment that reaches a live connection is heard. -/
theorem heard_apply (drained : c.sender.segmentsOut = []) {call : Call}
    (asleep : c.isActive = false → call.wakes = false) :
    c.Unheard (c.apply call) ∨
      ∃ seg, call = .segmentReceived seg ∧ c.isActive = true ∧ seg.header.rst = false := by
  cases call with
  | segmentReceived seg =>
      rcases c.segmentReceived_cases seg with dead | ⟨active, rst⟩ | ⟨active, noRst⟩
      · have noSyn : seg.header.syn = false := asleep dead
        rw [apply, segmentReceived_dead dead, noSyn]
        exact .inl ⟨rfl, rfl, rfl, rfl⟩
      · rw [apply, segmentReceived_rst active rst]
        exact .inl ⟨rfl, rfl, rfl, rfl⟩
      · exact .inr ⟨seg, rfl, active, noRst⟩
  | tick ms =>
      refine .inl ⟨?_, ?_, ?_, previousAckno_apply_quiet drained fun _ => Call.noConfusion⟩
      all_goals
        rw [receiver_apply, receiverAfter]
        split <;> rfl
  | readInbound len =>
      refine .inl ⟨rfl, ?_, rfl, previousAckno_apply_quiet drained fun _ => Call.noConfusion⟩
      rw [receiver_apply, receiverAfter, TCPReceiver.withStreamOut_streamOut,
        ByteStream.popOutput_inputEnded]
  | _ =>
      refine .inl ⟨?_, ?_, ?_, previousAckno_apply_quiet drained fun _ => Call.noConfusion⟩
      all_goals
        rw [receiver_apply]
        rfl

theorem receiver_live {seg : TCPSegment} (active : c.isActive = true)
    (noRst : seg.header.rst = false) :
    (c.apply (.segmentReceived seg)).receiver = c.receiver.segmentReceived seg := by
  rw [receiver_apply, receiverAfter, active, noRst]
  rfl

theorem live_of_mem_methodOps {seg : TCPSegment} {a : WrappingInt32} {w : UInt16}
    (membership : TCPSender.Op.ackReceived a w ∈ c.methodOps (.segmentReceived seg)) :
    c.isActive = true ∧ seg.header.rst = false := by
  rw [methodOps] at membership
  split_ifs at membership with inactive rst
  · contradiction
  · simp at membership
  · rw [Bool.not_eq_true', Bool.not_eq_false] at inactive
    exact ⟨inactive, Bool.eq_false_iff.mpr rst⟩

/-- A call that completes the outbound half hears the acknowledgment of the FIN. -/
theorem Regular.finished_of_apply (inv : c.Regular) {call : Call} (bounded : c.Bounded call)
    (finished : (c.apply call).sender.Finished) :
    c.sender.Finished ∨ ∃ seg, call = .segmentReceived seg ∧
      (c.isActive = true ∧ seg.header.rst = false ∧ seg.header.ack = true) ∧
      c.sender.isFinSent = true ∧
      unwrap seg.header.ackno c.sender.isn c.sender.previousAckno = c.sender.nextSeqno := by
  have sound := inv.handshaken.sound
  have guarded := methodOps_guarded careful_of_routine bounded.careful
  have methods : (c.afterMethods call).Finished := by
    rw [sender_apply inv.closing.faithful.drained] at finished
    exact ⟨finished.sent, finished.acknowledged⟩
  rw [afterMethods] at methods
  obtain ⟨rest, routine, plain | ⟨op, isFirst, special⟩⟩ := c.methodOps_routine call
  · rw [plain] at methods guarded
    exact .inl (sound.finished_of_run guarded
      (fun op membership => noAck_of_routine (routine op membership)) methods)
  · rw [special] at methods guarded
    have next := TCPSender.Sound.apply c.sender op sound guarded.1
    have first := next.finished_of_run guarded.2
      (fun op membership => noAck_of_routine (routine op membership)) methods
    rcases sound.finished_of_apply guarded.1 first with before | ⟨ackno, windowSize, rfl, sent, last⟩
    · exact .inl before
    · cases call with
      | segmentReceived seg =>
          cases isFirst
          have membership : TCPSender.Op.ackReceived seg.header.ackno seg.header.win ∈
              c.methodOps (.segmentReceived seg) := special ▸ List.mem_cons_self
          obtain ⟨active, noRst⟩ := live_of_mem_methodOps membership
          exact .inr ⟨seg, rfl, ⟨active, noRst, ack_of_mem_methodOps membership⟩, sent, last⟩
      | _ => cases isFirst

/-- An acknowledgment of the FIN is recognised as one. -/
theorem Regular.acksFin (inv : c.Regular) {seg : TCPSegment} (few : c.bytesInFlight < 2 ^ 31)
    (ack : seg.header.ack = true) (sent : c.sender.isFinSent = true)
    (last : unwrap seg.header.ackno c.sender.isn c.sender.previousAckno = c.sender.nextSeqno) :
    c.acksFin seg = true := by
  have noticed : c.isFinSent = true := inv.noticed.trans sent
  have number : seg.header.ackno = c.sender.relativeNextSeqno := by
    rw [TCPSender.relativeNextSeqno, ← last]
    exact ((wrap_eq_iff _ _ _).mpr (unwrap_mod _ _ _)).symm
  rw [TCPConnection.acksFin, noticed, Bool.true_and, decide_eq_true_eq,
    inv.closing.faithful.processed_eq few noticed, ack, if_pos rfl,
    inv.handshaken.sound.ackReceived_relativeNextSeqno sent few]
  exact number

/-! ### One call -/

theorem lingers_of_apply {call : Call} (lingers : (c.apply call).lingerAfterStreamsFinish = true) :
    c.lingerAfterStreamsFinish = true := by
  by_cases live : ∃ seg, call = .segmentReceived seg ∧ c.isActive = true
  · obtain ⟨seg, rfl, active⟩ := live
    rw [apply] at lingers
    rcases c.segmentReceived_cases seg with dead | ⟨_, rst⟩ | ⟨_, noRst⟩
    · rw [active] at dead
      contradiction
    · rwa [segmentReceived_rst active rst] at lingers
    · rw [(bits_segmentReceived active noRst).2.1, Bool.and_eq_true] at lingers
      exact lingers.1
  · rwa [(bits_apply fun seg same => Bool.eq_false_iff.mpr fun active =>
      live ⟨seg, same, active⟩).2] at lingers

theorem inactive_apply {call : Call} (inactive : c.isActive = false)
    (asleep : call.wakes = false) : (c.apply call).isActive = false := by
  cases call with
  | connect => contradiction
  | segmentReceived seg =>
      rw [apply, segmentReceived_dead inactive]
      exact asleep
  | tick ms => exact tick_inactive inactive ms
  | write data => exact (flushSender_isActive _).trans inactive
  | endInputStream => exact (flushSender_isActive _).trans inactive
  | readInbound len => exact inactive
  | popSegment => exact inactive

theorem active_of_apply {call : Call} (asleep : c.isActive = false → call.wakes = false)
    (active : (c.apply call).isActive = true) : c.isActive = true := by
  by_contra inactive
  have inactive := Bool.eq_false_iff.mpr inactive
  rw [inactive_apply inactive (asleep inactive)] at active
  exact Bool.noConfusion active

theorem Regular.greeted_apply (inv : c.Regular) {call : Call} (conforming : c.Conforming call)
    (acked : (c.apply call).sender.previousAckno ≠ 0) : (c.apply call).receiver.isn ≠ none := by
  intro unheard
  have before : c.receiver.isn = none := isn_none_of_apply unheard
  have unacked : c.sender.previousAckno = 0 := not_not.mp fun acked => inv.greeted acked before
  rcases previousAckno_apply inv.closing.faithful.drained call with same | ⟨seg, rfl, ack, _⟩
  · exact acked (same.trans unacked)
  · have syn := (conforming.inSequence.1 ack).resolve_right (not_not.mpr before)
    rcases heard_apply inv.closing.faithful.drained conforming.asleep with
      unheard | ⟨_, same, active, noRst⟩
    · exact acked (unheard.acked.trans unacked)
    · cases same
      rw [receiver_live active noRst] at unheard
      exact c.receiver.segmentReceived_syn syn unheard

theorem Regular.answered_apply (inv : c.Regular) {call : Call} (conforming : c.Conforming call)
    (heard : (c.apply call).receiver.isn ≠ none) : (c.apply call).sender.nextSeqno ≠ 0 := by
  have drained := inv.closing.faithful.drained
  rcases heard_apply drained conforming.asleep with unheard | ⟨seg, rfl, active, noRst⟩
  · have before := inv.answered (unheard.isn ▸ heard)
    have grown := (later_apply drained call).nextSeqno
    omega
  · exact started_live drained active noRst (receiver_live active noRst ▸ heard)

theorem Regular.acknowledged_apply (inv : c.Regular) {call : Call}
    (conforming : c.Conforming call)
    (ended : (c.apply call).receiver.streamOut.inputEnded = true ∨
      (c.apply call).receiver.reassembler.isEofDataReceived = true) :
    (c.apply call).sender.previousAckno ≠ 0 := by
  have drained := inv.closing.faithful.drained
  have kept (before : c.receiver.streamOut.inputEnded = true ∨
      c.receiver.reassembler.isEofDataReceived = true) :
      (c.apply call).sender.previousAckno ≠ 0 := by
    have acked := inv.acknowledged before
    have grown := previousAckno_le_apply drained call
    omega
  rcases heard_apply drained conforming.asleep with unheard | ⟨seg, rfl, active, noRst⟩
  · rw [unheard.ended, unheard.seen] at ended
    exact kept ended
  · have seen : c.receiver.streamOut.inputEnded = true ∨
        (c.apply (.segmentReceived seg)).receiver.reassembler.isEofDataReceived = true :=
      ended.elim inputEnded_of_apply .inr
    rcases seen with before | seen
    · exact kept (.inl before)
    · rcases Endpoint.hasSeenEnd_apply (e := { conn := c }) seen with before | ⟨_, same, fin⟩
      · exact kept (.inr before)
      · cases same
        exact acked_live inv active noRst (conforming.inSequence.2 fin)

/-- The side that hears of the other's end before it has sent its own FIN will not
linger. -/
theorem Regular.second_apply (inv : c.Regular) {call : Call} (conforming : c.Conforming call)
    (ended : (c.apply call).receiver.streamOut.inputEnded = true)
    (unsent : (c.apply call).isFinSent = false) :
    (c.apply call).lingerAfterStreamsFinish = false := by
  have drained := inv.closing.faithful.drained
  have before : c.isFinSent = false := by
    rw [isFinSent_apply drained, Bool.or_eq_false_iff] at unsent
    exact unsent.1
  rcases heard_apply drained conforming.asleep with unheard | ⟨seg, rfl, active, noRst⟩
  · have skips := inv.second (unheard.ended ▸ ended) before
    rw [← Bool.not_eq_true]
    intro lingers
    rw [lingers_of_apply lingers] at skips
    exact Bool.noConfusion skips
  · rw [receiver_live active noRst] at ended
    rw [apply, (bits_segmentReceived active noRst).2.1, before, ended]
    exact Bool.and_false _

/-- A connection that need not linger does not wait after the acknowledgment of its
FIN. -/
theorem Regular.waits_apply (inv : c.Regular) {call : Call} (conforming : c.Conforming call)
    (active' : (c.apply call).isActive = true)
    (skips' : (c.apply call).lingerAfterStreamsFinish = false) :
    ¬ (c.apply call).sender.Finished := by
  intro finished
  have active := active_of_apply conforming.asleep active'
  have bounded := conforming.orderly.bounded
  rcases inv.finished_of_apply bounded finished with
    before | ⟨seg, rfl, ⟨_, noRst, ack⟩, sent, last⟩
  · have sent : c.isFinSent = true := inv.noticed.trans before.sent
    rcases skips_apply skips' with skips | ⟨unsent, _⟩
    · exact inv.waits active skips before
    · rw [sent] at unsent
      exact Bool.noConfusion unsent
  · have noticed : c.isFinSent = true := inv.noticed.trans sent
    have acks := inv.acksFin bounded ack sent last
    rw [apply, (bits_segmentReceived active noRst).2.2, acks, Bool.true_and, Bool.not_not] at active'
    rw [apply, (bits_segmentReceived active noRst).2.1, active', noticed] at skips'
    exact Bool.noConfusion skips'

theorem Regular.rests_apply (inv : c.Regular) {call : Call} (bounded : c.Bounded call) :
    (c.apply call).sender.Rests := by
  have both : (c.apply call).sender.Sound ∧ (c.apply call).sender.Rests := by
    refine sender_invariant (fun s => s.Sound ∧ s.Rests) TCPSender.Careful
      inv.closing.faithful.drained careful_of_routine bounded.careful
      ⟨inv.handshaken.sound, inv.rests⟩ ?_
    exact fun s op known careful => ⟨.apply s op known.1 careful, .apply s op known.1 known.2 careful⟩
  exact both.2

theorem Regular.apply (inv : c.Regular) {call : Call} (conforming : c.Conforming call)
    (noError : (c.apply call).receiver.streamOut.error = false) : (c.apply call).Regular where
  closing := inv.closing.apply conforming.orderly noError
  tracked := by
    obtain ⟨e, filled, rfl, tracked⟩ := inv.tracked
    obtain ⟨filled', tracked'⟩ := tracked.apply conforming.orderly.bounded
    exact ⟨e.apply call, filled', rfl, tracked'⟩
  rests := inv.rests_apply conforming.orderly.bounded
  answered := inv.answered_apply conforming
  greeted := inv.greeted_apply conforming
  acknowledged := inv.acknowledged_apply conforming
  second := inv.second_apply conforming
  waits := inv.waits_apply conforming

/-- A call that leaves an error has reset a connection that was not over. -/
theorem Regular.reset_apply (inv : c.Regular) {call : Call} (conforming : c.Conforming call)
    (error : (c.apply call).receiver.streamOut.error = true) :
    c.isActive = true ∧ (c.apply call).WasReset := by
  have drained := drained_apply inv.closing.faithful.drained call
  have resets : call.resets c = true := by
    by_contra calm
    rw [receiver_error_apply (Bool.eq_false_iff.mpr calm),
      inv.closing.faithful.receiveError] at error
    exact Bool.noConfusion error
  cases call with
  | segmentReceived seg =>
      have rst : seg.header.rst = true := (Bool.or_false _).symm.trans resets
      rcases c.segmentReceived_cases seg with dead | ⟨active, _⟩ | ⟨_, noRst⟩
      · have noSyn : seg.header.syn = false := conforming.asleep dead
        rw [TCPConnection.apply, segmentReceived_dead dead, noSyn] at error
        exact Bool.noConfusion (inv.closing.faithful.receiveError.symm.trans error)
      · have same : c.apply (.segmentReceived seg) =
            { c.setErrors with timeSinceLastSegmentReceived := 0, isActive := false } :=
          segmentReceived_rst active rst
        refine ⟨active, drained, ?_, ?_, error⟩ <;> rw [same]
        rfl
      · rw [rst] at noRst
        exact Bool.noConfusion noRst
  | tick ms =>
      have gives : c.givesUp ms = true := resets
      refine ⟨?_, drained, ?_, ?_, error⟩
      · -- after the acknowledgment of the FIN nothing is sent again
        by_contra inactive
        have finished := (inv.complete_of_inactive (Bool.eq_false_iff.mpr inactive)).1
        rw [givesUp, (inv.rests.tick finished).2] at gives
        exact Bool.noConfusion gives
      · rw [TCPConnection.apply, tick_eq, gives]
        rfl
      · rw [TCPConnection.apply, tick_eq, gives]
        rfl
  | _ => exact Bool.noConfusion resets

theorem WasReset.apply (reset : c.WasReset) {call : Call} (asleep : call.wakes = false) :
    (c.apply call).WasReset where
  drained := drained_apply reset.drained call
  inactive := inactive_apply reset.inactive asleep
  sendError := sender_invariant (fun s => s.stream.error = true) (fun _ _ => True) reset.drained
    (fun _ _ _ => trivial) (fun _ _ => trivial) reset.sendError fun s op error _ =>
      s.error_apply op error
  receiveError := error_apply reset.receiveError call

theorem lingerBit_of_active (active : c.isActive = true) :
    c.state.lingerAfterStreamsFinish = c.lingerAfterStreamsFinish :=
  if_pos active

/-- The FIN decides about lingering. -/
theorem lingers_apply {call : Call} (sent : c.isFinSent = true) :
    (c.apply call).lingerAfterStreamsFinish = c.lingerAfterStreamsFinish := by
  cases after : (c.apply call).lingerAfterStreamsFinish with
  | true => exact (lingers_of_apply after).symm
  | false =>
      rcases skips_apply after with before | ⟨unsent, _⟩
      · exact before.symm
      · rw [sent] at unsent
        exact Bool.noConfusion unsent

theorem Regular.moves (inv : c.Regular) {call : Call} (conforming : c.Conforming call) :
    c.state.Moves (c.apply call).state where
  final := by
    intro inactive
    have inactive : c.isActive = false := inactive
    have noError : (c.apply call).receiver.streamOut.error = false := by
      rw [← Bool.not_eq_true]
      intro error
      rw [(inv.reset_apply conforming error).1] at inactive
      exact Bool.noConfusion inactive
    rw [inv.state_closed inactive, (inv.apply conforming noError).state_closed
      (inactive_apply inactive (conforming.asleep inactive))]
  forward := precedes_apply inv.closing.faithful.drained inv.handshaken conforming.orderly.bounded
  givesUp := by
    intro active lingers
    rw [lingerBit_of_active active] at lingers
    rw [lingerBit_of_active (active_of_apply conforming.asleep active)]
    exact lingers_of_apply lingers
  keeps := by
    intro active sent
    rw [lingerBit_of_active active, lingerBit_of_active (active_of_apply conforming.asleep active)]
    exact lingers_apply (inv.noticed.trans
      (inv.handshaken.finSent_of_rank inv.closing.faithful.sendError sent))

/-! ### Whole runs -/

/-- The connection is in an official state, and was reset if its streams say so. -/
structure Official (c : TCPConnection) (state : TCPState.State) : Prop where
  reached : c.Regular ∨ c.WasReset
  named : c.state = .ofState state

theorem Official.apply {state : TCPState.State} (official : c.Official state) {call : Call}
    (conforming : c.Conforming call) :
    ∃ next, (c.apply call).Official next ∧ state.Leads next := by
  rcases official.reached with inv | reset
  · have moves := inv.moves conforming
    have reached : (c.apply call).Regular ∨ (c.apply call).WasReset := by
      cases error : (c.apply call).receiver.streamOut.error with
      | false => exact .inl (inv.apply conforming error)
      | true => exact .inr (inv.reset_apply conforming error).2
    obtain ⟨next, named⟩ : ∃ next, (c.apply call).state = .ofState next :=
      reached.elim Regular.official fun reset => ⟨.reset, reset.official⟩
    rw [official.named, named] at moves
    exact ⟨next, ⟨reached, named⟩, TCPState.State.leads_of_moves moves⟩
  · have reset' := reset.apply (conforming.asleep reset.inactive)
    refine ⟨state, ⟨.inr reset', ?_⟩, .refl⟩
    rw [reset'.official, ← reset.official, official.named]

theorem Official.run {state : TCPState.State} (official : c.Official state) {calls : List Call}
    (conforming : Guarded TCPConnection.apply Conforming c calls) :
    ∃ next, (Lib.run TCPConnection.apply c calls).Official next ∧ state.Leads next := by
  refine conforming.invariant (fun c' => ∃ next, c'.Official next ∧ state.Leads next)
    ⟨state, official, .refl⟩ ?_
  rintro c' call ⟨next, official, before⟩ conforming
  obtain ⟨later, official', leads⟩ := official.apply conforming
  exact ⟨later, official', before.trans leads⟩

/-- In every run of conforming calls, the state of a connection is an official one at
all times, and a path of the diagram leads from each state to every later one. -/
theorem run_follows_diagram (cfg : TCPConfig) (representable : cfg.sendCapacity < 2 ^ 64)
    (random : UInt32) (calls later : List Call)
    (conforming : Guarded apply Conforming (new cfg random) (calls ++ later)) :
    ∃ state next : TCPState.State,
      (run apply (new cfg random) calls).state = .ofState state ∧
      (run apply (new cfg random) (calls ++ later)).state = .ofState next ∧ state.Leads next := by
  obtain ⟨first, second⟩ := (guarded_append _ calls later).mp conforming
  have fresh : (new cfg random).Official .listen := ⟨.inl (regular_new representable random), rfl⟩
  obtain ⟨state, official, _⟩ := fresh.run first
  obtain ⟨next, official', leads⟩ := official.run second
  rw [run_append]
  exact ⟨state, next, official.named, official'.named, leads⟩

/-- An acknowledgment before the peer's SYN leaves the diagram. -/
example : ∀ state, (run apply (new {} 0) [.connect,
    .segmentReceived { header := { ack := true, ackno := ⟨1⟩, win := 10 } }]).state ≠
      .ofState state := by
  intro state
  cases state <;> decide

theorem run_follows_diagram_active_close :
    let calls : List Call := [.connect,
      .segmentReceived { header := { syn := true, ack := true, ackno := ⟨1⟩, win := 10 } },
      .endInputStream]
    let later : List Call := [
      .segmentReceived
        { header := { seqno := ⟨1⟩, fin := true, ack := true, ackno := ⟨2⟩, win := 10 } },
      .tick 10000]
    ∃ state next : TCPState.State, (run apply (new {} 0) calls).state = .ofState state ∧
      (run apply (new {} 0) (calls ++ later)).state = .ofState next ∧ state.Leads next :=
  run_follows_diagram {} (by decide) 0
    [.connect, .segmentReceived { header := { syn := true, ack := true, ackno := ⟨1⟩, win := 10 } },
      .endInputStream]
    [.segmentReceived
        { header := { seqno := ⟨1⟩, fin := true, ack := true, ackno := ⟨2⟩, win := 10 } },
      .tick 10000] (by decide)

end Sponge.TCPConnection
