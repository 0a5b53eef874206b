import Sponge.TCPConnection.Replies
import Sponge.TCPConnection.Shutdown

/-!
# Before the SYN

A connection that has neither sent nor received a SYN is in LISTEN as long as it
is active.  A segment without SYN goes through every branch of
`segmentReceived`; these are exactly the segments that get through all of them
without effect.
-/

namespace Sponge.TCPConnection

open Lib

variable {c : TCPConnection}

/-- What holds before the first SYN, whatever the calls. -/
structure BeforeSyn (c : TCPConnection) : Prop where
  drained : c.sender.segmentsOut = []
  opened : c.receiver.Opened
  linger : c.receiver.isn = none → c.lingerAfterStreamsFinish = true
  calm : c.sender.nextSeqno = 0 → c.receiver.isn = none → c.isActive = true →
    c.sender.stream.error = false ∧ c.receiver.streamOut.error = false

theorem beforeSyn_new (cfg : TCPConfig) (random : UInt32) : (new cfg random).BeforeSyn :=
  ⟨rfl, nofun, fun _ => rfl, fun _ _ _ => ⟨rfl, rfl⟩⟩

theorem isn_none_of_apply {call : Call} (noIsn : (c.apply call).receiver.isn = none) :
    c.receiver.isn = none := by
  cases known : c.receiver.isn with
  | none => rfl
  | some isn =>
      rw [(c.receiver_later call).isn isn known] at noIsn
      contradiction

/-- A connection that is active before its first SYN has been active all along,
and was never reset. -/
theorem active_before_syn {call : Call} (active : (c.apply call).isActive = true)
    (unsent : (c.apply call).sender.nextSeqno = 0) (noIsn : (c.apply call).receiver.isn = none) :
    c.isActive = true ∧ call.resets c = false := by
  cases call with
  | connect =>
      rw [apply, connect, flushSender_sender] at unsent
      exact absurd unsent (TCPSender.fillWindow_started _)
  | write data =>
      rw [apply, write, flushSender_sender] at unsent
      exact absurd unsent (TCPSender.fillWindow_started _)
  | endInputStream =>
      rw [apply, endInputStream, flushSender_sender] at unsent
      exact absurd unsent (TCPSender.fillWindow_started _)
  | segmentReceived seg =>
      rw [apply] at active noIsn
      rcases c.segmentReceived_cases seg with dead | ⟨live, rst⟩ | ⟨live, noRst⟩
      · -- only a SYN wakes it up
        rw [segmentReceived_dead dead] at active noIsn
        have syn : seg.header.syn = true := active
        simp only [syn, if_true] at noIsn
        exact absurd noIsn (c.receiver.segmentReceived_syn syn)
      · rw [segmentReceived_rst live rst] at active
        contradiction
      · exact ⟨live, Bool.or_eq_false_iff.mpr ⟨noRst, rfl⟩⟩
  | tick ms =>
      rw [apply, tick_eq] at active
      cases gives : c.givesUp ms with
      | true =>
          rw [gives] at active
          contradiction
      | false =>
          simp only [gives, Bool.false_eq_true, if_false, flushSender_isActive,
            Bool.and_eq_true] at active
          exact ⟨active.1, Bool.or_eq_false_iff.mpr ⟨rfl, gives⟩⟩
  | readInbound len => exact ⟨active, rfl⟩
  | popSegment => exact ⟨active, rfl⟩

/-- The stream of a receiver without SYN has not ended, so the peer has not
closed first. -/
theorem BeforeSyn.linger_segmentReceived (inv : c.BeforeSyn) {seg : TCPSegment}
    (active : c.isActive = true) (noIsn : (c.segmentReceived seg).receiver.isn = none) :
    (c.segmentReceived seg).lingerAfterStreamsFinish = c.lingerAfterStreamsFinish := by
  cases rst : seg.header.rst with
  | true =>
      rw [segmentReceived_rst active rst]
      rfl
  | false =>
      have taken : (c.segmentReceived seg).receiver = c.receiver.segmentReceived seg := by
        rw [segmentReceived_live active rst, flushSender_receiver, updateShutdown_receiver]
      have opened := inv.opened.segmentReceived seg
      rw [TCPReceiver.Opened, ← taken, noIsn] at opened
      have running : (c.receiver.segmentReceived seg).streamOut.inputEnded = false := by
        rw [← taken, ← Bool.not_eq_true]
        exact fun ended => Bool.false_ne_true (opened ended)
      rw [(bits_segmentReceived active rst).2.1, running, Bool.not_false, Bool.or_true,
        Bool.and_true]

theorem BeforeSyn.apply (c : TCPConnection) (call : Call) (inv : c.BeforeSyn) :
    (c.apply call).BeforeSyn := by
  refine ⟨drained_apply inv.drained call, opened_apply inv.opened call, ?_, ?_⟩
  · intro noIsn
    have before := inv.linger (isn_none_of_apply noIsn)
    by_cases live : ∃ seg, call = .segmentReceived seg ∧ c.isActive = true
    · obtain ⟨seg, rfl, active⟩ := live
      exact (inv.linger_segmentReceived active noIsn).trans before
    · rw [(bits_apply fun seg same => Bool.eq_false_iff.mpr fun active =>
        live ⟨seg, same, active⟩).2]
      exact before
  · intro unsent noIsn active
    obtain ⟨activeBefore, calm⟩ := active_before_syn active unsent noIsn
    have unsentBefore : c.sender.nextSeqno = 0 := by
      have grown := (later_apply inv.drained call).nextSeqno
      omega
    rw [sender_error_apply inv.drained calm, receiver_error_apply calm]
    exact inv.calm unsentBefore (isn_none_of_apply noIsn) activeBefore

theorem BeforeSyn.state_listen_iff (inv : c.BeforeSyn) (unsent : c.sender.nextSeqno = 0)
    (noIsn : c.receiver.isn = none) : c.state = .ofState .listen ↔ c.active = true := by
  rw [TCPConnection.state_listen_iff, active]
  constructor
  · exact fun listening => listening.2.2.1
  · intro active
    obtain ⟨sendError, receiveError⟩ := inv.calm unsent noIsn active
    exact ⟨⟨sendError, unsent⟩, ⟨receiveError, noIsn⟩, active, inv.linger noIsn⟩

/-- No acknowledgment number is acceptable, and nothing is sent; only the window
is believed. -/
theorem process_unopened (unsent : c.sender.nextSeqno = 0) (noIsn : c.receiver.isn = none)
    {seg : TCPSegment} (noSyn : seg.header.syn = false) :
    ∃ windowSize, c.process seg = { c with sender := { c.sender with windowSize } } := by
  have noAckno : c.receiver.ackno = none := by
    rw [TCPReceiver.ackno, noIsn]
    rfl
  obtain ⟨_, ignored⟩ := (c.sender.ackReceived_cases seg.header.ackno seg.header.win).resolve_left
    (by omega)
  simp only [process, TCPReceiver.segmentReceived_unopened noIsn noSyn]
  cases seg.header.ack with
  | true =>
      refine ⟨seg.header.win, ?_⟩
      simp [noAckno, ignored]
  | false =>
      refine ⟨c.sender.windowSize, ?_⟩
      simp [noAckno]

/-- One segment without SYN: a reset ends the connection, and anything that
occupies a sequence number is answered. -/
theorem BeforeSyn.listen_step_iff (inv : c.BeforeSyn) (listening : c.state = .ofState .listen)
    {seg : TCPSegment} (noSyn : seg.header.syn = false) :
    (c.segmentReceived seg).state = .ofState .listen ∧
        (c.segmentReceived seg).segmentsOut = c.segmentsOut ↔
      seg.header.rst = false ∧ seg.lengthInSequenceSpace = 0 := by
  obtain ⟨⟨_, unsent⟩, ⟨_, noIsn⟩, active, linger⟩ :=
    (TCPConnection.state_listen_iff c).mp listening
  cases rst : seg.header.rst with
  | true =>
      rw [segmentReceived_rst active rst, TCPConnection.state_listen_iff]
      simp
  | false =>
      have queue : (c.apply (.segmentReceived seg)).segmentsOut =
          c.segmentsOut ++ (c.afterMethods (.segmentReceived seg)).segmentsOut.map
            (stamp (c.receiverAfter (.segmentReceived seg))) := by
        rw [segmentsOut_apply inv.drained Call.noConfusion, emitted_eq rfl]
      rw [TCPConnection.apply] at queue
      rw [queue, List.append_right_eq_self, List.map_eq_nil_iff]
      by_cases nothing : seg.lengthInSequenceSpace = 0
      · obtain ⟨windowSize, processed⟩ := process_unopened unsent noIsn noSyn
        have notAlive : (c.process seg).isKeepAlive seg = false := by
          rw [processed, isKeepAlive, TCPReceiver.ackno, noIsn]
          rfl
        have sender : c.afterMethods (.segmentReceived seg) = { c.sender with windowSize } := by
          rw [afterMethods_live active rst, replyOps_of_no_length nothing notAlive, processed]
          rfl
        have unsentAfter : (c.segmentReceived seg).sender.nextSeqno = 0 := by
          have after := sender_apply inv.drained (.segmentReceived seg)
          rw [TCPConnection.apply] at after
          rw [after, sender]
          exact unsent
        have noIsnAfter : (c.segmentReceived seg).receiver.isn = none := by
          have after := c.receiver_apply (.segmentReceived seg)
          rw [TCPConnection.apply] at after
          rw [after, receiverAfter, active, rst]
          exact (congrArg _ (TCPReceiver.segmentReceived_unopened noIsn noSyn)).trans noIsn
        have activeAfter : (c.segmentReceived seg).active = true := by
          rw [TCPConnection.active, (bits_segmentReceived active rst).2.2, linger, Bool.not_true,
            Bool.and_false, Bool.not_false]
        have invAfter : (c.segmentReceived seg).BeforeSyn := inv.apply c (.segmentReceived seg)
        rw [invAfter.state_listen_iff unsentAfter noIsnAfter, sender]
        exact iff_of_true ⟨activeAfter, inv.drained⟩ ⟨rfl, nothing⟩
      · refine iff_of_false ?_ fun silent => nothing silent.2
        exact fun silent =>
          replies_to_length active rst (Nat.pos_of_ne_zero nothing) silent.2

/-- A connection that has neither sent nor received a SYN stays in LISTEN and
sends nothing while segments without SYN arrive exactly when it is active and
none of them carries RST, FIN or payload. -/
theorem stays_listening_iff (cfg : TCPConfig) (random : UInt32) (calls : List Call)
    (segments : List TCPSegment) (noSyn : ∀ seg ∈ segments, seg.header.syn = false) :
    let c := run apply (new cfg random) calls
    c.sender.nextSeqno = 0 → c.receiver.isn = none →
    ((∀ first, first <+: segments →
        (run segmentReceived c first).state = .ofState .listen ∧
        (run segmentReceived c first).segmentsOut = c.segmentsOut) ↔
      c.active = true ∧
        ∀ seg ∈ segments, seg.header.rst = false ∧ seg.lengthInSequenceSpace = 0) := by
  intro c unsent noIsn
  have inv : c.BeforeSyn := run_invariant BeforeSyn calls (beforeSyn_new cfg random) BeforeSyn.apply
  rw [← inv.state_listen_iff unsent noIsn]
  by_cases listening : c.state = .ofState .listen
  · have all : Guarded segmentReceived (fun _ seg => seg.header.syn = false) c segments :=
      (guarded_iff_forall_mem _ c segments).mpr noSyn
    have quiet : Guarded segmentReceived
        (fun _ seg => seg.header.rst = false ∧ seg.lengthInSequenceSpace = 0) c segments ↔
          ∀ seg ∈ segments, seg.header.rst = false ∧ seg.lengthInSequenceSpace = 0 :=
      guarded_iff_forall_mem _ c segments
    rw [and_iff_right listening, ← quiet]
    refine safe_throughout_iff BeforeSyn
      (fun state => state.state = .ofState .listen ∧ state.segmentsOut = c.segmentsOut) ?_ ?_ inv
      ⟨listening, rfl⟩ all
    · intro state seg inv safely noSyn
      rw [← safely.2]
      exact inv.listen_step_iff safely.1 noSyn
    · exact fun state seg inv _ => inv.apply state (.segmentReceived seg)
  · refine iff_of_false ?_ fun silent => listening silent.1
    exact fun throughout => listening (throughout [] List.nil_prefix).1

/-- A reset ends a listening connection, and a byte without SYN is answered. -/
theorem listening_disturbed :
    let c := new {} 0
    let reset : TCPSegment := { header := { rst := true } }
    let byte : TCPSegment := { payload := [97] }
    c.state = .ofState .listen ∧ (run segmentReceived c [reset]).state ≠ .ofState .listen ∧
      (run segmentReceived c [byte]).segmentsOut ≠ c.segmentsOut := by
  decide

theorem stays_listening_iff_acks :
    let acks : List TCPSegment :=
      [{ header := { ack := true, ackno := ⟨5⟩, win := 7 } }, { header := { seqno := ⟨3⟩ } }]
    let c := run apply (new {} 0) [.tick 10]
    (run segmentReceived c acks).state = .ofState .listen ∧
      (run segmentReceived c acks).segmentsOut = c.segmentsOut :=
  (stays_listening_iff {} 0 [.tick 10]
    [{ header := { ack := true, ackno := ⟨5⟩, win := 7 } }, { header := { seqno := ⟨3⟩ } }]
    (by decide) (by decide) (by decide)).mpr ⟨by decide, by decide⟩ _ List.prefix_rfl

end Sponge.TCPConnection
