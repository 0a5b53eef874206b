import Sponge.TCPConnection.Basic
import Sponge.Lib.Run

/-!
# What a call does to the parts of a connection

Every call drives the sender through its own methods and then moves its queue
to the connection's.  Here each call is cut once into what it does to the
sender, to the receiver, to the outbound queue and to the connection's bits.
-/

namespace Sponge.TCPConnection

open Lib
open TCPSender (Op)

/-- A segment without the fields that the receiver sets. -/
def unstamped (seg : TCPSegment) : TCPSegment :=
  { seg with header := { seg.header with ackno := ⟨0⟩, ack := false, win := 0 } }

/-- What the sender decided about a segment. -/
theorem unstamped_inj {seg sent : TCPSegment} (same : unstamped seg = unstamped sent) :
    seg.payload = sent.payload ∧ seg.header.seqno = sent.header.seqno ∧
      seg.header.syn = sent.header.syn ∧ seg.header.fin = sent.header.fin := by
  simp only [unstamped, TCPSegment.mk.injEq, TCPHeader.mk.injEq] at same
  exact ⟨same.2, same.1.2.2.1, by tauto, by tauto⟩

@[simp]
theorem unstamped_stamp (receiver : TCPReceiver) (seg : TCPSegment) :
    unstamped (stamp receiver seg) = unstamped seg := by
  unfold stamp
  cases receiver.ackno <;> rfl

theorem stamp_length (receiver : TCPReceiver) (seg : TCPSegment) :
    (stamp receiver seg).lengthInSequenceSpace = seg.lengthInSequenceSpace := by
  unfold stamp
  cases receiver.ackno <;> rfl

@[simp]
theorem stamp_fin (receiver : TCPReceiver) (seg : TCPSegment) :
    (stamp receiver seg).header.fin = seg.header.fin := by
  unfold stamp
  cases receiver.ackno <;> rfl

/-- What the receiver sets: the acknowledgment if it has one, and the window,
cut to 16 bits. -/
theorem stamp_eq (receiver : TCPReceiver) (seg : TCPSegment) :
    stamp receiver seg =
      { seg with
        header :=
          { seg.header with
            ack := receiver.isn.isSome || seg.header.ack
            ackno := receiver.ackno.getD seg.header.ackno
            win := UInt16.ofNat (min receiver.windowSize 65535) } } := by
  have win : (if receiver.windowSize < 65535 then UInt16.ofNat receiver.windowSize else 65535) =
      UInt16.ofNat (min receiver.windowSize 65535) := by
    split_ifs with small
    · rw [Nat.min_eq_left (Nat.le_of_lt small)]
    · rw [Nat.min_eq_right (Nat.le_of_not_lt small)]
      rfl
  unfold stamp TCPReceiver.ackno
  rw [win]
  cases receiver.isn <;> rfl

theorem stamp_win (receiver : TCPReceiver) (seg : TCPSegment) :
    (stamp receiver seg).header.win.toNat = min receiver.windowSize 65535 := by
  rw [stamp_eq]
  exact UInt16.toNat_ofNat_of_lt' (Nat.lt_succ_of_le (Nat.min_le_right _ _))

theorem foldl_flushSegment (c : TCPConnection) (segments : List TCPSegment) :
    segments.foldl flushSegment c =
      { c with
        segmentsOut := c.segmentsOut ++ segments.map (stamp c.receiver)
        isFinSent := c.isFinSent || segments.any (·.header.fin) } := by
  induction segments generalizing c with
  | nil => simp
  | cons seg rest inductionHypothesis =>
      rw [List.foldl_cons, inductionHypothesis]
      simp [flushSegment, Bool.or_assoc]

theorem flushSender_eq (c : TCPConnection) :
    c.flushSender =
      { c with
        sender := { c.sender with segmentsOut := [] }
        segmentsOut := c.segmentsOut ++ c.sender.segmentsOut.map (stamp c.receiver)
        isFinSent := c.isFinSent || c.sender.segmentsOut.any (·.header.fin) } := by
  rw [flushSender, foldl_flushSegment]

@[simp]
theorem flushSender_sender (c : TCPConnection) :
    c.flushSender.sender = { c.sender with segmentsOut := [] } := by
  rw [flushSender_eq]

@[simp]
theorem flushSender_receiver (c : TCPConnection) : c.flushSender.receiver = c.receiver := by
  rw [flushSender_eq]

@[simp]
theorem flushSender_segmentsOut (c : TCPConnection) :
    c.flushSender.segmentsOut =
      c.segmentsOut ++ c.sender.segmentsOut.map (stamp c.receiver) := by
  rw [flushSender_eq]

@[simp]
theorem flushSender_cfg (c : TCPConnection) : c.flushSender.cfg = c.cfg := by
  rw [flushSender_eq]

@[simp]
theorem flushSender_isActive (c : TCPConnection) : c.flushSender.isActive = c.isActive := by
  rw [flushSender_eq]

@[simp]
theorem flushSender_isFinAcked (c : TCPConnection) :
    c.flushSender.isFinAcked = c.isFinAcked := by
  rw [flushSender_eq]

@[simp]
theorem flushSender_lingerAfterStreamsFinish (c : TCPConnection) :
    c.flushSender.lingerAfterStreamsFinish = c.lingerAfterStreamsFinish := by
  rw [flushSender_eq]

@[simp]
theorem flushSender_timeSinceLastSegmentReceived (c : TCPConnection) :
    c.flushSender.timeSinceLastSegmentReceived = c.timeSinceLastSegmentReceived := by
  rw [flushSender_eq]

/-- The FIN is noticed on the segments as they are sent. -/
theorem flushSender_isFinSent (c : TCPConnection) :
    c.flushSender.isFinSent =
      (c.isFinSent || (c.sender.segmentsOut.map (stamp c.receiver)).any (·.header.fin)) := by
  rw [flushSender_eq]
  simp [Function.comp_def]

/-- Does this tick exceed the number of retransmissions? -/
def givesUp (c : TCPConnection) (ms : ℕ) : Bool :=
  decide ((c.sender.tick ms).consecutiveRetransmissions > TCPConfig.maxRetxAttempts)

/-- What `process` does with the sender. -/
def processOps (c : TCPConnection) (seg : TCPSegment) : List Op :=
  (if seg.header.ack then [.ackReceived seg.header.ackno seg.header.win] else []) ++
    if (c.receiver.segmentReceived seg).ackno.isSome then [.fillWindow] else []

theorem process_eq (c : TCPConnection) (seg : TCPSegment) :
    c.process seg =
      { c with
        receiver := c.receiver.segmentReceived seg
        sender := run TCPSender.apply c.sender (c.processOps seg) } := by
  unfold process processOps
  cases ack : seg.header.ack <;> cases known : (c.receiver.segmentReceived seg).ackno.isSome <;>
    simp [known, TCPSender.apply]

/-- What `ensureReply` does with the sender. -/
def replyOps (c : TCPConnection) (seg : TCPSegment) : List Op :=
  (if seg.lengthInSequenceSpace > 0 && c.sender.segmentsOut.isEmpty then [.sendEmptySegment]
    else []) ++ if c.isKeepAlive seg then [.sendEmptySegment] else []

theorem ensureReply_eq (c : TCPConnection) (seg : TCPSegment) :
    c.ensureReply seg =
      { c with sender := run TCPSender.apply c.sender (c.replyOps seg) } := by
  unfold ensureReply replyOps
  cases replies : decide (seg.lengthInSequenceSpace > 0) && c.sender.segmentsOut.isEmpty with
  | false => cases alive : c.isKeepAlive seg <;> simp [alive, TCPSender.apply]
  | true =>
      have same : isKeepAlive { c with sender := c.sender.sendEmptySegment } seg =
          c.isKeepAlive seg := rfl
      cases alive : c.isKeepAlive seg <;> simp [same, alive, TCPSender.apply]

@[simp]
theorem updateShutdown_sender (c : TCPConnection) (seg : TCPSegment) :
    (c.updateShutdown seg).sender = c.sender := by
  unfold updateShutdown
  split_ifs <;> rfl

@[simp]
theorem updateShutdown_receiver (c : TCPConnection) (seg : TCPSegment) :
    (c.updateShutdown seg).receiver = c.receiver := by
  unfold updateShutdown
  split_ifs <;> rfl

@[simp]
theorem updateShutdown_segmentsOut (c : TCPConnection) (seg : TCPSegment) :
    (c.updateShutdown seg).segmentsOut = c.segmentsOut := by
  unfold updateShutdown
  split_ifs <;> rfl

@[simp]
theorem updateShutdown_cfg (c : TCPConnection) (seg : TCPSegment) :
    (c.updateShutdown seg).cfg = c.cfg := by
  unfold updateShutdown
  split_ifs <;> rfl

@[simp]
theorem updateShutdown_timeSinceLastSegmentReceived (c : TCPConnection) (seg : TCPSegment) :
    (c.updateShutdown seg).timeSinceLastSegmentReceived = c.timeSinceLastSegmentReceived := by
  unfold updateShutdown
  split_ifs <;> rfl

@[simp]
theorem updateShutdown_isFinSent (c : TCPConnection) (seg : TCPSegment) :
    (c.updateShutdown seg).isFinSent = c.isFinSent := by
  unfold updateShutdown
  split_ifs <;> rfl

theorem replyOps_congr {c c' : TCPConnection} (sender : c'.sender = c.sender)
    (receiver : c'.receiver = c.receiver) (seg : TCPSegment) :
    c'.replyOps seg = c.replyOps seg := by
  rw [replyOps, replyOps, isKeepAlive, isKeepAlive, sender, receiver]

/-- The methods of the sender that a call runs. -/
def methodOps (c : TCPConnection) : Call → List Op
  | .connect => [.fillWindow]
  | .write data => [.write data, .fillWindow]
  | .endInputStream => [.endInput, .fillWindow]
  | .segmentReceived seg =>
      if !c.isActive then []
      else if seg.header.rst then [.setError]
      else c.processOps seg ++ (c.process seg).replyOps seg
  | .tick ms => .tick ms :: if c.givesUp ms then [.setError] else []
  | .readInbound _ => []
  | .popSegment => []

/-- The sender as a call leaves it, before its queue is emptied. -/
def afterMethods (c : TCPConnection) (call : Call) : TCPSender :=
  run TCPSender.apply c.sender (c.methodOps call)

/-- The receiver as a call leaves it. -/
def receiverAfter (c : TCPConnection) : Call → TCPReceiver
  | .segmentReceived seg =>
      if !c.isActive then
        if seg.header.syn then c.receiver.segmentReceived seg else c.receiver
      else if seg.header.rst then c.receiver.withStreamOut c.receiver.streamOut.setError
      else c.receiver.segmentReceived seg
  | .tick ms =>
      if c.givesUp ms then c.receiver.withStreamOut c.receiver.streamOut.setError
      else c.receiver
  | .readInbound len => c.receiver.withStreamOut (c.receiver.streamOut.popOutput len)
  | _ => c.receiver

def rstSegment (s : TCPSender) : TCPSegment :=
  { header := { seqno := wrap s.nextSeqno s.isn, rst := true } }

def Call.givesUp (c : TCPConnection) : Call → Bool
  | .tick ms => c.givesUp ms
  | _ => false

/-- The segments that a call appends to the outbound queue. -/
def emitted (c : TCPConnection) (call : Call) : List TCPSegment :=
  if call.givesUp c then [rstSegment (c.afterMethods call)]
  else (c.afterMethods call).segmentsOut.map (stamp (c.receiverAfter call))

theorem emitted_eq {c : TCPConnection} {call : Call} (persists : call.givesUp c = false) :
    c.emitted call = (c.afterMethods call).segmentsOut.map (stamp (c.receiverAfter call)) := by
  rw [emitted, persists, if_neg Bool.false_ne_true]

/-- What happens to a segment that reaches a live connection. -/
theorem segmentReceived_live {c : TCPConnection} {seg : TCPSegment}
    (active : c.isActive = true) (noRst : seg.header.rst = false) :
    c.segmentReceived seg =
      { ({ c with
            timeSinceLastSegmentReceived := 0
            receiver := c.receiver.segmentReceived seg
            sender := run TCPSender.apply c.sender (c.processOps seg) } :
              TCPConnection).updateShutdown seg with
        sender := c.afterMethods (.segmentReceived seg) }.flushSender := by
  unfold segmentReceived
  simp only [active, noRst, Bool.not_true, Bool.false_eq_true, if_false, ensureReply_eq,
    process_eq, updateShutdown_sender, afterMethods, methodOps, run_append]
  congr 3
  exact replyOps_congr (updateShutdown_sender _ _) (updateShutdown_receiver _ _) seg

theorem tick_eq (c : TCPConnection) (ms : ℕ) :
    c.tick ms =
      let c' := { c with
        timeSinceLastSegmentReceived := Word.add 64 c.timeSinceLastSegmentReceived ms
        sender := c.sender.tick ms }
      if c.givesUp ms then c'.sendRst
      else { c' with isActive := c'.isActive && !c'.isDone }.flushSender := by
  unfold tick givesUp
  simp only [decide_eq_true_eq]

variable {c : TCPConnection}

theorem segmentReceived_dead (inactive : c.isActive = false) (seg : TCPSegment) :
    c.segmentReceived seg =
      { c with
        timeSinceLastSegmentReceived := 0
        isActive := seg.header.syn
        receiver := if seg.header.syn then c.receiver.segmentReceived seg else c.receiver } := by
  unfold segmentReceived
  cases syn : seg.header.syn <;> simp [inactive]

theorem segmentReceived_rst {seg : TCPSegment} (active : c.isActive = true)
    (rst : seg.header.rst = true) :
    c.segmentReceived seg =
      { c.setErrors with timeSinceLastSegmentReceived := 0, isActive := false } := by
  unfold segmentReceived
  simp only [active, rst, Bool.not_true, Bool.false_eq_true, if_false, if_true]
  rfl

/-- The three things that can happen to a segment: a connection that is not
active looks for a SYN, a reset ends the connection, and everything else is
processed. -/
theorem segmentReceived_cases (c : TCPConnection) (seg : TCPSegment) :
    c.isActive = false ∨ (c.isActive = true ∧ seg.header.rst = true) ∨
      (c.isActive = true ∧ seg.header.rst = false) := by
  cases c.isActive <;> cases seg.header.rst <;> simp

theorem sender_apply (drained : c.sender.segmentsOut = []) (call : Call) :
    (c.apply call).sender = { c.afterMethods call with segmentsOut := [] } := by
  cases call with
  | connect => exact flushSender_sender _
  | write data => exact flushSender_sender _
  | endInputStream => exact flushSender_sender _
  | segmentReceived seg =>
      rw [apply]
      rcases c.segmentReceived_cases seg with dead | ⟨active, rst⟩ | ⟨active, noRst⟩
      · rw [segmentReceived_dead dead, afterMethods, methodOps, dead, ← drained]
        rfl
      · rw [segmentReceived_rst active rst, afterMethods, methodOps, active, rst, ← drained]
        rfl
      · rw [segmentReceived_live active noRst, flushSender_sender]
  | tick ms =>
      rw [apply, tick_eq, afterMethods, methodOps]
      cases c.givesUp ms with
      | true => rfl
      | false => exact flushSender_sender _
  | readInbound len =>
      rw [afterMethods, methodOps, run_nil, ← drained]
      rfl
  | popSegment =>
      rw [afterMethods, methodOps, run_nil, ← drained]
      rfl

theorem receiver_apply (c : TCPConnection) (call : Call) :
    (c.apply call).receiver = c.receiverAfter call := by
  cases call with
  | connect => exact flushSender_receiver _
  | write data => exact flushSender_receiver _
  | endInputStream => exact flushSender_receiver _
  | segmentReceived seg =>
      rw [apply, receiverAfter]
      rcases c.segmentReceived_cases seg with dead | ⟨active, rst⟩ | ⟨active, noRst⟩
      · rw [segmentReceived_dead dead, dead]
        rfl
      · rw [segmentReceived_rst active rst, active, rst]
        rfl
      · rw [segmentReceived_live active noRst, flushSender_receiver, updateShutdown_receiver,
          active, noRst]
        rfl
  | tick ms =>
      rw [apply, tick_eq, receiverAfter]
      cases c.givesUp ms with
      | true => rfl
      | false => exact flushSender_receiver _
  | readInbound len => rfl
  | popSegment => rfl

/-- All that a call can do to the receiver. -/
theorem receiver_cases (c : TCPConnection) (call : Call) :
    ((∀ len, call ≠ .readInbound len) ∧ ((c.apply call).receiver = c.receiver ∨
      (c.apply call).receiver = c.receiver.withStreamOut c.receiver.streamOut.setError)) ∨
    (∃ len, call = .readInbound len ∧
      (c.apply call).receiver = c.receiver.withStreamOut (c.receiver.streamOut.popOutput len)) ∨
    ∃ seg, call = .segmentReceived seg ∧
      (c.apply call).receiver = c.receiver.segmentReceived seg := by
  rw [receiver_apply]
  cases call with
  | segmentReceived seg =>
      rw [receiverAfter]
      split_ifs
      · exact .inr (.inr ⟨seg, rfl, rfl⟩)
      · exact .inl ⟨fun _ => Call.noConfusion, .inl rfl⟩
      · exact .inl ⟨fun _ => Call.noConfusion, .inr rfl⟩
      · exact .inr (.inr ⟨seg, rfl, rfl⟩)
  | tick ms =>
      rw [receiverAfter]
      split_ifs
      · exact .inl ⟨fun _ => Call.noConfusion, .inr rfl⟩
      · exact .inl ⟨fun _ => Call.noConfusion, .inl rfl⟩
  | readInbound len => exact .inr (.inl ⟨len, rfl, rfl⟩)
  | _ => exact .inl ⟨fun _ => Call.noConfusion, .inl rfl⟩

/-- An invariant of the receiver that reading, resetting and receiving keep,
every call keeps. -/
theorem receiver_invariant (inv : TCPReceiver → Prop) (call : Call) (holds : inv c.receiver)
    (errors : ∀ r, inv r → inv (r.withStreamOut r.streamOut.setError))
    (reads : ∀ r len, inv r → inv (r.withStreamOut (r.streamOut.popOutput len)))
    (receives : ∀ r seg, inv r → inv (r.segmentReceived seg)) : inv (c.apply call).receiver := by
  rcases c.receiver_cases call with ⟨_, same | error⟩ | ⟨len, _, read⟩ | ⟨seg, _, taken⟩
  · rw [same]
    exact holds
  · rw [error]
    exact errors _ holds
  · rw [read]
    exact reads _ len holds
  · rw [taken]
    exact receives _ seg holds

/-- Everything a call sends is appended to the queue, and the FIN is noticed. -/
theorem emitted_apply (drained : c.sender.segmentsOut = []) {call : Call}
    (notPop : call ≠ .popSegment) :
    (c.apply call).segmentsOut = c.segmentsOut ++ c.emitted call ∧
      (c.apply call).isFinSent = (c.isFinSent || (c.emitted call).any (·.header.fin)) := by
  cases call with
  | connect => exact ⟨flushSender_segmentsOut _, flushSender_isFinSent _⟩
  | write data => exact ⟨flushSender_segmentsOut _, flushSender_isFinSent _⟩
  | endInputStream => exact ⟨flushSender_segmentsOut _, flushSender_isFinSent _⟩
  | segmentReceived seg =>
      rw [apply, emitted_eq rfl, receiverAfter, afterMethods]
      rcases c.segmentReceived_cases seg with dead | ⟨active, rst⟩ | ⟨active, noRst⟩
      · rw [segmentReceived_dead dead]
        simp [methodOps, dead, drained]
      · rw [segmentReceived_rst active rst]
        simp [methodOps, active, rst, drained, setErrors, TCPSender.apply]
      · rw [segmentReceived_live active noRst, flushSender_segmentsOut, flushSender_isFinSent,
          updateShutdown_receiver, updateShutdown_segmentsOut, updateShutdown_isFinSent, active,
          noRst]
        exact ⟨rfl, rfl⟩
  | tick ms =>
      rw [apply, tick_eq, emitted, Call.givesUp, afterMethods, methodOps, receiverAfter]
      cases c.givesUp ms with
      | true => exact ⟨rfl, (Bool.or_false _).symm⟩
      | false => exact ⟨flushSender_segmentsOut _, flushSender_isFinSent _⟩
  | readInbound len =>
      rw [emitted_eq rfl, afterMethods, methodOps, run_nil, drained]
      exact ⟨(List.append_nil _).symm, (Bool.or_false _).symm⟩
  | popSegment => contradiction

theorem segmentsOut_apply (drained : c.sender.segmentsOut = []) {call : Call}
    (notPop : call ≠ .popSegment) :
    (c.apply call).segmentsOut = c.segmentsOut ++ c.emitted call :=
  (emitted_apply drained notPop).1

theorem emitted_popSegment (drained : c.sender.segmentsOut = []) :
    c.emitted .popSegment = [] := by
  rw [emitted_eq rfl, afterMethods, methodOps, run_nil, drained]
  rfl

/-- The segments that a call puts on the outbound queue, as an observer sees it. -/
def appended (c : TCPConnection) (call : Call) : List TCPSegment :=
  (c.apply call).segmentsOut.drop c.segmentsOut.length

theorem appended_eq (drained : c.sender.segmentsOut = []) {call : Call} :
    c.appended call = c.emitted call := by
  by_cases pop : call = .popSegment
  · rw [pop, emitted_popSegment drained, appended, apply, List.drop_eq_nil_iff, List.length_tail]
    exact Nat.sub_le _ _
  · rw [appended, segmentsOut_apply drained pop, List.drop_left]

theorem isFinSent_apply (drained : c.sender.segmentsOut = []) (call : Call) :
    (c.apply call).isFinSent = (c.isFinSent || (c.emitted call).any (·.header.fin)) := by
  by_cases pop : call = .popSegment
  · rw [pop, emitted_popSegment drained]
    exact (Bool.or_false _).symm
  · exact (emitted_apply drained pop).2

/-- The calls that do not come from the application. -/
def Call.isExternal : Call → Bool
  | .segmentReceived _ => true
  | .tick _ => true
  | _ => false

/-- A call of the application leaves the configuration, the clock and the bits
of the shutdown alone. -/
theorem application_frame {call : Call} (application : call.isExternal = false) :
    ((c.apply call).cfg = c.cfg ∧
      (c.apply call).timeSinceLastSegmentReceived = c.timeSinceLastSegmentReceived) ∧
    (c.apply call).isFinAcked = c.isFinAcked ∧
      (c.apply call).lingerAfterStreamsFinish = c.lingerAfterStreamsFinish := by
  cases call with
  | segmentReceived seg => contradiction
  | tick ms => contradiction
  | connect => simp [apply, connect]
  | write data => simp [apply, write]
  | endInputStream => simp [apply, endInputStream]
  | readInbound len => exact ⟨⟨rfl, rfl⟩, rfl, rfl⟩
  | popSegment => exact ⟨⟨rfl, rfl⟩, rfl, rfl⟩

/-- Nor does it end the connection. -/
theorem application_isActive {call : Call} (application : call.isExternal = false)
    (active : c.isActive = true) : (c.apply call).isActive = true := by
  cases call with
  | segmentReceived seg => contradiction
  | tick ms => contradiction
  | connect => exact flushSender_isActive _
  | write data => exact (flushSender_isActive _).trans active
  | endInputStream => exact (flushSender_isActive _).trans active
  | readInbound len => exact active
  | popSegment => exact active

theorem tick_frame (c : TCPConnection) (ms : ℕ) :
    ((c.tick ms).cfg = c.cfg ∧
      (c.tick ms).timeSinceLastSegmentReceived =
        Word.add 64 c.timeSinceLastSegmentReceived ms) ∧
    (c.tick ms).isFinAcked = c.isFinAcked ∧
      (c.tick ms).lingerAfterStreamsFinish = c.lingerAfterStreamsFinish := by
  rw [tick_eq]
  cases c.givesUp ms with
  | true => exact ⟨⟨rfl, rfl⟩, rfl, rfl⟩
  | false => simp

theorem segmentReceived_frame (c : TCPConnection) (seg : TCPSegment) :
    (c.segmentReceived seg).cfg = c.cfg ∧
      (c.segmentReceived seg).timeSinceLastSegmentReceived = 0 := by
  rcases c.segmentReceived_cases seg with dead | ⟨active, rst⟩ | ⟨active, noRst⟩
  · rw [segmentReceived_dead dead]
    exact ⟨rfl, rfl⟩
  · rw [segmentReceived_rst active rst]
    exact ⟨rfl, rfl⟩
  · rw [segmentReceived_live active noRst]
    simp

end Sponge.TCPConnection
