import Sponge.Network.EndOfStream
import Sponge.TCPConnection.Advertising
import Sponge.TCPConnection.Modest
import Sponge.TCPConnection.Shutdown

/-!
# Acknowledgments across the network

An acknowledgment may be late, lost or repeated, but it never speaks of bytes
that have not arrived.  What a side believes to be acknowledged is therefore in
the other side's inbound stream, and a side that closes without a reset leaves
both streams complete.
-/

namespace Sponge

open Lib TCPConnection
open TCPSender (Op)

namespace TCPSender

theorem previousAckno_apply (s : TCPSender) {op : Op} (notAck : ∀ a w, op ≠ .ackReceived a w) :
    (s.apply op).previousAckno = s.previousAckno := by
  cases op with
  | fillWindow => exact s.fillWindow_previousAckno
  | ackReceived ackno windowSize => exact absurd rfl (notAck ackno windowSize)
  | tick ms => exact s.tick_previousAckno ms
  | _ => rfl

theorem previousAckno_run (s : TCPSender) {ops : List Op}
    (noAck : ∀ op ∈ ops, ∀ a w, op ≠ .ackReceived a w) :
    (run apply s ops).previousAckno = s.previousAckno := by
  have guarded : Guarded apply (fun _ op => ∀ a w, op ≠ .ackReceived a w) s ops :=
    guarded_of_forall s fun op membership _ => noAck op membership
  exact guarded.invariant (fun s' => s'.previousAckno = s.previousAckno) rfl
    fun s' _ same notAck => (s'.previousAckno_apply notAck).trans same

/-- The number is taken from the acknowledgment, if it acknowledges new data. -/
theorem previousAckno_ackReceived (s : TCPSender) (ackno : WrappingInt32) (windowSize : UInt16) :
    (s.ackReceived ackno windowSize).previousAckno = s.previousAckno ∨
      unwrap ackno s.isn s.previousAckno ≤ s.nextSeqno ∧
        (s.ackReceived ackno windowSize).previousAckno = unwrap ackno s.isn s.previousAckno := by
  rcases s.ackReceived_cases ackno windowSize with ⟨⟨_, sent⟩, taken⟩ | ⟨_, ignored⟩
  · refine .inr ⟨sent, ?_⟩
    rw [taken, restartTimer, fillWindow_previousAckno, acknowledge]
  · exact .inl (by rw [ignored])

/-- A sequence number for each byte, one for the SYN and one for the FIN. -/
theorem Segmented.nextSeqno_le {s : TCPSender} {accepted : List UInt8} {filled : List TCPSegment}
    (inv : s.Segmented accepted filled) : s.nextSeqno ≤ accepted.length + 2 := by
  by_cases started : s.nextSeqno = 0
  · omega
  · have next := inv.nextSeqno_eq started
    have taken := inv.taken
    rw [← inv.contents, List.length_append]
    split at next <;> omega

/-- The FIN has the last sequence number. -/
theorem Segmented.nextSeqno_of_finSent {s : TCPSender} {accepted : List UInt8}
    {filled : List TCPSegment} (inv : s.Segmented accepted filled) (sent : s.isFinSent = true) :
    s.nextSeqno = accepted.length + 2 := by
  have next := inv.nextSeqno_eq (inv.started sent)
  have taken := inv.taken
  rw [sent, if_pos rfl] at next
  rw [← inv.contents, inv.eofDrained (inv.finEof sent), List.append_nil]
  omega

end TCPSender

namespace TCPConnection

variable {c : TCPConnection}

theorem noAck_of_routine {resets : Bool} {op : Op} (routine : Routine resets op) (a : WrappingInt32)
    (w : UInt16) : op ≠ .ackReceived a w := by
  cases routine <;> exact Op.noConfusion

theorem ack_of_mem_methodOps {seg : TCPSegment} {a : WrappingInt32} {w : UInt16}
    (membership : Op.ackReceived a w ∈ c.methodOps (.segmentReceived seg)) :
    seg.header.ack = true := by
  by_contra noAck
  simp only [methodOps, processOps, replyOps, if_neg noAck] at membership
  split_ifs at membership <;> simp at membership

/-- Only a segment with the ACK flag changes what is known to be acknowledged. -/
theorem previousAckno_apply (drained : c.sender.segmentsOut = []) (call : Call) :
    (c.apply call).sender.previousAckno = c.sender.previousAckno ∨
      ∃ seg, call = .segmentReceived seg ∧ seg.header.ack = true ∧
        unwrap seg.header.ackno c.sender.isn c.sender.previousAckno ≤ c.sender.nextSeqno ∧
        (c.apply call).sender.previousAckno =
          unwrap seg.header.ackno c.sender.isn c.sender.previousAckno := by
  have methods : (c.apply call).sender.previousAckno = (c.afterMethods call).previousAckno := by
    rw [sender_apply drained]
  rw [methods, afterMethods]
  obtain ⟨rest, routine, plain | ⟨op, isFirst, special⟩⟩ := c.methodOps_routine call
  · rw [plain]
    exact .inl (c.sender.previousAckno_run fun op membership =>
      noAck_of_routine (routine op membership))
  · rw [special, run_cons, TCPSender.previousAckno_run _ fun op membership =>
      noAck_of_routine (routine op membership)]
    cases call with
    | segmentReceived seg =>
        cases isFirst
        have ack : seg.header.ack = true := ack_of_mem_methodOps (special ▸ List.mem_cons_self)
        rcases c.sender.previousAckno_ackReceived seg.header.ackno seg.header.win with
          same | ⟨sent, taken⟩
        · exact .inl same
        · exact .inr ⟨seg, rfl, ack, sent, taken⟩
    | _ => cases isFirst <;> exact .inl (c.sender.previousAckno_apply fun _ _ => Op.noConfusion)

/-- An acknowledgment that leaves the connection says what the receiver knows. -/
theorem Resting.ackno_of_emitted (rest : c.Resting) {call : Call} {seg : TCPSegment}
    (sent : seg ∈ c.emitted call) (ack : seg.header.ack = true) :
    ∃ isn ∈ (c.apply call).receiver.isn,
      seg.header.ackno = wrap (c.apply call).receiver.absoluteAckno isn := by
  rw [emitted, ← receiver_apply] at sent
  split at sent
  · rw [List.mem_singleton.mp sent] at ack
    contradiction
  · obtain ⟨queued, waiting, rfl⟩ := List.mem_map.mp sent
    have unset := ((blank_methods rest.blank call).queued queued waiting).1
    simp only [stamp_eq, unset, Bool.or_false, Option.isSome_iff_exists] at ack
    obtain ⟨isn, known⟩ := ack
    refine ⟨isn, known, ?_⟩
    rw [stamp_eq, TCPReceiver.ackno_eq, known]
    rfl

end TCPConnection

/-- One direction of the system: `e` sends, and `e'` acknowledges what it has
assembled. -/
structure Acknowledges (e e' : Endpoint) : Prop where
  resting : e'.conn.Resting
  modest : e'.conn.Modest
  unset : ∀ seg ∈ e'.sent, seg.header.ack = false → seg.header.ackno = ⟨0⟩
  answers : ∀ seg ∈ e'.sent, seg.header.ack = true →
    ∃ n ≤ e'.conn.receiver.absoluteAckno, seg.header.ackno = wrap n e.conn.sender.isn
  believed : e.conn.sender.previousAckno ≤ e'.conn.receiver.absoluteAckno

namespace Acknowledges

theorem initially {cfg cfg' : TCPConfig} (representable : cfg'.recvCapacity < 2 ^ 64)
    (random random' : UInt32) :
    Acknowledges (Endpoint.new cfg random) (Endpoint.new cfg' random') :=
  ⟨resting_new representable random', modest_new cfg' random', List.forall_mem_nil _,
    List.forall_mem_nil _, Nat.zero_le _⟩

variable {e e' : Endpoint} {call : Call}

/-- What `e` learns from an acknowledgment, `e'` has said. -/
theorem sends (inv : Acknowledges e e') (drained : e.conn.sender.segmentsOut = [])
    (few : e.conn.sender.nextSeqno < 2 ^ 32) (known : e'.conn.receiver.absoluteAckno < 2 ^ 32)
    (arrives : ∀ seg, call = .segmentReceived seg → seg ∈ e'.sent) :
    Acknowledges (e.apply call) e' := by
  have isn := (Endpoint.later_apply drained call).isn
  refine ⟨inv.resting, inv.modest, inv.unset, ?_, ?_⟩
  · rw [isn]
    exact inv.answers
  rcases previousAckno_apply drained call with same | ⟨seg, rfl, ack, sent, taken⟩
  · exact same.trans_le inv.believed
  · obtain ⟨n, assembled, ackno⟩ := inv.answers seg (arrives seg rfl) ack
    -- the numbers agree in their low 32 bits, and neither needs more
    have residue := unwrap_mod seg.header.ackno e.conn.sender.isn e.conn.sender.previousAckno
    rw [← (wrap_eq_iff n _ _).mp ackno.symm] at residue
    show (e.conn.apply _).sender.previousAckno ≤ _
    rw [taken]
    omega

/-- What `e'` says, it has assembled. -/
theorem receives (inv : Acknowledges e e')
    (isn : ∀ known ∈ (e'.apply call).conn.receiver.isn, known = e.conn.sender.isn) :
    Acknowledges e (e'.apply call) := by
  have later := (receiver_later e'.conn call).absoluteAckno_le
  have sent := Endpoint.sent_apply inv.resting.drained call
  refine ⟨inv.resting.apply _ call, inv.modest.apply call, ?_, ?_, inv.believed.trans later⟩
  · rw [sent, List.forall_mem_append]
    exact ⟨inv.unset, fun seg new => (inv.modest.emitted call seg new).unset⟩
  intro seg membership ack
  rw [sent, List.mem_append] at membership
  rcases membership with old | new
  · obtain ⟨n, assembled, ackno⟩ := inv.answers seg old ack
    exact ⟨n, assembled.trans later, ackno⟩
  · obtain ⟨known, isKnown, ackno⟩ := inv.resting.ackno_of_emitted new ack
    rw [isn known isKnown] at ackno
    exact ⟨_, Nat.le_refl _, ackno⟩

variable {filled : List TCPSegment} {arrived : Finset ℕ}

/-- What is believed to be acknowledged is in the inbound stream of the other side. -/
theorem placed (inv : Acknowledges e e')
    (ending : e'.Ending e.conn.sender.isn e.accepted arrived) :
    e.accepted.take (e.conn.sender.previousAckno - 1) <+: e'.placed := by
  have believed := inv.believed
  have written : e'.conn.receiver.streamOut.bytesWritten =
      e'.conn.receiver.reassembler.firstUnassembledIndex := ending.receiving.settled.written
  rw [ending.receiving.placed_eq]
  rw [TCPReceiver.absoluteAckno, written] at believed
  split at believed
  next ended =>
    rw [(ending.ending.ended ended).2, List.take_length]
    exact List.take_prefix _ _
  next => exact List.take_prefix_take_left (by omega)

/-- An acknowledged FIN has arrived after everything in front of it. -/
theorem complete (inv : Acknowledges e e') (sending : e.Sending filled)
    (ending : e'.Ending e.conn.sender.isn e.accepted arrived)
    (sent : e.conn.sender.isFinSent = true)
    (acked : e.conn.sender.previousAckno = e.conn.sender.nextSeqno) :
    e'.placed = e.accepted ∧ e'.conn.inboundStream.inputEnded = true := by
  have believed := inv.believed
  have written := ending.receiving.written_le
  rw [acked, sending.segmented.nextSeqno_of_finSent sent, TCPReceiver.absoluteAckno] at believed
  split at believed
  next ended =>
    refine ⟨?_, ended⟩
    rw [ending.receiving.placed_eq, (ending.ending.ended ended).2, List.take_length]
  next => omega

end Acknowledges

namespace System

/-- The acknowledgments of both sides stay true. -/
theorem acknowledges_step {s : System} {event : Event} (permitted : s.Permitted event)
    (completes : ∀ side, Completes (s side) (s side.other))
    (completes' : ∀ side, Completes (s.step event side) (s.step event side.other))
    (inv : ∀ side, Acknowledges (s side) (s side.other)) :
    ∀ side, Acknowledges (s.step event side) (s.step event side.other) := by
  have called (caller : Side) (call : Call)
      (arrives : ∀ seg, call = .segmentReceived seg → seg ∈ (s caller.other).sent)
      (updated : s.step event = Function.update s caller ((s caller).apply call)) :
      ∀ side, Acknowledges (s.step event side) (s.step event side.other) := by
    have back := inv caller.other
    have known := completes' caller.other
    rw [Side.other_other] at back known
    rw [updated, Function.update_self, Function.update_of_ne caller.other_ne] at known
    rw [updated]
    apply update_directions
    · obtain ⟨_, _, sending, small, ending, _⟩ := completes caller
      have next := sending.segmented.nextSeqno_le
      have written := ending.receiving.written_le
      refine (inv caller).sends sending.drained (by omega) ?_ arrives
      rw [TCPReceiver.absoluteAckno]
      split <;> omega
    · obtain ⟨_, _, _, _, ending, _⟩ := known
      exact back.receives ending.receiving.isn
  rcases s.step_cases event with
    same | ⟨caller, call, updated, rfl | ⟨n, seg, rfl, rfl, picked⟩⟩
  · rw [same]
    exact inv
  · refine called caller call ?_ updated
    rintro seg rfl
    exact False.elim permitted
  · refine called caller _ ?_ updated
    intro _ isSegment
    cases isSegment
    exact Endpoint.mem_sent_of_wire picked

/-- Both directions of the system, with their acknowledgments. -/
def Honest (s : System) : Prop :=
  ∀ side, Completes (s side) (s side.other) ∧ Acknowledges (s side) (s side.other)

theorem Honest.step {s : System} {event : Event} (inv : s.Honest) (permitted : s.Permitted event)
    (inWindow : s.InWindow event) (inOrder : s.FinInOrder event) : (s.step event).Honest := by
  have completes side := (inv side).1
  have completes' := Completes.step completes permitted inWindow inOrder
  exact fun side =>
    ⟨completes' side, acknowledges_step permitted completes completes' (fun side => (inv side).2) side⟩

theorem honest_new {cfg : Side → TCPConfig} (random : Side → UInt32)
    (positive : ∀ side, 1 ≤ (cfg side).recvCapacity)
    (representable : ∀ side, (cfg side).sendCapacity < 2 ^ 64 ∧ (cfg side).recvCapacity < 2 ^ 64) :
    (new cfg random).Honest := by
  intro side
  constructor
  · exact completes_new (representable side).1 (positive side.other) (representable side.other).2 _ _
  · exact Acknowledges.initially (representable side.other).2 _ _

/-- In every permitted run in which no payload is delivered from beyond the
window and no lone FIN before the bytes in front of it, the bytes that a side
believes to be acknowledged are in the inbound stream of the other side, and if
the FIN is acknowledged, the other side has the whole stream. -/
theorem acknowledged_placed (cfg : Side → TCPConfig) (random : Side → UInt32)
    (positive : ∀ side, 1 ≤ (cfg side).recvCapacity)
    (representable : ∀ side, (cfg side).sendCapacity < 2 ^ 64 ∧ (cfg side).recvCapacity < 2 ^ 64)
    (events : List Event) (permitted : Guarded step Permitted (new cfg random) events)
    (inWindow : Guarded step InWindow (new cfg random) events)
    (inOrder : Guarded step FinInOrder (new cfg random) events) (side : Side) :
    let s := run step (new cfg random) events
    let sender := (s side).conn.sender
    (s side).accepted.take (sender.previousAckno - 1) <+: (s side.other).placed ∧
      (sender.isFinSent = true → sender.previousAckno = sender.nextSeqno →
        (s side.other).placed = (s side).accepted ∧
          (s side.other).conn.inboundStream.inputEnded = true) := by
  intro s sender
  have inv : s.Honest := ((permitted.and inWindow).and inOrder).invariant Honest
    (honest_new random positive representable)
    fun s event inv allowed => inv.step allowed.1.1 allowed.1.2 allowed.2
  obtain ⟨⟨_, _, sending, _, ending, _⟩, acknowledges⟩ := inv side
  exact ⟨acknowledges.placed ending, acknowledges.complete sending ending⟩

/-- `a` writes two bytes and closes, `b` answers with one and closes as well. -/
def passiveClose : List Event :=
  [.call .a .connect, .call .a .popSegment, .deliver .b 0, .call .b .popSegment,
    .deliver .a 0, .call .a .popSegment,
    .call .a (.write [97, 98]), .call .a .popSegment, .deliver .b 2, .call .b .popSegment,
    .deliver .a 1, .call .a .endInputStream, .call .a .popSegment, .deliver .b 3,
    .call .b .popSegment, .deliver .a 2, .call .b (.write [99]), .call .b .endInputStream,
    .call .b .popSegment, .call .b .popSegment, .deliver .a 3, .deliver .a 4,
    .call .a .popSegment, .call .a .popSegment, .deliver .b 5]

theorem acknowledged_placed_passiveClose :
    let s := run step (new (fun _ => { recvCapacity := 4, sendCapacity := 4 }) fun _ => 0)
      passiveClose
    (s .a).conn.sender.isFinSent = true ∧ (s .a).conn.sender.previousAckno = 4 ∧
      (s .a).conn.sender.nextSeqno = 4 ∧ (s .b).placed = (s .a).accepted :=
  have acknowledged := acknowledged_placed (fun _ => { recvCapacity := 4, sendCapacity := 4 })
    (fun _ => 0) (fun _ => by decide) (fun _ => by decide) passiveClose (by decide +kernel)
    (by decide +kernel) (by decide +kernel) .a
  ⟨by decide +kernel, by decide +kernel, by decide +kernel,
    (acknowledged.2 (by decide +kernel) (by decide +kernel)).1⟩

end System

end Sponge
