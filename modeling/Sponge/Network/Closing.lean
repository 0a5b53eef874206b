import Sponge.Network.Acknowledgment

/-!
# Closing across the network

A connection that has become inactive without an error on its streams has had
its FIN acknowledged and has seen the end of the other side's stream.  In the
network this means that both streams have been delivered in full.
-/

namespace Sponge

open Lib TCPConnection

namespace TCPConnection

variable {c : TCPConnection}

/-- As long as its streams have no error, the connection's flags can be believed. -/
structure Closing (c : TCPConnection) : Prop where
  faithful : c.Faithful
  blank : c.sender.Blank
  noRst : ∀ seg ∈ c.segmentsOut, seg.header.rst = false
  done : c.isActive = false → c.isFinAcked = true ∧ c.receiver.streamOut.inputEnded = true

theorem closing_new {cfg : TCPConfig} (representable : cfg.sendCapacity < 2 ^ 64)
    (random : UInt32) : (new cfg random).Closing :=
  ⟨faithful_new representable random, TCPSender.blank_new _ _ _ _, List.forall_mem_nil _, nofun⟩

theorem error_apply (error : c.receiver.streamOut.error = true) (call : Call) :
    (c.apply call).receiver.streamOut.error = true := by
  refine receiver_invariant (fun r => r.streamOut.error = true) call error (fun _ _ => rfl) ?_ ?_
  · intro r len error
    rw [TCPReceiver.withStreamOut_streamOut, ByteStream.popOutput_error]
    exact error
  · exact fun r seg error => (TCPReceiver.segmentReceived_error r seg).trans error

/-- A reset leaves an error, unless it reaches an inactive connection. -/
theorem calm_of_noError {call : Call}
    (noError : (c.apply call).receiver.streamOut.error = false) :
    call.resets c = false ∨ c.isActive = false ∧ ∃ seg, call = .segmentReceived seg := by
  rw [receiver_apply] at noError
  cases call with
  | segmentReceived seg =>
      cases active : c.isActive with
      | false => exact .inr ⟨rfl, seg, rfl⟩
      | true =>
          have resets : (Call.segmentReceived seg).resets c = (seg.header.rst || false) := rfl
          rw [resets, Bool.or_false, ← Bool.not_eq_true]
          refine .inl fun rst => ?_
          simp only [receiverAfter, active, rst, Bool.not_true, Bool.false_eq_true, if_false,
            if_true] at noError
          exact Bool.noConfusion noError
  | tick ms =>
      have resets : (Call.tick ms).resets c = c.givesUp ms := rfl
      rw [resets, ← Bool.not_eq_true]
      refine .inl fun gives => ?_
      rw [receiverAfter, if_pos gives] at noError
      exact Bool.noConfusion noError
  | _ => exact .inl rfl

theorem Closing.withoutReset (inv : c.Closing) {call : Call} (calm : call.resets c = false) :
    c.WithoutReset call := by
  obtain ⟨noRst, persists⟩ := Bool.or_eq_false_iff.mp calm
  refine ⟨noRst, ?_⟩
  by_cases pop : call = .popSegment
  · subst pop
    exact fun seg membership => inv.noRst seg (List.mem_of_mem_tail membership)
  intro seg membership
  rw [segmentsOut_apply inv.faithful.drained pop, List.mem_append] at membership
  rcases membership with old | new
  · exact inv.noRst seg old
  · rw [emitted_eq persists] at new
    obtain ⟨queued, waiting, rfl⟩ := List.mem_map.mp new
    rw [stamp_eq]
    exact ((blank_methods inv.blank call).queued queued waiting).2

theorem Closing.apply_calm (inv : c.Closing) {call : Call} (calm : call.resets c = false)
    (orderly : c.Orderly call) : (c.apply call).Closing := by
  have noReset := inv.withoutReset calm
  refine ⟨inv.faithful.apply noReset orderly,
    blank_apply inv.faithful.drained inv.blank call, noReset.2, ?_⟩
  intro inactive
  cases active : c.isActive with
  | true =>
      obtain ⟨acked, ended, _⟩ := inv.faithful.deactivated noReset active inactive
      exact ⟨acked, ended⟩
  | false =>
      obtain ⟨acked, ended⟩ := inv.done active
      exact ⟨(bits_apply fun _ _ => active).1.trans acked, inputEnded_apply ended call⟩

theorem Closing.apply (inv : c.Closing) {call : Call} (orderly : c.Orderly call)
    (noError : (c.apply call).receiver.streamOut.error = false) : (c.apply call).Closing := by
  rcases calm_of_noError noError with calm | ⟨inactive, seg, rfl⟩
  · exact inv.apply_calm calm orderly
  · -- an inactive connection does not look at the flag
    let plain : TCPSegment := { seg with header := { seg.header with rst := false } }
    have same : c.apply (.segmentReceived seg) = c.apply (.segmentReceived plain) := by
      rw [TCPConnection.apply, segmentReceived_dead inactive, TCPConnection.apply,
        segmentReceived_dead inactive]
      rfl
    rw [same]
    exact inv.apply_calm rfl orderly

/-- After a clean close everything up to the FIN is acknowledged. -/
theorem Closing.acknowledged (inv : c.Closing) (inactive : c.isActive = false) :
    c.sender.isFinSent = true ∧ c.sender.previousAckno = c.sender.nextSeqno := by
  obtain ⟨_, finished⟩ := inv.faithful.finAcked (inv.done inactive).1
  have base := inv.faithful.sound.partitioned.base_le
  have acked := inv.faithful.sound.partitioned.acked_le
  have nothing := finished.acknowledged
  exact ⟨finished.sent, by omega⟩

end TCPConnection

namespace System

/-- There is no error, there are enough sequence numbers, and the one after the FIN
is not the number that stands in a segment without acknowledgment. -/
structure Clear (e : Endpoint) : Prop where
  noError : e.conn.inboundStream.error = false
  short : e.accepted.length + 2 < 2 ^ 31
  distinct : e.conn.sender.isFinSent = true → e.conn.sender.relativeNextSeqno ≠ ⟨0⟩

theorem Clear.before {e : Endpoint} {filled : List TCPSegment} (sending : e.Sending filled)
    {call : Call} (writes : ∀ data, call = .write data → e.hasEnded = false)
    (clear : Clear (e.apply call)) : Clear e := by
  obtain ⟨more, grown⟩ := e.accepted_apply call
  obtain ⟨filled', sending', _⟩ := sending.apply writes
  have later := Endpoint.later_apply sending.drained call
  refine ⟨?_, ?_, fun sent => ?_⟩
  · rw [← Bool.not_eq_true]
    intro error
    exact Bool.noConfusion ((error_apply error call).symm.trans clear.noError)
  · have short := clear.short
    rw [grown, List.length_append] at short
    omega
  · -- nothing is written after the FIN, so that its number stays
    have same : (e.apply call).accepted = e.accepted := by
      have segmented := sending.segmented
      have ended : e.hasEnded = true := segmented.stream.ended (segmented.finEof sent)
      cases call with
      | write data =>
          rw [writes data rfl] at ended
          exact Bool.noConfusion ended
      | _ => rfl
    have sent' := later.finSent sent
    have distinct := clear.distinct sent'
    rw [TCPSender.relativeNextSeqno, sending'.segmented.nextSeqno_of_finSent sent', same,
      later.isn] at distinct
    rw [TCPSender.relativeNextSeqno, sending.segmented.nextSeqno_of_finSent sent]
    exact distinct

/-- A segment that the other side has sent is taken for what it is. -/
theorem Clear.orderly {e e' : Endpoint} {filled : List TCPSegment} (clear : Clear e)
    (sending : e.Sending filled) (acknowledges : Acknowledges e e') (closing : e.conn.Closing)
    {seg : TCPSegment} (arrives : seg ∈ e'.sent) : e.conn.Orderly (.segmentReceived seg) := by
  have next := sending.segmented.nextSeqno_le
  have inFlight := closing.faithful.sound.partitioned.inFlight_le
  have short := clear.short
  refine ⟨?_, fun noAck sent _ => ?_⟩
  · rw [bytesInFlight]
    omega
  · rw [acknowledges.unset seg arrives noAck]
    exact (clear.distinct (closing.faithful.finSent sent)).symm

/-- The flags of both sides can be believed as long as nothing stands in the way. -/
theorem closing_step {s : System} {event : Event} (permitted : s.Permitted event)
    (honest : s.Honest) (inv : ∀ side, Clear (s side) → (s side).conn.Closing) (side : Side)
    (clear : Clear (s.step event side)) : (s.step event side).conn.Closing := by
  obtain ⟨⟨_, _, sending, _⟩, acknowledges⟩ := honest side
  have called (caller : Side) (call : Call)
      (writes : ∀ data, call = .write data → (s caller).hasEnded = false)
      (arrives : ∀ seg, call = .segmentReceived seg → seg ∈ (s caller.other).sent)
      (updated : s.step event = Function.update s caller ((s caller).apply call)) :
      (s.step event side).conn.Closing := by
    rw [updated] at clear ⊢
    by_cases mine : caller = side
    · subst mine
      rw [Function.update_self] at clear ⊢
      have before := clear.before sending writes
      have closing := inv caller before
      refine closing.apply ?_ clear.noError
      cases call with
      | write data => exact writes data rfl
      | segmentReceived seg => exact before.orderly sending acknowledges closing (arrives seg rfl)
      | _ => trivial
    · rw [Function.update_of_ne (Ne.symm mine)] at clear ⊢
      exact inv side clear
  rcases s.step_cases event with
    same | ⟨caller, call, updated, rfl | ⟨n, seg, rfl, rfl, picked⟩⟩
  · rw [same] at clear ⊢
    exact inv side clear
  · refine called caller call ?_ ?_ updated
    · rintro data rfl
      exact permitted.1
    · rintro seg rfl
      exact False.elim permitted
  · refine called caller _ (fun _ => Call.noConfusion) ?_ updated
    intro _ isSegment
    cases isSegment
    exact Endpoint.mem_sent_of_wire picked

/-- Both directions, with acknowledgments and flags that can be believed. -/
structure Reliable (s : System) : Prop where
  honest : s.Honest
  closing : ∀ side, Clear (s side) → (s side).conn.Closing

theorem reliable_new {cfg : Side → TCPConfig} (random : Side → UInt32)
    (positive : ∀ side, 1 ≤ (cfg side).recvCapacity)
    (representable : ∀ side, (cfg side).sendCapacity < 2 ^ 64 ∧ (cfg side).recvCapacity < 2 ^ 64) :
    (new cfg random).Reliable :=
  ⟨honest_new random positive representable, fun side _ => closing_new (representable side).1 _⟩

theorem Reliable.step {s : System} {event : Event} (inv : s.Reliable)
    (permitted : s.Permitted event) (inWindow : s.InWindow event) (inOrder : s.FinInOrder event) :
    (s.step event).Reliable :=
  ⟨inv.honest.step permitted inWindow inOrder, closing_step permitted inv.honest inv.closing⟩

/-- A side that has closed has the whole stream of the other side, and the other
side has its whole stream. -/
theorem Reliable.complete {s : System} (inv : s.Reliable) {side : Side} (clear : Clear (s side))
    (inactive : (s side).conn.isActive = false) :
    (s side.other).placed = (s side).accepted ∧
      (s side.other).conn.inboundStream.inputEnded = true ∧
      (s side).placed = (s side.other).accepted ∧ (s side.other).hasEnded = true := by
  have closing := inv.closing side clear
  obtain ⟨sent, acked⟩ := closing.acknowledged inactive
  obtain ⟨⟨_, _, sending, _, ending, _⟩, acknowledges⟩ := inv.honest side
  obtain ⟨arrived, ended⟩ := acknowledges.complete sending ending sent acked
  obtain ⟨⟨_, _, _, _, ending', seen⟩, _⟩ := inv.honest side.other
  rw [Side.other_other] at ending' seen
  obtain ⟨known, reached⟩ := ending'.ending.ended (closing.done inactive).2
  refine ⟨arrived, ended, ?_, seen known⟩
  rw [ending'.receiving.placed_eq, reached, List.take_length]

/-- In every permitted run in which no payload is delivered from beyond the
window and no lone FIN before the bytes in front of it, a side that has become
inactive without an error on its inbound stream has the whole stream of the other
side, and the other side has its whole stream.  The sequence number after the FIN
must not be zero, which a SYN without acknowledgment would seem to acknowledge. -/
theorem closed_complete (cfg : Side → TCPConfig) (random : Side → UInt32)
    (positive : ∀ side, 1 ≤ (cfg side).recvCapacity)
    (representable : ∀ side, (cfg side).sendCapacity < 2 ^ 64 ∧ (cfg side).recvCapacity < 2 ^ 64)
    (events : List Event) (permitted : Guarded step Permitted (new cfg random) events)
    (inWindow : Guarded step InWindow (new cfg random) events)
    (inOrder : Guarded step FinInOrder (new cfg random) events) (side : Side) :
    let s := run step (new cfg random) events
    (s side).accepted.length + 2 < 2 ^ 31 →
      (s side).conn.sender.relativeNextSeqno ≠ ⟨0⟩ →
      (s side).conn.active = false → (s side).conn.inboundStream.error = false →
      (s side.other).placed = (s side).accepted ∧
        (s side.other).conn.inboundStream.inputEnded = true ∧
        (s side).placed = (s side.other).accepted ∧ (s side.other).hasEnded = true := by
  intro s short distinct inactive noError
  have inv : s.Reliable := ((permitted.and inWindow).and inOrder).invariant Reliable
    (reliable_new random positive representable)
    fun s event inv allowed => inv.step allowed.1.1 allowed.1.2 allowed.2
  exact inv.complete ⟨noError, short, fun _ => distinct⟩ inactive

-- A repeated SYN of `a` seems to acknowledge the FIN of `b`, whose byte is lost.
example :
    let cfg : Side → TCPConfig := fun
      | .a => { recvCapacity := 4, sendCapacity := 4 }
      | .b => { recvCapacity := 4, sendCapacity := 4, fixedIsn := some ⟨4294967293⟩ }
    let events : List Event :=
      [.call .a .connect, .call .a .popSegment, .deliver .b 0, .call .b .popSegment,
        .deliver .a 0, .call .a .popSegment, .deliver .b 1, .call .a .endInputStream,
        .call .a .popSegment, .deliver .b 2, .call .b (.write [99]), .call .b .endInputStream,
        .deliver .b 0]
    let s := run step (new cfg fun _ => 0) events
    (s .b).conn.active = false ∧ (s .b).conn.inboundStream.error = false ∧
      (s .b).accepted = [99] ∧ (s .a).placed = [] := by
  decide +kernel

theorem closed_complete_passiveClose :
    let s := run step (new (fun _ => { recvCapacity := 4, sendCapacity := 4 }) fun _ => 0)
      passiveClose
    (s .b).conn.active = false ∧ (s .a).accepted = [97, 98] ∧ (s .b).accepted = [99] ∧
      (s .b).placed = (s .a).accepted ∧ (s .a).placed = (s .b).accepted :=
  have complete := closed_complete (fun _ => { recvCapacity := 4, sendCapacity := 4 }) (fun _ => 0)
    (fun _ => by decide) (fun _ => by decide) passiveClose (by decide +kernel) (by decide +kernel)
    (by decide +kernel) .b (by decide +kernel) (by decide +kernel) (by decide +kernel)
    (by decide +kernel)
  ⟨by decide +kernel, by decide +kernel, by decide +kernel, complete.2.2.1, complete.1⟩

end System

end Sponge
