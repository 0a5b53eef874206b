import Sponge.Network.EndOfStream
import Sponge.TCPConnection.Shutdown

/-!
# At most one side skips lingering

A side that decides not to linger has heard of the other side's FIN before it
sent its own.  The two decisions therefore exclude each other, whatever the
network and the applications do.
-/

namespace Sponge

open Lib TCPConnection

namespace TCPConnection

variable {c : TCPConnection}

/-- Lingering is given up on a segment that finds the inbound stream ended and
our own FIN unsent. -/
theorem skips_apply {call : Call} (skips : (c.apply call).lingerAfterStreamsFinish = false) :
    c.lingerAfterStreamsFinish = false ∨
      (c.isFinSent = false ∧ (c.apply call).inboundStream.inputEnded = true) := by
  cases call with
  | segmentReceived seg =>
      rcases c.segmentReceived_cases seg with dead | ⟨active, rst⟩ | ⟨active, noRst⟩
      · rw [apply, segmentReceived_dead dead] at skips
        exact .inl skips
      · rw [apply, segmentReceived_rst active rst] at skips
        exact .inl skips
      · rw [apply, (bits_segmentReceived active noRst).2.1, Bool.and_eq_false_iff,
          Bool.or_eq_false_iff, Bool.not_eq_false'] at skips
        rw [inboundStream, receiver_apply, receiverAfter, active, noRst]
        exact skips
  | tick ms =>
      rw [apply, (c.tick_frame ms).2.2] at skips
      exact .inl skips
  | _ =>
      rw [(application_frame rfl).2.2] at skips
      exact .inl skips

/-- The inbound stream ends only when its end has been seen. -/
theorem inputEnded_of_apply {call : Call}
    (ended : (c.apply call).inboundStream.inputEnded = true) :
    c.inboundStream.inputEnded = true ∨
      (c.apply call).receiver.reassembler.isEofDataReceived = true := by
  rw [inboundStream] at ended
  rcases c.receiver_cases call with
    ⟨_, same | error⟩ | ⟨len, rfl, read⟩ | ⟨seg, rfl, taken⟩
  · rw [same] at ended
    exact .inl ended
  · rw [error] at ended
    exact .inl ended
  · rw [read, TCPReceiver.withStreamOut_streamOut, ByteStream.popOutput_inputEnded] at ended
    exact .inl ended
  · rw [taken, TCPReceiver.segmentReceived_eq] at ended ⊢
    cases place : c.receiver.streamIndex seg with
    | none =>
        rw [place] at ended
        exact .inl ended
    | some index =>
        rw [place] at ended
        exact StreamReassembler.isInputEnded_of_push ended

end TCPConnection

/-- One direction of the system: `e` announces its FIN before `e'` hears of it
and draws its conclusions. -/
structure Announces (e e' : Endpoint) : Prop where
  drained : e.conn.sender.segmentsOut = []
  sent : ∀ seg ∈ e.sent, seg.header.fin = true → e.conn.isFinSent = true
  seen : e'.hasSeenEnd = true → e.conn.isFinSent = true
  ended : e'.conn.inboundStream.inputEnded = true → e.conn.isFinSent = true
  skips : e'.conn.lingerAfterStreamsFinish = false → e.conn.isFinSent = true

theorem announces_new (cfg cfg' : TCPConfig) (random random' : UInt32) :
    Announces (Endpoint.new cfg random) (Endpoint.new cfg' random') :=
  ⟨rfl, List.forall_mem_nil _, nofun, nofun, nofun⟩

variable {e e' : Endpoint}

theorem Announces.sends (inv : Announces e e') (call : Call) : Announces (e.apply call) e' := by
  have finSent : (e.apply call).conn.isFinSent =
      (e.conn.isFinSent || (e.conn.emitted call).any (·.header.fin)) :=
    isFinSent_apply inv.drained call
  have still (before : e.conn.isFinSent = true) : (e.apply call).conn.isFinSent = true := by
    rw [finSent, before, Bool.true_or]
  refine ⟨drained_apply inv.drained call, ?_, fun h => still (inv.seen h),
    fun h => still (inv.ended h), fun h => still (inv.skips h)⟩
  intro seg membership fin
  rw [Endpoint.sent_apply inv.drained, List.mem_append] at membership
  rcases membership with old | new
  · exact still (inv.sent seg old fin)
  · rw [finSent, Bool.or_eq_true]
    exact .inr (List.any_eq_true.mpr ⟨seg, new, fin⟩)

theorem Announces.receives (inv : Announces e e') {call : Call}
    (genuine : ∀ seg, call = .segmentReceived seg → seg ∈ e.sent) :
    Announces e (e'.apply call) := by
  have seen (after : (e'.apply call).hasSeenEnd = true) : e.conn.isFinSent = true := by
    rcases Endpoint.hasSeenEnd_apply after with before | ⟨seg, isSegment, fin⟩
    · exact inv.seen before
    · exact inv.sent seg (genuine seg isSegment) fin
  have ended (after : (e'.apply call).conn.inboundStream.inputEnded = true) :
      e.conn.isFinSent = true := by
    rcases inputEnded_of_apply after with before | now
    · exact inv.ended before
    · exact seen now
  refine ⟨inv.drained, inv.sent, seen, ended, ?_⟩
  intro after
  rcases skips_apply after with before | ⟨_, now⟩
  · exact inv.skips before
  · exact ended now

/-- Does the event hand an endpoint a segment that nobody sent? -/
def Event.isForged : Event → Bool
  | .call _ (.segmentReceived _) => true
  | _ => false

namespace System

/-- When `e` does not linger, `e'` does. -/
def Excludes (e e' : Endpoint) : Prop :=
  e.conn.lingerAfterStreamsFinish = false → e'.conn.lingerAfterStreamsFinish = true

theorem Excludes.symm {e e' : Endpoint} (excludes : Excludes e e') : Excludes e' e := by
  intro skips
  by_contra both
  have lingers := excludes (Bool.eq_false_iff.mpr both)
  rw [skips] at lingers
  contradiction

/-- The two sides announce their FINs to each other, and at most one skips
lingering. -/
structure Exclusive (s : System) : Prop where
  announces : ∀ side, Announces (s side) (s side.other)
  lingers : ∀ side, Excludes (s side) (s side.other)

theorem exclusive_new (cfg : Side → TCPConfig) (random : Side → UInt32) :
    (new cfg random).Exclusive :=
  ⟨fun _ => announces_new _ _ _ _, fun _ _ => rfl⟩

/-- The endpoint that acts cannot skip lingering after the other one did: the
other one had heard of its FIN. -/
theorem Exclusive.excludes {s : System} (inv : s.Exclusive) (caller : Side) (call : Call) :
    Excludes ((s caller).apply call) (s caller.other) := by
  intro skips
  rcases skips_apply skips with before | ⟨unsent, _⟩
  · exact inv.lingers caller before
  · by_contra both
    have sent := (inv.announces caller).skips (Bool.eq_false_iff.mpr both)
    rw [unsent] at sent
    contradiction

theorem Exclusive.step {s : System} (inv : s.Exclusive) {event : Event}
    (genuine : event.isForged = false) : (s.step event).Exclusive := by
  have called (caller : Side) (call : Call)
      (arrives : ∀ seg, call = .segmentReceived seg → seg ∈ (s caller.other).sent) :
      Exclusive (Function.update s caller ((s caller).apply call)) := by
    have back := inv.announces caller.other
    rw [Side.other_other] at back
    have forth := inv.excludes caller call
    constructor
    · exact update_directions ((inv.announces caller).sends call) (back.receives arrives)
    · exact update_directions forth forth.symm
  rcases s.step_cases event with
    same | ⟨caller, call, updated, rfl | ⟨n, seg, rfl, rfl, picked⟩⟩
  · rw [same]
    exact inv
  · rw [updated]
    apply called
    rintro seg rfl
    contradiction
  · rw [updated]
    apply called
    intro _ isSegment
    cases isSegment
    exact Endpoint.mem_sent_of_wire picked

/-- In every run of the two endpoints, whatever is lost, duplicated, delayed or
reordered and whatever the applications do, at least one side lingers. -/
theorem one_side_lingers (cfg : Side → TCPConfig) (random : Side → UInt32) {events : List Event}
    (genuine : ∀ event ∈ events, event.isForged = false) :
    ¬ ((run step (new cfg random) events .a).conn.lingerAfterStreamsFinish = false ∧
      (run step (new cfg random) events .b).conn.lingerAfterStreamsFinish = false) := by
  have guarded : Guarded step (fun _ event => event.isForged = false) (new cfg random) events :=
    guarded_of_forall _ fun event membership _ => genuine event membership
  have inv := guarded.invariant Exclusive (exclusive_new cfg random)
    fun _ _ inv genuine => inv.step genuine
  rintro ⟨first, second⟩
  have lingers := inv.lingers .a first
  rw [Side.other, second] at lingers
  contradiction

/-- The side that closes second skips lingering, and only that side. -/
theorem one_side_lingers_passive_close :
    let events : List Event :=
      [.call .a .connect, .call .a .popSegment, .deliver .b 0, .call .b .popSegment,
        .deliver .a 0, .call .a .popSegment, .call .a .endInputStream, .call .a .popSegment,
        .deliver .b 2, .call .b .popSegment, .deliver .a 1, .call .b .endInputStream]
    let s := run step (new (fun _ => { recvCapacity := 4, sendCapacity := 4 }) fun _ => 0) events
    (s .b).conn.lingerAfterStreamsFinish = false ∧ (s .b).conn.isFinSent = true ∧
      ¬ ((s .a).conn.lingerAfterStreamsFinish = false ∧
        (s .b).conn.lingerAfterStreamsFinish = false) :=
  ⟨by decide +kernel, by decide +kernel, one_side_lingers _ _ (by decide)⟩

end System

end Sponge
