import Sponge.Network.Delivery
import Sponge.StreamReassembler.Ending

/-!
# The end of a stream across the network

A FIN that travels alone may overtake the bytes before it, and the receiver
then believes that the stream has ended.  As long as this does not happen, the
inbound stream ends exactly where the other side ended it.
-/

namespace Sponge

open Lib TCPConnection
open TCPSender (Op)

namespace Endpoint

variable {e : Endpoint} {isn : WrappingInt32} {whole : List UInt8} {accepted : Finset ℕ}

/-- The endpoint knows the end of the stream that it receives, if it knows any. -/
structure Ending (e : Endpoint) (isn : WrappingInt32) (whole : List UInt8) (accepted : Finset ℕ) :
    Prop where
  receiving : e.Receiving isn whole accepted
  ending : e.conn.receiver.reassembler.Ending whole accepted

def hasSeenEnd (e : Endpoint) : Bool := e.conn.receiver.reassembler.isEofDataReceived

theorem Ending.complete (inv : e.Ending isn whole accepted)
    (eof : e.conn.inboundStream.eof = true) : e.hasSeenEnd = true ∧ e.consumed = whole := by
  have settled := inv.receiving.settled
  obtain ⟨seen, reached⟩ := inv.ending.ended (settled.stream.ended eof)
  have accounting := settled.accounting
  rw [inv.ending.drained eof, List.length_nil] at accounting
  refine ⟨seen, inv.receiving.consumed.trans ?_⟩
  rw [ByteStream.bytesRead, TCPReceiver.streamOut]
  exact List.take_of_length_le (by omega)

/-- The end is first seen on a segment with FIN. -/
theorem hasSeenEnd_apply {call : Call} (seen : (e.apply call).hasSeenEnd = true) :
    e.hasSeenEnd = true ∨ ∃ seg, call = .segmentReceived seg ∧ seg.header.fin = true := by
  have receiver : (e.apply call).conn.receiver = (e.conn.apply call).receiver := rfl
  rw [hasSeenEnd, receiver] at seen
  rcases e.conn.receiver_cases call with
    ⟨notRead, same | error⟩ | ⟨len, rfl, read⟩ | ⟨seg, rfl, taken⟩
  · rw [same] at seen
    exact .inl seen
  · rw [error] at seen
    exact .inl seen
  · rw [read] at seen
    exact .inl seen
  · rw [taken, TCPReceiver.segmentReceived_eq] at seen
    cases place : e.conn.receiver.streamIndex seg with
    | none =>
        rw [place] at seen
        exact .inl seen
    | some index =>
        rw [place] at seen
        rcases StreamReassembler.isEofDataReceived_of_push seen with before | fin
        · exact .inl before
        · exact .inr ⟨seg, rfl, fin⟩

theorem Ending.taken (inv : e.Ending isn whole accepted) (small : whole.length < 2 ^ 31)
    {seg : TCPSegment} (carries : TCPReceiver.Carries isn whole seg)
    (inWindow : e.conn.receiver.InWindow seg) (inOrder : e.conn.receiver.FinInOrder seg)
    {e' : Endpoint} (receiver : e'.conn.receiver = e.conn.receiver.segmentReceived seg)
    (consumed : e'.consumed = e.consumed) :
    e'.Ending isn whole (accepted ∪ e.conn.receiver.acceptedBy seg) := by
  refine ⟨inv.receiving.taken small carries inWindow receiver consumed, ?_⟩
  rw [receiver, TCPReceiver.segmentReceived_eq, TCPReceiver.acceptedBy]
  cases place : e.conn.receiver.streamIndex seg with
  | none =>
      rw [Finset.union_empty]
      exact inv.ending
  | some index =>
      have receiving := inv.receiving
      obtain ⟨_, slice, last⟩ := carries.place receiving.isn small receiving.written_le place
      refine inv.ending.pushSubstring receiving.settled slice (inWindow index place) (by omega) last ?_
      intro fin empty
      rw [← receiving.settled.written]
      exact inOrder index place fin empty

theorem Ending.apply (inv : e.Ending isn whole accepted) (small : whole.length < 2 ^ 31)
    {call : Call}
    (arrives : ∀ seg, call = .segmentReceived seg → TCPReceiver.Carries isn whole seg ∧
      e.conn.receiver.InWindow seg ∧ e.conn.receiver.FinInOrder seg) :
    ∃ accepted', (e.apply call).Ending isn whole accepted' := by
  have receiver : (e.apply call).conn.receiver = (e.conn.apply call).receiver := rfl
  rcases e.conn.receiver_cases call with
    ⟨notRead, same | error⟩ | ⟨len, rfl, read⟩ | ⟨seg, rfl, taken⟩
  · refine ⟨accepted, inv.receiving.same same (e.consumed_apply notRead), ?_⟩
    rw [receiver, same]
    exact inv.ending
  · refine ⟨accepted, inv.receiving.error error (e.consumed_apply notRead), ?_⟩
    rw [receiver, error]
    exact inv.ending.setError
  · refine ⟨accepted, inv.receiving.read read, ?_⟩
    rw [receiver, read]
    exact inv.ending.popOutput inv.receiving.settled.stream len
  · obtain ⟨carries, inWindow, inOrder⟩ := arrives seg rfl
    exact ⟨_, inv.taken small carries inWindow inOrder taken rfl⟩

end Endpoint

namespace System

/-- No FIN without payload is delivered before all the bytes in front of it. -/
def FinInOrder (s : System) : Event → Prop
  | .deliver side n => ∀ seg ∈ (s side.other).wire[n]?, (s side).conn.receiver.FinInOrder seg
  | .call _ _ => True

instance (s : System) (event : Event) : Decidable (s.FinInOrder event) :=
  match event with
  | .deliver _ _ => inferInstanceAs (Decidable (∀ seg ∈ _, _))
  | .call _ _ => .isTrue trivial

/-- One direction of the system, with the end of its stream: `e` sends, and
`e'` receives. -/
def Completes (e e' : Endpoint) : Prop :=
  ∃ filled accepted, e.Sending filled ∧ e.accepted.length < 2 ^ 31 ∧
    e'.Ending e.conn.sender.isn e.accepted accepted ∧
    (e'.hasSeenEnd = true → e.hasEnded = true)

theorem completes_new {cfg cfg' : TCPConfig} (send : cfg.sendCapacity < 2 ^ 64)
    (positive : 0 < cfg'.recvCapacity) (receive : cfg'.recvCapacity < 2 ^ 64)
    (random random' : UInt32) :
    Completes (Endpoint.new cfg random) (Endpoint.new cfg' random') :=
  ⟨[], ∅, Endpoint.sending_new send random, Nat.two_pow_pos 31,
    ⟨Endpoint.receiving_new positive receive random' _, StreamReassembler.ending_new _ _⟩, nofun⟩

theorem Completes.sends {e e' : Endpoint} (inv : Completes e e') {call : Call}
    (permitted : ∀ data, call = .write data → e.hasEnded = false ∧
      (e.apply (.write data)).accepted.length < 2 ^ 31) : Completes (e.apply call) e' := by
  obtain ⟨filled, accepted, sending, small, ending, seen⟩ := inv
  obtain ⟨filled', sending', _⟩ := sending.apply fun data isWrite => (permitted data isWrite).1
  have later := Endpoint.later_apply sending.drained call
  refine ⟨filled', accepted, sending', ?_, ?_, ?_⟩
  · cases call with
    | write data => exact (permitted data rfl).2
    | _ => exact small
  · rw [later.isn]
    cases call with
    | write data =>
        have unseen : e'.hasSeenEnd = false := by
          rw [← Bool.not_eq_true]
          intro known
          rw [seen known] at permitted
          exact Bool.noConfusion (permitted data rfl).1
        exact ⟨ending.receiving.extend _, ending.ending.extend unseen _⟩
    | _ => exact ending
  · exact fun known => later.inputEnded (seen known)

theorem Completes.step {s : System} {event : Event}
    (inv : ∀ side, Completes (s side) (s side.other)) (permitted : s.Permitted event)
    (inWindow : s.InWindow event) (inOrder : s.FinInOrder event) :
    ∀ side, Completes (s.step event side) (s.step event side.other) := by
  apply step_directions permitted inv
  · exact fun side call writes => (inv side).sends writes
  · intro side call arrives
    obtain ⟨filled, accepted, sending, small, ending, seen⟩ := inv side.other
    rw [Side.other_other] at ending seen
    obtain ⟨accepted', ending'⟩ := ending.apply small (by
      intro seg isSegment
      obtain ⟨n, rfl, picked⟩ := arrives seg isSegment
      exact ⟨(sending.carries (Endpoint.mem_sent_of_wire picked)).1, inWindow seg picked,
        inOrder seg picked⟩)
    refine ⟨filled, accepted', sending, small, ending', ?_⟩
    intro known
    rcases Endpoint.hasSeenEnd_apply known with before | ⟨seg, isSegment, fin⟩
    · exact seen before
    · obtain ⟨n, _, picked⟩ := arrives seg isSegment
      exact (sending.carries (Endpoint.mem_sent_of_wire picked)).2 fin

/-- In every permitted run in which no payload is delivered from beyond the
window and no lone FIN before the bytes in front of it, an inbound stream at its
end has been read in full, and the other side has ended it. -/
theorem eof_complete (cfg : Side → TCPConfig) (random : Side → UInt32)
    (positive : ∀ side, 1 ≤ (cfg side).sendCapacity ∧ 1 ≤ (cfg side).recvCapacity)
    (representable : ∀ side, (cfg side).sendCapacity < 2 ^ 64 ∧ (cfg side).recvCapacity < 2 ^ 64)
    (events : List Event) (permitted : Guarded step Permitted (new cfg random) events)
    (inWindow : Guarded step InWindow (new cfg random) events)
    (inOrder : Guarded step FinInOrder (new cfg random) events) (side : Side) :
    let s := run step (new cfg random) events
    (s side).conn.inboundStream.eof = true →
      (s side.other).hasEnded = true ∧ (s side).consumed = (s side.other).accepted := by
  intro s eof
  have inv : ∀ side, Completes (s side) (s side.other) := by
    refine ((permitted.and inWindow).and inOrder).invariant
      (fun s => ∀ side, Completes (s side) (s side.other)) ?_ ?_
    · intro side
      exact completes_new (representable side).1 (positive side.other).2
        (representable side.other).2 _ _
    · exact fun s event inv allowed => Completes.step inv allowed.1.1 allowed.1.2 allowed.2
  obtain ⟨_, _, _, _, ending, seen⟩ := inv side.other
  rw [Side.other_other] at ending seen
  obtain ⟨known, consumed⟩ := ending.complete eof
  exact ⟨seen known, consumed⟩

/-- A lone FIN is delivered before the bytes in front of it. -/
theorem eof_before_bytes :
    let events : List Event :=
      [.call .a .connect, .call .a .popSegment, .deliver .b 0, .call .b .popSegment,
        .deliver .a 0, .call .a .popSegment,
        .call .a (.write [97, 98]), .call .a .popSegment,
        .call .a .endInputStream, .call .a .popSegment, .deliver .b 3]
    let s := run step (new (fun _ => { recvCapacity := 4, sendCapacity := 4 }) fun _ => 0) events
    Guarded step Permitted (new (fun _ => { recvCapacity := 4, sendCapacity := 4 }) fun _ => 0)
        events ∧
      (s .b).conn.inboundStream.eof = true ∧ (s .b).consumed = [] ∧
      (s .a).accepted = [97, 98] := by
  decide +kernel

theorem eof_complete_in_order :
    let events : List Event :=
      [.call .a .connect, .call .a .popSegment, .deliver .b 0, .call .b .popSegment,
        .deliver .a 0, .call .a .popSegment,
        .call .a (.write [97, 98]), .call .a .popSegment,
        .call .a .endInputStream, .call .a .popSegment,
        .deliver .b 2, .deliver .b 3, .call .b (.readInbound 5)]
    let s := run step (new (fun _ => { recvCapacity := 4, sendCapacity := 4 }) fun _ => 0) events
    (s .b).conn.inboundStream.eof = true ∧
      (s .a).hasEnded = true ∧ (s .b).consumed = (s .a).accepted :=
  ⟨by decide +kernel,
    eof_complete (fun _ => { recvCapacity := 4, sendCapacity := 4 }) (fun _ => 0)
      (fun _ => by decide) (fun _ => by decide)
      [.call .a .connect, .call .a .popSegment, .deliver .b 0, .call .b .popSegment,
        .deliver .a 0, .call .a .popSegment,
        .call .a (.write [97, 98]), .call .a .popSegment,
        .call .a .endInputStream, .call .a .popSegment,
        .deliver .b 2, .deliver .b 3, .call .b (.readInbound 5)]
      (by decide +kernel) (by decide +kernel) (by decide +kernel) .b (by decide +kernel)⟩

end System

end Sponge
