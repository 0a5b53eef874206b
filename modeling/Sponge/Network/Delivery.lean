import Sponge.Network.Endpoint

/-!
# Delivery across the network

Whatever the network does, each side assembles a part of the stream that the
other side accepted, as long as no payload arrives from beyond the window.
-/

namespace Sponge

open Lib TCPConnection
open TCPSender (Op)

namespace Endpoint

theorem later_apply {e : Endpoint} (drained : e.conn.sender.segmentsOut = []) (call : Call) :
    e.conn.sender.Later (e.apply call).conn.sender := TCPConnection.later_apply drained call

theorem accepted_apply (e : Endpoint) (call : Call) :
    ∃ more, (e.apply call).accepted = e.accepted ++ more := by
  cases call with
  | write data => exact ⟨_, rfl⟩
  | _ => exact ⟨[], (List.append_nil _).symm⟩

end Endpoint

namespace Side

theorem other_other (side : Side) : side.other.other = side := by
  cases side <;> rfl

theorem other_ne (side : Side) : side.other ≠ side := by
  cases side <;> exact Side.noConfusion

theorem eq_or_eq_other (side other : Side) : other = side ∨ other = side.other := by
  cases side <;> cases other <;> simp [Side.other]

end Side

namespace System

/-- All that an event can do: nothing, or one call on one endpoint, where a
delivered segment is taken from the other side's wire. -/
theorem step_cases (s : System) (event : Event) :
    s.step event = s ∨ ∃ caller call,
      s.step event = Function.update s caller ((s caller).apply call) ∧
      (event = .call caller call ∨ ∃ n seg, event = .deliver caller n ∧
        call = .segmentReceived seg ∧ (s caller.other).wire[n]? = some seg) := by
  cases event with
  | call caller call => exact .inr ⟨caller, call, rfl, .inl rfl⟩
  | deliver receiver n =>
      rw [step]
      cases picked : (s receiver.other).wire[n]? with
      | none => exact .inl rfl
      | some seg => exact .inr ⟨receiver, _, rfl, .inr ⟨n, seg, rfl, rfl, picked⟩⟩

/-- A call on one endpoint keeps a relation in both directions if it keeps it
for that endpoint in both of its roles. -/
theorem update_directions {rel : Endpoint → Endpoint → Prop} {s : System} {caller : Side}
    {e : Endpoint} (sends : rel e (s caller.other)) (receives : rel (s caller.other) e)
    (side : Side) :
    rel (Function.update s caller e side) (Function.update s caller e side.other) := by
  rcases caller.eq_or_eq_other side with rfl | rfl
  · rw [Function.update_self, Function.update_of_ne side.other_ne]
    exact sends
  · rw [Side.other_other, Function.update_self, Function.update_of_ne caller.other_ne]
    exact receives

/-- Both directions keep a relation between the sending and the receiving
endpoint if calls on either endpoint keep it, where the only segments that the
receiver is given are those that the sender put on the wire. -/
theorem step_directions {rel : Endpoint → Endpoint → Prop} {s : System} {event : Event}
    (permitted : s.Permitted event) (related : ∀ side, rel (s side) (s side.other))
    (sends : ∀ side call, (∀ data, call = .write data → (s side).hasEnded = false ∧
        ((s side).apply (.write data)).accepted.length < 2 ^ 31) →
      rel ((s side).apply call) (s side.other))
    (receives : ∀ side call, (∀ seg, call = .segmentReceived seg →
        ∃ n, event = .deliver side n ∧ (s side.other).wire[n]? = some seg) →
      rel (s side.other) ((s side).apply call)) :
    ∀ side, rel (s.step event side) (s.step event side.other) := by
  rcases s.step_cases event with
    same | ⟨caller, call, updated, rfl | ⟨n, seg, rfl, rfl, picked⟩⟩
  · rw [same]
    exact related
  · rw [updated]
    apply update_directions
    · apply sends
      rintro data rfl
      exact permitted
    · apply receives
      rintro seg rfl
      exact False.elim permitted
  · rw [updated]
    apply update_directions
    · exact sends caller _ nofun
    · apply receives
      intro same isSegment
      cases isSegment
      exact ⟨n, rfl, picked⟩

/-- No payload is delivered that starts beyond the receiver's window. -/
def InWindow (s : System) : Event → Prop
  | .deliver side n => ∀ seg ∈ (s side.other).wire[n]?, (s side).conn.receiver.InWindow seg
  | .call _ _ => True

instance (s : System) (event : Event) : Decidable (s.InWindow event) :=
  match event with
  | .deliver _ _ => inferInstanceAs (Decidable (∀ seg ∈ _, _))
  | .call _ _ => .isTrue trivial

/-- One direction of the system: `e` sends, and `e'` receives. -/
def Delivers (e e' : Endpoint) : Prop :=
  ∃ filled accepted, e.Sending filled ∧ e.accepted.length < 2 ^ 31 ∧
    e'.Receiving e.conn.sender.isn e.accepted accepted

theorem delivers_new {cfg cfg' : TCPConfig} (send : cfg.sendCapacity < 2 ^ 64)
    (positive : 0 < cfg'.recvCapacity) (receive : cfg'.recvCapacity < 2 ^ 64)
    (random random' : UInt32) :
    Delivers (Endpoint.new cfg random) (Endpoint.new cfg' random') :=
  ⟨[], ∅, Endpoint.sending_new send random, Nat.two_pow_pos 31,
    Endpoint.receiving_new positive receive random' _⟩

theorem Delivers.sends {e e' : Endpoint} (inv : Delivers e e') {call : Call}
    (permitted : ∀ data, call = .write data → e.hasEnded = false ∧
      (e.apply (.write data)).accepted.length < 2 ^ 31) : Delivers (e.apply call) e' := by
  obtain ⟨filled, accepted, sending, small, receiving⟩ := inv
  obtain ⟨filled', sending', _⟩ := sending.apply fun data isWrite => (permitted data isWrite).1
  obtain ⟨more, grown⟩ := e.accepted_apply call
  refine ⟨filled', accepted, sending', ?_, ?_⟩
  · cases call with
    | write data => exact (permitted data rfl).2
    | _ => exact small
  · rw [(Endpoint.later_apply sending.drained call).isn, grown]
    exact receiving.extend more

theorem Delivers.placed_initial {e e' : Endpoint} (inv : Delivers e e') :
    e'.placed <+: e.accepted := by
  obtain ⟨_, _, _, _, receiving⟩ := inv
  rw [receiving.placed_eq]
  exact List.take_prefix _ _

theorem Delivers.step {s : System} {event : Event} (inv : ∀ side, Delivers (s side) (s side.other))
    (permitted : s.Permitted event) (inWindow : s.InWindow event) :
    ∀ side, Delivers (s.step event side) (s.step event side.other) := by
  apply step_directions permitted inv
  · exact fun side call writes => (inv side).sends writes
  · intro side call arrives
    obtain ⟨filled, accepted, sending, small, receiving⟩ := inv side.other
    rw [Side.other_other] at receiving
    obtain ⟨accepted', receiving'⟩ := receiving.apply small (by
      intro seg isSegment
      obtain ⟨n, rfl, picked⟩ := arrives seg isSegment
      exact ⟨(sending.carries (Endpoint.mem_sent_of_wire picked)).1, inWindow seg picked⟩)
    exact ⟨filled, accepted', sending, small, receiving'⟩

/-- In every permitted run in which no payload is delivered from beyond the
window, the bytes ever placed in an inbound stream are at every moment a part,
from the start on, of the bytes that the other side accepted. -/
theorem placed_prefix_of_inWindow (cfg : Side → TCPConfig) (random : Side → UInt32)
    (positive : ∀ side, 1 ≤ (cfg side).sendCapacity ∧ 1 ≤ (cfg side).recvCapacity)
    (representable : ∀ side, (cfg side).sendCapacity < 2 ^ 64 ∧ (cfg side).recvCapacity < 2 ^ 64)
    (events : List Event) (permitted : Guarded step Permitted (new cfg random) events)
    (inWindow : Guarded step InWindow (new cfg random) events) (side : Side) :
    (run step (new cfg random) events side).placed <+:
      (run step (new cfg random) events side.other).accepted := by
  have inv : ∀ side, Delivers (run step (new cfg random) events side)
      (run step (new cfg random) events side.other) := by
    refine (permitted.and inWindow).invariant
      (fun s => ∀ side, Delivers (s side) (s side.other)) ?_ ?_
    · intro side
      exact delivers_new (representable side).1 (positive side.other).2
        (representable side.other).2 _ _
    · exact fun s event inv allowed => Delivers.step inv allowed.1 allowed.2
  have delivers := inv side.other
  rw [Side.other_other] at delivers
  exact delivers.placed_initial

/-- A stale acknowledgment reopens the window of `a`, a fresh one closes it
below what is in flight, and the byte that `a` then sends is delivered to `b`
from beyond its window, before the bytes in between. -/
theorem placed_from_beyond_window :
    let cfg : Side → TCPConfig := fun
      | .a => { recvCapacity := 4, sendCapacity := 8 }
      | .b => { recvCapacity := 2, sendCapacity := 8 }
    let events : List Event :=
      [.call .a .connect, .call .a .popSegment, .deliver .b 0, .call .b .popSegment,
        .deliver .a 0, .call .a .popSegment,
        .call .a (.write [97, 98]), .call .a .popSegment, .deliver .b 2, .call .b .popSegment,
        .deliver .a 1, .deliver .a 0, .call .a .popSegment,
        .call .a (.write [99, 100]), .call .a .popSegment, .deliver .a 1,
        .call .a (.write [101]), .call .a .popSegment,
        .call .b (.readInbound 1), .deliver .b 5]
    let s := run step (new cfg fun _ => 0) events
    Guarded step Permitted (new cfg fun _ => 0) events ∧
      (s .b).placed = [97, 98, 101] ∧ (s .a).accepted = [97, 98, 99, 100, 101] ∧
      ¬ (s .b).placed <+: (s .a).accepted := by
  decide +kernel

theorem placed_prefix_of_inWindow_partial_read :
    let events : List Event :=
      [.call .a .connect, .call .a .popSegment, .deliver .b 0, .call .b .popSegment,
        .deliver .a 0, .call .a .popSegment,
        .call .a (.write [97, 98]), .call .a .popSegment, .deliver .b 2, .call .b (.readInbound 1)]
    let s := run step (new (fun _ => {}) fun _ => 0) events
    (s .b).consumed = [97] ∧ (s .b).placed = [97, 98] ∧ (s .b).placed <+: (s .a).accepted :=
  ⟨by decide +kernel, by decide +kernel,
    placed_prefix_of_inWindow (fun _ => {}) (fun _ => 0) (fun _ => by decide) (fun _ => by decide)
      [.call .a .connect, .call .a .popSegment, .deliver .b 0, .call .b .popSegment,
        .deliver .a 0, .call .a .popSegment,
        .call .a (.write [97, 98]), .call .a .popSegment, .deliver .b 2, .call .b (.readInbound 1)]
      (by decide +kernel) (by decide +kernel) .b⟩

end System

end Sponge
