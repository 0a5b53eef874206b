import Sponge.TCPSpongeSocket.Pair

/-!
# Transfer between the owners of two sockets

What the owner of one socket gets is what the owner of the other one gave, from
the first byte on, and an end that is reported without an error is reported
after the last byte.
-/

namespace Sponge

open Lib Throwing TCPConnection TCPSpongeSocket

namespace Endpoint

theorem consumed_grows (e : Endpoint) (call : Call) : e.consumed <+: (e.apply call).consumed := by
  cases call with
  | readInbound len => exact List.prefix_append _ _
  | _ => exact List.prefix_rfl

end Endpoint

namespace System

theorem blind_inWindow {r : TCPReceiver} {seg seg' : TCPSegment}
    (same : seg.unaddressed = seg'.unaddressed) (inWindow : r.InWindow seg) : r.InWindow seg' := by
  have blind (seg : TCPSegment) : r.InWindow seg = r.InWindow seg.unaddressed := rfl
  rwa [blind, ← same]

theorem blind_finInOrder {r : TCPReceiver} {seg seg' : TCPSegment}
    (same : seg.unaddressed = seg'.unaddressed) (inOrder : r.FinInOrder seg) : r.FinInOrder seg' := by
  have blind (seg : TCPSegment) : r.FinInOrder seg = r.FinInOrder seg.unaddressed := rfl
  rwa [blind, ← same]

/-- The other side has ended its stream, and all of it has been read. -/
def Finished (s : System) (side : Side) : Prop :=
  (s side.other).hasEnded = true ∧ (s side).consumed = (s side.other).accepted

theorem Completes.placed_initial {e e' : Endpoint} (inv : Completes e e') :
    e'.placed <+: e.accepted := by
  obtain ⟨_, _, _, _, ending, _⟩ := inv
  rw [ending.receiving.placed_eq]
  exact List.take_prefix _ _

variable {s : System} {event : Event}

/-- Nothing comes after the end. -/
theorem Finished.step {side : Side} (finished : s.Finished side)
    (inv : ∀ side, Completes (s side) (s side.other))
    (inv' : ∀ side, Completes (s.step event side) (s.step event side.other))
    (permitted : s.Permitted event) : (s.step event).Finished side := by
  obtain ⟨ended, whole⟩ := finished
  obtain ⟨_, _, sending, _⟩ := inv side.other
  have sent : (s.step event side.other).hasEnded = true ∧
      (s.step event side.other).accepted = (s side.other).accepted ∧
      (s side).consumed <+: (s.step event side).consumed := by
    rcases s.step_cases event with same | ⟨caller, call, updated, cause⟩
    · rw [same]
      exact ⟨ended, rfl, List.prefix_rfl⟩
    rw [updated]
    rcases caller.eq_or_eq_other side with rfl | rfl
    · rw [Function.update_of_ne side.other_ne, Function.update_self]
      exact ⟨ended, rfl, (s side).consumed_grows call⟩
    · rw [Side.other_other] at ended sending ⊢
      rw [Function.update_self, Function.update_of_ne caller.other_ne]
      refine ⟨(Endpoint.later_apply sending.drained call).inputEnded ended, ?_, List.prefix_rfl⟩
      cases call with
      | write data =>
          -- an owner that has ended its stream writes nothing more
          rcases cause with rfl | ⟨_, _, _, isDelivery, _⟩
          · rw [permitted.1] at ended
            exact Bool.noConfusion ended
          · cases isDelivery
      | _ => rfl
  refine ⟨sent.1, ?_⟩
  have initial := (List.prefix_append _ _).trans (inv' side.other).placed_initial
  rw [Side.other_other, sent.2.1] at initial
  rw [sent.2.1]
  exact initial.eq_of_length_le (whole ▸ sent.2.2.length_le)

/-- What holds while no payload is delivered from beyond the window. -/
def delivery : Guarantee TCPReceiver.InWindow where
  Holds s := ∀ side, Delivers (s side) (s side.other)
  Over _ _ := True
  step {s event} inv permitted admits := by
    refine ⟨Delivers.step inv permitted ?_, fun _ _ => trivial⟩
    cases event <;> exact admits
  sees _ _ := trivial

/-- What holds if besides no lone FIN overtakes the bytes in front of it. -/
def reliability : Guarantee fun r seg => r.InWindow seg ∧ r.FinInOrder seg where
  Holds := Reliable
  Over s side := (s side).conn.inboundStream.error = true ∨ s.Finished side
  step {s event} inv permitted admits := by
    have inv' : (s.step event).Reliable := by
      refine inv.step permitted ?_ ?_
      · cases event with
        | call => trivial
        | deliver side n => exact fun seg picked => (admits seg picked).1
      · cases event with
        | call => trivial
        | deliver side n => exact fun seg picked => (admits seg picked).2
    refine ⟨inv', fun side met => ?_⟩
    rcases met with error | finished
    · left
      rcases s.step_cases event with same | ⟨caller, call, updated, _⟩
      · rw [same]
        exact error
      rw [updated]
      rcases caller.eq_or_eq_other side with rfl | rfl
      · rw [Function.update_self]
        exact error_apply error call
      · rw [Function.update_of_ne caller.other_ne]
        exact error
    · exact .inr (finished.step (fun side => (inv.honest side).1) (fun side => (inv'.honest side).1)
        permitted)
  sees {s side} inv atEnd := by
    rcases Bool.or_eq_true_iff.mp atEnd with eof | error
    · obtain ⟨⟨_, _, _, _, ending, seen⟩, _⟩ := inv.honest side.other
      rw [Side.other_other] at ending seen
      obtain ⟨known, consumed⟩ := ending.complete eof
      exact .inr ⟨seen known, consumed⟩
    · exact .inl error

theorem blind_reliability (r : TCPReceiver) (seg seg' : TCPSegment)
    (same : seg.unaddressed = seg'.unaddressed) (allowed : r.InWindow seg ∧ r.FinInOrder seg) :
    r.InWindow seg' ∧ r.FinInOrder seg' :=
  ⟨blind_inWindow same allowed.1, blind_finInOrder same allowed.2⟩

end System

namespace Sockets

variable {A : Type} [DatagramAdapter A] [GenuineAdapter A]

/-- However the turns of two sockets interleave and whatever the link loses,
duplicates, delays, reorders or adds, the bytes that the owner of one socket has
been given are at every moment a part, from the start on, of the bytes that the
owner of the other one has written, as long as no payload arrives from beyond the
window. -/
theorem taken_initial (cfg : Side → TCPConfig) (random : Side → UInt32) (adapter : Side → A)
    (positive : ∀ side, 1 ≤ (cfg side).recvCapacity)
    (representable : ∀ side, (cfg side).sendCapacity < 2 ^ 64 ∧ (cfg side).recvCapacity < 2 ^ 64)
    (fresh : ∀ side, GenuineAdapter.Carries [] (adapter side)) (s : Sockets A)
    (opens : ∀ side, Opens (adapter side) (cfg side) (random side) (s side))
    (events : List (Side × Turn A)) (linked : Guarded step Linked s events)
    (inWindow : Guarded step (Admits TCPReceiver.InWindow) s events) :
    let s' := run step s events
    (∀ side, (s' side).socket.threadData.received.length < 2 ^ 31) →
      ∀ side, (s' side).socket.threadData.taken <+: (s' side.other).socket.threadData.received := by
  intro s' short side
  obtain ⟨sys, relates⟩ := relates_run (g := System.delivery)
    (fun side => System.delivers_new (representable side).1 (positive side.other)
      (representable side.other).2 _ _)
    (fun _ _ _ => System.blind_inWindow) fresh opens linked inWindow
  obtain ⟨holds, _⟩ := relates.holds short
  have delivers := holds side.other
  rw [Side.other_other] at delivers
  calc (s' side).socket.threadData.taken
    _ <+: (sys side).placed := (relates side).interrupted.taken
    _ <+: (sys side.other).accepted := delivers.placed_initial
    _ = (s' side.other).socket.threadData.received :=
        (relates side.other).interrupted.received.symm

/-- Two sockets over UDP, one of which connects to the other. -/
def overUDP : Sockets TCPOverUDPSocketAdapter
  | .a =>
      { socket :=
          { tcp := (TCPConnection.new {} 7).connect
            datagramAdapter :=
              { sock := { localAddress := ⟨1, 1000⟩ }
                cfg := { source := ⟨1, 1000⟩, destination := ⟨2, 2000⟩ } } }
        phase := .connecting }
  | .b => listenAndAccept { sock := { localAddress := ⟨2, 2000⟩ } } {} 9 { source := ⟨2, 2000⟩ }

def overUDPAdapter : Side → TCPOverUDPSocketAdapter
  | .a => { sock := { localAddress := ⟨1, 1000⟩ } }
  | .b => { sock := { localAddress := ⟨2, 2000⟩ } }

def overUDPRandom : Side → UInt32
  | .a => 7
  | .b => 9

theorem opens_overUDP (side : Side) :
    Opens (overUDPAdapter side) {} (overUDPRandom side) (overUDP side) := by
  cases side with
  | a => exact .connected { source := ⟨1, 1000⟩, destination := ⟨2, 2000⟩ } _ (connect_eq _ _ _ _)
  | b => exact .listening _

theorem fresh_overUDP (side : Side) : GenuineAdapter.Carries [] (overUDPAdapter side) := by
  cases side <;> exact List.forall_mem_nil _

/-- A turn in which the descriptors are ready, the device gives `packet`, and the
owner writes `bytes`. -/
def overUDPTurn (revents : List EventLoop.Revents) (packet : Answer UDPDatagram)
    (bytes : List UInt8) : Turn TCPOverUDPSocketAdapter where
  poll := .ready revents
  answers := { packet, fromOwner := fun _ => .ok bytes, toOwner := .ok, shutdown := .ok () }

/-- The handshake, two bytes, and the end of both streams. -/
def overUDPEvents : List (Side × Turn TCPOverUDPSocketAdapter) :=
  let idle : Answer UDPDatagram := .error "no packet"
  let fromA (payload : Buffer) : Answer UDPDatagram := .ok ⟨⟨1, 1000⟩, ⟨2, 2000⟩, payload⟩
  let fromB (payload : Buffer) : Answer UDPDatagram := .ok ⟨⟨2, 2000⟩, ⟨1, 1000⟩, payload⟩
  let ready : EventLoop.Revents := { input := true, output := true }
  [(.a, overUDPTurn [{}, {}, {}, ready] idle []),
    (.b, overUDPTurn [ready]
      (fromA [3, 232, 7, 208, 0, 0, 0, 7, 0, 0, 0, 0, 80, 2, 250, 0, 170, 61, 0, 0]) []),
    (.b, overUDPTurn [{}, {}, {}, ready] idle []),
    (.a, overUDPTurn [ready]
      (fromB [7, 208, 3, 232, 0, 0, 0, 9, 0, 0, 0, 8, 80, 18, 250, 0, 170, 35, 0, 0]) []),
    (.a, overUDPTurn [{}, ready, {}, ready] idle [97, 98]),
    (.b, overUDPTurn [ready]
      (fromA [3, 232, 7, 208, 0, 0, 0, 8, 0, 0, 0, 10, 80, 16, 250, 0, 72, 194, 0, 0, 97, 98]) []),
    (.b, overUDPTurn [{}, {}, ready, {}] idle []),
    (.a, overUDPTurn [{}, ready, {}, {}] idle []),
    (.a, overUDPTurn [{}, {}, ready] idle []),
    (.b, overUDPTurn [ready]
      (fromA [3, 232, 7, 208, 0, 0, 0, 10, 0, 0, 0, 10, 80, 17, 250, 0, 170, 33, 0, 0]) []),
    (.b, overUDPTurn [{}, {}, ready, {}] idle []),
    (.b, overUDPTurn [{}, ready, {}, ready] idle []),
    (.a, overUDPTurn [ready]
      (fromB [7, 208, 3, 232, 0, 0, 0, 10, 0, 0, 0, 11, 80, 16, 250, 0, 170, 33, 0, 0]) []),
    (.a, overUDPTurn [ready]
      (fromB [7, 208, 3, 232, 0, 0, 0, 10, 0, 0, 0, 11, 80, 17, 250, 0, 170, 32, 0, 0]) []),
    (.a, overUDPTurn [{}, {}, ready] idle []),
    (.b, overUDPTurn [ready]
      (fromA [3, 232, 7, 208, 0, 0, 0, 11, 0, 0, 0, 11, 80, 16, 250, 0, 170, 32, 0, 0]) [])]

theorem linked_overUDP : Guarded step Linked overUDP overUDPEvents := by
  have given : Guarded step
      (fun s event => ∀ packet ∈ event.2.answers.packet.toOption,
        packet ∈ (s event.1.other).socket.datagramAdapter.sock.datagrams)
      overUDP overUDPEvents := by
    decide +kernel
  refine given.ensures (fun _ => True) trivial fun s event _ known => ⟨fun a a' seg ran => ?_, trivial⟩
  cases answer : event.2.answers.packet with
  | ok packet =>
      rw [answer] at known
      exact ⟨packet, known packet rfl, rfl⟩
  | error text =>
      rw [answer] at ran
      cases ran

theorem admits_overUDP :
    Guarded step (Admits fun r seg => r.InWindow seg ∧ r.FinInOrder seg) overUDP overUDPEvents := by
  decide +kernel

theorem short_overUDP (side : Side) :
    (run step overUDP overUDPEvents side).socket.threadData.received.length + 2 < 2 ^ 31 := by
  cases side <;> decide +kernel

theorem taken_initial_overUDP :
    (run step overUDP overUDPEvents .b).socket.threadData.taken = [97, 98] ∧
      ∀ side, (run step overUDP overUDPEvents side).socket.threadData.taken <+:
        (run step overUDP overUDPEvents side.other).socket.threadData.received := by
  refine ⟨by decide +kernel, ?_⟩
  exact taken_initial (fun _ => {}) overUDPRandom overUDPAdapter (fun _ => by decide)
    (fun _ => by decide) fresh_overUDP overUDP opens_overUDP overUDPEvents linked_overUDP
    (by decide +kernel) fun side => Nat.lt_of_le_of_lt (Nat.le_add_right _ 2) (short_overUDP side)

/-- If besides no lone FIN arrives before the bytes in front of it, then an owner
that is told the end of its inbound stream, without an error, has been given every
byte that the other owner has written, and the other owner has ended its stream. -/
theorem inboundShutdown_complete (cfg : Side → TCPConfig) (random : Side → UInt32)
    (adapter : Side → A) (positive : ∀ side, 1 ≤ (cfg side).recvCapacity)
    (representable : ∀ side, (cfg side).sendCapacity < 2 ^ 64 ∧ (cfg side).recvCapacity < 2 ^ 64)
    (fresh : ∀ side, GenuineAdapter.Carries [] (adapter side)) (s : Sockets A)
    (opens : ∀ side, Opens (adapter side) (cfg side) (random side) (s side))
    (events : List (Side × Turn A)) (linked : Guarded step Linked s events)
    (inOrder : Guarded step (Admits fun r seg => r.InWindow seg ∧ r.FinInOrder seg) s events) :
    let s' := run step s events
    (∀ side, (s' side).socket.threadData.received.length < 2 ^ 31) →
      ∀ side, (s' side).socket.inboundShutdown = true →
        (s' side).socket.tcp.inboundStream.error = false →
        (s' side).socket.threadData.taken = (s' side.other).socket.threadData.received ∧
          (s' side.other).socket.outboundShutdown = true := by
  intro s' short side shut clean
  obtain ⟨sys, relates⟩ := relates_run (g := System.reliability)
    (System.reliable_new random positive representable) System.blind_reliability fresh opens linked
    inOrder
  obtain ⟨holds, met⟩ := relates.holds short
  have interrupted := (relates side).interrupted
  have other := (relates side.other).interrupted
  have completes := (holds.honest side.other).1
  rw [Side.other_other] at completes
  rcases met side shut with error | ⟨ended, whole⟩
  · rw [← interrupted.tcp, clean] at error
    exact Bool.noConfusion error
  · refine ⟨?_, other.ending ended⟩
    have initial := interrupted.taken.trans completes.placed_initial
    rw [other.received]
    exact initial.eq_of_length_le (whole ▸ interrupted.consumed.length_le)

theorem inboundShutdown_complete_overUDP :
    (run step overUDP overUDPEvents .b).socket.inboundShutdown = true ∧
      (run step overUDP overUDPEvents .b).socket.threadData.taken =
        (run step overUDP overUDPEvents Side.b.other).socket.threadData.received ∧
      (run step overUDP overUDPEvents Side.b.other).socket.outboundShutdown = true := by
  refine ⟨by decide +kernel, ?_⟩
  exact inboundShutdown_complete (fun _ => {}) overUDPRandom overUDPAdapter (fun _ => by decide)
    (fun _ => by decide) fresh_overUDP overUDP opens_overUDP overUDPEvents linked_overUDP
    admits_overUDP (fun side => Nat.lt_of_le_of_lt (Nat.le_add_right _ 2) (short_overUDP side)) .b
    (by decide +kernel) (by decide +kernel)

/-- A socket whose connection is over, without an error, has delivered everything:
the other socket has every byte that its owner has written, given to the other
owner or still waiting there, and it has every byte of the other owner itself. -/
theorem inactive_complete (cfg : Side → TCPConfig) (random : Side → UInt32)
    (adapter : Side → A) (positive : ∀ side, 1 ≤ (cfg side).recvCapacity)
    (representable : ∀ side, (cfg side).sendCapacity < 2 ^ 64 ∧ (cfg side).recvCapacity < 2 ^ 64)
    (fresh : ∀ side, GenuineAdapter.Carries [] (adapter side)) (s : Sockets A)
    (opens : ∀ side, Opens (adapter side) (cfg side) (random side) (s side))
    (events : List (Side × Turn A)) (linked : Guarded step Linked s events)
    (inOrder : Guarded step (Admits fun r seg => r.InWindow seg ∧ r.FinInOrder seg) s events) :
    let s' := run step s events
    (∀ side, (s' side).socket.threadData.received.length + 2 < 2 ^ 31) →
      (∀ side ex, (s' side).phase ≠ .failed ex) → ∀ side,
        (s' side).socket.tcp.active = false →
        (s' side).socket.tcp.inboundStream.error = false →
        (s' side).socket.tcp.sender.relativeNextSeqno ≠ ⟨0⟩ →
        ∀ receiver, (s' receiver).socket.threadData.taken ++
            (s' receiver).socket.tcp.inboundStream.buffer =
          (s' receiver.other).socket.threadData.received := by
  intro s' short works side inactive noError distinct receiver
  obtain ⟨sys, relates⟩ := relates_run (g := System.reliability)
    (System.reliable_new random positive representable) System.blind_reliability fresh opens linked
    inOrder
  have reliable : sys.Reliable :=
    (relates.holds fun side => Nat.lt_of_le_of_lt (Nat.le_add_right _ 2) (short side)).1
  have tracks side := ((relates side).working (works side)).1
  have placed : (s' receiver).socket.threadData.taken ++
      (s' receiver).socket.tcp.inboundStream.buffer = (sys receiver).placed := by
    rw [(tracks receiver).taken, (tracks receiver).tcp]
    rfl
  have clear : System.Clear (sys side) := by
    refine ⟨?_, ?_, fun _ => ?_⟩
    · rw [← (tracks side).tcp]
      exact noError
    · rw [← (tracks side).received]
      exact short side
    · rw [← (tracks side).tcp]
      exact distinct
  have complete := reliable.complete clear ((tracks side).tcp ▸ inactive)
  rw [placed, (tracks receiver.other).received]
  rcases side.eq_or_eq_other receiver with rfl | rfl
  · exact complete.2.2.1
  · rw [Side.other_other]
    exact complete.1

theorem works_overUDP (side : Side) : (run step overUDP overUDPEvents side).phase = .running := by
  cases side <;> decide +kernel

theorem inactive_complete_overUDP :
    (run step overUDP overUDPEvents .b).socket.tcp.active = false ∧
      ∀ receiver, (run step overUDP overUDPEvents receiver).socket.threadData.taken ++
          (run step overUDP overUDPEvents receiver).socket.tcp.inboundStream.buffer =
        (run step overUDP overUDPEvents receiver.other).socket.threadData.received := by
  refine ⟨by decide +kernel, ?_⟩
  exact inactive_complete (fun _ => {}) overUDPRandom overUDPAdapter (fun _ => by decide)
    (fun _ => by decide) fresh_overUDP overUDP opens_overUDP overUDPEvents linked_overUDP
    admits_overUDP short_overUDP (fun side ex failed => Phase.noConfusion
      ((works_overUDP side).symm.trans failed)) .b (by decide +kernel) (by decide +kernel)
    (by decide +kernel)

end Sockets

end Sponge
