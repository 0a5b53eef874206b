import Sponge.Network.Closing
import Sponge.TCPSpongeSocket.Runs

/-!
# Two sockets and a link

Two sockets are joined by a link that may lose, duplicate, delay and reorder
packets, and may add packets that cannot be read as a segment.  Their turns
interleave in any way.  Every run of the two is matched by a run of the two
endpoints that they follow.
-/

namespace Sponge

open Lib Throwing TCPConnection

/-- A connection does not look at what an adapter fills in. -/
theorem Endpoint.apply_unaddressed (e : Endpoint) {seg seg' : TCPSegment}
    (same : seg.unaddressed = seg'.unaddressed) :
    e.apply (.segmentReceived seg) = e.apply (.segmentReceived seg') := by
  have blind (seg : TCPSegment) :
      e.apply (.segmentReceived seg) = e.apply (.segmentReceived seg.unaddressed) := rfl
  rw [blind seg, blind seg', same]

namespace System

/-- The receivers allow the segments that are delivered. -/
def Admits (allows : TCPReceiver → TCPSegment → Prop) (s : System) : Event → Prop
  | .deliver side n => ∀ seg ∈ (s side.other).wire[n]?, allows (s side).conn.receiver seg
  | .call _ _ => True

/-- Not too much has been accepted for the sequence numbers. -/
def Small (s : System) : Prop := ∀ side, (s side).accepted.length < 2 ^ 31

/-- What is known of two endpoints as long as the receivers allow what is
delivered: `Over` is about a side whose inbound stream has met its end. -/
structure Guarantee (allows : TCPReceiver → TCPSegment → Prop) where
  Holds : System → Prop
  Over : System → Side → Prop
  step : ∀ {s : System} {event : Event}, Holds s → s.Permitted event → s.Admits allows event →
    Holds (s.step event) ∧ ∀ side, Over s side → Over (s.step event) side
  sees : ∀ {s : System} {side : Side}, Holds s →
    ((s side).conn.inboundStream.eof || (s side).conn.inboundStream.error) = true → Over s side

variable {allows : TCPReceiver → TCPSegment → Prop} {s : System} {side : Side} {e : Endpoint}

/-- What a socket on one side knows of its endpoint, while the other side rests. -/
def Guarantee.Keeps (g : Guarantee allows) (s : System) (side : Side) (e : Endpoint) : Prop :=
  (s side).accepted <+: e.accepted ∧
    (Small (Function.update s side e) → g.Holds (Function.update s side e) ∧
      (g.Over s side.other → g.Over (Function.update s side e) side.other))

/-- The inbound stream of the endpoint has met its end. -/
def Guarantee.Closes (g : Guarantee allows) (s : System) (side : Side) (e : Endpoint) : Prop :=
  Small (Function.update s side e) → g.Over (Function.update s side e) side

theorem Guarantee.advance (g : Guarantee allows) {call : Call} {event : Event}
    (keeps : g.Keeps s side e)
    (steps : System.step (Function.update s side e) event = Function.update s side (e.apply call))
    (permitted : Small (Function.update s side (e.apply call)) →
      Permitted (Function.update s side e) event)
    (admits : Admits allows (Function.update s side e) event) :
    g.Keeps s side (e.apply call) ∧ (g.Closes s side e → g.Closes s side (e.apply call)) := by
  obtain ⟨more, grown⟩ := e.accepted_apply call
  have before (small : Small (Function.update s side (e.apply call))) :
      Small (Function.update s side e) := by
    intro other
    have bound := small other
    rcases side.eq_or_eq_other other with rfl | rfl
    · rw [Function.update_self, grown, List.length_append] at bound
      rw [Function.update_self]
      omega
    · rw [Function.update_of_ne side.other_ne] at bound ⊢
      exact bound
  refine ⟨⟨?_, fun small => ?_⟩, fun closes small => ?_⟩
  · rw [grown]
    exact keeps.1.trans (List.prefix_append _ _)
  · obtain ⟨holds, others⟩ := keeps.2 (before small)
    obtain ⟨holds', met⟩ := g.step holds (permitted small) admits
    rw [steps] at holds' met
    exact ⟨holds', fun before => met side.other (others before)⟩
  · obtain ⟨holds, _⟩ := keeps.2 (before small)
    obtain ⟨_, met⟩ := g.step holds (permitted small) admits
    rw [steps] at met
    exact met side (closes (before small))

theorem step_update (s : System) (side : Side) (e : Endpoint) (call : Call) :
    step (Function.update s side e) (.call side call) = Function.update s side (e.apply call) := by
  rw [step, Function.update_self, Function.update_idem]

/-- The contract of the socket on one side. -/
def Guarantee.contract (g : Guarantee allows) (s : System) (side : Side) : Contract where
  Holds := g.Keeps s side
  Over := g.Closes s side
  call {e call} keeps orderly := by
    refine g.advance keeps (step_update s side e call) (fun small => ?_) trivial
    cases call with
    | write data =>
        have bound := small side
        rw [Function.update_self] at bound
        rw [Permitted, Function.update_self]
        exact ⟨orderly, bound⟩
    | segmentReceived seg => exact False.elim orderly
    | _ => trivial
  sees {e} keeps atEnd small := by
    refine g.sees (keeps.2 small).1 ?_
    rw [Function.update_self]
    exact atEnd

end System

namespace TCPSpongeSocket

variable {A : Type} [DatagramAdapter A] [GenuineAdapter A]

/-- A process keeps what it knows when less is asked of it. -/
theorem Process.Relates.imp {k k' : Contract} {p : Process A} {e : Endpoint}
    (relates : p.Relates k e) (holds : k.Holds e → k'.Holds e) (met : k.Over e → k'.Over e) :
    p.Relates k' e := by
  refine ⟨?_, fun works => ?_⟩
  · have interrupted := relates.interrupted
    exact { interrupted with
      holds := holds interrupted.holds, shut := fun shut => met (interrupted.shut shut) }
  · obtain ⟨tracks, remaining⟩ := relates.working works
    exact ⟨{ tracks with
      holds := holds tracks.holds, shut := fun shut => met (tracks.shut shut) }, remaining⟩

end TCPSpongeSocket

open TCPSpongeSocket

abbrev Sockets (A : Type) [DatagramAdapter A] := Side → Process A

namespace Sockets

variable {A : Type} [DatagramAdapter A]

/-- One side takes a turn. -/
def step (s : Sockets A) (event : Side × Turn A) : Sockets A :=
  Function.update s event.1 ((s event.1).step event.2)

/-- The receiver allows the segment that a turn reads. -/
def Admits (allows : TCPReceiver → TCPSegment → Prop) (s : Sockets A) (event : Side × Turn A) : Prop :=
  ∀ seg a, DatagramAdapter.read event.2.answers.packet (s event.1).socket.datagramAdapter =
    .ok (some seg) a → allows (s event.1).socket.tcp.receiver seg

instance (allows : TCPReceiver → TCPSegment → Prop) [∀ r seg, Decidable (allows r seg)]
    (s : Sockets A) (event : Side × Turn A) : Decidable (Admits allows s event) :=
  match ran : DatagramAdapter.read event.2.answers.packet (s event.1).socket.datagramAdapter with
  | .ok (some seg) a =>
      decidable_of_iff (allows (s event.1).socket.tcp.receiver seg) <| by
        constructor
        · intro allowed seg' a' same
          cases ran.symm.trans same
          exact allowed
        · exact fun admits => admits seg a ran
  | .ok none a => .isTrue fun seg a' same => nomatch ran.symm.trans same
  | .error ex a => .isTrue fun seg a' same => nomatch ran.symm.trans same

variable [GenuineAdapter A]

/-- A packet that can be read as a segment was given to the device by the other
side, at any earlier time. -/
def Linked (s : Sockets A) (event : Side × Turn A) : Prop :=
  ∀ (a a' : A) seg, DatagramAdapter.read event.2.answers.packet a = .ok (some seg) a' →
    ∃ packet ∈ GenuineAdapter.packets (s event.1.other).socket.datagramAdapter,
      event.2.answers.packet = .ok packet

/-- Each socket is in step with its endpoint. -/
def Relates {allows : TCPReceiver → TCPSegment → Prop} (g : System.Guarantee allows)
    (s : Sockets A) (sys : System) : Prop :=
  ∀ side, (s side).Relates (g.contract sys side) (sys side)

variable {allows : TCPReceiver → TCPSegment → Prop} {g : System.Guarantee allows}
  {s : Sockets A} {sys : System}

/-- What a turn reads is a segment that the other endpoint has put on its wire. -/
theorem Relates.arriving (relates : Relates g s sys) {side : Side} {turn : Turn A}
    (blind : ∀ r seg seg', TCPSegment.unaddressed seg = TCPSegment.unaddressed seg' →
      allows r seg → allows r seg')
    (linked : Linked s (side, turn)) (admits : Admits allows s (side, turn)) :
    Arriving (g.contract sys side) turn (s side).socket := by
  intro e seg a keeps receiver ran
  obtain ⟨packet, written, answer⟩ := linked _ _ _ ran
  have allowed : allows e.conn.receiver seg := receiver ▸ admits seg a ran
  have carries := (relates side.other).interrupted.carries
  rw [answer] at ran
  obtain ⟨original, membership, same⟩ := GenuineAdapter.genuine carries written ran
  obtain ⟨n, picked⟩ := List.mem_iff_getElem?.mp membership
  have wire : (Function.update sys side e side.other).wire[n]? = some original := by
    rw [Function.update_of_ne side.other_ne]
    exact picked
  have steps : System.step (Function.update sys side e) (.deliver side n) =
      Function.update sys side (e.apply (.segmentReceived original)) := by
    rw [System.step, wire]
    dsimp only
    rw [Function.update_self, Function.update_idem]
  rw [Endpoint.apply_unaddressed e same]
  refine g.advance keeps steps (fun _ => ?_) ?_
  · exact (List.getElem?_eq_some_iff.mp wire).1
  · intro delivered isDelivered
    rw [Option.mem_def, wire, Option.some_inj] at isDelivered
    rw [Function.update_self, ← isDelivered]
    exact blind _ _ _ same allowed

/-- When one side has moved on, both sockets are in step with the new system. -/
theorem Relates.update (relates : Relates g s sys) {side : Side} {p : Process A} {e : Endpoint}
    (moved : p.Relates (g.contract sys side) e) :
    Relates g (Function.update s side p) (Function.update sys side e) := by
  have keeps : g.Keeps sys side e := moved.interrupted.holds
  have before (small : System.Small (Function.update sys side e)) : sys.Small := by
    intro other
    have bound := small other
    rcases side.eq_or_eq_other other with rfl | rfl
    · rw [Function.update_self] at bound
      exact Nat.lt_of_le_of_lt keeps.1.length_le bound
    · rwa [Function.update_of_ne side.other_ne] at bound
  intro other
  rcases side.eq_or_eq_other other with rfl | rfl
  · rw [Function.update_self, Function.update_self]
    refine moved.imp (fun keeps => ⟨?_, fun small => ?_⟩) fun closes small => ?_
    · rw [Function.update_self]
    · rw [Function.update_idem] at small ⊢
      exact ⟨(keeps.2 small).1, id⟩
    · rw [Function.update_idem] at small ⊢
      exact closes small
  · rw [Function.update_of_ne side.other_ne, Function.update_of_ne side.other_ne]
    have rest := Function.update_eq_self side.other (Function.update sys side e)
    rw [Function.update_of_ne side.other_ne] at rest
    refine (relates side.other).imp (fun _ => ⟨?_, fun small => ?_⟩) fun closes small => ?_
    · rw [Function.update_of_ne side.other_ne]
    · rw [rest] at small ⊢
      exact ⟨(keeps.2 small).1, id⟩
    · rw [rest] at small ⊢
      refine (keeps.2 small).2 ?_
      have met := closes
      rw [show (g.contract sys side.other).Over (sys side.other) =
        g.Closes sys side.other (sys side.other) from rfl, System.Guarantee.Closes,
        Function.update_eq_self] at met
      exact met (before small)

theorem Relates.step (relates : Relates g s sys) {event : Side × Turn A}
    (blind : ∀ r seg seg', TCPSegment.unaddressed seg = TCPSegment.unaddressed seg' →
      allows r seg → allows r seg')
    (linked : Linked s event) (admits : Admits allows s event) :
    ∃ sys', Relates g (s.step event) sys' := by
  obtain ⟨e, moved⟩ := (relates event.1).step (relates.arriving blind linked admits)
  exact ⟨_, relates.update moved⟩

theorem relates_opens {cfg : Side → TCPConfig} {random : Side → UInt32} {adapter : Side → A}
    (initially : g.Holds (System.new cfg random))
    (fresh : ∀ side, GenuineAdapter.Carries [] (adapter side))
    (opens : ∀ side, Opens (adapter side) (cfg side) (random side) (s side)) :
    ∃ sys, Relates g s sys := by
  let listening : Sockets A := fun side =>
    listenAndAccept (adapter side) (cfg side) (random side) {}
  have start : Relates g listening (System.new cfg random) := by
    intro side
    have keeps : g.Keeps (System.new cfg random) side (System.new cfg random side) := by
      rw [System.Guarantee.Keeps, Function.update_eq_self]
      exact ⟨List.prefix_rfl, fun _ => ⟨initially, id⟩⟩
    exact relates_listenAndAccept (g.contract _ side) keeps (fresh side) {}
  obtain ⟨e, first⟩ := TCPSpongeSocket.relates_opens (g.contract (System.new cfg random) .a)
    (start .a).interrupted.holds (fresh .a) (opens .a)
  have one := start.update first
  obtain ⟨e', second⟩ := TCPSpongeSocket.relates_opens (g.contract _ .b)
    (one .b).interrupted.holds (fresh .b) (opens .b)
  have both := one.update second
  have all : Function.update (Function.update listening .a (s .a)) .b (s .b) = s := by
    funext side
    cases side <;> rfl
  rw [all] at both
  exact ⟨_, both⟩

theorem relates_run {cfg : Side → TCPConfig} {random : Side → UInt32} {adapter : Side → A}
    (initially : g.Holds (System.new cfg random))
    (blind : ∀ r seg seg', TCPSegment.unaddressed seg = TCPSegment.unaddressed seg' →
      allows r seg → allows r seg')
    (fresh : ∀ side, GenuineAdapter.Carries [] (adapter side))
    (opens : ∀ side, Opens (adapter side) (cfg side) (random side) (s side))
    {events : List (Side × Turn A)} (linked : Guarded step Linked s events)
    (admits : Guarded step (Admits allows) s events) : ∃ sys, Relates g (run step s events) sys :=
  (linked.and admits).invariant (fun s => ∃ sys, Relates g s sys)
    (relates_opens initially fresh opens)
    fun _ _ ⟨_, relates⟩ allowed => relates.step blind allowed.1 allowed.2

/-- As long as not too much has been taken from the owners, the endpoints keep what
the guarantee says. -/
theorem Relates.holds (relates : Relates g s sys)
    (short : ∀ side, (s side).socket.threadData.received.length < 2 ^ 31) :
    g.Holds sys ∧ ∀ side, (s side).socket.inboundShutdown = true → g.Over sys side := by
  have small : sys.Small := fun side => (relates side).interrupted.received ▸ short side
  have same side := Function.update_eq_self side sys
  refine ⟨?_, fun side shut => ?_⟩
  · have keeps : g.Keeps sys .a (sys .a) := (relates .a).interrupted.holds
    rw [System.Guarantee.Keeps, same] at keeps
    exact (keeps.2 small).1
  · have closes : g.Closes sys side (sys side) := (relates side).interrupted.shut shut
    rw [System.Guarantee.Closes, same] at closes
    exact closes small

end Sockets

end Sponge
