import Sponge.Router.Forwarding
import Sponge.Lib.Run

/-!
# Frames that make the router throw

The parser of datagrams ignores what the parser of headers says, and the
serializer throws for a wrong version or a short header.  No other frame makes
a call throw.
-/

namespace Sponge.Router

open Lib Throwing

inductive Event where
  | frame (n : ℕ) (frame : EthernetFrame)
  | tick (n : ℕ) (msSinceLastTick : ℕ)
  | route

def call : Event → Method Unit
  | .frame n frame => interface n (AsyncNetworkInterface.recvFrame frame)
  | .tick n msSinceLastTick =>
      interface n (AsyncNetworkInterface.base (NetworkInterface.tick msSinceLastTick))
  | .route => route

def step (r : Router) (event : Event) : Router := finalState (call event r)

def Returns (r : Router) (event : Event) : Prop := returns (call event r) = true

/-- Frames and ticks come to interfaces that exist, and a frame has one buffer. -/
def Possible (r : Router) : Event → Prop
  | .frame n frame => n < r.interfaces.length ∧ frame.payload.length ≤ 1
  | .tick n _ => n < r.interfaces.length
  | .route => True

/-- A received datagram that would be sent on has a header that can be
serialized. -/
def Harmless (r : Router) : Event → Prop
  | .frame n frame =>
      ∀ i ∈ r.interfaces[n]?, ∀ dgram ∈ i.receivedDatagram frame,
        (forwarded r.lookup dgram).isSome → dgram.header.ver = 4 ∧ 5 ≤ dgram.header.hlen
  | _ => True

instance (r : Router) (event : Event) : Decidable (r.Returns event) :=
  inferInstanceAs (Decidable (_ = true))

instance (r : Router) (event : Event) : Decidable (r.Possible event) :=
  match event with
  | .frame _ _ => inferInstanceAs (Decidable (_ ∧ _))
  | .tick _ _ => inferInstanceAs (Decidable (_ < _))
  | .route => inferInstanceAs (Decidable True)

instance (r : Router) (event : Event) : Decidable (r.Harmless event) :=
  match event with
  | .frame n frame =>
      inferInstanceAs (Decidable (∀ i ∈ r.interfaces[n]?, ∀ dgram ∈ i.receivedDatagram frame,
        (forwarded r.lookup dgram).isSome → dgram.header.ver = 4 ∧ 5 ≤ dgram.header.hlen))
  | .tick _ _ => inferInstanceAs (Decidable True)
  | .route => inferInstanceAs (Decidable True)

/-- What holds of the router after every event. -/
structure Sound (r : Router) : Prop where
  connected : r.Connected
  flushable : r.Flushable
  sendable : ∀ queue ∈ r.queues, ∀ dgram ∈ queue,
    (forwarded r.lookup dgram).isSome → dgram.Serializable

variable {r : Router}

/-- A call on an interface that adds only harmless datagrams to its queue. -/
theorem Sound.interface_run (sound : r.Sound) {n : ℕ} {i after : AsyncNetworkInterface}
    {method : AsyncNetworkInterface.Method Unit} (there : r.interfaces[n]? = some i)
    (ran : method i = .ok () after)
    (waiting : ∀ entry ∈ after.queueingIPDatagrams, entry ∈ i.queueingIPDatagrams)
    (queued : ∀ dgram ∈ after.datagramsOut,
      dgram ∈ i.datagramsOut ∨ ((forwarded r.lookup dgram).isSome → dgram.Serializable)) :
    ∃ next, interface n method r = .ok () next ∧ next.Sound := by
  have moves := moves_set there fun entry membership => .inl (waiting entry membership)
  refine ⟨_, Router.interface_run there ran, ?_⟩
  exact {
    connected := moves.connected List.length_set sound.connected
    flushable := moves.flushable sound.flushable
    sendable := by
      rw [moves.queues, moves.lookup_eq]
      intro queue membership dgram within
      rcases List.mem_or_eq_of_mem_set membership with old | rfl
      · exact sound.sendable queue old dgram within
      · rcases queued dgram within with before | safe
        · have old : i.datagramsOut ∈ r.queues :=
            List.mem_map_of_mem (List.mem_of_getElem? there)
          exact sound.sendable _ old dgram before
        · exact safe }

theorem recvFrame_run {i : AsyncNetworkInterface} {after : NetworkInterface} {frame : EthernetFrame}
    {received : Option IPv4Datagram}
    (ran : NetworkInterface.recvFrame frame i.toNetworkInterface = .ok received after) :
    AsyncNetworkInterface.recvFrame frame i = .ok ()
      { toNetworkInterface := after, datagramsOut := i.datagramsOut ++ received.toList } := by
  rw [AsyncNetworkInterface.recvFrame, AsyncNetworkInterface.base, bind_of_ok (within_of_ok ran)]
  cases received with
  | none => simp
  | some dgram => rfl

theorem Sound.frame (sound : r.Sound) {n : ℕ} {frame : EthernetFrame}
    (possible : r.Possible (.frame n frame)) (harmless : r.Harmless (.frame n frame)) :
    ∃ next, call (.frame n frame) r = .ok () next ∧ next.Sound := by
  obtain ⟨exist, single⟩ := possible
  have there := List.getElem?_eq_getElem exist
  obtain ⟨after, ran, waiting⟩ := NetworkInterface.recvFrame_returns single
    (sound.flushable _ (List.getElem_mem exist))
  refine sound.interface_run there (recvFrame_run ran) waiting fun dgram queued => ?_
  rcases List.mem_append.mp queued with old | new
  · exact .inl old
  · right
    intro sent
    have received := Option.mem_toList.mp new
    obtain ⟨version, hlen⟩ := harmless _ there dgram received sent
    exact ⟨NetworkInterface.size_of_receivedDatagram received, version, hlen⟩

theorem Sound.tick (sound : r.Sound) {n msSinceLastTick : ℕ} (exist : n < r.interfaces.length) :
    ∃ next, call (.tick n msSinceLastTick) r = .ok () next ∧ next.Sound :=
  sound.interface_run (List.getElem?_eq_getElem exist) (within_of_ok rfl)
    (fun _ => id) fun _ => .inl

theorem Sound.route (sound : r.Sound) : ∃ next, call .route r = .ok () next ∧ next.Sound := by
  obtain ⟨next, ran, moves⟩ := route_run sound.connected sound.sendable
  refine ⟨next, ran, ?_⟩
  exact {
    connected := moves.connected (List.length_replicate ..) sound.connected
    flushable := moves.flushable sound.flushable
    sendable := by
      rw [moves.queues]
      intro queue membership
      rw [List.eq_of_mem_replicate membership]
      exact List.forall_mem_nil _ }

theorem Sound.step (sound : r.Sound) {event : Event} (possible : r.Possible event)
    (harmless : r.Harmless event) : r.Returns event ∧ (r.step event).Sound := by
  have returning : ∃ next, call event r = .ok () next ∧ next.Sound := by
    cases event with
    | frame n frame => exact sound.frame possible harmless
    | tick n ms => exact sound.tick possible
    | route => exact sound.route
  obtain ⟨next, ran, after⟩ := returning
  rw [Returns, Router.step, ran]
  exact ⟨rfl, after⟩

theorem sound_new {interfaces : List AsyncNetworkInterface} {routes : List Route}
    (exist : ∀ route ∈ routes, route.interfaceNum < interfaces.length)
    (fresh : ∀ i ∈ interfaces, i.datagramsOut = [] ∧ i.queueingIPDatagrams = []) :
    (routes.foldl addRoute { interfaces }).Sound where
  connected := connected_foldl_addRoute exist
  flushable := by
    intro i there
    rw [(interfaces_foldl_addRoute _ _).1] at there
    rw [(fresh i there).2]
    exact List.forall_mem_nil _
  sendable := by
    intro queue membership
    rw [queues, (interfaces_foldl_addRoute _ _).1] at membership
    obtain ⟨i, there, rfl⟩ := List.mem_map.mp membership
    rw [(fresh i there).1]
    exact List.forall_mem_nil _

/-- In every run in which the datagrams to be sent on have proper headers, no
call throws. -/
theorem no_call_throws (interfaces : List AsyncNetworkInterface) (routes : List Route)
    (exist : ∀ route ∈ routes, route.interfaceNum < interfaces.length)
    (fresh : ∀ i ∈ interfaces, i.datagramsOut = [] ∧ i.queueingIPDatagrams = [])
    (events : List Event)
    (possible : Guarded step Possible (routes.foldl addRoute { interfaces }) events)
    (harmless : Guarded step Harmless (routes.foldl addRoute { interfaces }) events) :
    Guarded step Returns (routes.foldl addRoute { interfaces }) events :=
  (possible.and harmless).ensures Sound (sound_new exist fresh) fun _ _ sound both =>
    sound.step both.1 both.2

/-- An interface of a small router, with a direct route to everything. -/
def onlyInterface : AsyncNetworkInterface :=
  { ethernetAddress := Vector.replicate 6 2, ipAddress := { ip := 1 } }

def defaultRoute : Route :=
  { routePrefix := 0, prefixLength := 0, nextHop := none, interfaceNum := 0 }

/-- Address 7 becomes known, a datagram arrives and is routed. -/
def arrival (header : IPv4Header) : List Event :=
  let reply : ARPMessage := { opcode := ARPMessage.opcodeReply, senderIpAddress := 7 }
  let frame (type : UInt16) (bytes : Buffer) : EthernetFrame :=
    { header := { dst := ethernetBroadcast, type }, payload := [bytes] }
  [.frame 0 (frame EthernetHeader.typeARP reply.fields),
    .frame 0 (frame EthernetHeader.typeIPv4 header.fields), .route]

/-- A datagram of version 5 is accepted, and sending it on throws. -/
theorem wrong_version_throws :
    let r : Router := [defaultRoute].foldl addRoute { interfaces := [onlyInterface] }
    let events := arrival { ver := 5, len := 20, dst := 7 }
    Guarded step Possible r events ∧ ¬ Guarded step Returns r events := by
  decide +kernel

/-- The same with a datagram of version 4. -/
theorem no_call_throws_forwarded :
    let r : Router := [defaultRoute].foldl addRoute { interfaces := [onlyInterface] }
    let events := arrival { len := 20, dst := 7 }
    Guarded step Returns r events ∧ (run step r events).sendCalls.length = 1 := by
  intro r events
  exact ⟨no_call_throws [onlyInterface] [defaultRoute] (by decide) (by decide) events
    (by decide +kernel) (by decide +kernel), by decide +kernel⟩

end Sponge.Router
