import Sponge.Adapter.Ethernet
import Sponge.TCPSpongeSocket.Turns

/-!
# Runs of a socket

Whatever the kernel, the network and the owner do, a socket drives its
connection by orderly calls only, and loses nothing between its owner and the
connection.
-/

namespace Sponge

open Lib Throwing TCPConnection

namespace TCPSpongeSocket

variable {A : Type} [DatagramAdapter A]

/-- After `connect` the connection is where the socket expects it. -/
theorem connect_eq (adapter : A) (cfg : TCPConfig) (random : UInt32) (cAd : FdAdapterConfig) :
    connect adapter cfg random cAd =
      .ok
        { socket :=
            { tcp := (TCPConnection.new cfg random).connect
              datagramAdapter := DatagramAdapter.withConfig cAd adapter }
          phase := .connecting } := by
  have state : (TCPConnection.new cfg random).connect.state = .ofState .synSent := rfl
  rw [connect, if_neg (not_not.mpr state)]

/-- The two ways to open a socket. -/
inductive Opens (adapter : A) (cfg : TCPConfig) (random : UInt32) : Process A → Prop where
  | connected (cAd : FdAdapterConfig) (p : Process A)
      (opened : connect adapter cfg random cAd = .ok p) : Opens adapter cfg random p
  | listening (cAd : FdAdapterConfig) :
      Opens adapter cfg random (listenAndAccept adapter cfg random cAd)

theorem Opens.works {adapter : A} {cfg : TCPConfig} {random : UInt32} {p : Process A}
    (opens : Opens adapter cfg random p) : ∀ ex, p.phase ≠ .failed ex := by
  cases opens with
  | connected cAd p opened =>
      rw [connect_eq] at opened
      cases opened
      exact fun _ => Phase.noConfusion
  | listening cAd => exact fun _ => Phase.noConfusion

variable [GenuineAdapter A] {adapter : A} {cfg : TCPConfig} {random : UInt32} {p : Process A}

theorem tracks_new (k : Contract) (holds : k.Holds (Endpoint.new cfg random))
    (carries : GenuineAdapter.Carries [] adapter) :
    Tracks k { tcp := TCPConnection.new cfg random, datagramAdapter := adapter }
      (Endpoint.new cfg random) :=
  ⟨holds, rfl, rfl, rfl, carries, nofun, nofun, modest_new cfg random⟩

omit [GenuineAdapter A] in
theorem remaining_eventloop : Remaining (eventloop : EventLoop (TCPSpongeSocket A) (Answers A)) :=
  ⟨ruleNames, rfl, List.Sublist.refl _⟩

theorem relates_listenAndAccept (k : Contract) (holds : k.Holds (Endpoint.new cfg random))
    (fresh : GenuineAdapter.Carries [] adapter) (cAd : FdAdapterConfig) :
    (listenAndAccept adapter cfg random cAd).Relates k (Endpoint.new cfg random) := by
  have tracks := tracks_new k holds
    (GenuineAdapter.listening_carries (GenuineAdapter.config_carries fresh cAd) true)
  exact ⟨tracks.interrupted, fun _ => ⟨tracks, remaining_eventloop⟩⟩

theorem relates_opens (k : Contract) (holds : k.Holds (Endpoint.new cfg random))
    (fresh : GenuineAdapter.Carries [] adapter) (opens : Opens adapter cfg random p) :
    ∃ e, p.Relates k e := by
  cases opens with
  | connected cAd p opened =>
      have configured := tracks_new k holds (GenuineAdapter.config_carries fresh cAd)
      have orderly : (Endpoint.new cfg random).Orderly .connect := trivial
      rw [connect_eq] at opened
      cases opened
      have tracks : Tracks k
          { tcp := (TCPConnection.new cfg random).connect
            datagramAdapter := DatagramAdapter.withConfig cAd adapter }
          ((Endpoint.new cfg random).apply .connect) :=
        configured.call (k.call holds orderly) rfl rfl rfl configured.carries
          (fun either => either.resolve_left Call.noConfusion) rfl
      exact ⟨_, tracks.interrupted, fun _ => ⟨tracks, remaining_eventloop⟩⟩
  | listening cAd => exact ⟨_, relates_listenAndAccept k holds fresh cAd⟩

/-- Nothing is written to the connection after its stream has been ended. -/
def Tidy (e : Endpoint) (call : Call) : Prop := ∀ data, call = .write data → e.hasEnded = false

/-- The endpoint has been reached by tidy calls. -/
def ReachedTidily (cfg : TCPConfig) (random : UInt32) (e : Endpoint) : Prop :=
  ∃ calls, Guarded Endpoint.apply Tidy (Endpoint.new cfg random) calls ∧
    run Endpoint.apply (Endpoint.new cfg random) calls = e

theorem ReachedTidily.apply {e : Endpoint} (reached : ReachedTidily cfg random e) {call : Call}
    (tidy : Tidy e call) : ReachedTidily cfg random (e.apply call) := by
  obtain ⟨calls, guarded, rfl⟩ := reached
  refine ⟨calls ++ [call], (guarded_concat _ calls call).mpr ⟨guarded, tidy⟩, ?_⟩
  rw [run_append]
  rfl

/-- What is known of a connection that anything may arrive at. -/
def tidyContract (cfg : TCPConfig) (random : UInt32) : Contract where
  Holds := ReachedTidily cfg random
  Over _ := True
  call {e call} reached orderly := by
    refine ⟨reached.apply ?_, fun _ => trivial⟩
    rintro data rfl
    exact orderly
  sees _ _ := trivial

omit [GenuineAdapter A] in
theorem arriving_tidy (turn : Turn A) (s : TCPSpongeSocket A) :
    Arriving (tidyContract cfg random) turn s :=
  fun _ _ _ reached _ _ => ⟨reached.apply nofun, fun _ => trivial⟩

theorem relates_run (fresh : GenuineAdapter.Carries [] adapter) (opens : Opens adapter cfg random p)
    (turns : List (Turn A)) : ∃ e, (run Process.step p turns).Relates (tidyContract cfg random) e := by
  refine run_invariant (fun p : Process A => ∃ e, p.Relates (tidyContract cfg random) e) turns ?_ ?_
  · exact relates_opens _ ⟨[], trivial, rfl⟩ fresh opens
  · rintro p turn ⟨e, relates⟩
    exact relates.step (arriving_tidy turn p.socket)

/-- At every moment there is a run of the connection, without a write after the end
of the stream, that the socket is in step with: what the owner gave is what the
connection accepted, what the owner got is what was read from the connection, and
every segment that can be read from a packet of the device left the connection.
If an exception has cut a write to the owner short, a part of what the owner got
is still in the connection. -/
theorem run_in_step (adapter : A) (fresh : GenuineAdapter.Carries [] adapter) (cfg : TCPConfig)
    (random : UInt32) (p : Process A) (opens : Opens adapter cfg random p) (turns : List (Turn A)) :
    let p' := run Process.step p turns
    ∃ calls, Guarded Endpoint.apply Tidy (Endpoint.new cfg random) calls ∧
      let e := run Endpoint.apply (Endpoint.new cfg random) calls
      p'.socket.tcp = e.conn ∧ p'.socket.threadData.received = e.accepted ∧
      e.consumed <+: p'.socket.threadData.taken ∧ p'.socket.threadData.taken <+: e.placed ∧
      (∀ packet ∈ GenuineAdapter.packets p'.socket.datagramAdapter, ∀ (b b' : A) (seg : TCPSegment),
        DatagramAdapter.read (.ok packet) b = .ok (some seg) b' → SentBefore e.wire seg) ∧
      ((∀ ex, p'.phase ≠ .failed ex) → p'.socket.threadData.taken = e.consumed) := by
  intro p'
  obtain ⟨e, relates⟩ := relates_run fresh opens turns
  have interrupted := relates.interrupted
  obtain ⟨calls, guarded, same⟩ := interrupted.holds
  refine ⟨calls, guarded, ?_⟩
  rw [same]
  refine ⟨interrupted.tcp, interrupted.received, interrupted.consumed, interrupted.taken, ?_, ?_⟩
  · exact fun packet written b b' seg ran => GenuineAdapter.genuine interrupted.carries written ran
  · exact fun works => (relates.working works).1.taken

/-- The device gives a packet, the owner writes a byte, and the kernel takes what it
is offered. -/
def obligingTurn (packet : DatagramAdapter.Packet A) : Turn A where
  poll := .ready [{ input := true }, { input := true }, { output := true }, { output := true }]
  answers :=
    { packet := .ok packet
      fromOwner := fun limit => .ok ([97].take limit)
      toOwner := .ok
      shutdown := .ok () }

/-- A turn over UDP, in which a packet without a segment comes. -/
def emptyPacketTurn : Turn TCPOverUDPSocketAdapter :=
  obligingTurn (⟨⟨2, 2000⟩, ⟨1, 1000⟩, []⟩ : UDPDatagram)

theorem run_in_step_connected :
    let adapter : TCPOverUDPSocketAdapter := { sock := { localAddress := ⟨1, 1000⟩ } }
    ∃ p, connect adapter {} 7 {} = .ok p ∧
      (run Process.step p [emptyPacketTurn]).socket.threadData.received = [97] ∧
      ∃ calls, Guarded Endpoint.apply Tidy (Endpoint.new {} 7) calls ∧
        (run Endpoint.apply (Endpoint.new {} 7) calls).accepted =
          (run Process.step p [emptyPacketTurn]).socket.threadData.received := by
  intro adapter
  refine ⟨_, connect_eq adapter {} 7 {}, by decide +kernel, ?_⟩
  obtain ⟨calls, guarded, _, received, _⟩ := run_in_step adapter (List.forall_mem_nil _) {} 7 _
    (.connected {} _ (connect_eq adapter {} 7 {})) [emptyPacketTurn]
  exact ⟨calls, guarded, received.symm⟩

/-- As long as no system call fails, opening a socket and running it throws
nothing: no callback is taken for a busy wait, no write is short, and every segment
fits in a datagram. -/
theorem run_never_fails (adapter : A) (fresh : GenuineAdapter.Carries [] adapter) (cfg : TCPConfig)
    (random : UInt32) (p : Process A) (opens : Opens adapter cfg random p) (turns : List (Turn A))
    (obliging : ∀ turn ∈ turns, turn.Obliging) :
    ∀ ex, (run Process.step p turns).phase ≠ .failed ex := by
  have guarded : Guarded Process.step (fun _ turn => turn.Obliging) p turns :=
    (guarded_iff_forall_mem Turn.Obliging p turns).mpr obliging
  have inv := guarded.invariant
    (fun p : Process A => (∃ e, p.Relates (tidyContract cfg random) e) ∧ ∀ ex, p.phase ≠ .failed ex)
    ⟨relates_opens _ ⟨[], trivial, rfl⟩ fresh opens, opens.works⟩ (by
      rintro p turn ⟨⟨e, relates⟩, works⟩ obliging
      have arriving : Arriving (tidyContract cfg random) turn p.socket := arriving_tidy turn p.socket
      exact ⟨relates.step arriving, relates.step_works arriving obliging works⟩)
  exact inv.2

theorem obliging_obligingTurn {packet : DatagramAdapter.Packet A}
    (readable : GenuineAdapter.Readable (A := A) (.ok packet)) :
    (obligingTurn packet : Turn A).Obliging where
  poll revents polled := by
    cases polled
    decide
  packet := readable
  fromOwner limit := by
    refine ⟨[97].take limit, rfl, ?_⟩
    rw [List.length_take, FileDescriptor.bufferSize, List.length_singleton]
    omega
  toOwner offered := ⟨offered, rfl, Nat.le_refl _, id⟩
  shutdown := rfl

/-- An Ethernet adapter on a new device, which loses a tenth of the segments. -/
theorem run_never_fails_lossyEthernet :
    ∃ ethernet, TCPOverIPv4OverEthernetAdapter.new {} (Vector.replicate 6 2) ⟨1, 0⟩ ⟨2, 0⟩ =
        .ok () ethernet ∧
      let adapter : LossyFdAdapter TCPOverIPv4OverEthernetAdapter :=
        { adapter := ethernet, rand := Nat.toUInt32, lossRateDn := 6553, lossRateUp := 6553 }
      ∃ p, connect adapter {} 7 {} = .ok p ∧ ∀ n ex,
        (run Process.step p (List.replicate n (obligingTurn ([] : Buffer)))).phase ≠
          .failed ex := by
  obtain ⟨ethernet, made, carries⟩ :=
    TCPOverIPv4OverEthernetAdapter.carries_new {} rfl (Vector.replicate 6 2) ⟨1, 0⟩ ⟨2, 0⟩
  refine ⟨ethernet, made, ?_⟩
  intro adapter
  have fresh : GenuineAdapter.Carries [] adapter := ⟨[], List.Sublist.refl [], carries⟩
  refine ⟨_, connect_eq adapter {} 7 {}, fun n => ?_⟩
  refine run_never_fails adapter fresh {} 7 _
    (.connected {} _ (connect_eq adapter {} 7 {})) _ fun turn membership => ?_
  rw [List.eq_of_mem_replicate membership]
  exact obliging_obligingTurn ⟨[], rfl, Nat.zero_le _⟩

omit [GenuineAdapter A] in
theorem idle_bytesOut {s : TCPSpongeSocket A} (idle : Idle .bytesOut s) :
    s.tcp.inboundStream.buffer = [] ∧
      ((s.tcp.inboundStream.eof || s.tcp.inboundStream.error) = true →
        s.inboundShutdown = true) := by
  have polled : (rule .bytesOut).interest s = (!s.tcp.inboundStream.bufferEmpty ||
      ((s.tcp.inboundStream.eof || s.tcp.inboundStream.error) && !s.inboundShutdown)) := rfl
  rw [Idle, polled, Bool.or_eq_false_iff, Bool.not_eq_false', Bool.and_eq_false_iff] at idle
  refine ⟨List.isEmpty_iff.mp idle.1, fun finished => ?_⟩
  rcases idle.2 with goesOn | shut
  · rw [finished] at goesOn
    exact Bool.noConfusion goesOn
  · rwa [Bool.not_eq_false'] at shut

/-- The thread of a socket ends, unless it is told to or a signal interrupts it, only
when nothing is left to do for the rules that are still there: the connection is
over, the owner has every byte that the connection has ever assembled and has been
told of the end, and every segment has been handed to the adapter. -/
theorem run_stops_idle (adapter : A) (fresh : GenuineAdapter.Carries [] adapter) (cfg : TCPConfig)
    (random : UInt32) (p : Process A) (opens : Opens adapter cfg random p) (turns : List (Turn A))
    (turn : Turn A) (unforced : turn.abort = false) (undisturbed : turn.poll ≠ .interrupted) :
    let p' := run Process.step p turns
    let p'' := p'.step turn
    p'.phase.isOver = false → p''.phase = .finished →
      ∃ calls, Guarded Endpoint.apply Tidy (Endpoint.new cfg random) calls ∧
        let e := run Endpoint.apply (Endpoint.new cfg random) calls
        p''.socket.tcp = e.conn ∧ p''.socket.threadData.received = e.accepted ∧
        (rule .segmentsIn ∈ p''.rules → e.conn.active = false) ∧
        (rule .bytesOut ∈ p''.rules → p''.socket.threadData.taken = e.placed ∧
          ((e.conn.inboundStream.eof || e.conn.inboundStream.error) = true →
            p''.socket.inboundShutdown = true)) ∧
        (rule .segmentsOut ∈ p''.rules → e.conn.segmentsOut = []) := by
  intro p' p'' goesOn finishes
  obtain ⟨e, relates⟩ := relates_run fresh opens turns
  have arriving : Arriving (tidyContract cfg random) turn p'.socket := arriving_tidy turn p'.socket
  have stops := relates.step_finishes arriving goesOn finishes
  have idle : ∀ r ∈ p''.rules, r.interest p''.socket = false :=
    (stops.resolve_left (by rw [unforced]; exact Bool.false_ne_true)).resolve_left undisturbed
  obtain ⟨e', relates'⟩ := relates.step arriving
  obtain ⟨tracks, _⟩ := relates'.working fun ex failed => by cases finishes.symm.trans failed
  obtain ⟨calls, guarded, same⟩ := tracks.holds
  refine ⟨calls, guarded, ?_⟩
  rw [same]
  refine ⟨tracks.tcp, tracks.received, fun left => ?_, fun left => ?_, fun left => ?_⟩
  · rw [← tracks.tcp]
    exact idle _ left
  · obtain ⟨nothing, told⟩ := idle_bytesOut (idle _ left)
    rw [tracks.tcp] at nothing told
    refine ⟨?_, told⟩
    rw [tracks.taken, Endpoint.placed, nothing, List.append_nil]
  · have polled : (rule .segmentsOut).interest p''.socket = !p''.socket.tcp.segmentsOut.isEmpty := rfl
    have nothing := idle _ left
    rw [polled, Bool.not_eq_false', tracks.tcp] at nothing
    exact List.isEmpty_iff.mp nothing

/-- The peer answers the SYN with a reset, and the owner is told. -/
def resetTurns : List (Turn TCPOverUDPSocketAdapter) :=
  let turn (revents : List EventLoop.Revents) : Turn TCPOverUDPSocketAdapter :=
    { emptyPacketTurn with
      poll := .ready revents
      answers :=
        { emptyPacketTurn.answers with
          packet := .ok ⟨⟨2, 2000⟩, ⟨1, 1000⟩,
            [7, 208, 3, 232, 0, 0, 0, 0, 0, 0, 0, 0, 80, 4, 0, 0, 164, 67, 0, 0]⟩ } }
  [turn [{ input := true }, {}, {}, { output := true }], turn [{}, {}, { output := true }, {}]]

theorem run_stops_idle_reset :
    let adapter : TCPOverUDPSocketAdapter := { sock := { localAddress := ⟨1, 1000⟩ } }
    let cAd : FdAdapterConfig := { source := ⟨1, 1000⟩, destination := ⟨2, 2000⟩ }
    ∃ p, connect adapter {} 7 cAd = .ok p ∧
      ((run Process.step p resetTurns).step emptyPacketTurn).phase = .finished ∧
      ∃ calls, Guarded Endpoint.apply Tidy (Endpoint.new {} 7) calls ∧
        ((run Process.step p resetTurns).step emptyPacketTurn).socket.tcp =
          (run Endpoint.apply (Endpoint.new {} 7) calls).conn := by
  intro adapter cAd
  refine ⟨_, connect_eq adapter {} 7 cAd, by decide +kernel, ?_⟩
  obtain ⟨calls, guarded, tcp, _⟩ := run_stops_idle adapter (List.forall_mem_nil _) {} 7 _
    (.connected cAd _ (connect_eq adapter {} 7 cAd)) resetTurns emptyPacketTurn rfl
    EventLoop.Poll.noConfusion (by decide +kernel) (by decide +kernel)
  exact ⟨calls, guarded, tcp⟩

end TCPSpongeSocket

end Sponge
