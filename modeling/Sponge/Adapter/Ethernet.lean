import Sponge.Adapter.Genuine
import Sponge.NetworkInterface.Calls

/-!
# Segments in Ethernet frames

An interface sends the datagrams that it is given, now or after it has learnt an
address, and beside them nothing but ARP messages.  So an adapter over Ethernet
carries what was written to it, whatever frames it reads in between.
-/

namespace Sponge

open Lib Throwing

namespace NetworkInterface

/-- The frame carries no datagram, or one with a segment in `sent`. -/
def Bears (sent : List TCPSegment) (frame : EthernetFrame) : Prop :=
  frame.header.type ≠ EthernetHeader.typeIPv4 ∨
    ∃ dgram, TCPOverIPv4Adapter.Wraps sent dgram ∧ frame.payload = dgram.serialized

theorem Bears.mono {sent : List TCPSegment} {frame : EthernetFrame} (bears : Bears sent frame)
    (more : List TCPSegment) : Bears (sent ++ more) frame := by
  rcases bears with other | ⟨dgram, wraps, payload⟩
  · exact .inl other
  · exact .inr ⟨dgram, wraps.mono more, payload⟩

theorem bears_framesTo {sent : List TCPSegment} {dgrams : List IPv4Datagram}
    (wraps : ∀ dgram ∈ dgrams, TCPOverIPv4Adapter.Wraps sent dgram) (i : NetworkInterface)
    (dst : EthernetAddress) : ∀ frame ∈ i.framesTo dst dgrams, Bears sent frame := by
  intro frame membership
  obtain ⟨dgram, among, rfl⟩ := List.mem_map.mp membership
  exact .inr ⟨dgram, wraps dgram among, rfl⟩

theorem bears_requestFrames (sent : List TCPSegment) (i : NetworkInterface) (ip : UInt32) :
    ∀ frame ∈ i.requestFrames ip, Bears sent frame := by
  rw [requestFrames]
  split
  · exact List.forall_mem_singleton.mpr (.inl EthernetHeader.typeARP_ne)
  · exact List.forall_mem_nil _

theorem bears_replyFrames (sent : List TCPSegment) (i : NetworkInterface) (msg : ARPMessage) :
    ∀ frame ∈ i.replyFrames msg, Bears sent frame := by
  rw [replyFrames]
  split
  · exact List.forall_mem_singleton.mpr (.inl EthernetHeader.typeARP_ne)
  · exact List.forall_mem_nil _

/-- All that the interface wants sent, and all that it keeps back, carries segments
in `sent`. -/
structure Carries (sent : List TCPSegment) (i : NetworkInterface) : Prop where
  frames : ∀ frame ∈ i.framesOut, Bears sent frame
  waiting : ∀ entry ∈ i.queueingIPDatagrams, TCPOverIPv4Adapter.Wraps sent entry.1

variable {sent : List TCPSegment} {i next : NetworkInterface} {op : Op}

theorem Carries.mono (carries : i.Carries sent) (more : List TCPSegment) :
    i.Carries (sent ++ more) where
  frames frame membership := (carries.frames frame membership).mono more
  waiting entry membership := (carries.waiting entry membership).mono more

theorem Carries.flushable (carries : i.Carries sent) : i.Flushable :=
  fun entry membership => (carries.waiting entry membership).serializable

theorem Carries.step (carries : i.Carries sent) (step : i.Step op next)
    (wraps : ∀ dgram nextHop, op = .send dgram nextHop → TCPOverIPv4Adapter.Wraps sent dgram) :
    next.Carries sent := by
  cases step with
  | sent known =>
      have new := bears_framesTo (List.forall_mem_singleton.mpr (wraps _ _ rfl)) i
      exact ⟨List.forall_mem_append.mpr ⟨carries.frames, new _⟩, carries.waiting⟩
  | keptBack unknown =>
      exact ⟨List.forall_mem_append.mpr ⟨carries.frames, bears_requestFrames sent i _⟩,
        List.forall_mem_append.mpr
          ⟨carries.waiting, List.forall_mem_singleton.mpr (wraps _ _ rfl)⟩⟩
  | ignored => exact carries
  | @learnt frame msg accepted =>
      have released : ∀ dgram ∈ datagramsFor msg.senderIpAddress i.queueingIPDatagrams,
          TCPOverIPv4Adapter.Wraps sent dgram := by
        intro dgram membership
        obtain ⟨entry, queued, rfl⟩ := List.mem_map.mp membership
        exact carries.waiting entry (List.mem_of_mem_filter queued)
      refine ⟨List.forall_mem_append.mpr ⟨carries.frames, List.forall_mem_append.mpr
        ⟨bears_framesTo released i _, bears_replyFrames sent i msg⟩⟩, ?_⟩
      exact fun entry queued => carries.waiting entry (List.mem_of_mem_filter queued)
  | ticked => exact ⟨carries.frames, carries.waiting⟩

/-- A datagram that the interface hands on is in one piece. -/
theorem single_of_receivedDatagram {frame : EthernetFrame} {dgram : IPv4Datagram}
    (received : i.receivedDatagram frame = some dgram) :
    ∃ payload, dgram.payload.toBuffer = .ok payload := by
  unfold receivedDatagram at received
  split at received
  next =>
    cases payload : frame.payload.toBuffer with
    | error e => simp [payload] at received
    | ok bytes =>
        simp only [payload, Option.ite_none_right_eq_some, Option.some.injEq] at received
        rw [← received.2]
        exact ⟨_, rfl⟩
  next => contradiction

/-- The interface hands on the datagram in the frame, if it hands one on. -/
theorem receivedDatagram_of_returned {frame : EthernetFrame} {dgram : IPv4Datagram}
    (ran : recvFrame frame i = .ok (some dgram) next) : i.receivedDatagram frame = some dgram := by
  cases accepted : i.acceptedARP frame with
  | none => exact receivedDatagram_of_recvFrame accepted ran
  | some msg =>
      rw [recvFrame_accepted accepted] at ran
      obtain ⟨_, _, _, returned⟩ := exists_of_bind ran
      cases returned

/-- What the interface hands on of a frame that bears a segment. -/
theorem Bears.reread {frame : EthernetFrame} (bears : Bears sent frame) {dgram : IPv4Datagram}
    (received : i.receivedDatagram { frame with payload := [frame.payload.concatenate] } =
      some dgram) :
    ∃ original, TCPOverIPv4Adapter.Wraps sent original ∧
      dgram = original.reread := by
  unfold receivedDatagram at received
  split at received
  next ours =>
    rcases bears with other | ⟨original, wraps, payload⟩
    · exact absurd ours.2 other
    · refine ⟨original, wraps, ?_⟩
      simp only [BufferList.toBuffer, payload, wraps.wellFormed.parse_eq, if_true, Option.some.injEq] at received
      exact received.symm
  next => contradiction

end NetworkInterface

namespace TCPOverIPv4OverEthernetAdapter

open NetworkInterface (Bears)

/-- The adapter after it has sent the frames of its interface. -/
def afterSending (a : TCPOverIPv4OverEthernetAdapter) : TCPOverIPv4OverEthernetAdapter :=
  { a with
    tap := a.interface.framesOut.foldl (fun tap frame => tap.afterWrite frame.serialize) a.tap
    interface := { a.interface with framesOut := [] } }

theorem sendFrames_run (frames : List EthernetFrame) {a : TCPOverIPv4OverEthernetAdapter}
    (queued : a.interface.framesOut = frames) : sendFrames frames a = .ok () a.afterSending := by
  induction frames generalizing a with
  | nil =>
      obtain ⟨base, tap, interface, nextHop⟩ := a
      obtain ⟨ethernetAddress, ipAddress, framesOut, cache, queue, timer⟩ := interface
      cases queued
      rfl
  | cons frame rest inductionHypothesis =>
      rw [sendFrames, onTap, bind_of_ok (within_of_ok (Device.write_run _ _)), modify_bind_run]
      rw [inductionHypothesis rfl, afterSending, afterSending, queued]
      rfl

theorem sendPending_run (a : TCPOverIPv4OverEthernetAdapter) :
    sendPending a = .ok () a.afterSending := sendFrames_run _ rfl

theorem packets_afterSending (a : TCPOverIPv4OverEthernetAdapter) :
    a.afterSending.tap.packets =
      a.tap.packets ++ a.interface.framesOut.map fun frame => frame.serialize.concatenate := by
  have folded (frames : List EthernetFrame) (tap : Device) :
      (frames.foldl (fun tap frame => tap.afterWrite frame.serialize) tap).packets =
        tap.packets ++ frames.map fun frame => frame.serialize.concatenate := by
    induction frames generalizing tap with
    | nil => exact (List.append_nil _).symm
    | cons frame rest inductionHypothesis =>
        rw [List.foldl_cons, inductionHypothesis, Device.afterWrite, List.map_cons,
          List.append_assoc]
        rfl
  exact folded _ _

/-- A read whose system call fails or gives too much leaves the adapter as it was. -/
theorem read_unreadable {answer : Answer Buffer} {a : TCPOverIPv4OverEthernetAdapter}
    (refused : ¬ ∃ bytes, answer = .ok bytes ∧ bytes.length ≤ FileDescriptor.bufferSize) :
    ∃ e, read answer a = .error e a := by
  rcases Device.read_cases answer a.tap with ⟨bytes, given, fits, _⟩ | ⟨e, threw, _⟩
  · exact absurd ⟨bytes, given, fits⟩ refused
  · refine ⟨e, ?_⟩
    rw [read, onTap, bind_of_error]
    rw [within, threw]

/-- The adapter after a frame was read from the device. -/
def afterRead (a : TCPOverIPv4OverEthernetAdapter) (bytes : Buffer) : TCPOverIPv4OverEthernetAdapter :=
  { a with tap := { a.tap with fd := a.tap.fd.afterRead (2 ^ 64 - 1) bytes } }

/-- The part of a read that follows the read of the device. -/
theorem read_of_readable {bytes : Buffer} (fits : bytes.length ≤ FileDescriptor.bufferSize)
    {frame : EthernetFrame} (parsed : EthernetFrame.parse {} bytes = (frame, .noError))
    (a : TCPOverIPv4OverEthernetAdapter) :
    read (.ok bytes) a =
      (do let ipDgram ← onInterface (NetworkInterface.recvFrame frame)
          sendPending
          match ipDgram with
          | some ipDgram => onBase (TCPOverIPv4Adapter.unwrapTcpInIp ipDgram)
          | none => return none : Method (Option TCPSegment)) (a.afterRead bytes) := by
  rcases Device.read_cases (.ok bytes) a.tap with ⟨_, given, _, ran⟩ | ⟨_, _, refused⟩
  · cases given
    rw [read, onTap, bind_of_ok (within_of_ok ran)]
    simp only [parsed, ne_eq, not_true_eq_false, if_false]
    rfl
  · exact absurd ⟨bytes, rfl, fits⟩ refused

/-- Every string is parsed as a frame, with its payload in one piece. -/
theorem parse_single (bytes : Buffer) :
    ∃ frame, EthernetFrame.parse {} bytes = (frame, .noError) ∧ frame.payload.length ≤ 1 := by
  by_cases long : EthernetHeader.length ≤ bytes.length
  · obtain ⟨header, rest, rfl⟩ := EthernetHeader.exists_written long
    exact ⟨_, EthernetFrame.parse_written header {} rest, Nat.le_refl 1⟩
  · exact ⟨_, EthernetFrame.parse_runt (Nat.lt_of_not_le long) {}, Nat.le_refl 1⟩

/-- The adapter after its interface took in a frame and sent what it had to. -/
def afterFrame (a : TCPOverIPv4OverEthernetAdapter) (frame : EthernetFrame) :
    TCPOverIPv4OverEthernetAdapter :=
  afterSending { a with interface := a.interface.apply (.recv frame) }

/-- What a read does if what the interface keeps back can be sent. -/
theorem read_run {bytes : Buffer} (fits : bytes.length ≤ FileDescriptor.bufferSize)
    {a : TCPOverIPv4OverEthernetAdapter} (flushable : a.interface.Flushable) :
    ∃ frame seg base, EthernetFrame.parse {} bytes = (frame, .noError) ∧
      read (.ok bytes) a = .ok seg { (a.afterRead bytes).afterFrame frame with base } ∧
      ∀ s ∈ seg, ∃ dgram, a.interface.receivedDatagram frame = some dgram ∧
        TCPOverIPv4Adapter.unwrapTcpInIp dgram a.base = .ok (some s) base := by
  obtain ⟨frame, parsed, single⟩ := parse_single bytes
  obtain ⟨next, received, _⟩ := NetworkInterface.recvFrame_returns single flushable
  have applied : next = a.interface.apply (.recv frame) := by
    rw [NetworkInterface.apply, received]
    rfl
  replace received : NetworkInterface.recvFrame frame (a.afterRead bytes).interface =
    .ok (a.interface.receivedDatagram frame) next := received
  refine ⟨frame, ?_⟩
  rw [read_of_readable fits parsed, onInterface, bind_of_ok (within_of_ok received),
    bind_of_ok (sendPending_run _)]
  cases handed : a.interface.receivedDatagram frame with
  | none =>
      refine ⟨none, a.base, parsed, ?_, by simp⟩
      rw [applied]
      rfl
  | some dgram =>
      obtain ⟨payload, whole⟩ := NetworkInterface.single_of_receivedDatagram handed
      obtain ⟨seg, base, unwrapped⟩ := TCPOverIPv4Adapter.unwrapTcpInIp_returns whole a.base
      refine ⟨seg, base, parsed, ?_, ?_⟩
      · rw [applied]
        exact within_of_ok unwrapped
      · rintro s rfl
        exact ⟨dgram, rfl, unwrapped⟩

/-- What a read that returns has done before. -/
theorem exists_of_read {answer : Answer Buffer} {a a' : TCPOverIPv4OverEthernetAdapter}
    {seg : Option TCPSegment} (ran : read answer a = .ok seg a') :
    ∃ bytes frame handed next, answer = .ok bytes ∧
      EthernetFrame.parse {} bytes = (frame, .noError) ∧
      NetworkInterface.recvFrame frame a.interface = .ok handed next ∧
      a'.tap = (afterSending { a.afterRead bytes with interface := next }).tap ∧
      ∀ s ∈ seg, ∃ dgram ∈ handed, ∃ base,
        TCPOverIPv4Adapter.unwrapTcpInIp dgram a.base = .ok (some s) base := by
  by_cases readable : ∃ bytes, answer = .ok bytes ∧ bytes.length ≤ FileDescriptor.bufferSize
  · obtain ⟨bytes, rfl, fits⟩ := readable
    obtain ⟨frame, parsed, _⟩ := parse_single bytes
    rw [read_of_readable fits parsed] at ran
    obtain ⟨handed, between, received, rest⟩ := exists_of_bind ran
    obtain ⟨next, returned, rfl⟩ := exists_of_within received
    rw [bind_of_ok (sendPending_run _)] at rest
    refine ⟨bytes, frame, handed, next, rfl, parsed, returned, ?_⟩
    cases handed with
    | none =>
        cases rest
        exact ⟨rfl, nofun⟩
    | some dgram =>
        obtain ⟨base, unwrapped, rfl⟩ := exists_of_within rest
        refine ⟨rfl, ?_⟩
        rintro s rfl
        exact ⟨dgram, rfl, base, unwrapped⟩
  · obtain ⟨e, threw⟩ := read_unreadable (a := a) readable
    cases threw.symm.trans ran

theorem readCount_afterSending (a : TCPOverIPv4OverEthernetAdapter) :
    a.afterSending.tap.fd.readCount = a.tap.fd.readCount := by
  have folded (frames : List EthernetFrame) (tap : Device) :
      (frames.foldl (fun tap frame => tap.afterWrite frame.serialize) tap).fd.readCount =
        tap.fd.readCount := by
    induction frames generalizing tap with
    | nil => rfl
    | cons frame rest inductionHypothesis => exact inductionHypothesis _
  exact folded _ _

/-- The packets that were given to the device carry segments in `sent`, and so
does what the interface keeps back. -/
structure Carries (sent : List TCPSegment) (a : TCPOverIPv4OverEthernetAdapter) : Prop where
  interface : a.interface.Carries sent
  idle : a.interface.framesOut = []
  packets : ∀ packet ∈ a.tap.packets, ∃ frame, Bears sent frame ∧
    packet = frame.serialize.concatenate

variable {sent : List TCPSegment} {a : TCPOverIPv4OverEthernetAdapter}

/-- Sending the pending frames. -/
theorem carries_afterSending (interface : a.interface.Carries sent)
    (packets : ∀ packet ∈ a.tap.packets, ∃ frame, Bears sent frame ∧
      packet = frame.serialize.concatenate) : a.afterSending.Carries sent where
  interface := ⟨List.forall_mem_nil _, interface.waiting⟩
  idle := rfl
  packets := by
    rw [packets_afterSending]
    refine List.forall_mem_append.mpr ⟨packets, ?_⟩
    intro packet membership
    obtain ⟨frame, queued, rfl⟩ := List.mem_map.mp membership
    exact ⟨frame, interface.frames frame queued, rfl⟩

theorem Carries.mono (carries : a.Carries sent) (more : List TCPSegment) :
    a.Carries (sent ++ more) where
  interface := carries.interface.mono more
  idle := carries.idle
  packets packet membership := by
    obtain ⟨frame, bears, same⟩ := carries.packets packet membership
    exact ⟨frame, bears.mono more, same⟩

/-- The adapter after a segment was written to it. -/
def afterWrite (a : TCPOverIPv4OverEthernetAdapter) (seg : TCPSegment) :
    TCPOverIPv4OverEthernetAdapter :=
  afterSending
    { a with
      interface := a.interface.apply (.send (a.base.wrapped (a.base.setPorts seg)) a.nextHop) }

theorem write_run {seg : TCPSegment} (modest : seg.Modest) (a : TCPOverIPv4OverEthernetAdapter) :
    write seg a = .ok () (a.afterWrite seg) := by
  have serializable := (TCPOverIPv4Adapter.wraps_new modest [] a.base).serializable
  obtain ⟨next, sends, _⟩ := NetworkInterface.sendDatagram_returns (i := a.interface) serializable a.nextHop
  have applied : next = a.interface.apply (.send (a.base.wrapped (a.base.setPorts seg)) a.nextHop) := by
    rw [NetworkInterface.apply, sends]
    rfl
  rw [write, get_bind_run, TCPOverIPv4Adapter.wrapTcpInIp_modest modest, ofExcept_ok_bind]
  show (onInterface (NetworkInterface.sendDatagram _ _) >>= fun _ => sendPending) a = _
  rw [onInterface, bind_of_ok (within_of_ok sends), sendPending_run, applied]
  rfl

theorem Carries.write (carries : a.Carries sent) {seg : TCPSegment} (modest : seg.Modest) :
    (a.afterWrite seg).Carries (sent ++ [seg]) := by
  have more := carries.mono [seg]
  have wraps := TCPOverIPv4Adapter.wraps_new modest sent a.base
  refine carries_afterSending ?_ more.packets
  have serializes : NetworkInterface.Op.Serializes
      (.send (a.base.wrapped (a.base.setPorts seg)) a.nextHop) :=
    ⟨_, wraps.serializable.serialize_ok⟩
  refine more.interface.step
    (NetworkInterface.step_apply more.interface.flushable serializes) ?_
  rintro dgram nextHop ⟨⟩
  exact wraps

theorem Carries.frame (carries : a.Carries sent) (bytes : Buffer) (frame : EthernetFrame)
    (base : TCPOverIPv4Adapter) :
    Carries sent { (a.afterRead bytes).afterFrame frame with base } := by
  have interface : (a.interface.apply (.recv frame)).Carries sent :=
    carries.interface.step (NetworkInterface.step_apply carries.interface.flushable trivial) nofun
  have after : ((a.afterRead bytes).afterFrame frame).Carries sent :=
    carries_afterSending interface carries.packets
  exact ⟨after.interface, after.idle, after.packets⟩

/-- An adapter on a device that has not been used carries nothing: its dummy frame
is not IPv4. -/
theorem carries_new (tap : Device) (unused : tap.packets = []) (ethAddress : EthernetAddress)
    (ipAddress nextHop : Address) :
    ∃ a, new tap ethAddress ipAddress nextHop = .ok () a ∧ a.Carries [] := by
  have dummy : (EthernetFrame.header {}).type ≠ EthernetHeader.typeIPv4 := by decide
  rw [new, onTap, within_of_ok (Device.write_run _ _)]
  refine ⟨_, rfl, ⟨List.forall_mem_nil _, List.forall_mem_nil _⟩, rfl, ?_⟩
  show ∀ packet ∈ tap.packets ++ [_], _
  rw [unused]
  exact List.forall_mem_singleton.mpr ⟨{}, .inl dummy, rfl⟩

instance : GenuineAdapter TCPOverIPv4OverEthernetAdapter where
  packets a := a.tap.packets
  Carries := Carries
  Readable answer := ∃ bytes, answer = .ok bytes ∧ bytes.length ≤ FileDescriptor.bufferSize
  write_carries sent seg modest a carries := by
    show Ends _ _ (write seg a)
    rw [write_run modest]
    exact carries.write modest
  read_carries sent answer a carries := by
    show Ends _ _ (read answer a)
    by_cases readable : ∃ bytes, answer = .ok bytes ∧ bytes.length ≤ FileDescriptor.bufferSize
    · obtain ⟨bytes, rfl, fits⟩ := readable
      obtain ⟨frame, seg, base, _, ran, _⟩ := read_run fits carries.interface.flushable
      rw [ran]
      exact carries.frame bytes frame base
    · obtain ⟨e, threw⟩ := read_unreadable (a := a) readable
      rw [threw]
      exact ⟨carries, readable⟩
  tick_carries sent ms a carries := by
    show Ends _ _ (tick ms a)
    have ticked : NetworkInterface.tick ms a.interface =
        .ok () (a.interface.apply (.tick ms)) := rfl
    rw [tick, onInterface, bind_of_ok (within_of_ok ticked), sendPending_run]
    exact carries_afterSending ⟨carries.interface.frames, carries.interface.waiting⟩ carries.packets
  config_carries carries _ := ⟨carries.interface, carries.idle, carries.packets⟩
  listening_carries carries _ := ⟨carries.interface, carries.idle, carries.packets⟩
  read_counts {answer a a' seg} ran := by
    obtain ⟨bytes, _, _, next, _, _, _, tap, _⟩ := exists_of_read ran
    show a'.tap.fd.readCount = a.tap.fd.readCount + 1
    rw [tap, readCount_afterSending]
    rfl
  genuine {sent a b b' packet seg} carries written ran := by
    obtain ⟨bytes, frame, handed, next, given, parsed, returned, _, unwraps⟩ := exists_of_read ran
    obtain ⟨dgram, rfl, base, unwrapped⟩ := unwraps seg rfl
    have received := NetworkInterface.receivedDatagram_of_returned returned
    cases given
    obtain ⟨original, bears, rfl⟩ := carries.packets packet written
    have reparsed : EthernetFrame.parse {} original.serialize.concatenate =
        ({ original with payload := [original.payload.concatenate] }, .noError) :=
      EthernetFrame.parse_written original.header {} original.payload.concatenate
    cases parsed.symm.trans reparsed
    obtain ⟨dgram, wraps, rfl⟩ := bears.reread received
    exact wraps.sentBefore unwrapped

end TCPOverIPv4OverEthernetAdapter

end Sponge
