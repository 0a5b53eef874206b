import Sponge.Adapter.Basic
import Sponge.EthernetFrame.Codec
import Sponge.NetworkInterface.Filtering
import Sponge.TCPConnection.Modest
import Sponge.TCPOverIP.Listening
import Sponge.TCPOverIP.RoundTrip

/-!
# What adapters carry

Whatever an adapter has given to its device, a read of it returns nothing, or
one of the segments that were written to the adapter, with its ports and its
checksum filled in.  An adapter never throws, unless a system call fails.
-/

namespace Sponge

open Lib Throwing

namespace TCPSegment

/-- The segment without the fields that an adapter fills in. -/
def unaddressed (seg : TCPSegment) : TCPSegment :=
  { seg with header := { seg.header with sport := 0, dport := 0, cksum := 0 } }

theorem Modest.fits {seg : TCPSegment} (modest : seg.Modest) : TCPOverIPv4Adapter.Fits seg := by
  have payload := modest.payload
  rw [TCPConfig.maxPayloadSize] at payload
  have words : seg.header.doff.toNat = 5 := by
    rw [modest.doff]
    rfl
  exact ⟨by omega, by omega, by omega⟩

end TCPSegment

/-- Is the segment one of those in `sent`, but for what an adapter fills in? -/
def SentBefore (sent : List TCPSegment) (seg : TCPSegment) : Prop :=
  ∃ original ∈ sent, seg.unaddressed = original.unaddressed

/-- An adapter whose packets carry what was written to it. -/
class GenuineAdapter (A : Type) [DatagramAdapter A] where
  /-- Everything that was given to the device. -/
  packets : A → List (DatagramAdapter.Packet A)
  /-- All that the adapter has given to the device, and all that it keeps back,
  carries segments in `sent`. -/
  Carries : List TCPSegment → A → Prop
  /-- The system call of a read succeeds, and does not give too much. -/
  Readable : Answer (DatagramAdapter.Packet A) → Prop
  write_carries (sent : List TCPSegment) {seg : TCPSegment} (modest : seg.Modest) :
    Triple (Carries sent) (DatagramAdapter.write seg) (fun _ => Carries (sent ++ [seg]))
      (fun _ _ => False)
  read_carries (sent : List TCPSegment) (answer : Answer (DatagramAdapter.Packet A)) :
    Triple (Carries sent) (DatagramAdapter.read answer) (fun _ => Carries sent)
      (fun _ a => Carries sent a ∧ ¬ Readable answer)
  tick_carries (sent : List TCPSegment) (ms : ℕ) :
    Triple (Carries sent) (DatagramAdapter.tick ms) (fun _ => Carries sent) (fun _ _ => False)
  config_carries {sent : List TCPSegment} {a : A} (carries : Carries sent a)
    (cfg : FdAdapterConfig) : Carries sent (DatagramAdapter.withConfig cfg a)
  listening_carries {sent : List TCPSegment} {a : A} (carries : Carries sent a) (listening : Bool) :
    Carries sent (DatagramAdapter.setListening listening a)
  /-- A read that returns has read the descriptor. -/
  read_counts {answer : Answer (DatagramAdapter.Packet A)} {a a' : A} {seg : Option TCPSegment}
    (ran : DatagramAdapter.read answer a = .ok seg a') :
    (DatagramAdapter.fd a').readCount = (DatagramAdapter.fd a).readCount + 1
  genuine {sent : List TCPSegment} {a b b' : A} {packet : DatagramAdapter.Packet A}
    {seg : TCPSegment} (carries : Carries sent a) (written : packet ∈ packets a)
    (ran : DatagramAdapter.read (.ok packet) b = .ok (some seg) b') : SentBefore sent seg

namespace Device

/-- The device after a packet was written to it. -/
def afterWrite (d : Device) (packet : BufferList) : Device where
  fd := (d.fd.handedOver packet packet.size).registerWrite
  packets := d.packets ++ [packet.concatenate]

theorem write_run (packet : BufferList) (d : Device) :
    write packet d = .ok () (d.afterWrite packet) := by
  have written : FileDescriptor.write packet true [fun offered => .ok offered] d.fd =
      .ok (some packet.size) (d.fd.handedOver packet packet.size).registerWrite := by
    rw [FileDescriptor.write]
    rcases FileDescriptor.writeOnce_cases packet (fun offered => .ok offered) d.fd with
      ⟨rest, n, ran, takes, fits, _, bytes⟩ | ⟨e, n, _, dishonest⟩
    · cases takes
      have done : BufferList.size rest = 0 := by
        rw [FileDescriptor.size_rest bytes, Nat.sub_self]
      rw [bind_of_ok ran]
      simp only [done, ne_eq, not_true_eq_false, and_false, if_false]
      rfl
    · exact absurd (fun offered => ⟨offered, rfl, Nat.le_refl _, id⟩) dishonest
  rw [write, onFd, bind_of_ok (within_of_ok written)]
  rfl

/-- A read gives one packet, unless the system call fails or gives too much; then
it leaves the device as it was. -/
theorem read_cases (answer : Answer Buffer) (d : Device) :
    (∃ bytes, answer = .ok bytes ∧ bytes.length ≤ FileDescriptor.bufferSize ∧
      read answer d = .ok bytes { d with fd := d.fd.afterRead (2 ^ 64 - 1) bytes }) ∨
    ∃ e, read answer d = .error e d ∧
      ¬ ∃ bytes, answer = .ok bytes ∧ bytes.length ≤ FileDescriptor.bufferSize := by
  rcases FileDescriptor.read_cases (2 ^ 64 - 1) answer d.fd with
    ⟨bytes, given, fits, ran⟩ | ⟨e, threw, refused⟩
  · refine .inl ⟨bytes, given, fits, ?_⟩
    rw [read, onFd, within_of_ok ran]
  · refine .inr ⟨e, ?_, refused⟩
    rw [read, onFd, within, threw]

end Device

namespace TCPOverIPv4Adapter

/-- The datagram carries one of the segments in `sent`. -/
def Wraps (sent : List TCPSegment) (dgram : IPv4Datagram) : Prop :=
  ∃ (base : TCPOverIPv4Adapter) (seg : TCPSegment), seg ∈ sent ∧ seg.Modest ∧
    dgram = base.wrapped (base.setPorts seg)

variable {sent : List TCPSegment} {dgram : IPv4Datagram} {seg : TCPSegment}

theorem Wraps.mono (wraps : Wraps sent dgram) (more : List TCPSegment) :
    Wraps (sent ++ more) dgram := by
  obtain ⟨base, seg, membership, rest⟩ := wraps
  exact ⟨base, seg, List.mem_append_left more membership, rest⟩

theorem wrapTcpInIp_modest (modest : seg.Modest) (a : TCPOverIPv4Adapter) :
    a.wrapTcpInIp seg = .ok (a.setPorts seg, a.wrapped (a.setPorts seg)) :=
  wrapTcpInIp_eq modest.fits

theorem wraps_new (modest : seg.Modest) (sent : List TCPSegment) (a : TCPOverIPv4Adapter) :
    Wraps (sent ++ [seg]) (a.wrapped (a.setPorts seg)) :=
  ⟨a, seg, List.mem_append_right sent List.mem_cons_self, modest, rfl⟩

theorem Wraps.wellFormed (wraps : Wraps sent dgram) : dgram.WellFormed := by
  obtain ⟨base, seg, _, modest, rfl⟩ := wraps
  exact wellFormed_wrapped ⟨modest.fits.long, modest.fits.short, modest.fits.whole⟩

theorem Wraps.serializable (wraps : Wraps sent dgram) : dgram.Serializable :=
  wraps.wellFormed.serializable

/-- The adapter returns the segment in the datagram, if it returns one. -/
theorem segmentIn_of_unwrapTcpInIp {a a' : TCPOverIPv4Adapter}
    (ran : unwrapTcpInIp dgram a = .ok (some seg) a') : segmentIn dgram = some seg := by
  cases inside : segmentIn dgram with
  | none =>
      have nothing := (unwrapTcpInIp_of_none inside a).2
      rw [ran] at nothing
      cases nothing
  | some other =>
      rw [unwrapTcpInIp_of_some inside] at ran
      split at ran <;> split at ran <;> cases ran <;> rfl

theorem Wraps.sentBefore (wraps : Wraps sent dgram) {a a' : TCPOverIPv4Adapter}
    (ran : unwrapTcpInIp dgram.reread a = .ok (some seg) a') : SentBefore sent seg := by
  obtain ⟨base, original, membership, modest, rfl⟩ := wraps
  obtain ⟨_, payload, single, parsed⟩ := segmentIn_eq_some (segmentIn_of_unwrapTcpInIp ran)
  have fits : Fits (base.setPorts original) :=
    ⟨modest.fits.long, modest.fits.short, modest.fits.whole⟩
  cases single
  cases parsed.symm.trans (parse_wrapped fits _)
  exact ⟨original, membership, rfl⟩

/-- A datagram with one buffer is unwrapped without trouble. -/
theorem unwrapTcpInIp_returns {payload : Buffer} (single : dgram.payload.toBuffer = .ok payload)
    (a : TCPOverIPv4Adapter) : ∃ seg a', unwrapTcpInIp dgram a = .ok seg a' := by
  cases inside : segmentIn dgram with
  | some seg =>
      rw [unwrapTcpInIp_of_some inside]
      split <;> split <;> exact ⟨_, _, rfl⟩
  | none =>
      refine ⟨none, a, ?_⟩
      rw [unwrapTcpInIp, get_bind_run, branch_run]
      split
      · rfl
      rw [branch_run]
      split
      · rfl
      rw [branch_run]
      split
      · rfl
      next tcp =>
        rw [segmentIn, if_pos (not_not.mp tcp)] at inside
        have refused : (TCPSegment.parse {} payload dgram.header.pseudoCksum).2 ≠ .noError := by
          simpa [single] using inside
        rw [single, ofExcept_ok_bind]
        dsimp only
        rw [branch_run, if_pos refused]
        rfl

end TCPOverIPv4Adapter

namespace TCPOverUDPSocketAdapter

/-- The payload is one of the segments in `sent`. -/
def Holds (sent : List TCPSegment) (payload : Buffer) : Prop :=
  ∃ (a : TCPOverUDPSocketAdapter) (seg : TCPSegment), seg ∈ sent ∧ seg.Modest ∧
    payload = (a.setPorts seg).bytes ((a.setPorts seg).checksum 0)

theorem Holds.sentBefore {sent : List TCPSegment} {payload : Buffer} (holds : Holds sent payload)
    {seg : TCPSegment} (parsed : TCPSegment.parse {} payload 0 = (seg, .noError)) :
    SentBefore sent seg := by
  obtain ⟨a, original, membership, modest, rfl⟩ := holds
  have fits := modest.fits
  have whole := fits.whole
  have noWrap : (0 : UInt32).toNat + 65535 * ((4 * (a.setPorts original).header.doff.toNat +
      (a.setPorts original).payload.length + 1) / 2) < 2 ^ 32 := by
    show 0 + 65535 * ((4 * original.header.doff.toNat + original.payload.length + 1) / 2) < 2 ^ 32
    omega
  have long : 5 ≤ (a.setPorts original).header.doff.toNat := fits.long
  cases parsed.symm.trans (TCPSegment.parse_bytes long fits.short noWrap {})
  exact ⟨original, membership, rfl⟩

variable {a : TCPOverUDPSocketAdapter}

/-- The adapter after a datagram was sent. -/
def afterWrite (a : TCPOverUDPSocketAdapter) (seg : TCPSegment) : TCPOverUDPSocketAdapter :=
  { a with
    sock := { a.sock with
      fd := a.sock.fd.registerWrite
      datagrams := a.sock.datagrams ++
        [{ source := a.sock.localAddress
           destination := a.cfg.destination
           payload := (a.setPorts seg).bytes ((a.setPorts seg).checksum 0) }] } }

theorem write_run {seg : TCPSegment} (modest : seg.Modest) (a : TCPOverUDPSocketAdapter) :
    write seg a = .ok () (a.afterWrite seg) := by
  have long : 5 ≤ (a.setPorts seg).header.doff.toNat := modest.fits.long
  rw [write, get_bind_run, TCPSegment.serialize_eq long, ofExcept_ok_bind, afterWrite,
    ← TCPSegment.concatenate_pieces]
  rfl

/-- A read returns what it has parsed, or nothing, unless the system call fails or
gives too much. -/
theorem read_cases (answer : Answer UDPDatagram) (a : TCPOverUDPSocketAdapter) :
    (∃ datagram seg a', answer = .ok datagram ∧ datagram.payload.length ≤ UDPSocket.mtu ∧
      read answer a = .ok seg a' ∧ a'.sock = { a.sock with fd := a.sock.fd.registerRead } ∧
      ∀ s ∈ seg, TCPSegment.parse {} datagram.payload 0 = (s, .noError)) ∨
    ∃ e, read answer a = .error e a ∧
      ¬ ∃ datagram, answer = .ok datagram ∧ datagram.payload.length ≤ UDPSocket.mtu := by
  cases answer with
  | error text => exact .inr ⟨.runtimeError ("recvfrom" ++ ": " ++ text), rfl, by simp⟩
  | ok datagram =>
      by_cases oversized : datagram.payload.length > UDPSocket.mtu
      · refine .inr ⟨.runtimeError "recvfrom (oversized datagram)", ?_, ?_⟩
        · simp only [read, onSock, UDPSocket.recv, systemCall, pure_bind, if_pos oversized]
          rfl
        · rintro ⟨same, given, fits⟩
          cases given
          exact absurd oversized (Nat.not_lt.mpr fits)
      · let received : TCPOverUDPSocketAdapter :=
          { a with sock := { a.sock with fd := a.sock.fd.registerRead } }
        have recv : onSock (UDPSocket.recv (.ok datagram)) a = .ok datagram received := by
          simp only [onSock, UDPSocket.recv, systemCall, pure_bind, if_neg oversized]
          rfl
        refine .inl ?_
        rw [read, bind_of_ok recv, get_bind_run, branch_run]
        split
        · exact ⟨datagram, none, received, rfl, Nat.le_of_not_lt oversized, rfl, rfl, by simp⟩
        · obtain ⟨seg, result, parsed⟩ :
              ∃ seg result, TCPSegment.parse {} datagram.payload 0 = (seg, result) := ⟨_, _, rfl⟩
          simp only [parsed]
          rw [branch_run]
          split
          · exact ⟨datagram, none, received, rfl, Nat.le_of_not_lt oversized, rfl, rfl, by simp⟩
          next accepted =>
            obtain rfl := not_not.mp accepted
            have found : ∀ s ∈ some seg, TCPSegment.parse {} datagram.payload 0 = (s, .noError) := by
              intro s isSeg
              rw [← Option.mem_some_iff.mp isSeg]
              exact parsed
            rw [branch_run, branch_run]
            split
            · split
              · exact ⟨datagram, some seg, _, rfl, Nat.le_of_not_lt oversized, rfl, rfl, found⟩
              · exact ⟨datagram, none, received, rfl, Nat.le_of_not_lt oversized, rfl, rfl, by simp⟩
            · exact ⟨datagram, some seg, received, rfl, Nat.le_of_not_lt oversized, rfl, rfl, found⟩

instance : GenuineAdapter TCPOverUDPSocketAdapter where
  packets a := a.sock.datagrams
  Carries sent a := ∀ datagram ∈ a.sock.datagrams, Holds sent datagram.payload
  Readable answer := ∃ datagram, answer = .ok datagram ∧ datagram.payload.length ≤ UDPSocket.mtu
  write_carries sent seg modest a carries := by
    show Ends _ _ (write seg a)
    rw [write_run modest]
    refine List.forall_mem_append.mpr ⟨?_, List.forall_mem_singleton.mpr ?_⟩
    · intro datagram membership
      obtain ⟨a, old, before, rest⟩ := carries datagram membership
      exact ⟨a, old, List.mem_append_left [seg] before, rest⟩
    · exact ⟨a, seg, List.mem_append_right sent List.mem_cons_self, modest, rfl⟩
  read_carries sent answer a carries := by
    show Ends _ _ (read answer a)
    rcases read_cases answer a with ⟨datagram, seg, a', _, _, ran, sock, _⟩ | ⟨e, threw, refused⟩
    · rw [ran]
      show ∀ datagram ∈ a'.sock.datagrams, _
      rw [sock]
      exact carries
    · rw [threw]
      exact ⟨carries, refused⟩
  tick_carries sent ms a carries := carries
  config_carries carries _ := carries
  listening_carries carries _ := carries
  read_counts {answer a a' seg} ran := by
    rcases read_cases answer a with ⟨datagram, seg', next, _, _, same, sock, _⟩ | ⟨e, threw, _⟩
    · cases same.symm.trans ran
      exact congrArg (fun s : UDPSocket => s.fd.readCount) sock
    · cases threw.symm.trans ran
  genuine {sent a b b' packet seg} carries written ran := by
    rcases read_cases (.ok packet) b with ⟨datagram, seg', next, given, _, same, _, parsed⟩ |
      ⟨e, threw, _⟩
    · cases given
      cases same.symm.trans ran
      exact (carries packet written).sentBefore (parsed seg rfl)
    · cases threw.symm.trans ran

end TCPOverUDPSocketAdapter

namespace TCPOverIPv4OverTunFdAdapter

/-- The adapter after a datagram was written. -/
def afterWrite (a : TCPOverIPv4OverTunFdAdapter) (seg : TCPSegment) : TCPOverIPv4OverTunFdAdapter :=
  { a with tun := a.tun.afterWrite (a.base.wrapped (a.base.setPorts seg)).serialized }

theorem write_run {seg : TCPSegment} (modest : seg.Modest) (a : TCPOverIPv4OverTunFdAdapter) :
    write seg a = .ok () (a.afterWrite seg) := by
  have serializable := (TCPOverIPv4Adapter.wraps_new modest [] a.base).serializable
  rw [write, get_bind_run, TCPOverIPv4Adapter.wrapTcpInIp_modest modest, ofExcept_ok_bind]
  simp only [serializable.serialize_ok]
  rw [ofExcept_ok_bind, onTun, within_of_ok (Device.write_run _ _)]
  rfl

/-- A read returns what the datagram wraps, or nothing, unless the system call
fails or gives too much. -/
theorem read_cases (answer : Answer Buffer) (a : TCPOverIPv4OverTunFdAdapter) :
    (∃ bytes seg a', answer = .ok bytes ∧ bytes.length ≤ FileDescriptor.bufferSize ∧
      read answer a = .ok seg a' ∧
      a'.tun = { a.tun with fd := a.tun.fd.afterRead (2 ^ 64 - 1) bytes } ∧
      ∀ s ∈ seg, ∃ dgram base, IPv4Datagram.parse {} bytes = (dgram, .noError) ∧
        TCPOverIPv4Adapter.unwrapTcpInIp dgram a.base = .ok (some s) base) ∨
    ∃ e, read answer a = .error e a ∧
      ¬ ∃ bytes, answer = .ok bytes ∧ bytes.length ≤ FileDescriptor.bufferSize := by
  rcases Device.read_cases answer a.tun with ⟨bytes, given, fits, ran⟩ | ⟨e, threw, refused⟩
  · refine .inl ?_
    rw [read, onTun, bind_of_ok (within_of_ok ran)]
    obtain ⟨dgram, result, parsed⟩ :
        ∃ dgram result, IPv4Datagram.parse {} bytes = (dgram, result) := ⟨_, _, rfl⟩
    simp only [parsed]
    rw [branch_run]
    split
    · exact ⟨bytes, none, _, given, fits, rfl, rfl, nofun⟩
    next accepted =>
      obtain rfl := not_not.mp accepted
      have single : dgram.payload.toBuffer = .ok _ := congrArg (fun p => p.1.payload.toBuffer) parsed.symm
      obtain ⟨seg, base, unwrapped⟩ := TCPOverIPv4Adapter.unwrapTcpInIp_returns single a.base
      refine ⟨bytes, seg, _, given, fits, within_of_ok unwrapped, rfl, ?_⟩
      rintro s rfl
      exact ⟨dgram, base, parsed, unwrapped⟩
  · refine .inr ⟨e, ?_, refused⟩
    rw [read, onTun, bind_of_error]
    rw [within, threw]

instance : GenuineAdapter TCPOverIPv4OverTunFdAdapter where
  packets a := a.tun.packets
  Carries sent a := ∀ packet ∈ a.tun.packets, ∃ dgram, TCPOverIPv4Adapter.Wraps sent dgram ∧
    packet = dgram.serialized.concatenate
  Readable answer := ∃ bytes, answer = .ok bytes ∧ bytes.length ≤ FileDescriptor.bufferSize
  write_carries sent seg modest a carries := by
    show Ends _ _ (write seg a)
    rw [write_run modest]
    refine List.forall_mem_append.mpr ⟨?_, List.forall_mem_singleton.mpr ?_⟩
    · intro packet membership
      obtain ⟨dgram, wraps, same⟩ := carries packet membership
      exact ⟨dgram, wraps.mono [seg], same⟩
    · exact ⟨_, TCPOverIPv4Adapter.wraps_new modest sent a.base, rfl⟩
  read_carries sent answer a carries := by
    show Ends _ _ (read answer a)
    rcases read_cases answer a with ⟨bytes, seg, a', _, _, ran, tun, _⟩ | ⟨e, threw, refused⟩
    · rw [ran]
      show ∀ packet ∈ a'.tun.packets, _
      rw [tun]
      exact carries
    · rw [threw]
      exact ⟨carries, refused⟩
  tick_carries sent ms a carries := carries
  config_carries carries _ := carries
  listening_carries carries _ := carries
  read_counts {answer a a' seg} ran := by
    rcases read_cases answer a with ⟨bytes, seg', next, _, _, same, tun, _⟩ | ⟨e, threw, _⟩
    · cases same.symm.trans ran
      exact congrArg (fun d : Device => d.fd.readCount) tun
    · cases threw.symm.trans ran
  genuine {sent a b b' packet seg} carries written ran := by
    rcases read_cases (.ok packet) b with ⟨bytes, seg', next, given, _, same, _, unwraps⟩ |
      ⟨e, threw, _⟩
    · cases given
      cases same.symm.trans ran
      obtain ⟨sentDgram, wraps, rfl⟩ := carries packet written
      obtain ⟨dgram, base, parsed, unwrapped⟩ := unwraps seg rfl
      cases parsed.symm.trans wraps.wellFormed.parse_eq
      exact wraps.sentBefore unwrapped
    · cases threw.symm.trans ran

end TCPOverIPv4OverTunFdAdapter

namespace LossyFdAdapter

variable {A : Type}

/-- The dice do not touch the adapter underneath. -/
theorem shouldDrop_run (uplink : Bool) (a : LossyFdAdapter A) :
    ∃ dropped drawn, shouldDrop uplink a = .ok dropped { a with drawn } := by
  rw [shouldDrop, get_bind_run]
  by_cases lossless : (if uplink then a.lossRateUp else a.lossRateDn) = 0
  · rw [if_pos lossless]
    exact ⟨false, a.drawn, rfl⟩
  · rw [if_neg lossless]
    exact ⟨_, a.drawn + 1, rfl⟩

variable [DatagramAdapter A]

/-- What a read that returns has done before. -/
theorem exists_of_read {answer : Answer (DatagramAdapter.Packet A)} {a a' : LossyFdAdapter A}
    {seg : Option TCPSegment} (ran : read answer a = .ok seg a') :
    ∃ inner, DatagramAdapter.read answer a.adapter = .ok inner a'.adapter ∧ ∀ s ∈ seg, s ∈ inner := by
  obtain ⟨inner, between, reads, rest⟩ := exists_of_bind ran
  obtain ⟨adapter, returned, rfl⟩ := exists_of_within reads
  obtain ⟨dropped, drawn, dice⟩ :=
    shouldDrop_run false ({ a with adapter } : LossyFdAdapter A)
  rw [bind_of_ok dice] at rest
  refine ⟨inner, ?_⟩
  cases dropped with
  | false =>
      cases rest
      exact ⟨returned, fun _ => id⟩
  | true =>
      cases rest
      exact ⟨returned, nofun⟩

variable [GenuineAdapter A]

/-- The segments that a lossy adapter carries are among those that were written
to it. -/
def Carries (sent : List TCPSegment) (a : LossyFdAdapter A) : Prop :=
  ∃ kept, kept.Sublist sent ∧ GenuineAdapter.Carries kept a.adapter

/-- What a method of the adapter underneath keeps. -/
theorem triple_onAdapter {α : Type} {x : EStateM Exception A α} (refused : Prop)
    {sent sent' : List TCPSegment}
    (triple : ∀ kept, kept.Sublist sent → ∃ kept', kept'.Sublist sent' ∧
      Triple (GenuineAdapter.Carries kept) x (fun _ => GenuineAdapter.Carries kept')
        (fun _ a => GenuineAdapter.Carries kept' a ∧ refused)) :
    Triple (Carries sent) (onAdapter x) (fun _ => Carries sent')
      (fun _ a => Carries sent' a ∧ refused) := by
  rintro a ⟨kept, among, carries⟩
  obtain ⟨kept', among', inner⟩ := triple kept among
  rw [onAdapter, within]
  cases ran : x a.adapter with
  | ok result adapter => exact ⟨kept', among', inner.of_ok carries ran⟩
  | error e adapter =>
      obtain ⟨carries', refused⟩ := inner.of_error carries ran
      exact ⟨⟨kept', among', carries'⟩, refused⟩

/-- The dice keep what is carried. -/
theorem triple_shouldDrop (uplink : Bool) (sent : List TCPSegment)
    {thrown : Exception → LossyFdAdapter A → Prop} :
    Triple (Carries sent) (shouldDrop uplink) (fun _ => Carries sent) thrown := by
  rintro a carries
  obtain ⟨dropped, drawn, dice⟩ := shouldDrop_run uplink a
  rw [dice]
  exact carries

theorem Carries.mono {sent sent' : List TCPSegment} {a : LossyFdAdapter A} (carries : a.Carries sent)
    (more : sent.Sublist sent') : a.Carries sent' := by
  obtain ⟨kept, among, inner⟩ := carries
  exact ⟨kept, among.trans more, inner⟩

theorem triple_read (sent : List TCPSegment) (answer : Answer (DatagramAdapter.Packet A)) :
    Triple (Carries sent) (read answer) (fun _ => Carries sent)
      (fun _ a => Carries sent a ∧ ¬ GenuineAdapter.Readable (A := A) answer) := by
  refine Triple.bind (triple_onAdapter _ fun kept among =>
    ⟨kept, among, GenuineAdapter.read_carries kept answer⟩) fun ret => ?_
  refine (triple_shouldDrop false sent).bind fun dropped => ?_
  cases dropped <;> exact fun _ carries => carries

theorem triple_write (sent : List TCPSegment) {seg : TCPSegment} (modest : seg.Modest) :
    Triple (Carries (A := A) sent) (write seg) (fun _ => Carries (sent ++ [seg]))
      (fun _ _ => False) := by
  refine (triple_shouldDrop true sent).bind fun dropped => ?_
  cases dropped with
  | true => exact fun _ carries => carries.mono (List.sublist_append_left sent [seg])
  | false =>
      refine (triple_onAdapter False fun kept among => ?_).weaken_thrown fun _ _ thrown => thrown.2
      exact ⟨kept ++ [seg], among.append (List.Sublist.refl [seg]),
        (GenuineAdapter.write_carries kept modest).weaken_thrown fun _ _ => False.elim⟩

theorem triple_tick (sent : List TCPSegment) (ms : ℕ) :
    Triple (Carries (A := A) sent) (tick ms) (fun _ => Carries sent) (fun _ _ => False) := by
  refine (triple_onAdapter False fun kept among => ?_).weaken_thrown fun _ _ thrown => thrown.2
  exact ⟨kept, among, (GenuineAdapter.tick_carries kept ms).weaken_thrown fun _ _ => False.elim⟩

instance : GenuineAdapter (LossyFdAdapter A) where
  packets a := GenuineAdapter.packets (A := A) a.adapter
  Carries := Carries
  Readable answer := GenuineAdapter.Readable (A := A) answer
  write_carries sent _ modest := triple_write sent modest
  read_carries sent answer := triple_read (A := A) sent answer
  tick_carries sent ms := triple_tick sent ms
  config_carries carries cfg := by
    obtain ⟨kept, among, inner⟩ := carries
    exact ⟨kept, among, GenuineAdapter.config_carries inner cfg⟩
  listening_carries carries listening := by
    obtain ⟨kept, among, inner⟩ := carries
    exact ⟨kept, among, GenuineAdapter.listening_carries inner listening⟩
  read_counts ran := by
    obtain ⟨inner, returned, _⟩ := exists_of_read ran
    exact GenuineAdapter.read_counts (A := A) returned
  genuine carries written ran := by
    obtain ⟨kept, among, carries⟩ := carries
    obtain ⟨inner, returned, found⟩ := exists_of_read ran
    obtain rfl := found _ rfl
    obtain ⟨original, membership, same⟩ := GenuineAdapter.genuine (A := A) carries written returned
    exact ⟨original, among.subset membership, same⟩

end LossyFdAdapter

end Sponge
