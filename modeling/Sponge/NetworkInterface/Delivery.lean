import Sponge.NetworkInterface.Calls

/-!
# What the ARP layer delivers

An observer keeps the datagrams that were handed to the interface, the ARP
messages it took in and the IPv4 frames it put out, each with the total time of
the ticks so far.  For every next hop the frames carry the first of the
datagrams, in order, and the others still wait.
-/

namespace Sponge.NetworkInterface

open Lib Throwing

/-- A frame that was put out, with its next hop, the time, and what was heard
from the next hop last. -/
structure Emission where
  hop : UInt32
  frame : EthernetFrame
  clock : ℕ
  heard : Option (EthernetAddress × ℕ)

/-- A frame goes to the address that was heard last from its next hop, less
than the lifetime of an entry ago. -/
def Emission.Fresh (emission : Emission) : Prop :=
  ∃ time, emission.heard = some (emission.frame.header.dst, time) ∧
    time ≤ emission.clock ∧ emission.clock - time < cacheValidTime

/-- An interface and what an observer has noted about it. -/
structure Observed where
  interface : NetworkInterface
  /-- The total time of the ticks. -/
  clock : ℕ := 0
  /-- The datagrams handed to the interface, with their next hops. -/
  submitted : List (IPv4Datagram × UInt32) := []
  /-- The address in the latest ARP message that was taken in from an IP
  address, and the time of the message. -/
  heard : UInt32 → Option (EthernetAddress × ℕ) := fun _ => none
  emitted : List Emission := []

namespace Observed

def isIPv4 (frame : EthernetFrame) : Bool :=
  frame.header.type == EthernetHeader.typeIPv4

/-- The IPv4 frames that the interface has put out since the last note. -/
def newFrames (o : Observed) (next : NetworkInterface) : List EthernetFrame :=
  (next.framesOut.drop o.interface.framesOut.length).filter isIPv4

/-- Note the interface after a call about a next hop. -/
def note (o : Observed) (hop : UInt32) (next : NetworkInterface) : Observed :=
  { o with
    interface := next
    emitted := o.emitted ++ (o.newFrames next).map fun frame =>
      { hop, frame, clock := o.clock, heard := o.heard hop } }

def hear (o : Observed) (msg : ARPMessage) : Observed :=
  { o with
    heard := Function.update o.heard msg.senderIpAddress
      (some (msg.senderEthernetAddress, o.clock)) }

def submit (o : Observed) (dgram : IPv4Datagram) (hop : UInt32) : Observed :=
  { o with submitted := o.submitted ++ [(dgram, hop)] }

/-- What the observer notes about an operation.  The frames that a call puts
out are for the next hop of the datagram or for the sender of the message. -/
def step (o : Observed) (op : Op) : Observed :=
  let next := o.interface.apply op
  match op with
  | .send dgram nextHop =>
      (o.submit dgram nextHop.ipv4Numeric).note nextHop.ipv4Numeric next
  | .recv frame =>
      match o.interface.acceptedARP frame with
      | some msg => (o.hear msg).note msg.senderIpAddress next
      | none => { o with interface := next }
  | .tick msSinceLastTick =>
      { o with interface := next, clock := o.clock + msSinceLastTick }

def emittedFor (o : Observed) (ip : UInt32) : List Emission :=
  o.emitted.filter (·.hop = ip)

/-- The datagrams for a next hop are those that its frames carry, in order and
once each, and then those that are `waiting`. -/
def Delivered (o : Observed) (ip : UInt32) (waiting : List IPv4Datagram) : Prop :=
  ∃ delivered, datagramsFor ip o.submitted = delivered ++ waiting ∧
    (o.emittedFor ip).map (fun emission => .ok emission.frame.payload) =
      delivered.map IPv4Datagram.serialize

/-- What holds of the interface and the notes after every operation. -/
structure Faithful (o : Observed) : Prop where
  complete : o.emitted.map (·.frame) = o.interface.framesOut.filter isIPv4
  delivered : ∀ ip, o.Delivered ip (datagramsFor ip o.interface.queueingIPDatagrams)
  fresh : ∀ emission ∈ o.emitted, emission.Fresh
  current : ∀ ip dst age, o.interface.ethernetAddrCache ip = some (dst, age) →
    o.heard ip = some (dst, o.clock - age) ∧ age ≤ o.clock ∧ age < cacheValidTime
  unknown : ∀ entry ∈ o.interface.queueingIPDatagrams,
    o.interface.ethernetAddrCache entry.2 = none
  serializable : ∀ entry ∈ o.interface.queueingIPDatagrams, entry.1.Serializable

section Notes

variable {o : Observed} {hop : UInt32} {next : NetworkInterface} {dst : EthernetAddress}
  {dgrams : List IPv4Datagram} {others : List EthernetFrame}

theorem isIPv4_framesTo (i : NetworkInterface) :
    (i.framesTo dst dgrams).filter isIPv4 = i.framesTo dst dgrams := by
  rw [List.filter_eq_self]
  intro frame membership
  obtain ⟨dgram, -, rfl⟩ := List.mem_map.mp membership
  rfl

/-- A call that sends some datagrams and maybe ARP messages. -/
structure Puts (o : Observed) (next : NetworkInterface) (dst : EthernetAddress)
    (dgrams : List IPv4Datagram) : Prop where
  frames : ∃ others, next.framesOut =
    o.interface.framesOut ++ (o.interface.framesTo dst dgrams ++ others) ∧
      others.filter isIPv4 = []
  serializable : ∀ dgram ∈ dgrams, dgram.Serializable

theorem Puts.newFrames_eq (puts : o.Puts next dst dgrams) :
    o.newFrames next = o.interface.framesTo dst dgrams := by
  obtain ⟨others, frames, arp⟩ := puts.frames
  rw [newFrames, frames, List.drop_left, List.filter_append, isIPv4_framesTo, arp, List.append_nil]

theorem Puts.complete_note (puts : o.Puts next dst dgrams)
    (complete : o.emitted.map (·.frame) = o.interface.framesOut.filter isIPv4) :
    (o.note hop next).emitted.map (·.frame) = next.framesOut.filter isIPv4 := by
  obtain ⟨others, frames, arp⟩ := puts.frames
  rw [frames, List.filter_append, List.filter_append, isIPv4_framesTo, arp, List.append_nil,
    ← complete]
  simp [note, puts.newFrames_eq, Function.comp_def]

theorem Puts.fresh_note (puts : o.Puts next dst dgrams)
    (fresh : ∀ emission ∈ o.emitted, emission.Fresh)
    (heard : dgrams ≠ [] → ∃ time, o.heard hop = some (dst, time) ∧
      time ≤ o.clock ∧ o.clock - time < cacheValidTime) :
    ∀ emission ∈ (o.note hop next).emitted, emission.Fresh := by
  intro emission membership
  rw [note, puts.newFrames_eq] at membership
  rcases List.mem_append.mp membership with old | new
  · exact fresh emission old
  · obtain ⟨frame, carries, rfl⟩ := List.mem_map.mp new
    obtain ⟨dgram, carried, rfl⟩ := List.mem_map.mp carries
    exact heard (List.ne_nil_of_mem carried)

theorem Puts.delivered_note (puts : o.Puts next dst dgrams)
    {pending : List (IPv4Datagram × UInt32)}
    (delivered : ∀ ip, o.Delivered ip (datagramsFor ip pending))
    (rest : ∀ ip, datagramsFor ip pending =
      (if ip = hop then dgrams else []) ++ datagramsFor ip next.queueingIPDatagrams) (ip : UInt32) :
    (o.note hop next).Delivered ip (datagramsFor ip next.queueingIPDatagrams) := by
  obtain ⟨before, submitted, carried⟩ := delivered ip
  refine ⟨before ++ if ip = hop then dgrams else [], ?_, ?_⟩
  · rw [List.append_assoc, ← rest]
    exact submitted
  · have serialized : dgrams.map IPv4Datagram.serialize =
        dgrams.map fun dgram => .ok dgram.serialized :=
      List.map_congr_left fun dgram membership =>
        (puts.serializable dgram membership).serialize_ok
    rw [emittedFor] at carried ⊢
    rw [note, puts.newFrames_eq, List.filter_append, List.map_append, List.map_append, carried]
    by_cases same : ip = hop
    · simp [same, serialized, framesTo, frameTo, List.filter_map, Function.comp_def]
    · simp [same, Ne.symm same, List.filter_map, Function.comp_def]

end Notes

section Steps

variable {o : Observed}

theorem delivered_submit {ip : UInt32} {queue : List (IPv4Datagram × UInt32)}
    (delivered : o.Delivered ip (datagramsFor ip queue)) (dgram : IPv4Datagram) (hop : UInt32) :
    (o.submit dgram hop).Delivered ip (datagramsFor ip (queue ++ [(dgram, hop)])) := by
  obtain ⟨before, submitted, carried⟩ := delivered
  refine ⟨before, ?_, carried⟩
  rw [submit, datagramsFor_append, datagramsFor_append, submitted, List.append_assoc]

theorem Faithful.datagramsFor_known (faithful : o.Faithful) {ip : UInt32}
    {entry : EthernetAddress × ℕ} (known : o.interface.ethernetAddrCache ip = some entry) :
    datagramsFor ip o.interface.queueingIPDatagrams = [] := by
  rw [datagramsFor, List.map_eq_nil_iff, List.filter_eq_nil_iff]
  intro waiting membership same
  have unknown := faithful.unknown waiting membership
  rw [of_decide_eq_true same, known] at unknown
  contradiction

theorem Faithful.send (faithful : o.Faithful) {dgram : IPv4Datagram}
    (serializable : dgram.Serializable) (nextHop : Address) :
    (o.step (.send dgram nextHop)).Faithful := by
  have serializes : Op.Serializes (.send dgram nextHop) := ⟨_, serializable.serialize_ok⟩
  have step := step_apply faithful.serializable serializes
  have settled := Settled.step faithful.unknown step
  have flushable := Flushable.step faithful.serializable serializes step
  have pending (ip : UInt32) :=
    delivered_submit (faithful.delivered ip) dgram nextHop.ipv4Numeric
  cases known : o.interface.ethernetAddrCache nextHop.ipv4Numeric with
  | none =>
      have next : o.interface.apply (.send dgram nextHop) = _ :=
        congrArg finalState (sendDatagram_unknown known)
      have puts : (o.submit dgram nextHop.ipv4Numeric).Puts
          (o.interface.apply (.send dgram nextHop)) ethernetBroadcast [] := by
        refine ⟨⟨o.interface.requestFrames nextHop.ipv4Numeric, ?_, ?_⟩, List.forall_mem_nil _⟩
        · rw [next]
          rfl
        · rw [requestFrames]
          split <;> rfl
      exact {
        complete := puts.complete_note faithful.complete
        delivered := puts.delivered_note pending fun ip => by simp [next]
        fresh := puts.fresh_note faithful.fresh (absurd rfl)
        current := by
          rw [Observed.step, next]
          exact faithful.current
        unknown := settled
        serializable := flushable }
  | some entry =>
      obtain ⟨dst, age⟩ := entry
      have next : o.interface.apply (.send dgram nextHop) = _ :=
        congrArg finalState (sendDatagram_known known serializable.serialize_ok)
      obtain ⟨heard, aged, young⟩ := faithful.current _ dst age known
      have puts : (o.submit dgram nextHop.ipv4Numeric).Puts
          (o.interface.apply (.send dgram nextHop)) dst [dgram] := by
        refine ⟨⟨[], ?_, rfl⟩, List.forall_mem_singleton.mpr serializable⟩
        rw [next]
        rfl
      exact {
        complete := puts.complete_note faithful.complete
        delivered := puts.delivered_note pending fun ip => by
          rw [next, datagramsFor_append]
          by_cases same : ip = nextHop.ipv4Numeric
          · subst same
            simp [faithful.datagramsFor_known known, datagramsFor_cons_self]
          · simp [same, datagramsFor_cons_of_ne (Ne.symm same)]
        fresh := puts.fresh_note faithful.fresh fun _ =>
          ⟨_, heard, Nat.sub_le _ _, (Nat.sub_sub_self aged).trans_lt young⟩
        current := by
          rw [Observed.step, next]
          exact faithful.current
        unknown := settled
        serializable := flushable }

theorem datagramsFor_rest (ip hop : UInt32) (queue : List (IPv4Datagram × UInt32)) :
    datagramsFor ip queue = (if ip = hop then datagramsFor hop queue else []) ++
      datagramsFor ip (queue.filter (·.2 ≠ hop)) := by
  unfold datagramsFor
  rw [List.filter_filter]
  by_cases same : ip = hop
  · simp [same]
  · have unaffected : ∀ entry ∈ queue,
        (decide (entry.2 = ip) && decide (entry.2 ≠ hop)) = decide (entry.2 = ip) := by
      grind
    rw [if_neg same, List.nil_append, List.filter_congr unaffected]

theorem Faithful.current_hear (faithful : o.Faithful) (msg : ARPMessage) (ip : UInt32)
    (dst : EthernetAddress) (age : ℕ)
    (cached : Function.update o.interface.ethernetAddrCache msg.senderIpAddress
      (some (msg.senderEthernetAddress, 0)) ip = some (dst, age)) :
    (o.hear msg).heard ip = some (dst, o.clock - age) ∧ age ≤ o.clock ∧ age < cacheValidTime := by
  simp only [hear]
  by_cases sender : ip = msg.senderIpAddress
  · subst sender
    rw [Function.update_self] at cached ⊢
    obtain ⟨rfl, rfl⟩ := Prod.mk.inj (Option.some.inj cached)
    exact ⟨rfl, Nat.zero_le _, by decide⟩
  · rw [Function.update_of_ne sender] at cached ⊢
    exact faithful.current ip dst age cached

theorem Faithful.recv (faithful : o.Faithful) (frame : EthernetFrame) :
    (o.step (.recv frame)).Faithful := by
  cases accepted : o.interface.acceptedARP frame with
  | none =>
      have same : o.step (.recv frame) = o := by
        simp [step, accepted, apply, recvFrame_ignored accepted]
      rwa [same]
  | some msg =>
      have waiting := serializable_datagramsFor faithful.serializable msg.senderIpAddress
      have next : o.interface.apply (.recv frame) = _ :=
        congrArg finalState ((recvFrame_accepted accepted).trans (bind_of_ok (learn_run waiting)))
      have puts : (o.hear msg).Puts (o.interface.apply (.recv frame)) msg.senderEthernetAddress
          (datagramsFor msg.senderIpAddress o.interface.queueingIPDatagrams) := by
        refine ⟨⟨o.interface.replyFrames msg, ?_, ?_⟩, waiting⟩
        · rw [next]
          rfl
        · rw [replyFrames]
          split <;> rfl
      have same : o.step (.recv frame) =
          (o.hear msg).note msg.senderIpAddress (o.interface.apply (.recv frame)) := by
        simp [step, accepted]
      have serializes : Op.Serializes (.recv frame) := trivial
      have step := step_apply faithful.serializable serializes
      rw [same]
      exact {
        complete := puts.complete_note faithful.complete
        delivered := puts.delivered_note faithful.delivered fun ip => by
          rw [next]
          exact datagramsFor_rest ip _ _
        fresh := puts.fresh_note faithful.fresh fun _ =>
          ⟨_, Function.update_self _ _ _, Nat.le_refl _, by simp [hear, cacheValidTime]⟩
        current := by
          rw [next]
          exact faithful.current_hear msg
        unknown := Settled.step faithful.unknown step
        serializable := Flushable.step faithful.serializable serializes step }

theorem Faithful.tick (faithful : o.Faithful) {ms : ℕ} (short : o.clock + ms < 2 ^ 64) :
    (o.step (.tick ms)).Faithful where
  complete := faithful.complete
  delivered := faithful.delivered
  fresh := faithful.fresh
  current := by
    intro ip dst age cached
    have short (address : EthernetAddress) (before : ℕ)
        (known : o.interface.ethernetAddrCache ip = some (address, before)) :
        before + ms < 2 ^ 64 := by
      have aged := (faithful.current ip address before known).2.1
      omega
    obtain ⟨before, known, rfl, young⟩ := agedEntry_eq_some short cached
    obtain ⟨heard, aged, _⟩ := faithful.current ip dst before known
    refine ⟨heard.trans ?_, Nat.add_le_add_right aged ms, young⟩
    simp [step, Nat.add_sub_add_right]
  unknown := Settled.step faithful.unknown .ticked
  serializable := faithful.serializable

/-- Operations that the interface can carry out before its clocks wrap. -/
def Admissible (o : Observed) (op : Op) : Prop :=
  op.Serializes ∧ o.clock + op.duration < 2 ^ 64

theorem Faithful.step (faithful : o.Faithful) {op : Op} (admissible : o.Admissible op) :
    (o.step op).Faithful := by
  obtain ⟨serializes, short⟩ := admissible
  cases op with
  | send dgram nextHop =>
      obtain ⟨payload, serialized⟩ := serializes
      exact faithful.send (IPv4Datagram.serializable_of_serialize serialized) nextHop
  | recv frame => exact faithful.recv frame
  | tick ms => exact faithful.tick short

theorem clock_step (o : Observed) (op : Op) : (o.step op).clock = o.clock + op.duration := by
  cases op with
  | send => rfl
  | recv frame =>
      rw [Observed.step]
      cases o.interface.acceptedARP frame <;> rfl
  | tick => rfl

theorem admissible_throughout {ops : List Op} (serializes : ∀ op ∈ ops, op.Serializes)
    (short : o.clock + (ops.map Op.duration).sum < 2 ^ 64) :
    Guarded Observed.step Admissible o ops := by
  induction ops generalizing o with
  | nil => trivial
  | cons op rest inductionHypothesis =>
      rw [List.map_cons, List.sum_cons, ← Nat.add_assoc] at short
      refine ⟨⟨serializes op List.mem_cons_self, by omega⟩, ?_⟩
      apply inductionHypothesis
      · exact fun later membership => serializes later (List.mem_cons_of_mem op membership)
      · rwa [clock_step]

theorem faithful_new (ethernetAddress : EthernetAddress) (ipAddress : Address) :
    Faithful { interface := { ethernetAddress, ipAddress } } where
  complete := rfl
  delivered _ := ⟨[], rfl, rfl⟩
  fresh := List.forall_mem_nil _
  current _ _ _ := nofun
  unknown := List.forall_mem_nil _
  serializable := List.forall_mem_nil _

end Steps

end Observed

open Observed

/-- The ARP layer neither loses nor repeats nor reorders the datagrams for a
next hop, and it sends them to an address that it has heard lately. -/
theorem delivers_in_order (ethernetAddress : EthernetAddress) (ipAddress : Address)
    (ops : List Op) (serializes : ∀ op ∈ ops, op.Serializes)
    (short : (ops.map Op.duration).sum < 2 ^ 64) :
    let o := run Observed.step { interface := { ethernetAddress, ipAddress } } ops
    o.emitted.map (·.frame) = o.interface.framesOut.filter isIPv4 ∧
      (∀ ip, o.Delivered ip (datagramsFor ip o.interface.queueingIPDatagrams)) ∧
      ∀ emission ∈ o.emitted, emission.Fresh := by
  have faithful := (admissible_throughout serializes (by simpa using short)).invariant Faithful
    (faithful_new ethernetAddress ipAddress) fun _ _ faithful => faithful.step
  exact ⟨faithful.complete, faithful.delivered, faithful.fresh⟩

/-- One datagram waits for the reply, one uses what was learnt, and one comes
when that has expired. -/
theorem delivers_in_order_expired :
    let dgram : IPv4Datagram := { header := { len := 20 } }
    let reply : ARPMessage := { opcode := ARPMessage.opcodeReply, senderIpAddress := 7 }
    let frame : EthernetFrame :=
      { header := { dst := ethernetBroadcast, type := EthernetHeader.typeARP },
        payload := [reply.fields] }
    let ops : List Op :=
      [.send dgram { ip := 7 }, .recv frame, .tick 29999, .send dgram { ip := 7 }, .tick 1,
        .send dgram { ip := 7 }]
    let i : NetworkInterface :=
      { ethernetAddress := Vector.replicate 6 2, ipAddress := { ip := 1 } }
    let o := run Observed.step { interface := i } ops
    o.emitted.length = 2 ∧ o.Delivered 7 [dgram] ∧ ∀ emission ∈ o.emitted, emission.Fresh := by
  intro dgram reply frame ops i o
  have serializable : dgram.Serializable := by decide
  have serialized : ∃ payload, dgram.serialize = .ok payload := ⟨_, serializable.serialize_ok⟩
  have serializes : ∀ op ∈ ops, op.Serializes := by
    simp only [ops, List.forall_mem_cons]
    exact ⟨serialized, trivial, trivial, serialized, trivial, serialized, List.forall_mem_nil _⟩
  obtain ⟨complete, delivered, fresh⟩ := delivers_in_order (Vector.replicate 6 2) { ip := 1 } ops
    serializes (by decide)
  refine ⟨by decide +kernel, ?_, fresh⟩
  have waiting : datagramsFor 7 o.interface.queueingIPDatagrams = [dgram] := by decide +kernel
  rw [← waiting]
  exact delivered 7

end Sponge.NetworkInterface
