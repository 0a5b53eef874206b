import Sponge.NetworkInterface.Effects
import Sponge.Lib.Run

/-!
# Calls of an interface

What each call does to the interface, if the datagrams that it gets can be
serialized.  Everything about runs of calls is proved from this.
-/

namespace Sponge.NetworkInterface

open Lib Throwing

inductive Op where
  | send (dgram : IPv4Datagram) (nextHop : Address)
  | recv (frame : EthernetFrame)
  | tick (msSinceLastTick : ℕ)

/-- The interface after a call, whether or not the call has thrown. -/
def apply (i : NetworkInterface) : Op → NetworkInterface
  | .send dgram nextHop => finalState (sendDatagram dgram nextHop i)
  | .recv frame => finalState (recvFrame frame i)
  | .tick msSinceLastTick => finalState (tick msSinceLastTick i)

/-- The tick time that an operation takes. -/
def Op.duration : Op → ℕ
  | .tick msSinceLastTick => msSinceLastTick
  | _ => 0

/-- A datagram that is handed to the interface can be serialized. -/
def Op.Serializes : Op → Prop
  | .send dgram _ => ∃ payload, dgram.serialize = .ok payload
  | _ => True

/-- The datagrams that wait can be serialized. -/
def Flushable (i : NetworkInterface) : Prop :=
  ∀ entry ∈ i.queueingIPDatagrams, entry.1.Serializable

/-- The timers when a datagram for `ip` is kept back. -/
def askedTimer (i : NetworkInterface) (ip : UInt32) : UInt32 → Option ℕ :=
  if i.requestDue ip then Function.update i.arpTimer ip (some 0) else i.arpTimer

/-- What a call does. -/
inductive Step (i : NetworkInterface) : Op → NetworkInterface → Prop where
  /-- A datagram goes out to an address that is known. -/
  | sent {dgram : IPv4Datagram} {nextHop : Address} {dst : EthernetAddress} {age : ℕ}
      (known : i.ethernetAddrCache nextHop.ipv4Numeric = some (dst, age)) :
      Step i (.send dgram nextHop) { i with framesOut := i.framesOut ++ i.framesTo dst [dgram] }
  /-- A datagram is kept back, and the address is asked for if it is time. -/
  | keptBack {dgram : IPv4Datagram} {nextHop : Address}
      (unknown : i.ethernetAddrCache nextHop.ipv4Numeric = none) :
      Step i (.send dgram nextHop)
        { i with
          arpTimer := i.askedTimer nextHop.ipv4Numeric
          framesOut := i.framesOut ++ i.requestFrames nextHop.ipv4Numeric
          queueingIPDatagrams :=
            i.queueingIPDatagrams ++ [(dgram, nextHop.ipv4Numeric)] }
  /-- A frame does not teach the interface anything. -/
  | ignored {frame : EthernetFrame} (ignored : i.acceptedARP frame = none) :
      Step i (.recv frame) i
  /-- An ARP message is taken in. -/
  | learnt {frame : EthernetFrame} {msg : ARPMessage}
      (accepted : i.acceptedARP frame = some msg) :
      Step i (.recv frame)
        { i with
          ethernetAddrCache := Function.update i.ethernetAddrCache msg.senderIpAddress
            (some (msg.senderEthernetAddress, 0))
          arpTimer := Function.update i.arpTimer msg.senderIpAddress none
          queueingIPDatagrams := i.queueingIPDatagrams.filter (·.2 ≠ msg.senderIpAddress)
          framesOut := i.framesOut ++
            (i.framesTo msg.senderEthernetAddress
              (datagramsFor msg.senderIpAddress i.queueingIPDatagrams) ++ i.replyFrames msg) }
  /-- Time passes. -/
  | ticked {ms : ℕ} : Step i (.tick ms) (finalState (tick ms i))

variable {i next : NetworkInterface} {op : Op}

/-- A datagram is kept back whether or not it can be serialized. -/
theorem step_unknown {nextHop : Address}
    (unknown : i.ethernetAddrCache nextHop.ipv4Numeric = none) (dgram : IPv4Datagram) :
    i.Step (.send dgram nextHop) (i.apply (.send dgram nextHop)) := by
  rw [apply, sendDatagram_unknown unknown]
  exact .keptBack unknown

theorem step_apply (flushable : i.Flushable) (serializes : op.Serializes) :
    i.Step op (i.apply op) := by
  cases op with
  | send dgram nextHop =>
      obtain ⟨payload, serialized⟩ := serializes
      have serializable := IPv4Datagram.serializable_of_serialize serialized
      cases known : i.ethernetAddrCache nextHop.ipv4Numeric with
      | none => exact step_unknown known dgram
      | some entry =>
          rw [apply, sendDatagram_known known serializable.serialize_ok]
          exact .sent known
  | recv frame =>
      cases accepted : i.acceptedARP frame with
      | none =>
          rw [apply, recvFrame_ignored accepted]
          exact .ignored accepted
      | some msg =>
          have waiting := serializable_datagramsFor flushable msg.senderIpAddress
          rw [apply, recvFrame_accepted accepted, bind_of_ok (learn_run waiting)]
          exact .learnt accepted
  | tick ms => exact .ticked

theorem Flushable.step (flushable : i.Flushable) (serializes : op.Serializes)
    (step : i.Step op next) : next.Flushable := by
  cases step with
  | sent => exact flushable
  | keptBack =>
      obtain ⟨payload, serialized⟩ := serializes
      have serializable := IPv4Datagram.serializable_of_serialize serialized
      exact List.forall_mem_append.mpr ⟨flushable, List.forall_mem_singleton.mpr serializable⟩
  | ignored => exact flushable
  | learnt => exact fun entry queued => flushable entry (List.mem_of_mem_filter queued)
  | ticked => exact flushable

/-- Nothing waits for an address that is known. -/
def Settled (i : NetworkInterface) : Prop :=
  ∀ entry ∈ i.queueingIPDatagrams, i.ethernetAddrCache entry.2 = none

theorem Settled.step (settled : i.Settled) (step : i.Step op next) : next.Settled := by
  cases step with
  | sent => exact settled
  | keptBack unknown =>
      exact List.forall_mem_append.mpr ⟨settled, List.forall_mem_singleton.mpr unknown⟩
  | ignored => exact settled
  | learnt =>
      intro entry queued
      obtain ⟨queued, other⟩ := List.mem_filter.mp queued
      exact (Function.update_of_ne (of_decide_eq_true other) _ _).trans (settled entry queued)
  | ticked =>
      intro entry queued
      have absent := settled entry queued
      simp [tick, absent]

/-- An entry of the cache after a tick. -/
def agedEntry (ms : ℕ) (entry : Option (EthernetAddress × ℕ)) : Option (EthernetAddress × ℕ) := do
  let (address, age) ← entry
  let age := Word.add 64 age ms
  if age ≥ cacheValidTime then none else some (address, age)

theorem agedEntry_some (dst : EthernetAddress) {age ms : ℕ} (short : age + ms < 2 ^ 64) :
    agedEntry ms (some (dst, age)) =
      if age + ms ≥ cacheValidTime then none else some (dst, age + ms) := by
  simp [agedEntry, Word.add_eq short]

/-- An entry that survives a tick was there before, and is older now. -/
theorem agedEntry_eq_some {entry : Option (EthernetAddress × ℕ)} {dst : EthernetAddress}
    {age ms : ℕ} (short : ∀ dst age, entry = some (dst, age) → age + ms < 2 ^ 64)
    (kept : agedEntry ms entry = some (dst, age)) :
    ∃ before, entry = some (dst, before) ∧ age = before + ms ∧ age < cacheValidTime := by
  cases entry with
  | none => contradiction
  | some pair =>
      obtain ⟨address, before⟩ := pair
      rw [agedEntry_some address (short address before rfl)] at kept
      split at kept
      next => contradiction
      next young =>
        obtain ⟨rfl, rfl⟩ := Prod.mk.inj (Option.some.inj kept)
        exact ⟨before, rfl, rfl, Nat.lt_of_not_le young⟩

theorem askedTimer_of_due {ip : UInt32} (due : i.requestDue ip = true) :
    i.askedTimer ip ip = some 0 := by
  rw [askedTimer, if_pos due, Function.update_self]

/-- No request is due as long as the timer runs. -/
theorem askedTimer_of_not_due {ip : UInt32} (notDue : i.requestDue ip = false) :
    ∃ time < arpReqTime, i.arpTimer ip = some time ∧ i.askedTimer ip = i.arpTimer := by
  have unchanged : i.askedTimer ip = i.arpTimer := by
    rw [askedTimer, notDue, if_neg Bool.false_ne_true]
  cases timer : i.arpTimer ip with
  | none => simp [requestDue, timer] at notDue
  | some time =>
      have runs : time < arpReqTime := by simpa [requestDue, timer] using notDue
      exact ⟨time, runs, rfl, unchanged⟩

theorem askedTimer_of_ne {ip other : UInt32} (ne : other ≠ ip) :
    i.askedTimer ip other = i.arpTimer other := by
  rw [askedTimer]
  split
  · exact Function.update_of_ne ne _ _
  · rfl

end Sponge.NetworkInterface
