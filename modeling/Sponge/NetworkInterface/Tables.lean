import Sponge.NetworkInterface.Delivery

/-!
# The tables of an interface fit together

An address that datagrams wait for is being asked for, an address that is being
asked for is not known, and what is known was heard lately.
-/

namespace Sponge.NetworkInterface

open Lib Throwing

variable {i next : NetworkInterface} {op : Op}

/-- What the queue, the timers and the cache have to do with each other. -/
structure Consistent (i : NetworkInterface) : Prop where
  requested : ∀ entry ∈ i.queueingIPDatagrams, (i.arpTimer entry.2).isSome
  exclusive : ∀ ip, i.arpTimer ip = none ∨ i.ethernetAddrCache ip = none

theorem isSome_askedTimer (i : NetworkInterface) (ip : UInt32) : (i.askedTimer ip ip).isSome := by
  cases due : i.requestDue ip with
  | true => rw [askedTimer_of_due due, Option.isSome_some]
  | false =>
      obtain ⟨time, _, timer, unchanged⟩ := askedTimer_of_not_due due
      rw [unchanged, timer, Option.isSome_some]

theorem Consistent.keptBack (consistent : i.Consistent) {ip : UInt32}
    (unknown : i.ethernetAddrCache ip = none) (dgram : IPv4Datagram) (frames : List EthernetFrame) :
    Consistent
      { i with
        arpTimer := i.askedTimer ip
        framesOut := frames
        queueingIPDatagrams := i.queueingIPDatagrams ++ [(dgram, ip)] } where
  requested := by
    refine List.forall_mem_append.mpr ⟨?_, List.forall_mem_singleton.mpr (i.isSome_askedTimer ip)⟩
    intro entry queued
    by_cases same : entry.2 = ip
    · exact same ▸ i.isSome_askedTimer ip
    · simpa only [askedTimer_of_ne same] using consistent.requested entry queued
  exclusive := by
    intro other
    by_cases same : other = ip
    · exact .inr (same ▸ unknown)
    · simpa only [askedTimer_of_ne same] using consistent.exclusive other

theorem Consistent.learnt (consistent : i.Consistent) (ip : UInt32)
    (address : EthernetAddress × ℕ) (frames : List EthernetFrame) :
    Consistent
      { i with
        ethernetAddrCache := Function.update i.ethernetAddrCache ip (some address)
        arpTimer := Function.update i.arpTimer ip none
        queueingIPDatagrams := i.queueingIPDatagrams.filter (·.2 ≠ ip)
        framesOut := frames } where
  requested := by
    intro entry queued
    obtain ⟨queued, other⟩ := List.mem_filter.mp queued
    simpa only [Function.update_of_ne (of_decide_eq_true other)]
      using consistent.requested entry queued
  exclusive := by
    intro other
    by_cases same : other = ip
    · exact .inl (same ▸ Function.update_self _ _ _)
    · simpa only [Function.update_of_ne same] using consistent.exclusive other

theorem Consistent.ticked (consistent : i.Consistent) (ms : ℕ) :
    (finalState (tick ms i)).Consistent where
  requested entry queued := by
    have requested := consistent.requested entry queued
    simpa [tick] using requested
  exclusive ip := by
    rcases consistent.exclusive ip with untimed | unknown
    · exact .inl (by simp [tick, untimed])
    · exact .inr (by simp [tick, unknown])

theorem Consistent.step (consistent : i.Consistent) (step : i.Step op next) : next.Consistent := by
  cases step with
  | sent => exact ⟨consistent.requested, consistent.exclusive⟩
  | keptBack unknown => exact consistent.keptBack unknown _ _
  | ignored => exact consistent
  | learnt => exact consistent.learnt _ _ _
  | ticked => exact consistent.ticked _

theorem consistent_new (ethernetAddress : EthernetAddress) (ipAddress : Address) :
    Consistent { ethernetAddress, ipAddress } :=
  ⟨List.forall_mem_nil _, fun _ => .inl rfl⟩

namespace Observed

theorem interface_step (o : Observed) (op : Op) :
    (o.step op).interface = o.interface.apply op := by
  cases op with
  | send => rfl
  | recv frame =>
      rw [Observed.step]
      cases o.interface.acceptedARP frame <;> rfl
  | tick => rfl

end Observed

open Observed

/-- In every run each address that a datagram waits for has a timer, no address
has both a timer and an entry in the cache, and each entry was heard less than
its lifetime ago. -/
theorem tables_consistent (ethernetAddress : EthernetAddress) (ipAddress : Address)
    (ops : List Op) (serializes : ∀ op ∈ ops, op.Serializes)
    (short : (ops.map Op.duration).sum < 2 ^ 64) :
    let o := run Observed.step { interface := { ethernetAddress, ipAddress } } ops
    let i := o.interface
    (∀ entry ∈ i.queueingIPDatagrams, (i.arpTimer entry.2).isSome) ∧
      (∀ ip, i.arpTimer ip = none ∨ i.ethernetAddrCache ip = none) ∧
      ∀ ip dst age, i.ethernetAddrCache ip = some (dst, age) →
        age < cacheValidTime ∧ o.heard ip = some (dst, o.clock - age) ∧ age ≤ o.clock := by
  have guarded := admissible_throughout (o := { interface := { ethernetAddress, ipAddress } })
    serializes (by simpa using short)
  obtain ⟨faithful, consistent⟩ := guarded.invariant
    (fun o => o.Faithful ∧ o.interface.Consistent)
    ⟨faithful_new ethernetAddress ipAddress, consistent_new ethernetAddress ipAddress⟩ (by
      rintro o op ⟨faithful, consistent⟩ admissible
      refine ⟨faithful.step admissible, ?_⟩
      rw [interface_step]
      exact consistent.step (step_apply faithful.serializable admissible.1))
  refine ⟨consistent.requested, consistent.exclusive, ?_⟩
  intro ip dst age cached
  obtain ⟨heard, aged, young⟩ := faithful.current ip dst age cached
  exact ⟨young, heard, aged⟩

/-- What was learnt has expired when the second datagram comes. -/
theorem tables_consistent_expired :
    let dgram : IPv4Datagram := { header := { len := 20 } }
    let reply : ARPMessage := { opcode := ARPMessage.opcodeReply, senderIpAddress := 7 }
    let frame : EthernetFrame :=
      { header := { dst := ethernetBroadcast, type := EthernetHeader.typeARP },
        payload := [reply.fields] }
    let ops : List Op :=
      [.send dgram { ip := 7 }, .recv frame, .tick 30000, .send dgram { ip := 7 }]
    let ethernetAddress : EthernetAddress := Vector.replicate 6 2
    let ipAddress : Address := { ip := 1 }
    let o := run Observed.step { interface := { ethernetAddress, ipAddress } } ops
    o.interface.queueingIPDatagrams = [(dgram, 7)] ∧ (o.interface.arpTimer 7).isSome ∧
      o.interface.ethernetAddrCache 7 = none := by
  intro dgram reply frame ops ethernetAddress ipAddress
  have serializable : dgram.Serializable := by decide
  have serialized : ∃ payload, dgram.serialize = .ok payload := ⟨_, serializable.serialize_ok⟩
  have serializes : ∀ op ∈ ops, op.Serializes := by
    simp only [ops, List.forall_mem_cons]
    exact ⟨serialized, trivial, trivial, serialized, List.forall_mem_nil _⟩
  have queue : (run Observed.step { interface := { ethernetAddress, ipAddress } }
      ops).interface.queueingIPDatagrams = [(dgram, 7)] := by decide +kernel
  have tables := tables_consistent ethernetAddress ipAddress ops serializes (by decide)
  generalize run Observed.step { interface := { ethernetAddress, ipAddress } } ops = o
    at queue tables ⊢
  obtain ⟨requested, exclusive, _⟩ := tables
  have timed := requested (dgram, 7) (queue ▸ List.mem_singleton_self _)
  exact ⟨queue, timed, (exclusive 7).resolve_left (Option.isSome_iff_ne_none.mp timed)⟩

end Sponge.NetworkInterface
