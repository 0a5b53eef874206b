import Mathlib.Algebra.BigOperators.Group.Finset.Piecewise
import Mathlib.Algebra.BigOperators.Group.Finset.Sigma
import Sponge.NetworkSimulator.Checking
import Sponge.NetworkSimulator.Rounds

/-!
# What comes out of the hosts

When nothing is left to be heard, the datagrams that have come out of a host are
those that the hosts have given to the router and that the routes lead to it, with
their time to live lowered.  All datagrams are counted by their bytes.
-/

namespace Sponge

namespace IPv4Datagram

variable {d d' : IPv4Datagram}

theorem WellFormed.bytes_eq (wellFormed : d.WellFormed) :
    d.bytes = d.headerBytes d.checksum ++ d.payload.concatenate := by
  rw [bytes, serialized, wellFormed.serialize_eq]
  rfl

/-- The bytes do not depend on the checksum that a datagram has, or on the pieces of
its payload. -/
theorem WellFormed.bytes_congr (wellFormed : d.WellFormed) (wellFormed' : d'.WellFormed)
    (header : { d'.header with cksum := 0 } = { d.header with cksum := 0 })
    (payload : d'.payload.concatenate = d.payload.concatenate) : d'.bytes = d.bytes := by
  have headers (cksum : UInt16) : d'.headerBytes cksum = d.headerBytes cksum := by
    have fields := congrArg (fun h : IPv4Header => { h with cksum }.fields) header
    have padding := congrArg IPv4Header.padding header
    exact congrArg₂ (· ++ ·) fields padding
  rw [wellFormed.bytes_eq, wellFormed'.bytes_eq, checksum, checksum, headers, headers, payload]

theorem concatenate_reread (d : IPv4Datagram) :
    d.reread.payload.concatenate = d.payload.concatenate :=
  List.append_nil _

theorem WellFormed.bytes_reread (wellFormed : d.WellFormed) : d.reread.bytes = d.bytes :=
  wellFormed.bytes_congr wellFormed.reread rfl d.concatenate_reread

end IPv4Datagram

/-- A datagram is sent on with the same bytes, whether or not it has been read
back before. -/
theorem Router.bytes_aged_reread {dgram : IPv4Datagram} (wellFormed : dgram.WellFormed) :
    (aged dgram.reread).bytes = (aged dgram).bytes :=
  (wellFormed_aged wellFormed).bytes_congr (wellFormed_aged wellFormed.reread) rfl
    dgram.concatenate_reread

namespace NetworkSimulator

open Lib NetworkInterface IPv4Datagram

section Counting

variable {κ ι α : Type*} [DecidableEq κ] [Fintype ι] {M : Type*} [AddCommMonoid M]

/-- A sum over entries, one key after another. -/
theorem sum_map_eq_sum_keys {key : ι → κ} (injective : Function.Injective key) (f : α → M)
    (entries : List (κ × α)) (keys : ∀ entry ∈ entries, ∃ i, entry.1 = key i) :
    (entries.map fun entry => f entry.2).sum =
      ∑ i, ((entries.filter (·.1 = key i)).map fun entry => f entry.2).sum := by
  induction entries with
  | nil => simp
  | cons entry rest inductionHypothesis =>
      classical
      rw [List.forall_mem_cons] at keys
      obtain ⟨⟨i₀, this⟩, others⟩ := keys
      have split (i : ι) :
          (((entry :: rest).filter (·.1 = key i)).map fun entry => f entry.2).sum =
            (if i₀ = i then f entry.2 else 0) +
              ((rest.filter (·.1 = key i)).map fun entry => f entry.2).sum := by
        by_cases same : i₀ = i
        · simp [this, same]
        · have other : key i₀ ≠ key i := fun equal => same (injective equal)
          simp [this, same, other]
      rw [Finset.sum_congr rfl fun i _ => split i, Finset.sum_add_distrib, Finset.sum_ite_eq,
        if_pos (Finset.mem_univ i₀), ← inductionHypothesis others]
      rfl

end Counting

/-- The datagrams that a host has given to the router. -/
def toRouter (sender : HostName) (submitted : List (IPv4Datagram × UInt32)) : List IPv4Datagram :=
  datagramsFor sender.port.address.ipv4Numeric submitted

/-- The datagrams that the router has sent to a host. -/
def toHost (receiver : HostName) (calls : List SendCall) : List IPv4Datagram :=
  datagramsFor receiver.address.ipv4Numeric (sentOn receiver.port.id calls)

/-- What comes out of a host if the router gets a datagram. -/
def arrival (receiver : HostName) (dgram : IPv4Datagram) : Multiset Buffer :=
  allBytes (toHost receiver (forwarding dgram).toList)

/-- The route with the longest prefix leads to the host. -/
def LeadsTo (receiver : HostName) (dst : UInt32) : Prop :=
  (longestPrefixRoute routes dst).any fun route => route.interfaceNum = receiver.port.id ∧
    (route.nextHop.getD (.fromIpv4Numeric dst)).ipv4Numeric = receiver.address.ipv4Numeric

instance (receiver : HostName) (dst : UInt32) : Decidable (LeadsTo receiver dst) :=
  inferInstanceAs (Decidable (_ = true))

/-- What comes out of a host if the router gets some datagrams. -/
def arrivals (receiver : HostName) (dgrams : List IPv4Datagram) : Multiset Buffer :=
  (dgrams.map (arrival receiver)).sum

section Arrivals

variable {receiver : HostName} {dgram : IPv4Datagram} {dgrams : List IPv4Datagram}

theorem toHost_append (receiver : HostName) (calls later : List SendCall) :
    toHost receiver (calls ++ later) = toHost receiver calls ++ toHost receiver later := by
  rw [toHost, sentOn_append, datagramsFor_append]
  rfl

theorem toRouter_append (sender : HostName) (submitted more : List (IPv4Datagram × UInt32)) :
    toRouter sender (submitted ++ more) = toRouter sender submitted ++ toRouter sender more :=
  datagramsFor_append _ _ _

theorem mem_of_mem_toHost {calls : List SendCall} (membership : dgram ∈ toHost receiver calls) :
    ∃ call ∈ calls, call.dgram = dgram := by
  obtain ⟨entry, sent, rfl⟩ := List.mem_map.mp membership
  obtain ⟨call, made, rfl⟩ := List.mem_map.mp (List.mem_of_mem_filter sent)
  exact ⟨call, List.mem_of_mem_filter made, rfl⟩

theorem toHost_perm {calls later : List SendCall} (same : calls.Perm later) :
    (toHost receiver calls).Perm (toHost receiver later) :=
  (((same.filter _).map _).filter _).map _

theorem allBytes_perm {more : List IPv4Datagram} (same : dgrams.Perm more) :
    allBytes dgrams = allBytes more :=
  Multiset.coe_eq_coe.mpr (same.map bytes)

theorem allBytes_toHost (receiver : HostName) (dgrams : List IPv4Datagram) :
    allBytes (toHost receiver (dgrams.filterMap forwarding)) = arrivals receiver dgrams := by
  induction dgrams with
  | nil => rfl
  | cons dgram rest inductionHypothesis =>
      rw [Router.filterMap_cons_toList, toHost_append, allBytes_append, inductionHypothesis]
      rfl

theorem arrivals_append (receiver : HostName) (dgrams more : List IPv4Datagram) :
    arrivals receiver (dgrams ++ more) = arrivals receiver dgrams + arrivals receiver more := by
  rw [arrivals, List.map_append, List.sum_append]
  rfl

theorem arrivals_flatMap_all (receiver : HostName) (f : Port → List IPv4Datagram) :
    arrivals receiver (Port.all.flatMap f) = ∑ p, arrivals receiver (f p) := by
  have univ : ∑ p, arrivals receiver (f p) =
      (Port.all.map fun p => arrivals receiver (f p)).sum :=
    List.sum_toFinset _ (by decide)
  rw [univ]
  induction Port.all with
  | nil => rfl
  | cons p rest inductionHypothesis =>
      rw [List.flatMap_cons, arrivals_append, inductionHypothesis]
      rfl

theorem toHost_singleton (receiver : HostName) (call : SendCall) :
    toHost receiver [call] =
      if call.interfaceNum = receiver.port.id ∧
        call.nextHop.ipv4Numeric = receiver.address.ipv4Numeric then [call.dgram] else [] := by
  by_cases here : call.interfaceNum = receiver.port.id
  · by_cases leads : call.nextHop.ipv4Numeric = receiver.address.ipv4Numeric <;>
      simp [toHost, sentOn, datagramsFor, here, leads]
  · simp [toHost, sentOn, here]

theorem arrival_eq (receiver : HostName) (dgram : IPv4Datagram) :
    arrival receiver dgram =
      if 1 < dgram.header.ttl ∧ LeadsTo receiver dgram.header.dst then {(Router.aged dgram).bytes}
      else 0 := by
  rw [arrival, forwarding, Router.forwarded]
  by_cases dead : dgram.header.ttl ≤ 1
  · rw [if_pos dead, if_neg fun alive => UInt8.not_lt.mpr dead alive.1]
    rfl
  · have alive := UInt8.not_le.mp dead
    rw [if_neg dead]
    cases found : longestPrefixRoute routes dgram.header.dst with
    | none =>
        have nowhere : ¬ LeadsTo receiver dgram.header.dst := by simp [LeadsTo, found]
        rw [if_neg fun both => nowhere both.2]
        rfl
    | some route =>
        have leadsTo : LeadsTo receiver dgram.header.dst ↔
            (Router.sendCall dgram route).interfaceNum = receiver.port.id ∧
              (Router.sendCall dgram route).nextHop.ipv4Numeric =
                receiver.address.ipv4Numeric := by
          simp [LeadsTo, found, Router.sendCall]
        show allBytes (toHost receiver [Router.sendCall dgram route]) = _
        rw [toHost_singleton]
        by_cases leads : LeadsTo receiver dgram.header.dst
        · rw [if_pos (leadsTo.mp leads), if_pos ⟨alive, leads⟩]
          rfl
        · rw [if_neg fun here => leads (leadsTo.mpr here), if_neg fun both => leads both.2]
          rfl

/-- A datagram that has been read back has the same route and the same bytes. -/
theorem arrival_reread (receiver : HostName) (wellFormed : dgram.WellFormed) :
    arrival receiver dgram.reread = arrival receiver dgram := by
  rw [arrival_eq, arrival_eq, Router.bytes_aged_reread wellFormed]
  rfl

theorem arrivals_reread (receiver : HostName) (wellFormed : ∀ dgram ∈ dgrams, dgram.WellFormed) :
    arrivals receiver (dgrams.map reread) = arrivals receiver dgrams := by
  rw [arrivals, arrivals, List.map_map]
  exact congrArg List.sum (List.map_congr_left fun dgram membership =>
    arrival_reread receiver (wellFormed dgram membership))

end Arrivals

section Quiet

variable {random : Place → EthernetAddress} {distinct : Distinct random} {n : Network}
  {s : Place → Station Place} {said : Place → List (Message Place)}

/-- Every host sends well-formed datagrams to its next hop. -/
def Proper (s : Place → Station Place) : Prop :=
  ∀ name, ∀ entry ∈ (s (.host name)).submitted,
    entry.1.WellFormed ∧ entry.2 = name.nextHop.ipv4Numeric

theorem linked_port (name : HostName) :
    (layout random distinct).Linked (.port name.port) (.host name) :=
  ⟨rfl, Place.noConfusion⟩

theorem Represents.receivedFrom_eq_nil {layout : Layout Place Port}
    (inv : Represents layout s said) {i k : Place} (apart : ¬ layout.Linked i k) :
    (s k).receivedFrom i = [] := by
  rw [Station.receivedFrom, List.map_eq_nil_iff, List.filter_eq_nil_iff]
  intro entry received same
  exact apart (of_decide_eq_true same ▸ (inv.collects k).sources entry received)

/-- The router has taken all that has come out of its interfaces. -/
theorem Working.collected_eq (working : Working random distinct 0 n s said) (p : Port) :
    (s (.port p)).collected = (s (.port p)).received.map (·.2) := by
  have empty : (s (.port p)).interface.datagramsOut = [] := by
    by_contra nonempty
    exact absurd (working.busy p nonempty) (by decide)
  rw [(working.represents.collects (.port p)).collected, empty, List.append_nil]

/-- The router has got all that the hosts have given to it. -/
theorem Working.arrivals_collected (working : Working random distinct 0 n s said)
    (proper : Proper s) (receiver : HostName) :
    arrivals receiver (Port.all.flatMap fun p => (s (.port p)).collected) =
      ∑ sender, arrivals receiver (toRouter sender (s (.host sender)).submitted) := by
  have perSource (p : Port) : arrivals receiver (s (.port p)).collected =
      ∑ sender, arrivals receiver ((s (.port p)).receivedFrom (.host sender)) := by
    have sources : ∀ entry ∈ (s (.port p)).received, ∃ sender, entry.1 = .host sender :=
      fun entry received => exists_host_of_linked
        ((working.represents.collects (.port p)).sources entry received)
    have split := sum_map_eq_sum_keys (fun _ _ => Place.host.inj) (arrival receiver) _ sources
    simp only [arrivals, working.collected_eq, Station.receivedFrom, List.map_map]
    exact split
  have elsewhere {sender : HostName} {p : Port} (other : p ≠ sender.port) :
      arrivals receiver ((s (.port p)).receivedFrom (.host sender)) = 0 := by
    have apart : ¬ (layout random distinct).Linked (.host sender) (.port p) :=
      fun linked => other linked.1.symm
    rw [working.represents.receivedFrom_eq_nil apart]
    rfl
  have here (sender : HostName) :
      arrivals receiver ((s (.port sender.port)).receivedFrom (.host sender)) =
        arrivals receiver (toRouter sender (s (.host sender)).submitted) := by
    rw [working.quiet (linked_port sender).symm]
    refine arrivals_reread receiver fun dgram membership => ?_
    obtain ⟨entry, sent, rfl⟩ := List.mem_map.mp membership
    exact (proper sender entry (List.mem_of_mem_filter sent)).1
  calc arrivals receiver (Port.all.flatMap fun p => (s (.port p)).collected)
    _ = ∑ p, ∑ sender, arrivals receiver ((s (.port p)).receivedFrom (.host sender)) := by
      rw [arrivals_flatMap_all]
      exact Finset.sum_congr rfl fun p _ => perSource p
    _ = ∑ sender : HostName, ∑ p,
          arrivals receiver ((s (.port p)).receivedFrom (.host sender)) := Finset.sum_comm
    _ = ∑ sender, arrivals receiver (toRouter sender (s (.host sender)).submitted) := by
      refine Finset.sum_congr rfl fun sender _ => ?_
      rw [Finset.sum_eq_single sender.port (fun p _ other => elsewhere other)
        (fun absent => absurd (Finset.mem_univ _) absent)]
      exact here sender

/-- What the router sends is well formed. -/
theorem Working.wellFormed_sent (working : Working random distinct 0 n s said) {call : SendCall}
    (sent : call ∈ n.router.sendCalls) : call.dgram.WellFormed := by
  obtain ⟨dgram, collected, forwards⟩ :=
    List.mem_filterMap.mp (working.forwarded.mem_iff.mp sent)
  obtain ⟨p, _, collected⟩ := List.mem_flatMap.mp collected
  obtain ⟨_, found⟩ := Option.ite_none_left_eq_some.mp forwards
  obtain ⟨route, _, rfl⟩ := Option.map_eq_some_iff.mp found
  exact Router.wellFormed_aged
    (working.represents.wellFormed (List.mem_append_left _ collected))

/-- No host sends to another one directly. -/
theorem nextHop_ne_address : ∀ name other : HostName,
    name.nextHop.ipv4Numeric ≠ other.address.ipv4Numeric := by
  decide +kernel

/-- All that comes out of a host comes from the router. -/
theorem Working.received_host (working : Working random distinct 0 n s said) (proper : Proper s)
    (receiver : HostName) :
    (s (.host receiver)).received.map (·.2) =
      (toHost receiver n.router.sendCalls).map reread := by
  have fromRouter : (s (.host receiver)).received.map (·.2) =
      (s (.host receiver)).receivedFrom (.port receiver.port) := by
    rw [Station.receivedFrom, List.filter_eq_self.mpr]
    intro entry received
    have linked := (working.represents.collects (.host receiver)).sources entry received
    cases source : entry.1 with
    | port p =>
        rw [source] at linked
        exact decide_eq_true (congrArg Place.port linked.1)
    | host sender =>
        have fromHost := Station.mem_receivedFrom received
        rw [source] at linked fromHost
        rw [working.quiet linked] at fromHost
        obtain ⟨dgram, given, _⟩ := List.mem_map.mp fromHost
        obtain ⟨entry, sent, _⟩ := List.mem_map.mp given
        obtain ⟨sent, direct⟩ := List.mem_filter.mp sent
        have hop := (proper sender entry sent).2
        exact absurd (hop.symm.trans (of_decide_eq_true direct))
          (nextHop_ne_address sender receiver)
  rw [fromRouter, working.quiet (linked_port receiver), working.sent]
  rfl

/-- Everything that the hosts have sent and that the routes lead to a host has come
out there. -/
theorem Working.arrived (working : Working random distinct 0 n s said) (proper : Proper s)
    (receiver : HostName) :
    allBytes (s (.host receiver)).collected +
        allBytes (s (.host receiver)).interface.datagramsOut =
      ∑ sender, arrivals receiver (toRouter sender (s (.host sender)).submitted) := by
  have wellFormed : ∀ dgram ∈ toHost receiver n.router.sendCalls, dgram.WellFormed := by
    intro dgram membership
    obtain ⟨call, sent, rfl⟩ := mem_of_mem_toHost membership
    exact working.wellFormed_sent sent
  rw [← working.arrivals_collected proper, ← allBytes_toHost,
    ← allBytes_perm (toHost_perm working.forwarded), ← allBytes_append,
    ← (working.represents.collects (.host receiver)).collected,
    working.received_host proper]
  refine congrArg Multiset.ofList ?_
  rw [List.map_map]
  exact List.map_congr_left fun dgram membership => (wellFormed dgram membership).bytes_reread

end Quiet

end NetworkSimulator

end Sponge
