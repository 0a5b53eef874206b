import Mathlib.Data.Fintype.Basic
import Sponge.NetworkSimulator.Routing

/-!
# Rounds of the simulator

In a round, the router makes a pass and then every segment exchanges its frames.
From one round to the next everything that is still to happen comes closer to its
end: a request of a host, its reply, the datagram, a request of the router, its
reply, and the datagram that is sent on.
-/

namespace Sponge.NetworkSimulator

open Lib Throwing NetworkInterface

section Besides

/-- What a host is besides its interface. -/
def Host.besides (h : Host) : HostName × Address × Address × List IPv4Datagram :=
  (h.name, h.myAddress, h.nextHop, h.expectingToReceive)

/-- What the network is besides its interfaces. -/
def Network.besides (n : Network) :
    List Route × List SendCall × (HostName → HostName × Address × Address × List IPv4Datagram) :=
  (n.router.routingTable, n.router.sendCalls, fun name => (n.hosts name).besides)

theorem keeps_interface {α : Type} (method : AsyncNetworkInterface.Method α) (place : Place) :
    Keeps Network.besides (Network.interface method place) := by
  intro n
  cases place with
  | port p =>
      have table := Router.keeps_routingTable p.id method n.router
      have calls := Router.keeps_sendCalls p.id method n.router
      rw [Network.interface, Network.onRouter, finalState_within, Network.besides, table, calls]
      rfl
  | host name =>
      rw [Network.interface, Network.onHost, finalState_within, Host.onInterface,
        finalState_within, Network.besides]
      refine congrArg (fun hosts => (n.router.routingTable, n.router.sendCalls, hosts)) ?_
      funext other
      by_cases same : other = name
      · subst same
        simp [Host.besides]
      · simp [same]

theorem keeps_exchangeFrames (parties : List Place) :
    Keeps Network.besides (Network.exchangeFrames parties) := by
  refine Keeps.bind (Keeps.mapM (fun x => ?_) parties) fun copies => ?_
  · exact (keeps_interface _ x).bind fun _ => keeps_pure _
  · refine Keeps.bind (Keeps.forM (fun copy => ?_) copies) fun _ => ?_
    · exact Keeps.forM (fun y => Keeps.forM (fun frame => keeps_interface _ y) _) _
    · exact Keeps.forM (fun copy => keeps_interface _ copy.1) copies

theorem keeps_simulatePhysicalConnections :
    Keeps Network.besides Network.simulatePhysicalConnections :=
  Keeps.forM keeps_exchangeFrames _

end Besides

/-- The hosts, in the order of their segments. -/
def HostName.all : List HostName := [defaultRouter, applesauce, cherrypie, dm42, dm43, hsRouter]

instance : Fintype Port := Fintype.ofList Port.all fun p => by cases p <;> decide

instance : Fintype HostName := Fintype.ofList HostName.all fun name => by cases name <;> decide

instance : Fintype Place :=
  Fintype.ofList (Port.all.map .port ++ HostName.all.map .host) fun place => by
    rcases place with p | name
    · cases p <;> decide
    · cases name <;> decide

/-- The segment of a host. -/
def HostName.port : HostName → Port
  | applesauce => .eth0
  | defaultRouter => .default
  | cherrypie => .eth2
  | hsRouter => .hs4
  | dm42 | dm43 => .uun3

namespace Place

def segment : Place → Port
  | port p => p
  | host name => name.port

def ipAddress : Place → Address
  | port p => p.address
  | host name => name.address

def ethernetAddress (random : Place → EthernetAddress) : Place → EthernetAddress
  | port p => randomRouterEthernetAddress (random (port p))
  | host name => randomHostEthernetAddress (random (host name))

/-- The datagrams of hosts are sent on, those of the router are not. -/
def weight : Place → ℕ
  | port _ => 0
  | host _ => 4

end Place

/-- No two interfaces on a segment have drawn the same address. -/
def Distinct (random : Place → EthernetAddress) : Prop :=
  ∀ i j : Place, i.segment = j.segment → i.ethernetAddress random = j.ethernetAddress random → i = j

theorem ipAddress_inj : ∀ i j : Place, i.segment = j.segment →
    i.ipAddress.ipv4Numeric = j.ipAddress.ipv4Numeric → i = j := by
  decide +kernel

/-- The mark of a private address is not that of a broadcast. -/
theorem ethernetAddress_ne_broadcast (random : Place → EthernetAddress) (i : Place) :
    i.ethernetAddress random ≠ ethernetBroadcast := by
  intro same
  cases i with
  | port p =>
      have first := congrArg (·[0]) same
      simp [Place.ethernetAddress, randomRouterEthernetAddress, ethernetBroadcast] at first
  | host name =>
      have first := congrArg (·[0] &&& 1) same
      have bits : (0xfe : UInt8) &&& 1 = 0 ∧ (0xff : UInt8) &&& 1 = 1 := by decide
      simp [Place.ethernetAddress, randomHostEthernetAddress, ethernetBroadcast, UInt8.and_assoc,
        bits] at first

/-- The interfaces of the network on their segments. -/
def layout (random : Place → EthernetAddress) (distinct : Distinct random) : Layout Place Port where
  segment := Place.segment
  ethernetAddress := Place.ethernetAddress random
  ipAddress := Place.ipAddress
  ethernetDistinct := distinct _ _
  ipDistinct := ipAddress_inj _ _
  unicast := ethernetAddress_ne_broadcast random

section Connections

variable {random : Place → EthernetAddress} {distinct : Distinct random} {n : Network}
  {s : Place → Station Place} {said : Place → List (Message Place)}

theorem Stage.mono {bound bound' : Port → ℕ}
    (stage : Stage (layout random distinct) Place.weight bound n s said)
    (le : ∀ c, bound c ≤ bound' c) :
    Stage (layout random distinct) Place.weight bound' n s said :=
  { stage with
    restrained := fun i k linked message membership =>
      (stage.restrained i k linked message membership).trans (le _) }

/-- The parties of an exchange are those on a segment. -/
theorem exists_segment : ∀ parties ∈ Network.physicalConnections,
    (∃ c : Port, ∀ x : Place, x ∈ parties ↔ x.segment = c) ∧ parties.Nodup ∧
      (pairs parties).Nodup := by
  decide +kernel

/-- The bounds when the exchanges between some of the parties are done. -/
def lowered (bound : ℕ) (done : List (List Place)) (c : Port) : ℕ :=
  if c ∈ done.flatten.map Place.segment then bound - 1 else bound

theorem lowered_le (bound : ℕ) (done : List (List Place)) (c : Port) :
    lowered bound done c ≤ bound := by
  rw [lowered]
  split
  · exact Nat.sub_le _ _
  · exact Nat.le_refl _

theorem update_lowered_le (bound : ℕ) (done : List (List Place)) {parties : List Place} {c : Port}
    (members : ∀ x : Place, x ∈ parties ↔ x.segment = c) (other : Port) :
    Function.update (lowered bound done) c (lowered bound done c - 1) other ≤
      lowered bound (done ++ [parties]) other := by
  by_cases same : other = c
  · subst same
    rw [Function.update_self]
    have least := Nat.sub_le_sub_right (lowered_le bound done other) 1
    refine least.trans ?_
    rw [lowered]
    split
    · exact Nat.le_refl _
    · exact Nat.sub_le _ _
  · have elsewhere : other ∉ parties.map Place.segment := by
      intro membership
      obtain ⟨x, isParty, rfl⟩ := List.mem_map.mp membership
      exact same ((members x).mp isParty)
    rw [Function.update_of_ne same]
    simp [lowered, List.map_append, List.mem_append, elsewhere]

/-- Interfaces that hear each other are among the parties of an exchange. -/
theorem segment_mem_connections : ∀ i k : Place, i.segment = k.segment → i ≠ k →
    i.segment ∈ Network.physicalConnections.flatten.map Place.segment := by
  decide +kernel

/-- The network when the exchanges between some of the parties are done. -/
def Connecting (random : Place → EthernetAddress) (distinct : Distinct random) (bound : ℕ)
    (start : Place → Station Place) (done : List (List Place)) (n : Network) : Prop :=
  ∃ s said, Stage (layout random distinct) Place.weight (lowered bound done) n s said ∧
    Exchanged (layout random distinct) Place.weight bound start s

theorem simulatePhysicalConnections_triple (bound : ℕ) (start : Place → Station Place) :
    Triple (Connecting random distinct bound start []) Network.simulatePhysicalConnections
      (fun _ => Connecting random distinct bound start Network.physicalConnections)
      fun _ _ => False := by
  refine Triple.forM (Connecting random distinct bound start) ?_
  rintro done parties rest whole n ⟨s, said, stage, exchanged⟩
  have membership : parties ∈ Network.physicalConnections :=
    whole ▸ List.mem_append_right done List.mem_cons_self
  obtain ⟨⟨c, members⟩, nodup, nodupPairs⟩ := exists_segment parties membership
  obtain ⟨next, s', said', ran, stage, more⟩ :=
    stage.exchangeFrames members nodup nodupPairs (lowered_le bound done c)
  rw [ran]
  exact ⟨s', said', stage.mono (update_lowered_le bound done members), exchanged.trans more⟩

/-- All segments exchange their frames. -/
theorem Stage.simulatePhysicalConnections {bound : ℕ}
    (stage : Stage (layout random distinct) Place.weight (fun _ => bound) n s said) :
    ∃ next s' said', Network.simulatePhysicalConnections n = .ok () next ∧
      Stage (layout random distinct) Place.weight (fun _ => bound - 1) next s' said' ∧
      Exchanged (layout random distinct) Place.weight bound s s' := by
  have begun : Connecting random distinct bound s [] n :=
    ⟨s, said, stage, fun _ => rfl, fun _ => rfl, fun _ => .inl rfl⟩
  obtain ⟨_, next, ran, s', said', stage, exchanged⟩ :=
    (simulatePhysicalConnections_triple bound s).returns begun
  refine ⟨next, s', said', ran, { stage with restrained := ?_ }, exchanged⟩
  intro i k linked message membership
  have bounded := stage.restrained i k linked message membership
  have connected : lowered bound Network.physicalConnections i.segment = bound - 1 :=
    if_pos (segment_mem_connections i k linked.1 linked.2)
  exact bounded.trans_eq connected

end Connections

section Rounds

/-- The table that the router gets. -/
def routingTable : List Route := routes.foldl (insertDescending (·.prefixLength.toNat)) []

theorem find?_routingTable (dst : UInt32) :
    routingTable.find? (·.isMatch dst) = longestPrefixRoute routes dst := by
  have found := Router.find?_routingTable {} rfl (show ∀ route ∈ routes,
    route.prefixLength.toNat ≤ 32 by decide) dst
  rwa [Router.routingTable_foldl_addRoute] at found

/-- What the router is to do with a datagram. -/
def forwarding (dgram : IPv4Datagram) : Option SendCall :=
  Router.forwarded (longestPrefixRoute routes) dgram

variable {random : Place → EthernetAddress} {distinct : Distinct random} {bound : ℕ}
  {n next : Network} {s s' : Place → Station Place} {said : Place → List (Message Place)}

/-- The network between two rounds.  What has been sent by the router is what has
come out of its interfaces, along the routes. -/
structure Working (random : Place → EthernetAddress) (distinct : Distinct random) (bound : ℕ)
    (n : Network) (s : Place → Station Place) (said : Place → List (Message Place)) : Prop
    extends Stage (layout random distinct) Place.weight (fun _ => bound) n s said where
  busy : ∀ p, (s (.port p)).interface.datagramsOut ≠ [] → 4 ≤ bound
  table : n.router.routingTable = routingTable
  sent : ∀ p, (s (.port p)).submitted = sentOn p.id n.router.sendCalls
  forwarded : n.router.sendCalls.Perm
    ((Port.all.flatMap fun p => (s (.port p)).collected).filterMap forwarding)

/-- The hosts have neither sent nor taken anything. -/
structure Kept (n next : Network) (s s' : Place → Station Place) : Prop where
  submitted : ∀ name, (s' (.host name)).submitted = (s (.host name)).submitted
  collected : ∀ name, (s' (.host name)).collected = (s (.host name)).collected
  besides : ∀ name, (next.hosts name).besides = (n.hosts name).besides

theorem Working.connected (working : Working random distinct bound n s said) :
    n.router.Connected := by
  rw [Router.Connected, working.table, working.shows.queues, List.length_map]
  decide +kernel

theorem Working.lookup (working : Working random distinct bound n s said) :
    n.router.lookup = longestPrefixRoute routes := by
  funext dst
  rw [Router.lookup, working.table, find?_routingTable]

theorem Working.passCalls_eq (working : Working random distinct bound n s said) :
    passCalls n s =
      (Port.all.flatMap fun p => (s (.port p)).interface.datagramsOut).filterMap forwarding := by
  rw [passCalls, working.lookup]
  rfl

theorem sentOn_append (number : ℕ) (calls later : List SendCall) :
    sentOn number (calls ++ later) = sentOn number calls ++ sentOn number later := by
  rw [sentOn, List.filter_append, List.map_append]
  rfl

/-- Only hosts hear the interfaces of the router. -/
theorem exists_host_of_linked {i : Place} {p : Port}
    (linked : (layout random distinct).Linked i (.port p)) : ∃ name, i = .host name := by
  cases i with
  | host name => exact ⟨name, rfl⟩
  | port q => exact absurd (congrArg Place.port linked.1) linked.2

/-- One round. -/
theorem Working.round (working : Working random distinct bound n s said) :
    ∃ next s' said', Network.round n = .ok () next ∧
      Working random distinct (bound - 1) next s' said' ∧ Kept n next s s' := by
  obtain ⟨r, said₁, routes, stage, table, calls⟩ := working.toStage.route working.connected
    fun p q nonempty => Nat.le_of_succ_le (working.busy p nonempty)
  obtain ⟨next, s', said', exchanges, stage, exchanged⟩ := stage.simulatePhysicalConnections
  have besides := keeps_simulatePhysicalConnections.of_ok exchanges
  have sendCalls : next.router.sendCalls = n.router.sendCalls ++ passCalls n s :=
    (congrArg (·.2.1) besides).trans calls
  refine ⟨next, s', said', ?_, { stage with busy := ?_, table := ?_, sent := ?_, forwarded := ?_ },
    ?_, ?_, ?_⟩
  · rw [Network.round, bind_of_ok routes, exchanges]
  · intro p nonempty
    rcases exchanged.arrived (.port p) with same | ⟨i, linked, below⟩
    · exact absurd same nonempty
    · obtain ⟨name, rfl⟩ := exists_host_of_linked linked
      exact Nat.le_sub_one_of_lt below
  · exact (congrArg (·.1) besides).trans (table.trans working.table)
  · intro p
    rw [exchanged.submitted, sendCalls, sentOn_append, ← working.sent]
    rfl
  · have collected : (Port.all.flatMap fun p => (s' (.port p)).collected) =
        Port.all.flatMap fun p =>
          (s (.port p)).collected ++ (s (.port p)).interface.datagramsOut :=
      congrArg Port.all.flatMap (funext fun p => exchanged.collected (.port p))
    rw [collected, sendCalls, working.passCalls_eq]
    refine (working.forwarded.append_right _).trans ?_
    rw [← List.filterMap_append]
    exact (List.flatMap_append_perm _ _ _).filterMap _
  · exact fun name => exchanged.submitted (.host name)
  · exact fun name => exchanged.collected (.host name)
  · exact fun name => congrFun (congrArg (·.2.2) besides) name

theorem Kept.trans {later : Network} {s'' : Place → Station Place} (first : Kept n next s s')
    (second : Kept next later s' s'') : Kept n later s s'' where
  submitted name := (second.submitted name).trans (first.submitted name)
  collected name := (second.collected name).trans (first.collected name)
  besides name := (second.besides name).trans (first.besides name)

/-- As many rounds as the bound leave nothing to be heard or to be sent on. -/
theorem Working.rounds (working : Working random distinct bound n s said) {amount : ℕ}
    (enough : bound ≤ amount) :
    ∃ next s' said', (List.range amount).forM (fun _ => Network.round) n = .ok () next ∧
      Working random distinct 0 next s' said' ∧ Kept n next s s' := by
  let inv (done : List ℕ) (now : Network) : Prop := ∃ s' said',
    Working random distinct (bound - done.length) now s' said' ∧ Kept n now s s'
  have begun : inv [] n := ⟨s, said, working, fun _ => rfl, fun _ => rfl, fun _ => rfl⟩
  have loop : Triple (inv []) ((List.range amount).forM fun _ => Network.round)
      (fun _ => inv (List.range amount)) fun _ _ => False := by
    refine Triple.forM inv ?_
    rintro done _ _ _ now ⟨s₁, said₁, working, kept⟩
    obtain ⟨next, s₂, said₂, ran, working, more⟩ := working.round
    rw [Nat.sub_sub] at working
    rw [ran]
    refine ⟨s₂, said₂, ?_, kept.trans more⟩
    rwa [List.length_append]
  obtain ⟨_, next, ran, s', said', working, kept⟩ := loop.returns begun
  rw [List.length_range, Nat.sub_eq_zero_of_le enough] at working
  exact ⟨next, s', said', ran, working, kept⟩

/-- When nothing is left to be heard, every datagram has come out. -/
theorem Working.quiet (working : Working random distinct 0 n s said) {i k : Place}
    (linked : (layout random distinct).Linked i k) :
    (s k).receivedFrom i = (datagramsFor ((layout random distinct).ip k) (s i).submitted).map
      IPv4Datagram.reread := by
  have silent {i k : Place} (linked : (layout random distinct).Linked i k) :
      (s k).heard i = (said i).length := by
    refine Nat.le_antisymm (working.represents.hears i k linked).heard ?_
    rw [← List.drop_eq_nil_iff, List.eq_nil_iff_forall_not_mem]
    intro message membership
    have none := working.restrained i k linked message membership
    exact absurd (message.rank_pos Place.weight i) (Nat.not_lt.mpr none)
  exact (working.represents.delivered linked).2 (silent linked) (silent linked.symm)

end Rounds

end Sponge.NetworkSimulator
