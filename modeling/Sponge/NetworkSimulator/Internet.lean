import Mathlib.Data.Nat.Digits.Defs
import Sponge.NetworkSimulator.Arrivals

/-!
# The network from outside

All that the hosts can observe of the network: a datagram that a host gives to the
router comes out of the host to which the routes lead it, with its time to live
lowered, and no other datagram comes out of a host.  Addresses are not resolved
here, nothing is queued, and there are no frames.
-/

namespace Sponge.NetworkSimulator

open Lib Throwing NetworkInterface IPv4Datagram

/-- A call of the owner of a network. -/
inductive Call where
  | sendTo (name : HostName) (destination : Address) (ttl : UInt8) (random : UInt32)
  | expect (name : HostName) (expected : IPv4Datagram)
  | simulate

/-- The datagrams that a call expects can be serialized. -/
def Call.Serializable : Call → Prop
  | .expect _ expected => expected.Serializable
  | _ => True

def Network.perform (order : List HostName) : Call → Network.Method Unit
  | .sendTo name destination ttl random => do
      let _ ← Network.sendTo name destination ttl random
  | .expect name expected => Network.expect name expected
  | .simulate => Network.simulate order

/-- A datagram of the sender reaches a host: the sender knows the router, the datagram
has time to live, and the route leads to the host. -/
def Reaches (sender receiver : HostName) (dst : UInt32) (ttl : UInt8) : Prop :=
  sender.nextHop.ipv4Numeric = sender.port.address.ipv4Numeric ∧ 1 < ttl ∧ LeadsTo receiver dst

instance (sender receiver : HostName) (dst : UInt32) (ttl : UInt8) :
    Decidable (Reaches sender receiver dst ttl) :=
  inferInstanceAs (Decidable (_ ∧ _ ∧ _))

/-- What is still to come out of the hosts, and what they expect, as bytes. -/
structure Internet where
  arriving : HostName → Multiset Buffer := fun _ => 0
  expected : HostName → Multiset Buffer := fun _ => 0

namespace Internet

/-- The datagram comes out with its time to live lowered. -/
def sendTo (internet : Internet) (sender : HostName) (dgram : IPv4Datagram) : Internet :=
  { internet with
    arriving := fun receiver => internet.arriving receiver +
      if Reaches sender receiver dgram.header.dst dgram.header.ttl then {(Router.aged dgram).bytes}
      else 0 }

def expect (internet : Internet) (name : HostName) (expected : IPv4Datagram) : Internet :=
  { internet with
    expected := Function.update internet.expected name
      (internet.expected name + {expected.bytes}) }

/-- All hosts get what they expect. -/
def Agrees (internet : Internet) : Prop :=
  ∀ name, internet.arriving name = internet.expected name

instance (internet : Internet) : Decidable internet.Agrees :=
  inferInstanceAs (Decidable (∀ name, internet.arriving name = internet.expected name))

/-- Nothing, if the simulation throws. -/
def perform (internet : Internet) : Call → Option Internet
  | .sendTo name destination ttl random =>
      some (internet.sendTo name (Host.datagram name.address destination ttl random))
  | .expect name expected => some (internet.expect name expected)
  | .simulate => if internet.Agrees then some {} else none

end Internet

section Datagrams

theorem length_toString (n : UInt32) : (toString n).toList.length ≤ 10 := by
  have digits : (toString n).toList = Nat.toDigits 10 n.toNat := by
    show (Nat.repr n.toNat).toList = _
    rw [Nat.repr, String.toList_ofList]
  rw [digits]
  exact Nat.toDigits_length 10 n.toNat 10 (by decide)
    (n.toNat_lt.trans (by decide))

theorem size_payload_le (src destination : Address) (ttl : UInt8) (random : UInt32) :
    (Host.datagram src destination ttl random).payload.size ≤ 28 := by
  have single (buffer : Buffer) : BufferList.size [buffer] = buffer.length := rfl
  have digits := length_toString random
  have around : "random payload: \x7b".toList.length = 17 ∧ "\x7d".toList.length = 1 := by decide
  rw [Host.datagram, single, bytesOf, List.length_map, String.toList_append, String.toList_append,
    List.length_append, List.length_append]
  omega

/-- The datagrams that hosts make are well formed. -/
theorem wellFormed_datagram (src destination : Address) (ttl : UInt8) (random : UInt32) :
    (Host.datagram src destination ttl random).WellFormed := by
  have short := size_payload_le src destination ttl random
  have len : (Host.datagram src destination ttl random).header.len =
    UInt16.ofNat (5 * 4 + (Host.datagram src destination ttl random).payload.size) := rfl
  have hlen : (Host.datagram src destination ttl random).header.hlen = 5 := rfl
  refine ⟨⟨rfl, Nat.le_refl 5, show 5 ≤ 15 by decide, show 0 < 2 ^ 13 by decide⟩, ?_⟩
  rw [len, hlen, UInt16.toNat_ofNat_of_lt']
  · rfl
  · exact Nat.lt_of_le_of_lt (Nat.add_le_add_left short 20) (by decide)

end Datagrams

section Routes

/-- The routes lead to a host what the router gets. -/
theorem arrivals_toRouter (sender receiver : HostName) (dgram : IPv4Datagram) :
    arrivals receiver (toRouter sender [(dgram, sender.nextHop.ipv4Numeric)]) =
      if Reaches sender receiver dgram.header.dst dgram.header.ttl then {(Router.aged dgram).bytes}
      else 0 := by
  by_cases knows : sender.nextHop.ipv4Numeric = sender.port.address.ipv4Numeric
  · have given : toRouter sender [(dgram, sender.nextHop.ipv4Numeric)] = [dgram] := by
      rw [toRouter, knows, datagramsFor_cons_self, datagramsFor_nil]
    rw [given]
    simp only [arrivals, List.map_cons, List.map_nil, List.sum_singleton, arrival_eq, Reaches, knows,
      true_and]
  · rw [toRouter, datagramsFor_cons_of_ne knows, if_neg fun reaches => knows reaches.1]
    rfl

end Routes

section Refinement

variable {random : Place → EthernetAddress} {distinct : Distinct random} {n : Network}
  {s : Place → Station Place} {said : Place → List (Message Place)} {internet : Internet}

theorem Place.weight_le : ∀ i : Place, i.weight ≤ 4 := by
  decide

/-- All that a host can start ends after seven exchanges: its request, the reply, the
datagram, and the same again for the router. -/
theorem restrained_seven (s : Place → Station Place) (said : Place → List (Message Place)) :
    Restrained (layout random distinct) Place.weight (fun _ => 7) s said := by
  intro i k _ message _
  cases message with
  | request target => exact Nat.add_le_add_right i.weight_le 3
  | reply asker => exact (Nat.add_le_add_right asker.weight_le 2).trans (show 6 ≤ 7 by decide)
  | datagram receiver dgram => exact (Nat.add_le_add_right i.weight_le 1).trans (show 5 ≤ 7 by decide)

/-- The hosts besides their interfaces, with what they expect. -/
structure Equipped (n : Network) (expected : HostName → Multiset Buffer) : Prop where
  addresses : ∀ name, (n.hosts name).myAddress = name.address
  nextHops : ∀ name, (n.hosts name).nextHop = name.nextHop
  serializable : ∀ name, ∀ dgram ∈ (n.hosts name).expectingToReceive, dgram.Serializable
  expected : ∀ name, allBytes (n.hosts name).expectingToReceive = expected name

theorem Equipped.of_besides {next : Network} {expected : HostName → Multiset Buffer}
    (equipped : Equipped n expected)
    (besides : ∀ name, (next.hosts name).besides = (n.hosts name).besides) :
    Equipped next expected := by
  have addresses name := congrArg (·.2.1) (besides name)
  have nextHops name := congrArg (·.2.2.1) (besides name)
  have expecting name := congrArg (·.2.2.2) (besides name)
  simp only [Host.besides] at addresses nextHops expecting
  refine ⟨fun name => ?_, fun name => ?_, fun name => ?_, fun name => ?_⟩
  · rw [addresses, equipped.addresses]
  · rw [nextHops, equipped.nextHops]
  · rw [expecting]
    exact equipped.serializable name
  · rw [expecting, equipped.expected]

/-- The network between two calls, and what is observed of it. -/
structure Corresponds (random : Place → EthernetAddress) (distinct : Distinct random)
    (n : Network) (s : Place → Station Place) (said : Place → List (Message Place))
    (internet : Internet) : Prop extends Working random distinct 7 n s said where
  proper : Proper s
  equipped : Equipped n internet.expected
  arriving : ∀ receiver,
    allBytes (s (.host receiver)).collected + internet.arriving receiver =
      ∑ sender, arrivals receiver (toRouter sender (s (.host sender)).submitted)

/-- The network does what is observed of it. -/
def Implements (random : Place → EthernetAddress) (distinct : Distinct random) (n : Network)
    (internet : Internet) : Prop :=
  ∃ s said, Corresponds random distinct n s said internet

theorem implements_new (random : Place → EthernetAddress) (distinct : Distinct random) :
    Implements random distinct (Network.new random) {} := by
  obtain ⟨interfaces, calls⟩ :=
    Router.interfaces_foldl_addRoute (Network.routerWith random Port.all) routes
  have noCalls : (Network.new random).router.sendCalls = [] := calls
  refine ⟨(layout random distinct).initial, fun _ => [], ?_⟩
  exact {
    shows := ⟨interfaces, fun _ => rfl⟩
    represents := represents_initial _
    aligned := fun _ _ _ => rfl
    restrained := restrained_seven _ _
    busy := fun _ _ => by decide
    table := Router.routingTable_foldl_addRoute _ routes
    sent := fun _ => by rw [noCalls]; rfl
    forwarded := by rw [noCalls]; exact .refl _
    proper := fun _ => List.forall_mem_nil _
    equipped := ⟨fun _ => rfl, fun _ => rfl, fun _ => List.forall_mem_nil _, fun _ => rfl⟩
    arriving := fun receiver => (Finset.sum_const_zero).symm }

section Sending

theorem Station.sendDatagram_run {dgram : IPv4Datagram} (serializable : dgram.Serializable)
    (nextHop : Address) (s : Station Place) :
    AsyncNetworkInterface.base (NetworkInterface.sendDatagram dgram nextHop) s.interface =
      .ok () (s.sendDatagram dgram nextHop).interface := by
  obtain ⟨after, sent, _⟩ := s.interface.toNetworkInterface.sendDatagram_returns serializable nextHop
  have ran : AsyncNetworkInterface.base (NetworkInterface.sendDatagram dgram nextHop) s.interface =
      .ok () { s.interface with toNetworkInterface := after } := within_of_ok sent
  rw [ran, Station.sendDatagram, onInterface_interface, sent]
  rfl

/-- A host that sends one datagram more. -/
theorem Proper.sendDatagram (proper : Proper s) (sender : HostName) {dgram : IPv4Datagram}
    (wellFormed : dgram.WellFormed) :
    Proper (Function.update s (.host sender)
      ((s (.host sender)).sendDatagram dgram sender.nextHop)) := by
  intro name entry membership
  by_cases this : name = sender
  · subst this
    rw [Function.update_self] at membership
    rcases List.mem_append.mp membership with old | new
    · exact proper name entry old
    · rw [List.mem_singleton.mp new]
      exact ⟨wellFormed, rfl⟩
  · rw [Function.update_of_ne (fun same => this (Place.host.inj same))] at membership
    exact proper name entry membership

theorem sum_arrivals_sendDatagram (s : Place → Station Place) (receiver sender : HostName)
    (dgram : IPv4Datagram) :
    (∑ name, arrivals receiver (toRouter name (Function.update s (.host sender)
        ((s (.host sender)).sendDatagram dgram sender.nextHop) (.host name)).submitted)) =
      (∑ name, arrivals receiver (toRouter name (s (.host name)).submitted)) +
        arrivals receiver (toRouter sender [(dgram, sender.nextHop.ipv4Numeric)]) := by
  have split (name : HostName) :
      arrivals receiver (toRouter name (Function.update s (.host sender)
          ((s (.host sender)).sendDatagram dgram sender.nextHop) (.host name)).submitted) =
        arrivals receiver (toRouter name (s (.host name)).submitted) +
          if sender = name then
            arrivals receiver (toRouter sender [(dgram, sender.nextHop.ipv4Numeric)]) else 0 := by
    by_cases this : sender = name
    · subst this
      rw [Function.update_self, if_pos rfl, ← arrivals_append, ← toRouter_append]
      rfl
    · rw [Function.update_of_ne (fun same => this (Place.host.inj same).symm), if_neg this, add_zero]
  rw [Finset.sum_congr rfl fun name _ => split name, Finset.sum_add_distrib, Finset.sum_ite_eq,
    if_pos (Finset.mem_univ sender)]

/-- The network after a host has sent a datagram. -/
theorem Working.sendDatagram (working : Working random distinct 7 n s said) (sender : HostName)
    {dgram : IPv4Datagram} (wellFormed : dgram.WellFormed) (nextHop : Address) :
    let station := (s (.host sender)).sendDatagram dgram nextHop
    let h : Host := { n.hosts sender with interface := station.interface }
    ∃ said', Working random distinct 7 { n with hosts := Function.update n.hosts sender h }
      (Function.update s (.host sender) station) said' := by
  intro station h
  obtain ⟨more, _, _, represents⟩ :=
    working.represents.sendDatagram wellFormed (.host sender) nextHop
  have heard := update_keeps Station.heard (show station.heard = (s (.host sender)).heard from rfl)
  have popped := update_keeps Station.popped
    (show station.popped = (s (.host sender)).popped from rfl)
  exact ⟨_, {
    shows := working.shows.setHost sender rfl
    represents
    aligned := fun i k linked => by rw [heard, popped, working.aligned i k linked]
    restrained := restrained_seven _ _
    busy := fun _ _ => by decide
    table := working.table
    sent := fun p => by rw [update_host_port, working.sent]
    forwarded := by simpa only [update_host_port] using working.forwarded }⟩

theorem Implements.sendTo (implements : Implements random distinct n internet) (sender : HostName)
    (destination : Address) (ttl : UInt8) (payload : UInt32) :
    let dgram := Host.datagram sender.address destination ttl payload
    ∃ next, Network.sendTo sender destination ttl payload n = .ok dgram next ∧
      Implements random distinct next (internet.sendTo sender dgram) := by
  intro dgram
  obtain ⟨s, said, corresponds⟩ := implements
  have wellFormed := wellFormed_datagram sender.address destination ttl payload
  let station := (s (.host sender)).sendDatagram dgram sender.nextHop
  have sent := Station.sendDatagram_run wellFormed.serializable sender.nextHop (s (.host sender))
  rw [← corresponds.shows.hosts] at sent
  have ran : Host.sendTo destination ttl payload (n.hosts sender) =
      .ok dgram { n.hosts sender with interface := station.interface } := by
    rw [Host.sendTo, get_bind_run, corresponds.equipped.addresses, corresponds.equipped.nextHops,
      bind_of_ok (onInterface_run sent)]
    rfl
  obtain ⟨said', working⟩ :=
    corresponds.toWorking.sendDatagram sender wellFormed sender.nextHop
  refine ⟨_, onHost_run ran, _, said', { working with proper := ?_, equipped := ?_, arriving := ?_ }⟩
  · exact corresponds.proper.sendDatagram sender wellFormed
  · exact corresponds.equipped.of_besides (update_keeps Host.besides (by rfl))
  · intro receiver
    have collected := update_keeps Station.collected
      (show station.collected = (s (.host sender)).collected from rfl) (.host receiver)
    rw [collected, sum_arrivals_sendDatagram, ← corresponds.arriving, arrivals_toRouter, add_assoc]
    rfl

end Sending

theorem Implements.expect (implements : Implements random distinct n internet) (name : HostName)
    {expected : IPv4Datagram} (serializable : expected.Serializable) :
    ∃ next, Network.expect name expected n = .ok () next ∧
      Implements random distinct next (internet.expect name expected) := by
  obtain ⟨s, said, corresponds⟩ := implements
  obtain ⟨addresses, nextHops, all, bytes⟩ := corresponds.equipped
  let h := (n.hosts name).expect expected
  have shows : Shows { n with hosts := Function.update n.hosts name h } s := by
    have changed := corresponds.shows.setHost name
      (show h.interface = _ from corresponds.shows.hosts name)
    rwa [Function.update_eq_self] at changed
  have equipped : Equipped { n with hosts := Function.update n.hosts name h }
      (internet.expect name expected).expected := by
    refine ⟨fun other => ?_, fun other => ?_, fun other => ?_, fun other => ?_⟩
    · exact (update_keeps Host.myAddress (by rfl) other).trans (addresses other)
    · exact (update_keeps Host.nextHop (by rfl) other).trans (nextHops other)
    · by_cases this : other = name
      · subst this
        simp only [Function.update_self]
        exact List.forall_mem_append.mpr ⟨all other, List.forall_mem_singleton.mpr serializable⟩
      · simp only [Function.update_of_ne this]
        exact all other
    · by_cases this : other = name
      · subst this
        simp only [Internet.expect, Function.update_self, ← bytes]
        exact allBytes_append _ _
      · simp only [Internet.expect, Function.update_of_ne this, bytes]
  exact ⟨_, onHost_run (modify_run _ _), s, said, { corresponds with shows, equipped }⟩

section Simulation

/-- The hosts have taken all that has come out of their interfaces. -/
def taken (s : Place → Station Place) : Place → Station Place
  | .port p => s (.port p)
  | .host name =>
      { s (.host name) with
        interface := { (s (.host name)).interface with datagramsOut := [] }
        collected := (s (.host name)).collected ++ (s (.host name)).interface.datagramsOut }

theorem requeued_taken (s : Place → Station Place) (i : Place) : Requeued (s i) (taken s i) := by
  cases i with
  | port p => exact .refl _
  | host name =>
      exact ⟨⟨(s (.host name)).interface.framesOut, rfl⟩, rfl, rfl, rfl, rfl, List.append_nil _⟩

/-- A simulation after which all hosts have got what they expect. -/
theorem Working.implements_checked (working : Working random distinct 0 n s said)
    (proper : Proper s) (equipped : Equipped n internet.expected) {order : List HostName}
    (complete : ∀ name, name ∈ order) : Implements random distinct (n.checked order) {} := by
  refine ⟨taken s, said, ?_⟩
  have hosts (name : HostName) : (n.checked order).hosts name = (n.hosts name).checked :=
    if_pos (complete name)
  have heard (i : Place) : (taken s i).heard = (s i).heard := (requeued_taken s i).heard
  have popped (i : Place) : (taken s i).popped = (s i).popped := by cases i <;> rfl
  exact {
    shows := ⟨working.shows.ports, fun name => by
      rw [hosts, Host.checked, working.shows.hosts]
      rfl⟩
    represents := working.represents.requeued (requeued_taken s)
    aligned := fun i k linked => by rw [heard, popped, working.aligned i k linked]
    restrained := restrained_seven _ _
    busy := fun _ _ => by decide
    table := working.table
    sent := working.sent
    forwarded := working.forwarded
    proper := proper
    equipped := by
      refine ⟨fun name => ?_, fun name => ?_, fun name => ?_, fun name => ?_⟩ <;> rw [hosts]
      · exact equipped.addresses name
      · exact equipped.nextHops name
      · exact List.forall_mem_nil _
      · rfl
    arriving := fun receiver => by
      rw [add_zero]
      exact (allBytes_append _ _).trans (working.arrived proper receiver) }

/-- A simulation returns if all hosts get what they expect, and only then. -/
theorem Implements.simulate (implements : Implements random distinct n internet)
    {order : List HostName} (complete : ∀ name, name ∈ order) :
    Ends (fun _ next => internet.Agrees ∧ Implements random distinct next {})
      (fun _ _ => ¬ internet.Agrees) (Network.simulate order n) := by
  obtain ⟨s, said, corresponds⟩ := implements
  obtain ⟨next, s', said', ran, working, kept⟩ :=
    corresponds.toWorking.rounds (show 7 ≤ 256 by decide)
  have proper : Proper s' := by
    intro name
    rw [kept.submitted]
    exact corresponds.proper name
  have equipped := corresponds.equipped.of_besides kept.besides
  have content (name : HostName) : (next.hosts name).Content ↔
      internet.arriving name = internet.expected name := by
    have arrived := working.arrived proper name
    simp only [kept.submitted, kept.collected, ← corresponds.arriving] at arrived
    rw [Host.Content, working.shows.hosts, add_left_cancel arrived, equipped.expected]
  have queued (name : HostName) : ∀ dgram ∈ (next.hosts name).interface.datagramsOut,
      dgram.Serializable := by
    rw [working.shows.hosts]
    exact fun dgram membership =>
      (working.represents.wellFormed (List.mem_append_right _ membership)).serializable
  rw [Network.simulate, bind_of_ok ran]
  refine (checks_ends order queued equipped.serializable).imp ?_ ?_
  · rintro _ _ ⟨agree, rfl⟩
    exact ⟨fun name => (content name).mp (agree name (complete name)),
      working.implements_checked proper equipped complete⟩
  · rintro _ _ ⟨name, differs⟩ agrees
    exact differs ((content name).mpr (agrees name))

end Simulation

/-- A call of the owner, seen from outside. -/
theorem Implements.perform (implements : Implements random distinct n internet)
    {order : List HostName} (complete : ∀ name, name ∈ order) {call : Call}
    (serializable : call.Serializable) :
    Ends (fun _ next => ∃ after, internet.perform call = some after ∧
        Implements random distinct next after)
      (fun _ _ => internet.perform call = none) (Network.perform order call n) := by
  cases call with
  | sendTo name destination ttl payload =>
      obtain ⟨next, ran, after⟩ := implements.sendTo name destination ttl payload
      rw [Network.perform, bind_of_ok ran]
      exact ⟨_, rfl, after⟩
  | expect name expected =>
      obtain ⟨next, ran, after⟩ := implements.expect name serializable
      rw [Network.perform, ran]
      exact ⟨_, rfl, after⟩
  | simulate =>
      refine (implements.simulate complete).imp ?_ ?_
      · rintro _ next ⟨agrees, after⟩
        exact ⟨_, if_pos agrees, after⟩
      · intro _ _ differs
        exact if_neg differs

/-- A network that implements what is observed of it goes on to do so. -/
theorem Implements.performs (implements : Implements random distinct n internet)
    {order : List HostName} (complete : ∀ name, name ∈ order) {calls : List Call}
    (serializable : ∀ call ∈ calls, call.Serializable) :
    returns (calls.forM (Network.perform order) n) =
      (calls.foldlM Internet.perform internet).isSome := by
  induction calls generalizing n internet with
  | nil => rfl
  | cons call rest inductionHypothesis =>
      rw [List.forall_mem_cons] at serializable
      have first := implements.perform complete serializable.1
      show returns ((Network.perform order call >>= fun _ => rest.forM (Network.perform order)) n) = _
      rw [List.foldlM_cons]
      cases ran : Network.perform order call n with
      | ok _ next =>
          rw [ran] at first
          obtain ⟨after, performed, implements⟩ := first
          rw [bind_of_ok ran, inductionHypothesis implements serializable.2, performed]
          rfl
      | error e next =>
          rw [ran] at first
          rw [bind_of_error ran, show internet.perform call = none from first]
          rfl

end Refinement

/-- Whatever its owner does with a network, a simulation throws exactly if some host
does not get what it expects, according to the routes alone. -/
theorem network_refines_internet (random : Place → EthernetAddress) (distinct : Distinct random)
    (order : List HostName) (complete : ∀ name, name ∈ order) (calls : List Call)
    (serializable : ∀ call ∈ calls, call.Serializable) :
    returns (calls.forM (Network.perform order) (Network.new random)) =
      (calls.foldlM Internet.perform {}).isSome :=
  (implements_new random distinct).performs complete serializable

/-- Addresses for all interfaces, no two of which are the same on a segment. -/
def drawn : Place → EthernetAddress
  | .port _ => Vector.replicate 6 0
  | .host .dm43 => Vector.replicate 6 2
  | .host _ => Vector.replicate 6 1

theorem distinct_drawn : Distinct drawn := by
  unfold Distinct
  decide +kernel

/-- A datagram that is expected by the wrong host. -/
theorem network_refines_internet_wrong_host :
    let dgram := Host.datagram HostName.applesauce.address HostName.cherrypie.address 64 7
    let calls : List Call := [.sendTo .applesauce HostName.cherrypie.address 64 7,
      .expect .defaultRouter (Router.aged dgram), .simulate]
    returns (calls.forM (Network.perform HostName.all) (Network.new drawn)) = false := by
  intro dgram calls
  have wellFormed : (Router.aged dgram).WellFormed :=
    Router.wellFormed_aged (wellFormed_datagram _ _ _ _)
  have serializable : ∀ call ∈ calls, call.Serializable := by
    simp only [calls, List.forall_mem_cons]
    exact ⟨trivial, wellFormed.serializable, trivial, List.forall_mem_nil _⟩
  have differs : ¬ ((Internet.sendTo {} .applesauce dgram).expect .defaultRouter
      (Router.aged dgram)).Agrees := by
    have reaches : Reaches .applesauce .cherrypie HostName.cherrypie.address.ipv4Numeric 64 := by
      decide +kernel
    intro agrees
    have arriving : (Internet.sendTo {} .applesauce dgram).arriving .cherrypie =
        {(Router.aged dgram).bytes} := (zero_add _).trans (if_pos reaches)
    have unexpected : (Internet.sendTo {} .applesauce dgram).arriving .cherrypie = 0 :=
      agrees .cherrypie
    exact Multiset.singleton_ne_zero _ (arriving.symm.trans unexpected)
  have throws : calls.foldlM Internet.perform {} = none := by
    simp only [calls, List.foldlM_cons, Internet.perform, Option.bind_eq_bind, Option.bind_some]
    rw [if_neg differs]
    rfl
  rw [network_refines_internet drawn distinct_drawn HostName.all (by decide) calls serializable,
    throws]
  rfl

section Tests

variable {random : Place → EthernetAddress} {distinct : Distinct random} {order : List HostName}

theorem address_run {n : Network} {internet : Internet}
    (implements : Implements random distinct n internet) (name : HostName) :
    Network.address name n = .ok name.address n := by
  obtain ⟨s, said, corresponds⟩ := implements
  rw [Network.address, get_bind_run, corresponds.equipped.addresses]
  rfl

theorem test_eq (order : List HostName) (sender : HostName) (destination : Address)
    (receiver : HostName) (payload : UInt32) :
    Network.test order sender destination receiver payload =
      Network.sendTo sender destination 64 payload >>= fun dgramSent =>
        Network.expect receiver (Router.aged dgramSent) >>= fun _ => Network.simulate order := rfl

/-- A datagram that reaches one host, which expects it. -/
theorem test_triple (complete : ∀ name, name ∈ order) {sender receiver : HostName}
    {destination : Address}
    (reaches : ∀ name, Reaches sender name destination.ipv4Numeric 64 ↔ name = receiver)
    (payload : UInt32) :
    Triple (Implements random distinct · {})
      (Network.test order sender destination receiver payload)
      (fun _ => (Implements random distinct · {})) fun _ _ => False := by
  intro n implements
  obtain ⟨sent, ran, implements⟩ := implements.sendTo sender destination 64 payload
  have wellFormed := wellFormed_datagram sender.address destination 64 payload
  obtain ⟨ready, ran', implements⟩ :=
    implements.expect receiver (Router.wellFormed_aged wellFormed).serializable
  rw [test_eq, bind_of_ok ran, bind_of_ok ran']
  refine (implements.simulate complete).imp (fun _ _ => And.right) fun _ _ differs =>
    differs fun name => ?_
  simp only [Internet.expect, Internet.sendTo, zero_add]
  by_cases this : name = receiver
  · subst this
    rw [Function.update_self]
    exact if_pos ((reaches name).mpr rfl)
  · rw [Function.update_of_ne this]
    exact if_neg fun gets => this ((reaches name).mp gets)

/-- A datagram that is too old reaches no host. -/
theorem testExpiration_triple (complete : ∀ name, name ∈ order) (sender : HostName)
    (destination : Address) {ttl : UInt8} (dead : ttl ≤ 1) (payload : UInt32) :
    Triple (Implements random distinct · {})
      (Network.testExpiration order sender destination ttl payload)
      (fun _ => (Implements random distinct · {})) fun _ _ => False := by
  intro n implements
  obtain ⟨sent, ran, implements⟩ := implements.sendTo sender destination ttl payload
  rw [Network.testExpiration, bind_of_ok ran]
  refine (implements.simulate complete).imp (fun _ _ => And.right) fun _ _ differs =>
    differs fun name => ?_
  have unreached : ¬ Reaches sender name destination.ipv4Numeric ttl :=
    fun reaches => UInt8.not_lt.mpr dead reaches.2.1
  exact (congrArg (0 + ·) (if_neg unreached)).trans (add_zero 0)

end Tests

/-- All tests of the program succeed, whatever the random numbers, as long as no two
interfaces on a segment have drawn the same address. -/
theorem network_simulator_succeeds (random : Place → EthernetAddress) (distinct : Distinct random)
    (order : List HostName) (complete : ∀ name, name ∈ order) (payloads : ℕ → UInt32) :
    returns (networkSimulator order payloads (Network.new random)) = true := by
  have program : Triple (Implements random distinct · {}) (networkSimulator order payloads)
      (fun _ => (Implements random distinct · {})) fun _ _ => False := by
    unfold networkSimulator
    refine Triple.bind_read (fun _ implements => address_run implements .cherrypie) ?_
    refine (test_triple complete (by decide +kernel) _).bind fun _ => ?_
    refine Triple.bind_read (fun _ implements => address_run implements .applesauce) ?_
    refine (test_triple complete (by decide +kernel) _).bind fun _ => ?_
    refine (test_triple complete (by decide +kernel) _).bind fun _ => ?_
    refine (test_triple complete (by decide +kernel) _).bind fun _ => ?_
    refine (test_triple complete (by decide +kernel) _).bind fun _ => ?_
    refine (test_triple complete (by decide +kernel) _).bind fun _ => ?_
    refine (test_triple complete (by decide +kernel) _).bind fun _ => ?_
    refine Triple.bind_read (fun _ implements => address_run implements .dm43) ?_
    refine (test_triple complete (by decide +kernel) _).bind fun _ => ?_
    refine (testExpiration_triple complete _ _ (by decide) _).bind fun _ => ?_
    exact testExpiration_triple complete _ _ (by decide) _
  obtain ⟨_, next, ran, _⟩ := program.returns (implements_new random distinct)
  rw [ran]
  rfl

theorem network_simulator_succeeds_drawn :
    returns (networkSimulator HostName.all (fun n => UInt32.ofNat n) (Network.new drawn)) = true :=
  network_simulator_succeeds drawn distinct_drawn HostName.all (by decide) _

end Sponge.NetworkSimulator
