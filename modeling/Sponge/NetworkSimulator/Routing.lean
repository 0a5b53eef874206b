import Sponge.NetworkSimulator.Exchange

/-!
# Routing between exchanges

A pass of the router takes the datagrams that have come out of its interfaces, and
makes the interfaces send them on.  Sending makes an interface ask or send, but
never reply.
-/

namespace Sponge

theorem IPv4Datagram.WellFormed.reread {dgram : IPv4Datagram} (wellFormed : dgram.WellFormed) :
    dgram.reread.WellFormed :=
  ⟨wellFormed.representable.withCksum _, wellFormed.length_concatenate⟩

theorem Router.wellFormed_aged {dgram : IPv4Datagram} (wellFormed : dgram.WellFormed) :
    (aged dgram).WellFormed := by
  obtain ⟨⟨version, long, short, offset⟩, whole⟩ := wellFormed
  exact ⟨⟨version, long, short, offset⟩, whole⟩

namespace NetworkSimulator

open Lib Throwing NetworkInterface

universe u v

section Arrivals

variable {ι : Type u} {κ : Type v} [DecidableEq ι] {layout : Layout ι κ} {s : ι → Station ι}
  {said : ι → List (Message ι)}

theorem Station.mem_receivedFrom {s : Station ι} {entry : ι × IPv4Datagram}
    (received : entry ∈ s.received) : entry.2 ∈ s.receivedFrom entry.1 :=
  List.mem_map_of_mem (List.mem_filter.mpr ⟨received, decide_eq_true rfl⟩)

/-- What has come out of an interface is well formed. -/
theorem Represents.wellFormed (inv : Represents layout s said) {k : ι} {dgram : IPv4Datagram}
    (arrived : dgram ∈ (s k).collected ++ (s k).interface.datagramsOut) : dgram.WellFormed := by
  obtain ⟨sources, collected⟩ := inv.collects k
  rw [← collected] at arrived
  obtain ⟨entry, received, rfl⟩ := List.mem_map.mp arrived
  have fromSource := Station.mem_receivedFrom received
  rw [(inv.hears _ k (sources entry received)).received] at fromSource
  obtain ⟨sent, spoken, same⟩ := List.mem_map.mp fromSource
  obtain ⟨message, said, isDatagram⟩ := List.mem_filterMap.mp spoken
  have sayable := (inv.speaks entry.1).sayable message (List.mem_of_mem_take said)
  rw [← same]
  cases message with
  | datagram receiver dgram =>
      obtain ⟨_, this⟩ := Option.ite_none_right_eq_some.mp isDatagram
      cases this
      exact sayable.2.reread
  | request | reply => cases isDatagram

end Arrivals

/-- The datagrams that some calls give to the interface with the number. -/
def sentOn (number : ℕ) (calls : List SendCall) : List (IPv4Datagram × UInt32) :=
  (calls.filter (·.interfaceNum = number)).map fun call => (call.dgram, call.nextHop.ipv4Numeric)

/-- The station of the interface with the number, after the calls of a pass. -/
def Station.route (calls : List SendCall) (number : ℕ) (s : Station Place) : Station Place :=
  { s with
    interface :=
      { toNetworkInterface := Router.performed number calls s.interface.toNetworkInterface }
    submitted := s.submitted ++ sentOn number calls
    collected := s.collected ++ s.interface.datagramsOut }

/-- All stations after the calls of a pass. -/
def routed (calls : List SendCall) (s : Place → Station Place) : Place → Station Place
  | .port p => (s (.port p)).route calls p.id
  | .host name => s (.host name)

theorem Port.id_inj {p q : Port} (same : p.id = q.id) : p = q := by
  have found := Port.getElem?_all p
  rw [same, Port.getElem?_all] at found
  exact (Option.some.inj found).symm

variable {s : Place → Station Place}

theorem Station.sendDatagram_eq (dgram : IPv4Datagram) (nextHop : Address) (s : Station Place) :
    s.sendDatagram dgram nextHop =
      { s with
        interface :=
          { s.interface with
            toNetworkInterface := s.interface.toNetworkInterface.apply (.send dgram nextHop) }
        submitted := s.submitted ++ [(dgram, nextHop.ipv4Numeric)] } := by
  simp only [Station.sendDatagram, Station.onInterface, AsyncNetworkInterface.base,
    finalState_within]
  rfl

/-- One call more. -/
theorem routed_concat (calls : List SendCall) (call : SendCall) {p : Port}
    (this : p.id = call.interfaceNum) :
    routed (calls ++ [call]) s = Function.update (routed calls s) (.port p)
      ((routed calls s (.port p)).sendDatagram call.dgram call.nextHop) := by
  funext place
  by_cases same : place = .port p
  · subst same
    simp [routed, Station.route, Station.sendDatagram_eq, Router.performed, sentOn, run_append, this]
  · rw [Function.update_of_ne same]
    cases place with
    | host name => rfl
    | port q =>
        have other : call.interfaceNum ≠ q.id :=
          fun isThis => same (congrArg Place.port (Port.id_inj (isThis.symm.trans this.symm)))
        simp [routed, Station.route, Router.performed, sentOn, other]

section Passes

variable {κ : Type v} {layout : Layout Place κ} {said : Place → List (Message Place)}

theorem requeued_route_nil (number : ℕ) (s : Station Place) : Requeued s (s.route [] number) where
  interface := ⟨s.interface.framesOut, rfl⟩
  frames := rfl
  submitted := List.append_nil _
  heard := rfl
  received := rfl
  collected := List.append_nil _

/-- The calls of a pass make interfaces of the router ask or send. -/
theorem Represents.pass (inv : Represents layout s said) {calls : List SendCall}
    (wellFormed : ∀ call ∈ calls, call.dgram.WellFormed)
    (exist : ∀ call ∈ calls, ∃ p : Port, p.id = call.interfaceNum) :
    ∃ more : Place → List (Message Place), Represents layout (routed calls s) (fun i => said i ++ more i) ∧
      ∀ i, ∀ message ∈ more i,
        calls ≠ [] ∧ (∃ p, i = .port p) ∧ ∀ asker, message ≠ .reply asker := by
  induction calls using List.reverseRecOn with
  | nil =>
      refine ⟨fun _ => [], ?_, fun _ => List.forall_mem_nil _⟩
      simp only [List.append_nil]
      refine inv.requeued fun place => ?_
      cases place with
      | port p => exact requeued_route_nil p.id _
      | host name => exact .refl _
  | append_singleton calls call inductionHypothesis =>
      rw [List.forall_mem_append, List.forall_mem_singleton] at wellFormed exist
      obtain ⟨more, represents, spoken⟩ := inductionHypothesis wellFormed.1 exist.1
      obtain ⟨p, this⟩ := exist.2
      obtain ⟨new, _, noReply, represents⟩ :=
        represents.sendDatagram wellFormed.2 (.port p) call.nextHop
      refine ⟨Function.update more (.port p) (more (.port p) ++ new), ?_, fun i => ?_⟩
      · rw [routed_concat calls call this]
        convert represents using 1
        funext i
        by_cases same : i = .port p
        · subst same
          simp
        · simp [same]
      · have nonempty : calls ++ [call] ≠ [] := List.concat_ne_nil _ _
        have old : ∀ message ∈ more i, calls ++ [call] ≠ [] ∧ (∃ p, i = .port p) ∧
            ∀ asker, message ≠ .reply asker :=
          fun message membership => ⟨nonempty, (spoken i message membership).2⟩
        by_cases same : i = .port p
        · subst same
          rw [Function.update_self]
          exact List.forall_mem_append.mpr ⟨old, fun message membership =>
            ⟨nonempty, ⟨p, rfl⟩, noReply message membership⟩⟩
        · rw [Function.update_of_ne same]
          exact old

/-- The calls of a pass, for the datagrams that have come out. -/
def passCalls (n : Network) (s : Place → Station Place) : List SendCall :=
  (Port.all.flatMap fun p => (s (.port p)).interface.datagramsOut).filterMap
    (Router.forwarded n.router.lookup)

variable {n : Network}

theorem Port.id_of_getElem? {number : ℕ} {p : Port} (found : Port.all[number]? = some p) :
    p.id = number := by
  obtain ⟨bound, rfl⟩ := List.getElem?_eq_some_iff.mp found
  exact List.Nodup.idxOf_getElem (by decide) number bound

theorem Shows.queues (shows : Shows n s) :
    n.router.queues = Port.all.map fun p => (s (.port p)).interface.datagramsOut := by
  rw [Router.queues, shows.ports, List.map_map]
  rfl

/-- A router that has made the calls of a pass. -/
theorem Shows.routed (shows : Shows n s) {r : Router} {calls : List SendCall}
    (emptied : r.queues = List.replicate n.router.queues.length [])
    (performs : ∀ number, r.interfaces[number]?.map (·.toNetworkInterface) =
      n.router.interfaces[number]?.map fun i => Router.performed number calls i.toNetworkInterface) :
    Shows { n with router := r } (routed calls s) := by
  refine ⟨List.ext_getElem? fun number => ?_, shows.hosts⟩
  have performed := performs number
  rw [shows.ports, List.getElem?_map] at performed
  rw [List.getElem?_map]
  cases found : Port.all[number]? with
  | none => simpa [found] using performed
  | some p =>
      have this := Port.id_of_getElem? found
      subst this
      rw [found] at performed
      obtain ⟨i, there, same⟩ := Option.map_eq_some_iff.mp performed
      have empty : i.datagramsOut = [] := by
        have queue : i.datagramsOut ∈ r.queues := List.mem_map_of_mem (List.mem_of_getElem? there)
        rw [emptied] at queue
        exact List.eq_of_mem_replicate queue
      rw [there]
      cases i with
      | mk base datagramsOut =>
          subst empty
          subst same
          rfl

theorem Shows.passCalls_eq (shows : Shows n s) :
    n.router.queues.flatten.filterMap (Router.forwarded n.router.lookup) = passCalls n s := by
  rw [shows.queues, ← List.flatMap_def]
  rfl

/-- A call of a pass sends on a datagram that has come out. -/
theorem exists_of_mem_passCalls {call : SendCall} (membership : call ∈ passCalls n s) :
    ∃ p, ∃ dgram ∈ (s (.port p)).interface.datagramsOut, ∃ route ∈ n.router.routingTable,
      call = Router.sendCall dgram route := by
  obtain ⟨dgram, arrived, forwarded⟩ := List.mem_filterMap.mp membership
  obtain ⟨p, _, queued⟩ := List.mem_flatMap.mp arrived
  obtain ⟨_, found⟩ := Option.ite_none_left_eq_some.mp forwarded
  obtain ⟨route, looked, same⟩ := Option.map_eq_some_iff.mp found
  exact ⟨p, dgram, queued, route, List.mem_of_find?_eq_some looked, same.symm⟩

theorem Message.rank_le_of_not_reply {weight : Place → ℕ} {i : Place} {message : Message Place}
    (noReply : ∀ asker, message ≠ .reply asker) : message.rank weight i ≤ weight i + 3 := by
  cases message with
  | request target => exact Nat.le_refl _
  | reply asker => exact absurd rfl (noReply asker)
  | datagram receiver dgram => exact Nat.add_le_add_left (by decide) _

/-- A pass of the router. -/
theorem Stage.route {weight : Place → ℕ} {bound : ℕ}
    (stage : Stage layout weight (fun _ => bound) n s said) (connected : n.router.Connected)
    (room : ∀ p q, (s (.port p)).interface.datagramsOut ≠ [] → weight (.port q) + 3 ≤ bound) :
    ∃ r said', Network.onRouter Router.route n = .ok () { n with router := r } ∧
      Stage layout weight (fun _ => bound) { n with router := r } (routed (passCalls n s) s) said' ∧
      r.routingTable = n.router.routingTable ∧
      r.sendCalls = n.router.sendCalls ++ passCalls n s := by
  obtain ⟨shows, represents, aligned, restrained⟩ := stage
  obtain ⟨r, ran, moves⟩ := Router.route_run connected (by
    intro queue membership dgram queued _
    rw [shows.queues] at membership
    obtain ⟨p, _, rfl⟩ := List.mem_map.mp membership
    exact (represents.wellFormed (List.mem_append_right _ queued)).serializable)
  rw [shows.passCalls_eq] at moves
  obtain ⟨calls, noted, performs⟩ := n.router.route_performs
  rw [ran, finalState_ok] at noted performs
  have same : calls = passCalls n s := List.append_cancel_left (noted.symm.trans moves.calls)
  subst same
  have wellFormed : ∀ call ∈ passCalls n s, call.dgram.WellFormed := by
    intro call membership
    obtain ⟨p, dgram, queued, route, _, rfl⟩ := exists_of_mem_passCalls membership
    exact Router.wellFormed_aged (represents.wellFormed (List.mem_append_right _ queued))
  have exist : ∀ call ∈ passCalls n s, ∃ p : Port, p.id = call.interfaceNum := by
    intro call membership
    obtain ⟨_, dgram, _, route, inTable, rfl⟩ := exists_of_mem_passCalls membership
    have bound := connected route inTable
    rw [shows.queues, List.length_map] at bound
    exact ⟨_, Port.id_of_getElem? (List.getElem?_eq_getElem bound)⟩
  obtain ⟨more, represents, spoken⟩ := represents.pass wellFormed exist
  have heard (i k : Place) : (routed (passCalls n s) s k).heard i = (s k).heard i := by
    cases k <;> rfl
  have popped (i : Place) : (routed (passCalls n s) s i).popped = (s i).popped := by
    cases i <;> rfl
  refine ⟨r, _, onRouter_run ran, ⟨shows.routed moves.queues performs, represents, ?_, ?_⟩,
    moves.table, moves.calls⟩
  · intro i k linked
    rw [heard, popped, aligned i k linked]
  · intro i k linked message membership
    rw [heard, List.drop_append] at membership
    rcases List.mem_append.mp membership with old | new
    · exact restrained i k linked message old
    · obtain ⟨nonempty, ⟨q, rfl⟩, noReply⟩ := spoken i message (List.mem_of_mem_drop new)
      obtain ⟨call, membership⟩ := List.exists_mem_of_ne_nil _ nonempty
      obtain ⟨p, dgram, queued, _⟩ := exists_of_mem_passCalls membership
      exact (Message.rank_le_of_not_reply noReply).trans (room p q (List.ne_nil_of_mem queued))

end Passes

end NetworkSimulator

end Sponge
