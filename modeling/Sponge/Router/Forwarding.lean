import Sponge.Router.LongestPrefix
import Sponge.NetworkInterface.Calls

/-!
# Forwarding

One pass of the router empties the queues of its interfaces and makes one call
of `send_datagram` for every datagram that has a route and time to live.
-/

namespace Sponge.Router

open Lib Throwing

/-- The datagram as it is sent on. -/
def aged (dgram : IPv4Datagram) : IPv4Datagram :=
  { dgram with header := { dgram.header with ttl := dgram.header.ttl - 1 } }

/-- The call that sends a datagram along a route. -/
def sendCall (dgram : IPv4Datagram) (route : Route) : SendCall where
  interfaceNum := route.interfaceNum
  dgram := aged dgram
  nextHop := route.nextHop.getD (Address.fromIpv4Numeric dgram.header.dst)

/-- What is to be done with a datagram if `lookup` finds the routes. -/
def forwarded (lookup : UInt32 → Option Route) (dgram : IPv4Datagram) : Option SendCall :=
  if dgram.header.ttl ≤ 1 then none else (lookup dgram.header.dst).map (sendCall dgram)

def lookup (r : Router) (dst : UInt32) : Option Route :=
  r.routingTable.find? (·.isMatch dst)

def queues (r : Router) : List (List IPv4Datagram) := r.interfaces.map (·.datagramsOut)

/-- Every route leads to an interface. -/
def Connected (r : Router) : Prop :=
  ∀ route ∈ r.routingTable, route.interfaceNum < r.queues.length

/-- The datagrams that wait in the interfaces can be serialized. -/
def Flushable (r : Router) : Prop :=
  ∀ i ∈ r.interfaces, ∀ entry ∈ i.queueingIPDatagrams, entry.1.Serializable

/-- The router gets from one state to another, with these queues and by these
calls. -/
structure Moves (r next : Router) (queues : List (List IPv4Datagram)) (calls : List SendCall) :
    Prop where
  table : next.routingTable = r.routingTable
  queues : next.queues = queues
  calls : next.sendCalls = r.sendCalls ++ calls
  flushable : r.Flushable → next.Flushable

variable {r next : Router} {n : ℕ} {i : AsyncNetworkInterface}

theorem Moves.refl (r : Router) : r.Moves r r.queues [] where
  table := rfl
  queues := rfl
  calls := (List.append_nil _).symm
  flushable := id

theorem Moves.trans {later : Router} {queues queues' : List (List IPv4Datagram)}
    {calls calls' : List SendCall} (first : r.Moves next queues calls)
    (second : next.Moves later queues' calls') : r.Moves later queues' (calls ++ calls') where
  table := second.table.trans first.table
  queues := second.queues
  calls := by rw [second.calls, first.calls, List.append_assoc]
  flushable := second.flushable ∘ first.flushable

theorem Moves.connected {queues : List (List IPv4Datagram)} {calls : List SendCall}
    (moves : r.Moves next queues calls) (length : queues.length = r.queues.length)
    (connected : r.Connected) : next.Connected := by
  rw [Connected, moves.table, moves.queues, length]
  exact connected

theorem Moves.lookup_eq {queues : List (List IPv4Datagram)} {calls : List SendCall}
    (moves : r.Moves next queues calls) : next.lookup = r.lookup := by
  funext dst
  rw [lookup, lookup, moves.table]

theorem interface_run {α : Type} {method : AsyncNetworkInterface.Method α} {a : α}
    {after : AsyncNetworkInterface} (there : r.interfaces[n]? = some i)
    (ran : method i = .ok a after) :
    interface n method r = .ok a { r with interfaces := r.interfaces.set n after } := by
  rw [interface, get_bind_run, there]
  exact within_of_ok ran

theorem interface_read {α : Type} {method : AsyncNetworkInterface.Method α} {a : α}
    (there : r.interfaces[n]? = some i) (ran : method i = .ok a i) :
    interface n method r = .ok a r := by
  obtain ⟨bound, rfl⟩ := List.getElem?_eq_some_iff.mp there
  rw [interface_run there ran, List.set_getElem_self]

theorem exists_interface {queue : List IPv4Datagram} (queued : r.queues[n]? = some queue) :
    ∃ i, r.interfaces[n]? = some i ∧ i.datagramsOut = queue := by
  simpa [queues] using queued

theorem datagramsOut_run {queue : List IPv4Datagram} (queued : r.queues[n]? = some queue) :
    datagramsOut n r = .ok queue r := by
  obtain ⟨i, there, rfl⟩ := exists_interface queued
  exact interface_read there rfl

theorem moves_set {after : AsyncNetworkInterface} (there : r.interfaces[n]? = some i)
    (waiting : ∀ entry ∈ after.queueingIPDatagrams,
      entry ∈ i.queueingIPDatagrams ∨ entry.1.Serializable) :
    r.Moves { r with interfaces := r.interfaces.set n after }
      (r.queues.set n after.datagramsOut) [] where
  table := rfl
  queues := List.map_set
  calls := (List.append_nil _).symm
  flushable := by
    intro flushable other membership entry queued
    rcases List.mem_or_eq_of_mem_set membership with old | rfl
    · exact flushable other old entry queued
    · rcases waiting entry queued with before | serializable
      · exact flushable i (List.mem_of_getElem? there) entry before
      · exact serializable

/-- A change to the queue of an interface. -/
theorem onQueue_run {queue : List IPv4Datagram} (queued : r.queues[n]? = some queue)
    (f : List IPv4Datagram → List IPv4Datagram) :
    ∃ next, interface n (modify fun i => { i with datagramsOut := f i.datagramsOut }) r =
        .ok () next ∧
      r.Moves next (r.queues.set n (f queue)) [] := by
  obtain ⟨i, there, rfl⟩ := exists_interface queued
  exact ⟨_, interface_run there rfl, moves_set there fun entry => .inl⟩

theorem moves_called (r : Router) (call : SendCall) :
    r.Moves { r with sendCalls := r.sendCalls ++ [call] } r.queues [call] where
  table := rfl
  queues := rfl
  calls := rfl
  flushable := id

theorem sendDatagram_run {dgram : IPv4Datagram} (exist : n < r.queues.length)
    (serializable : dgram.Serializable) (nextHop : Address) :
    ∃ next, sendDatagram n dgram nextHop r = .ok () next ∧
      r.Moves next r.queues [{ interfaceNum := n, dgram, nextHop }] := by
  obtain ⟨i, there, same⟩ := exists_interface (List.getElem?_eq_getElem exist)
  obtain ⟨after, sent, waiting⟩ :=
    i.toNetworkInterface.sendDatagram_returns serializable nextHop
  let call : SendCall := { interfaceNum := n, dgram, nextHop }
  let called : Router := { r with sendCalls := r.sendCalls ++ [call] }
  let later : AsyncNetworkInterface := { i with toNetworkInterface := after }
  have flushable : ∀ entry ∈ later.queueingIPDatagrams,
      entry ∈ i.queueingIPDatagrams ∨ entry.1.Serializable := by
    intro entry queued
    rcases waiting entry queued with old | new
    · exact .inl old
    · exact .inr (new ▸ serializable)
  have moves : r.Moves { called with interfaces := r.interfaces.set n later }
      (r.queues.set n later.datagramsOut) [call] :=
    (r.moves_called call).trans (moves_set (r := called) there flushable)
  rw [show later.datagramsOut = r.queues[n] from same, List.set_getElem_self] at moves
  refine ⟨_, ?_, moves⟩
  rw [sendDatagram, bind_of_ok (interface_read there (pure_run () i)), modify_bind_run]
  exact interface_run (r := called) there (within_of_ok sent)

theorem Connected.of_lookup (connected : r.Connected) {dst : UInt32} {route : Route}
    (found : r.lookup dst = some route) : route.interfaceNum < r.queues.length :=
  connected route (List.mem_of_find?_eq_some found)

/-- Send the datagram at the front of a queue along a route, if there is one. -/
def sendAlong (n : ℕ) (dgram : IPv4Datagram) (used : Option Route) : Method Unit := do
  interface n (modify fun i => { i with datagramsOut := i.datagramsOut.set 0 (aged dgram) })
  match used with
  | none => pure ()
  | some route =>
      let call := sendCall dgram route
      sendDatagram call.interfaceNum call.dgram call.nextHop

/-- A method of an interface leaves what the router is besides its interfaces. -/
theorem keeps_interface {α γ : Type} {view : Router → γ}
    (same : ∀ (r : Router) interfaces, view { r with interfaces } = view r) (n : ℕ)
    (method : AsyncNetworkInterface.Method α) : Keeps view (interface n method) := by
  intro r
  rw [interface, get_bind_run]
  cases r.interfaces[n]? with
  | none => rfl
  | some i =>
      simp only [within]
      cases method i <;> exact same r _

theorem keeps_routingTable {α : Type} (n : ℕ) (method : AsyncNetworkInterface.Method α) :
    Keeps routingTable (interface n method) :=
  keeps_interface (fun _ _ => rfl) n method

theorem keeps_sendCalls {α : Type} (n : ℕ) (method : AsyncNetworkInterface.Method α) :
    Keeps sendCalls (interface n method) :=
  keeps_interface (fun _ _ => rfl) n method

/-- The table is looked up for the datagram that was aged, which goes to the same
address. -/
theorem routeOneDatagram_eq {dgram : IPv4Datagram} (alive : 1 < dgram.header.ttl) :
    routeOneDatagram n dgram r = sendAlong n dgram (r.lookup dgram.header.dst) r := by
  unfold routeOneDatagram sendAlong lookup
  rw [if_pos alive]
  refine bind_congr_of_ok fun _ changed ran => ?_
  rw [get_bind_run, (keeps_routingTable n _).of_ok ran]
  dsimp only
  cases r.routingTable.find? (·.isMatch dgram.header.dst) with
  | none => rfl
  | some route =>
      simp only [sendCall]
      cases route.nextHop <;> rfl

/-- The first datagram of a queue is dropped or sent on. -/
theorem routeOneDatagram_run {dgram : IPv4Datagram} {rest : List IPv4Datagram}
    (queued : r.queues[n]? = some (dgram :: rest)) (connected : r.Connected)
    (serializable : (forwarded r.lookup dgram).isSome → dgram.Serializable) :
    ∃ next front, routeOneDatagram n dgram r = .ok () next ∧
      r.Moves next (r.queues.set n (front :: rest)) (forwarded r.lookup dgram).toList := by
  by_cases dead : dgram.header.ttl ≤ 1
  · obtain ⟨bound, front⟩ := List.getElem?_eq_some_iff.mp queued
    refine ⟨r, dgram, ?_, ?_⟩
    · rw [routeOneDatagram, if_neg (UInt8.not_lt.mpr dead)]
      rfl
    · rw [← front, List.set_getElem_self, forwarded, if_pos dead]
      exact .refl r
  · obtain ⟨changed, ran, moves⟩ := onQueue_run queued (·.set 0 (aged dgram))
    have length : (r.queues.set n ((dgram :: rest).set 0 (aged dgram))).length = r.queues.length :=
      List.length_set
    rw [routeOneDatagram_eq (UInt8.not_le.mp dead), forwarded, if_neg dead]
    unfold sendAlong
    rw [bind_of_ok ran]
    cases looked : r.lookup dgram.header.dst with
    | none => exact ⟨changed, aged dgram, rfl, moves⟩
    | some route =>
        have exist : route.interfaceNum < changed.queues.length := by
          rw [moves.queues, length]
          exact connected.of_lookup looked
        have sendable : (aged dgram).Serializable :=
          (serializable (by simp [forwarded, dead, looked])).withTtl (dgram.header.ttl - 1)
        obtain ⟨next, sent, last⟩ := sendDatagram_run exist sendable (sendCall dgram route).nextHop
        exact ⟨next, aged dgram, sent, moves.trans (moves.queues ▸ last)⟩

theorem filterMap_cons_toList {α β : Type} (f : α → Option β) (a : α) (rest : List α) :
    (a :: rest).filterMap f = (f a).toList ++ rest.filterMap f := by
  cases found : f a <;> simp [found]

/-- The loop empties the queue if its fuel is at least the length. -/
theorem drain_run {fuel : ℕ} {queue : List IPv4Datagram} (queued : r.queues[n]? = some queue)
    (enough : queue.length ≤ fuel) (connected : r.Connected)
    (serializable : ∀ dgram ∈ queue, (forwarded r.lookup dgram).isSome → dgram.Serializable) :
    ∃ next, drain n fuel r = .ok () next ∧
      r.Moves next (r.queues.set n []) (queue.filterMap (forwarded r.lookup)) := by
  induction queue generalizing r fuel with
  | nil =>
      obtain ⟨bound, empty⟩ := List.getElem?_eq_some_iff.mp queued
      have same : r.queues.set n [] = r.queues := by
        rw [← empty, List.set_getElem_self]
      refine ⟨r, ?_, by rw [same]; exact .refl r⟩
      cases fuel with
      | zero => rfl
      | succ fuel =>
          rw [drain, bind_of_ok (datagramsOut_run queued)]
          rfl
  | cons dgram rest inductionHypothesis =>
      cases fuel with
      | zero => contradiction
      | succ fuel =>
          obtain ⟨routed, front, ran, first⟩ := routeOneDatagram_run queued connected
            (serializable dgram List.mem_cons_self)
          have bound : n < r.queues.length := (List.getElem?_eq_some_iff.mp queued).1
          have atFront : routed.queues[n]? = some (front :: rest) := by
            rw [first.queues, List.getElem?_set_self bound]
          obtain ⟨popped, ran', second⟩ := onQueue_run atFront List.tail
          have moves := first.trans second
          rw [first.queues, List.set_set] at moves
          have remaining : popped.queues[n]? = some rest := by
            rw [moves.queues, List.getElem?_set_self bound]
            rfl
          obtain ⟨next, ran'', last⟩ := inductionHypothesis remaining (Nat.le_of_succ_le_succ enough)
            (moves.connected List.length_set connected) (by
              rw [moves.lookup_eq]
              exact fun later membership => serializable later (List.mem_cons_of_mem _ membership))
          refine ⟨next, ?_, ?_⟩
          · rw [drain, bind_of_ok (datagramsOut_run queued)]
            dsimp only
            rw [bind_of_ok ran, bind_of_ok ran', ran'']
          · rw [filterMap_cons_toList]
            have whole := moves.trans last
            rwa [moves.queues, List.set_set, List.append_nil, moves.lookup_eq] at whole

theorem pass_cons (n : ℕ) (rest : List ℕ) :
    pass (n :: rest) =
      (datagramsOut n >>= fun queue => drain n queue.length) >>= fun _ => pass rest := rfl

/-- The loop over the interfaces, when the first `done` of them are finished. -/
theorem pass_run {done : ℕ} {pending : List (List IPv4Datagram)}
    (queues : r.queues = List.replicate done [] ++ pending) (connected : r.Connected)
    (serializable : ∀ queue ∈ pending, ∀ dgram ∈ queue,
      (forwarded r.lookup dgram).isSome → dgram.Serializable) :
    ∃ next, pass (List.range' done pending.length) r = .ok () next ∧
      r.Moves next (List.replicate (done + pending.length) [])
        (pending.flatten.filterMap (forwarded r.lookup)) := by
  induction pending generalizing r done with
  | nil =>
      rw [List.append_nil] at queues
      exact ⟨r, rfl, queues ▸ .refl r⟩
  | cons queue pending inductionHypothesis =>
      have queued : r.queues[done]? = some queue := by
        rw [queues, List.getElem?_append_right (by simp)]
        simp
      obtain ⟨drained, ran, first⟩ := drain_run queued (Nat.le_refl _) connected
        (serializable _ List.mem_cons_self)
      have next_queues : drained.queues = List.replicate (done + 1) [] ++ pending := by
        rw [first.queues, queues]
        simp [List.replicate_succ']
      obtain ⟨next, ran', last⟩ := inductionHypothesis next_queues
        (first.connected List.length_set connected) (by
          rw [first.lookup_eq]
          exact fun later membership => serializable later (List.mem_cons_of_mem _ membership))
      refine ⟨next, ?_, ?_⟩
      · have one : (datagramsOut done >>= fun queue => drain done queue.length) r =
            .ok () drained := by
          rw [bind_of_ok (datagramsOut_run queued), ran]
        rw [List.length_cons, List.range'_succ, pass_cons, bind_of_ok one, ran']
      · have whole := first.trans last
        rwa [first.lookup_eq, Nat.add_assoc, Nat.add_comm 1, ← List.filterMap_append] at whole

theorem route_run (connected : r.Connected)
    (serializable : ∀ queue ∈ r.queues, ∀ dgram ∈ queue,
      (forwarded r.lookup dgram).isSome → dgram.Serializable) :
    ∃ next, route r = .ok () next ∧
      r.Moves next (List.replicate r.queues.length [])
        (r.queues.flatten.filterMap (forwarded r.lookup)) := by
  have length : r.interfaces.length = r.queues.length := by simp [queues]
  have start : r.queues = List.replicate 0 [] ++ r.queues := rfl
  obtain ⟨next, ran, moves⟩ := pass_run start connected serializable
  refine ⟨next, ?_, Nat.zero_add r.queues.length ▸ moves⟩
  rw [route, get_bind_run, length, List.range_eq_range', ran]

/-- An interface with the number `n` after the calls that were made on it. -/
def performed (n : ℕ) (calls : List SendCall) (i : NetworkInterface) : NetworkInterface :=
  run NetworkInterface.apply i
    ((calls.filter (·.interfaceNum = n)).map fun call => .send call.dgram call.nextHop)

/-- What has happened to the interfaces is what the calls say that were noted. -/
def Performs (r next : Router) : Prop :=
  ∃ calls, next.sendCalls = r.sendCalls ++ calls ∧ ∀ n,
    next.interfaces[n]?.map (·.toNetworkInterface) =
      r.interfaces[n]?.map fun i => performed n calls i.toNetworkInterface

section Log

theorem performed_append (n : ℕ) (calls later : List SendCall) (i : NetworkInterface) :
    performed n (calls ++ later) i = performed n later (performed n calls i) := by
  rw [performed, List.filter_append, List.map_append, run_append]
  rfl

theorem Performs.refl (r : Router) : r.Performs r :=
  ⟨[], (List.append_nil _).symm, fun _ => rfl⟩

theorem Performs.trans {later : Router} (first : r.Performs next) (second : next.Performs later) :
    r.Performs later := by
  obtain ⟨calls, noted, there⟩ := first
  obtain ⟨calls', noted', there'⟩ := second
  refine ⟨calls ++ calls', by rw [noted', noted, List.append_assoc], ?_⟩
  intro n
  have both : later.interfaces[n]?.map (·.toNetworkInterface) =
      (next.interfaces[n]?.map (·.toNetworkInterface)).map (performed n calls') := by
    rw [there' n, Option.map_map]
    rfl
  rw [both, there n, Option.map_map]
  exact congrArg (Option.map · _) (funext fun i => (performed_append n calls calls' _).symm)

theorem performs_bind {α β : Type} {x : Method α} {f : α → Method β}
    (first : Relates Performs x) (rest : ∀ a, Relates Performs (f a)) :
    Relates Performs (x >>= f) :=
  first.bind rest fun _ _ _ => Performs.trans

/-- An interface changes as a call that is noted says. -/
theorem performs_set (there : r.interfaces[n]? = some i) {after : AsyncNetworkInterface}
    {calls : List SendCall} (here : ∀ call ∈ calls, call.interfaceNum = n)
    (same : after.toNetworkInterface = performed n calls i.toNetworkInterface) :
    r.Performs { r with
      interfaces := r.interfaces.set n after
      sendCalls := r.sendCalls ++ calls } := by
  obtain ⟨bound, -⟩ := List.getElem?_eq_some_iff.mp there
  refine ⟨calls, rfl, ?_⟩
  intro m
  by_cases other : n = m
  · subst other
    rw [List.getElem?_set_self bound, there, Option.map_some, Option.map_some, same]
  · have none : calls.filter (·.interfaceNum = m) = [] := by
      rw [List.filter_eq_nil_iff]
      intro call membership
      simpa [here call membership] using other
    rw [List.getElem?_set_ne other]
    simp [performed, none]

theorem relates_interface {α : Type} {method : AsyncNetworkInterface.Method α}
    (keeps : Keeps AsyncNetworkInterface.toNetworkInterface method) (n : ℕ) :
    Relates Performs (interface n method) := by
  intro r
  rw [interface, get_bind_run]
  cases there : r.interfaces[n]? with
  | none => exact .refl r
  | some i =>
      have kept := keeps i
      have performs {after : AsyncNetworkInterface}
          (same : after.toNetworkInterface = i.toNetworkInterface) :
          r.Performs { r with interfaces := r.interfaces.set n after } := by
        simpa using performs_set there (List.forall_mem_nil _) same
      simp only [within]
      cases ran : method i <;> rw [ran] at kept <;> exact performs kept

theorem relates_onQueue (n : ℕ) (f : List IPv4Datagram → List IPv4Datagram) :
    Relates Performs (interface n (modify fun i => { i with datagramsOut := f i.datagramsOut })) :=
  relates_interface (fun _ => rfl) n

/-- The call is noted if and only if the interface exists, and then it is made. -/
theorem relates_sendDatagram (n : ℕ) (dgram : IPv4Datagram) (nextHop : Address) :
    Relates Performs (sendDatagram n dgram nextHop) := by
  intro r
  rw [sendDatagram]
  cases there : r.interfaces[n]? with
  | none =>
      have missing : interface n (pure ()) r =
          .error (.outOfRange "vector::_M_range_check") r := by
        rw [interface, get_bind_run, there]
        rfl
      rw [bind_of_error missing]
      exact .refl r
  | some i =>
      rw [bind_of_ok (interface_read there (pure_run () i)), modify_bind_run, interface,
        get_bind_run]
      simp only [there, within, AsyncNetworkInterface.base]
      have performs {after : NetworkInterface}
          (same : after = finalState (NetworkInterface.sendDatagram dgram nextHop
            i.toNetworkInterface)) :
          r.Performs { r with
            interfaces := r.interfaces.set n { i with toNetworkInterface := after }
            sendCalls := r.sendCalls ++ [{ interfaceNum := n, dgram, nextHop }] } := by
        refine performs_set there (List.forall_mem_singleton.mpr rfl) ?_
        simpa [performed, NetworkInterface.apply] using same
      cases ran : NetworkInterface.sendDatagram dgram nextHop i.toNetworkInterface with
      | ok _ after => exact performs (by rw [ran]; rfl)
      | error _ after => exact performs (by rw [ran]; rfl)

theorem relates_routeOneDatagram (n : ℕ) (dgram : IPv4Datagram) :
    Relates Performs (routeOneDatagram n dgram) := by
  unfold routeOneDatagram
  split
  · refine performs_bind (relates_onQueue n (·.set 0 _)) fun _ => ?_
    refine performs_bind Performs.refl fun r => ?_
    split
    · exact relates_pure .refl _
    · split <;> exact relates_sendDatagram _ _ _
  · exact relates_pure .refl _

theorem relates_datagramsOut (n : ℕ) : Relates Performs (datagramsOut n) :=
  relates_interface (fun _ => rfl) n

theorem relates_drain (n fuel : ℕ) : Relates Performs (drain n fuel) := by
  induction fuel with
  | zero => exact relates_pure .refl _
  | succ fuel inductionHypothesis =>
      rw [drain]
      refine performs_bind (relates_datagramsOut n) fun queue => ?_
      cases queue with
      | nil => exact relates_pure .refl _
      | cons dgram rest =>
          refine performs_bind (relates_routeOneDatagram n dgram) fun _ => ?_
          exact performs_bind (relates_onQueue n List.tail) fun _ => inductionHypothesis

theorem relates_pass (interfaces : List ℕ) : Relates Performs (pass interfaces) := by
  induction interfaces with
  | nil => exact relates_pure .refl _
  | cons n rest inductionHypothesis =>
      rw [pass_cons]
      refine performs_bind ?_ fun _ => inductionHypothesis
      exact performs_bind (relates_datagramsOut n) fun queue => relates_drain n queue.length

/-- What the interfaces got from a pass is what the calls say that were noted,
whether or not the pass has thrown. -/
theorem route_performs (r : Router) : r.Performs (finalState (route r)) := by
  rw [route, get_bind_run]
  exact relates_pass _ r

end Log

section Tables

variable {interfaces : List AsyncNetworkInterface} {routes : List Route}

theorem connected_foldl_addRoute
    (exist : ∀ route ∈ routes, route.interfaceNum < interfaces.length) :
    (routes.foldl addRoute { interfaces }).Connected := by
  intro route membership
  rw [routingTable_foldl_addRoute, mem_foldl_insert] at membership
  rw [queues, (interfaces_foldl_addRoute _ _).1, List.length_map]
  exact exist route (membership.resolve_right List.not_mem_nil)

theorem lookup_foldl_addRoute (short : ∀ route ∈ routes, route.prefixLength.toNat ≤ 32) :
    (routes.foldl addRoute { interfaces }).lookup = longestPrefixRoute routes :=
  funext fun dst => find?_routingTable { interfaces } rfl short dst

end Tables

/-- A pass of the router sends on exactly the datagrams that have a route and
time to live, in order, and leaves nothing behind. -/
theorem route_conserves (interfaces : List AsyncNetworkInterface) (routes : List Route)
    (short : ∀ route ∈ routes, route.prefixLength.toNat ≤ 32)
    (exist : ∀ route ∈ routes, route.interfaceNum < interfaces.length)
    (serializes : ∀ i ∈ interfaces, ∀ dgram ∈ i.datagramsOut,
      ∃ bytes, dgram.serialize = .ok bytes) :
    ∃ r, route (routes.foldl addRoute { interfaces }) = .ok () r ∧
      r.interfaces.map (·.datagramsOut) = interfaces.map (fun _ => []) ∧
      r.sendCalls = (interfaces.flatMap (·.datagramsOut)).filterMap
        (forwarded (longestPrefixRoute routes)) := by
  obtain ⟨same, silent⟩ := interfaces_foldl_addRoute { interfaces } routes
  have start : (routes.foldl addRoute { interfaces }).queues = interfaces.map (·.datagramsOut) :=
    congrArg (List.map _) same
  obtain ⟨r, ran, moves⟩ := route_run (connected_foldl_addRoute exist) (by
    intro queue membership dgram queued _
    rw [start] at membership
    obtain ⟨i, there, rfl⟩ := List.mem_map.mp membership
    obtain ⟨bytes, serialized⟩ := serializes i there dgram queued
    exact IPv4Datagram.serializable_of_serialize serialized)
  refine ⟨r, ran, moves.queues.trans ?_, moves.calls.trans ?_⟩
  · rw [start, List.length_map, List.map_const']
  · rw [silent, start, lookup_foldl_addRoute short, List.nil_append]
    rfl

/-- Of three datagrams one is out of time, one goes along the longer prefix and
one along the default route. -/
theorem route_conserves_default_route :
    let dgram (ttl : UInt8) (dst : UInt32) : IPv4Datagram := { header := { len := 20, ttl, dst } }
    let i : AsyncNetworkInterface :=
      { ethernetAddress := Vector.replicate 6 2, ipAddress := { ip := 1 } }
    let gateway : Address := { ip := 0x0a000001 }
    let interfaces := [{ i with datagramsOut := [dgram 1 7, dgram 5 0x0a000007, dgram 5 7] }, i]
    let routes : List Route :=
      [{ routePrefix := 0, prefixLength := 0, nextHop := some gateway, interfaceNum := 1 },
        { routePrefix := 0x0a0000ff, prefixLength := 8, nextHop := none, interfaceNum := 0 }]
    ∃ r, route (routes.foldl addRoute { interfaces }) = .ok () r ∧
      r.interfaces.map (·.datagramsOut) = [[], []] ∧
      r.sendCalls =
        [{ interfaceNum := 0, dgram := dgram 4 0x0a000007, nextHop := { ip := 0x0a000007 } },
          { interfaceNum := 1, dgram := dgram 4 7, nextHop := gateway }] := by
  intro dgram i gateway interfaces routes
  have serializable : ∀ i ∈ interfaces, ∀ dgram ∈ i.datagramsOut, dgram.Serializable := by
    decide +kernel
  obtain ⟨r, ran, drained, calls⟩ := route_conserves interfaces routes (by decide) (by decide)
    fun i there dgram queued => ⟨_, (serializable i there dgram queued).serialize_ok⟩
  exact ⟨r, ran, drained, calls.trans (by decide +kernel)⟩

end Sponge.Router
