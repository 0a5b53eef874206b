import Sponge.NetworkSimulator.Network
import Sponge.NetworkSimulator.Settling

/-!
# An exchange of frames

`exchange_frames` lets every party hear the frames that the others had at the
start, in the order of their queues, and takes those frames off the queues.  What
the parties say meanwhile is left for the next exchange.
-/

namespace Sponge.NetworkSimulator

open Lib Throwing NetworkInterface

universe v

/-- The interfaces of the network are those of the stations. -/
structure Shows (n : Network) (s : Place → Station Place) : Prop where
  ports : n.router.interfaces = Port.all.map fun p => (s (.port p)).interface
  hosts : ∀ name, (n.hosts name).interface = (s (.host name)).interface

theorem Port.getElem?_all (p : Port) : Port.all[p.id]? = some p := by
  cases p <;> rfl

theorem Port.map_all_set (f : Port → AsyncNetworkInterface) (p : Port) (i : AsyncNetworkInterface) :
    (Port.all.map f).set p.id i = Port.all.map (Function.update f p i) := by
  cases p <;> rfl

variable {n : Network} {s : Place → Station Place}

section Parts

variable {α : Type} {a : α}

theorem onRouter_run {method : Router.Method α} {r : Router} (ran : method n.router = .ok a r) :
    Network.onRouter method n = .ok a { n with router := r } := by
  rw [Network.onRouter]
  exact within_of_ok ran

theorem onHost_run {name : HostName} {method : Host.Method α} {h : Host}
    (ran : method (n.hosts name) = .ok a h) :
    Network.onHost name method n = .ok a { n with hosts := Function.update n.hosts name h } := by
  simp only [Network.onHost, within, ran]

theorem onInterface_run {h : Host} {method : AsyncNetworkInterface.Method α}
    {i : AsyncNetworkInterface} (ran : method h.interface = .ok a i) :
    Host.onInterface method h = .ok a { h with interface := i } := by
  rw [Host.onInterface]
  exact within_of_ok ran

end Parts

theorem Shows.getElem?_port (shows : Shows n s) (p : Port) :
    n.router.interfaces[p.id]? = some (s (.port p)).interface := by
  rw [shows.ports, List.getElem?_map, Port.getElem?_all]
  rfl

theorem update_host_port (s : Place → Station Place) (name : HostName) (s' : Station Place)
    (p : Port) : Function.update s (.host name) s' (.port p) = s (.port p) :=
  Function.update_of_ne Place.noConfusion _ _

/-- A host changes its station. -/
theorem Shows.setHost (shows : Shows n s) (name : HostName) {h : Host} {s' : Station Place}
    (same : h.interface = s'.interface) :
    Shows { n with hosts := Function.update n.hosts name h } (Function.update s (.host name) s') := by
  refine ⟨?_, fun other => ?_⟩
  · dsimp only
    rw [shows.ports]
    exact List.map_congr_left fun q _ => by rw [update_host_port]
  · by_cases this : other = name
    · subst this
      simpa using same
    · simpa [this] using shows.hosts other

/-- A method of an interface changes its station. -/
theorem Shows.interface_run (shows : Shows n s) {place : Place} {α : Type}
    {method : AsyncNetworkInterface.Method α} {a : α} {s' : Station Place}
    (ran : method (s place).interface = .ok a s'.interface) :
    ∃ next, Network.interface method place n = .ok a next ∧
      Shows next (Function.update s place s') := by
  cases place with
  | port p =>
      have inRouter := Router.interface_run (shows.getElem?_port p) ran
      refine ⟨_, onRouter_run inRouter, ⟨?_, fun name => ?_⟩⟩
      · dsimp only
        rw [shows.ports, Port.map_all_set]
        refine List.map_congr_left fun q _ => ?_
        by_cases same : q = p
        · subst same
          simp
        · simp [same]
      · rw [Function.update_of_ne Place.noConfusion]
        exact shows.hosts name
  | host name =>
      rw [← shows.hosts] at ran
      exact ⟨_, onHost_run (onInterface_run ran), shows.setHost name rfl⟩

theorem Shows.interface_read (shows : Shows n s) {place : Place} {α : Type}
    {method : AsyncNetworkInterface.Method α} {a : α}
    (ran : method (s place).interface = .ok a (s place).interface) :
    ∃ next, Network.interface method place n = .ok a next ∧ Shows next s := by
  obtain ⟨next, read, shows⟩ := shows.interface_run ran
  rw [Function.update_eq_self] at shows
  exact ⟨next, read, shows⟩

section Exchange

variable {κ : Type v} {layout : Layout Place κ} {weight : Place → ℕ} {c : κ} {bound : κ → ℕ}
  {start : Place → Station Place} {said : Place → List (Message Place)}
  {count : Place → Place → ℕ} {cleared : Place → ℕ} {x y : Place}

/-- The network in the middle of an exchange. -/
def Exchanging (layout : Layout Place κ) (weight : Place → ℕ) (c : κ) (bound : ℕ)
    (start : Place → Station Place) (said : Place → List (Message Place))
    (count : Place → Place → ℕ) (cleared : Place → ℕ) (n : Network) : Prop :=
  ∃ s more, Shows n s ∧ Underway layout weight c bound start said count cleared s more

theorem hear_run {message : Message Place}
    (sound : layout.Sound y (s y).interface.toNetworkInterface) :
    AsyncNetworkInterface.recvFrame (layout.frame x message).joined (s y).interface =
      .ok () ((s y).hear x (layout.frame x message)).interface := by
  have single : (layout.frame x message).joined.payload.length ≤ 1 := Nat.le_refl 1
  obtain ⟨after, ran, _⟩ := recvFrame_returns single sound.flushable
  rw [Station.hear, Router.recvFrame_run ran]
  rfl

/-- The messages of `x` reach `y` one after another. -/
theorem deliver_triple (restrained : Restrained layout weight bound start said)
    (linked : layout.Linked x y) (here : layout.segment x = c) {messages rest : List (Message Place)}
    (unheard : (said x).drop ((start y).heard x + count x y) = messages ++ rest) :
    Triple (Exchanging layout weight c (bound c) start said count cleared)
      (Network.deliver (messages.map (layout.frame x)) y)
      (fun _ => Exchanging layout weight c (bound c) start said
        (countMore count x y messages.length) cleared)
      fun _ _ => False := by
  induction messages generalizing count with
  | nil =>
      intro n exchanging
      rw [List.length_nil, countMore_zero]
      exact exchanging
  | cons message messages inductionHypothesis =>
      have next : (said x)[(start y).heard x + count x y]? = some message := by
        rw [← List.head?_drop, unheard]
        rfl
      have first : Triple (Exchanging layout weight c (bound c) start said count cleared)
          (Network.interface (AsyncNetworkInterface.recvFrame (layout.frame x message).joined) y)
          (fun _ => Exchanging layout weight c (bound c) start said (countMore count x y 1) cleared)
          fun _ _ => False := by
        rintro n ⟨s, more, shows, underway⟩
        rw [← underway.heard] at next
        obtain ⟨after, ran, shows⟩ :=
          shows.interface_run (hear_run (underway.represents.speaks y).sound)
        obtain ⟨more', underway⟩ := underway.hear restrained linked here next
        rw [ran]
        exact ⟨_, more', shows, underway⟩
      have later : (said x).drop ((start y).heard x + countMore count x y 1 x y) =
          messages ++ rest := by
        rw [countMore_self, ← Nat.add_assoc, ← List.tail_drop, unheard]
        rfl
      have whole := first.bind fun _ => inductionHypothesis later
      rw [countMore_countMore, Nat.add_comm] at whole
      exact whole

/-- Who hands frames to whom, in this order. -/
def pairs (parties : List Place) : List (Place × Place) :=
  parties.flatMap fun x => (parties.filter (· ≠ x)).map fun y => (x, y)

theorem mem_pairs {parties : List Place} :
    (x, y) ∈ pairs parties ↔ x ∈ parties ∧ y ∈ parties ∧ y ≠ x := by
  simp [pairs]

theorem forM_pairs (parties : List Place) (f : Place → Place → Network.Method Unit) :
    (pairs parties).forM (fun (x, y) => f x y) =
      parties.forM fun x => (parties.filter (· ≠ x)).forM (f x) := by
  rw [pairs, forM_flatMap]
  exact congrArg parties.forM (funext fun x => forM_map _ _ _)

/-- What has been heard when some of the parties have handed over their frames. -/
def handedOver (start : Place → Station Place) (done : List (Place × Place)) (x y : Place) : ℕ :=
  if (x, y) ∈ done then (start x).interface.framesOut.length else 0

theorem countMore_handedOver {done : List (Place × Place)} (new : (x, y) ∉ done) :
    countMore (handedOver start done) x y (start x).interface.framesOut.length =
      handedOver start (done ++ [(x, y)]) := by
  funext i k
  by_cases same : i = x ∧ k = y
  · obtain ⟨rfl, rfl⟩ := same
    simp [countMore, handedOver, new]
  · simp [countMore, handedOver, same]

/-- Exactly the frames in the queue are still to be heard. -/
theorem framesOut_eq (represents : Represents layout start said) (aligned : Aligned layout start)
    (linked : layout.Linked x y) :
    (start x).interface.framesOut = ((said x).drop ((start y).heard x)).map (layout.frame x) := by
  rw [List.map_drop, ← (represents.speaks x).frames, aligned x y linked, Station.frames,
    List.drop_left]

theorem Shows.copies_run (shows : Shows n s) (parties : List Place) :
    ∃ next, parties.mapM Network.copyFrames n =
      .ok (parties.map fun x => (x, (s x).interface.framesOut)) next ∧ Shows next s := by
  induction parties generalizing n with
  | nil => exact ⟨n, rfl, shows⟩
  | cons x parties inductionHypothesis =>
      have copied : ((fun i => i.framesOut) <$> get : AsyncNetworkInterface.Method _)
          (s x).interface = .ok (s x).interface.framesOut (s x).interface := rfl
      obtain ⟨between, first, shows⟩ := shows.interface_read copied
      obtain ⟨next, rest, shows⟩ := inductionHypothesis shows
      refine ⟨next, ?_, shows⟩
      rw [List.mapM_cons, Network.copyFrames, bind_assoc, bind_of_ok first, pure_bind,
        bind_of_ok rest]
      rfl

/-- The first loop of an exchange. -/
theorem handOver_triple (represents : Represents layout start said)
    (aligned : Aligned layout start) (restrained : Restrained layout weight bound start said)
    {parties : List Place} (members : ∀ x ∈ parties, layout.segment x = c)
    (nodup : (pairs parties).Nodup) :
    Triple (Exchanging layout weight c (bound c) start said (handedOver start []) fun _ => 0)
      ((pairs parties).forM fun (x, y) => Network.deliver (start x).interface.framesOut y)
      (fun _ => Exchanging layout weight c (bound c) start said (handedOver start (pairs parties))
        fun _ => 0)
      fun _ _ => False := by
  refine Triple.forM (fun done => Exchanging layout weight c (bound c) start said
    (handedOver start done) fun _ => 0) ?_
  rintro done ⟨x, y⟩ rest whole
  have membership : (x, y) ∈ pairs parties := whole ▸ List.mem_append_right done List.mem_cons_self
  obtain ⟨isParty, isOther, different⟩ := mem_pairs.mp membership
  have linked : layout.Linked x y :=
    ⟨(members x isParty).trans (members y isOther).symm, different.symm⟩
  have new : (x, y) ∉ done := by
    rw [whole, List.nodup_middle, List.nodup_cons, List.mem_append, not_or] at nodup
    exact nodup.1.1
  have frames := framesOut_eq represents aligned linked
  have length : (start x).interface.framesOut.length =
      ((said x).drop ((start y).heard x)).length := by
    rw [frames, List.length_map]
  have unheard : (said x).drop ((start y).heard x + handedOver start done x y) =
      (said x).drop ((start y).heard x) ++ [] := by
    rw [handedOver, if_neg new, List.append_nil]
    rfl
  rw [← countMore_handedOver new, length]
  show Triple _ (Network.deliver (start x).interface.framesOut y) _ _
  rw [frames]
  exact deliver_triple restrained linked (members x isParty) unheard

theorem clear_eq (queue1 queue2 : List EthernetFrame) :
    Network.clear queue1 queue2 = queue2.drop queue1.length := by
  induction queue1 generalizing queue2 with
  | nil => rfl
  | cons frame queue1 inductionHypothesis =>
      rw [Network.clear, inductionHypothesis, List.drop_tail, List.length_cons]

/-- A station whose queue is cleared. -/
def Station.clear (queue : List EthernetFrame) (s : Station Place) : Station Place :=
  { s with
    interface := { s.interface with framesOut := Network.clear queue s.interface.framesOut }
    popped := s.popped ++ s.interface.framesOut.take queue.length }

theorem requeued_clear (queue : List EthernetFrame) (s : Station Place) :
    Requeued s (s.clear queue) where
  interface := ⟨_, rfl⟩
  frames := by
    rw [Station.frames, Station.clear, clear_eq, List.append_assoc, List.take_append_drop]
    rfl
  submitted := rfl
  heard := rfl
  received := rfl
  collected := rfl

/-- The queue of a party only grows until it is cleared. -/
theorem length_popped_clear {bound : ℕ} {more : Place → List (Message Place)}
    (represents : Represents layout start said)
    (underway : Underway layout weight c bound start said count cleared s more)
    (uncleared : cleared x = 0) :
    ((s x).clear (start x).interface.framesOut).popped.length =
      (s x).popped.length + (start x).interface.framesOut.length := by
  have before := congrArg List.length (represents.speaks x).frames
  have now := congrArg List.length (underway.represents.speaks x).frames
  have popped := underway.popped x
  simp only [Station.frames, List.length_append, List.length_map] at before now
  rw [Station.clear, List.length_append, List.length_take]
  omega

/-- The second loop of an exchange. -/
theorem clear_triple (represents : Represents layout start said) {parties : List Place}
    (nodup : parties.Nodup) :
    Triple (Exchanging layout weight c (bound c) start said count fun _ => 0)
      (parties.forM fun x => Network.interface (modify fun i =>
        { i with framesOut := Network.clear (start x).interface.framesOut i.framesOut }) x)
      (fun _ => Exchanging layout weight c (bound c) start said count
        fun x => if x ∈ parties then (start x).interface.framesOut.length else 0)
      fun _ _ => False := by
  refine Triple.forM (fun done => Exchanging layout weight c (bound c) start said count
        fun x => if x ∈ done then (start x).interface.framesOut.length else 0) ?_
  rintro done x rest whole n ⟨s, more, shows, underway⟩
  have new : x ∉ done := by
    rw [whole, List.nodup_middle, List.nodup_cons, List.mem_append, not_or] at nodup
    exact nodup.1.1
  have ran : (modify fun i : AsyncNetworkInterface =>
      { i with framesOut := Network.clear (start x).interface.framesOut i.framesOut } :
        AsyncNetworkInterface.Method Unit) (s x).interface =
      .ok () ((s x).clear (start x).interface.framesOut).interface := rfl
  obtain ⟨next, ran, shows⟩ := shows.interface_run ran
  have clear := underway.clear (requeued_clear (start x).interface.framesOut (s x))
    (length_popped_clear represents underway (if_neg new)) rfl
  rw [ran]
  refine ⟨_, more, shows, ?_⟩
  convert clear using 1
  funext i
  by_cases same : i = x
  · subst same
    simp [new]
  · simp [same]

/-- The network between two exchanges. -/
structure Stage (layout : Layout Place κ) (weight : Place → ℕ) (bound : κ → ℕ) (n : Network)
    (s : Place → Station Place) (said : Place → List (Message Place)) : Prop where
  shows : Shows n s
  represents : Represents layout s said
  aligned : Aligned layout s
  restrained : Restrained layout weight bound s said

/-- The stations after some exchanges of messages whose ranks are bounded. -/
structure Exchanged (layout : Layout Place κ) (weight : Place → ℕ) (bound : ℕ)
    (start s : Place → Station Place) : Prop where
  submitted : ∀ i, (s i).submitted = (start i).submitted
  collected : ∀ i, (s i).collected = (start i).collected
  arrived : ∀ k, (s k).interface.datagramsOut = (start k).interface.datagramsOut ∨
    ∃ i, layout.Linked i k ∧ weight i < bound

theorem Exchanged.trans {bound : ℕ} {s' : Place → Station Place}
    (first : Exchanged layout weight bound start s) (second : Exchanged layout weight bound s s') :
    Exchanged layout weight bound start s' where
  submitted i := (second.submitted i).trans (first.submitted i)
  collected i := (second.collected i).trans (first.collected i)
  arrived k := by
    rcases second.arrived k with same | arrived
    · rw [same]
      exact first.arrived k
    · exact .inr arrived

/-- An exchange between all the parties of a segment lowers the ranks there. -/
theorem Stage.exchangeFrames [DecidableEq κ] (stage : Stage layout weight bound n start said)
    {parties : List Place} (members : ∀ x, x ∈ parties ↔ layout.segment x = c)
    (nodup : parties.Nodup) (nodupPairs : (pairs parties).Nodup) {limit : ℕ}
    (limited : bound c ≤ limit) :
    ∃ next s said', Network.exchangeFrames parties n = .ok () next ∧
      Stage layout weight (Function.update bound c (bound c - 1)) next s said' ∧
      Exchanged layout weight limit start s := by
  obtain ⟨shows, represents, aligned, restrained⟩ := stage
  obtain ⟨copied, copies, shows⟩ := shows.copies_run parties
  have begun : Exchanging layout weight c (bound c) start said (handedOver start []) (fun _ => 0)
      copied := ⟨start, _, shows, underway_start represents weight c (bound c)⟩
  have loops := (handOver_triple represents aligned restrained (fun x => (members x).mp)
    nodupPairs).bind fun _ => clear_triple represents nodup
  obtain ⟨_, next, ran, s, more, shows, underway⟩ := loops.returns begun
  have all (x y : Place) (linked : layout.Linked x y) (here : layout.segment x = c) :
      handedOver start (pairs parties) x y =
          (if x ∈ parties then (start x).interface.framesOut.length else 0) ∧
        (start x).popped.length + (if x ∈ parties then (start x).interface.framesOut.length else 0) =
          (said x).length := by
    have isParty := (members x).mpr here
    have isOther := (members y).mpr (linked.1.symm.trans here)
    rw [if_pos isParty, handedOver, if_pos (mem_pairs.mpr ⟨isParty, isOther, linked.2.symm⟩)]
    have spoken := congrArg List.length (represents.speaks x).frames
    rw [List.length_map, Station.frames, List.length_append] at spoken
    exact ⟨rfl, spoken⟩
  have others (x y : Place) (elsewhere : layout.segment x ≠ c) :
      handedOver start (pairs parties) x y = 0 ∧
        (if x ∈ parties then (start x).interface.framesOut.length else 0) = 0 := by
    have noParty : x ∉ parties := fun isParty => elsewhere ((members x).mp isParty)
    exact ⟨if_neg fun membership => noParty (mem_pairs.mp membership).1, if_neg noParty⟩
  obtain ⟨aligned, restrained⟩ := underway.finished aligned restrained all
    fun x y _ => others x y
  refine ⟨next, s, _, ?_, ⟨shows, underway.represents, aligned, restrained⟩, underway.submitted,
    underway.collected, fun k => (underway.arrived k).imp_right ?_⟩
  · rw [Network.exchangeFrames, bind_of_ok copies, forM_map, forM_map]
    rw [forM_pairs parties fun x => Network.deliver (start x).interface.framesOut] at ran
    exact ran
  · rintro ⟨i, linked, below⟩
    exact ⟨i, linked, below.trans_le limited⟩

end Exchange

end Sponge.NetworkSimulator
