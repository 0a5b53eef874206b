import Sponge.NetworkSimulator.Speaking

/-!
# What a segment delivers

Whatever the interleaving, the datagrams that come out of an interface are those
that the others on its segment were given for it, each once and in order.  When
every frame has been heard, none is left out: as long as a datagram waits for an
interface, the request for its address or the reply is still to be heard.
-/

namespace Sponge.NetworkSimulator

open Lib Throwing NetworkInterface

universe u v

variable {ι : Type u} {κ : Type v} [DecidableEq ι] {layout : Layout ι κ}

/-- All that the station `k` has wanted sent is what it has said, and what it was
given for another station has been said or waits. -/
structure Speaks (layout : Layout ι κ) (k : ι) (s : Station ι) (said : List (Message ι)) :
    Prop where
  sound : layout.Sound k s.interface.toNetworkInterface
  frames : s.frames = said.map (layout.frame k)
  sayable : ∀ message ∈ said, layout.Sayable k message
  submitted : ∀ j, layout.Linked k j → datagramsFor (layout.ip j) s.submitted =
    said.filterMap (Message.datagramTo j) ++
      datagramsFor (layout.ip j) s.interface.queueingIPDatagrams

/-- What the station `k` has got from the station `i`, which has said `said`. -/
structure Hears (layout : Layout ι κ) (i k : ι) (sender receiver : Station ι)
    (said back : List (Message ι)) : Prop where
  heard : receiver.heard i ≤ said.length
  received : receiver.receivedFrom i =
    ((said.take (receiver.heard i)).filterMap (Message.datagramTo k)).map IPv4Datagram.reread
  /-- The station that is being asked for has the request or the reply ahead of it. -/
  asked : (sender.interface.arpTimer (layout.ip k)).isSome →
    .request (layout.ip k) ∈ said.drop (receiver.heard i) ∨
      .reply i ∈ back.drop (sender.heard k)

/-- What has come out of the station `k` is from its segment, and has been taken or
is still there. -/
structure Collects (layout : Layout ι κ) (k : ι) (s : Station ι) : Prop where
  sources : ∀ entry ∈ s.received, layout.Linked entry.1 k
  collected : s.received.map (·.2) = s.collected ++ s.interface.datagramsOut

/-- What all the stations have said, and what has become of it. -/
structure Represents (layout : Layout ι κ) (s : ι → Station ι) (said : ι → List (Message ι)) :
    Prop where
  speaks : ∀ k, Speaks layout k (s k) (said k)
  hears : ∀ i k, layout.Linked i k → Hears layout i k (s i) (s k) (said i) (said k)
  collects : ∀ k, Collects layout k (s k)

variable {s : ι → Station ι} {said : ι → List (Message ι)} {k : ι} {s' : Station ι}
  {more : List (Message ι)}

/-- One station changes, and nothing is missing between it and the others. -/
theorem Represents.update (inv : Represents layout s said) {said' : List (Message ι)}
    (speaks : Speaks layout k s' said')
    (asSender : ∀ l, layout.Linked k l → Hears layout k l s' (s l) said' (said l))
    (asReceiver : ∀ i, layout.Linked i k → Hears layout i k (s i) s' (said i) said')
    (collects : Collects layout k s') :
    Represents layout (Function.update s k s') (Function.update said k said') where
  speaks l := by
    by_cases same : l = k
    · subst same
      simpa using speaks
    · simpa [same] using inv.speaks l
  hears i l linked := by
    by_cases sends : i = k
    · subst sends
      simpa [linked.2.symm] using asSender l linked
    · by_cases receives : l = k
      · subst receives
        simpa [linked.2] using asReceiver i linked
      · simpa [sends, receives] using inv.hears i l linked
  collects l := by
    by_cases same : l = k
    · subst same
      simpa using collects
    · simpa [same] using inv.collects l

theorem Speaks.utters {s : Station ι} {said : List (Message ι)} (speaks : Speaks layout k s said)
    {given : List (IPv4Datagram × UInt32)}
    (sound : layout.Sound k s'.interface.toNetworkInterface)
    (utters : layout.Utters k s.interface.toNetworkInterface s'.interface.toNetworkInterface given more)
    (popped : s'.popped = s.popped) (submitted : s'.submitted = s.submitted ++ given) :
    Speaks layout k s' (said ++ more) where
  sound := sound
  frames := by
    rw [Station.frames, popped, utters.frames, ← List.append_assoc, List.map_append, ← speaks.frames]
    rfl
  sayable := List.forall_mem_append.mpr ⟨speaks.sayable, utters.sayable⟩
  submitted j linked := by
    have queue := utters.queue j linked
    rw [datagramsFor_append] at queue
    rw [submitted, datagramsFor_append, speaks.submitted j linked, List.append_assoc, queue,
      List.filterMap_append, List.append_assoc]

/-- What is said later does not take back what was heard. -/
theorem Hears.later {i l : ι} {sender receiver sender' receiver' : Station ι}
    {said back : List (Message ι)} (hears : Hears layout i l sender receiver said back)
    (more moreBack : List (Message ι)) (heard : receiver'.heard i = receiver.heard i)
    (received : receiver'.receivedFrom i = receiver.receivedFrom i)
    (heardBack : sender'.heard l = sender.heard l)
    (timers : (sender'.interface.arpTimer (layout.ip l)).isSome →
      (sender.interface.arpTimer (layout.ip l)).isSome ∨ .request (layout.ip l) ∈ more) :
    Hears layout i l sender' receiver' (said ++ more) (back ++ moreBack) where
  heard := by
    rw [heard, List.length_append]
    exact hears.heard.trans (Nat.le_add_right _ _)
  received := by
    rw [heard, received, List.take_append_of_le_length hears.heard]
    exact hears.received
  asked started := by
    rw [heard, heardBack, List.drop_append_of_le_length hears.heard]
    rcases timers started with before | asks
    · rcases hears.asked before with request | reply
      · exact .inl (List.mem_append_left _ request)
      · rw [List.drop_append]
        exact .inr (List.mem_append_left _ reply)
    · exact .inl (List.mem_append_right _ asks)

/-- A call of the owner. -/
theorem Represents.utters (inv : Represents layout s said) {given : List (IPv4Datagram × UInt32)}
    (sound : layout.Sound k s'.interface.toNetworkInterface)
    (utters : layout.Utters k (s k).interface.toNetworkInterface s'.interface.toNetworkInterface
      given more)
    (popped : s'.popped = (s k).popped) (submitted : s'.submitted = (s k).submitted ++ given)
    (heard : s'.heard = (s k).heard) (received : s'.received = (s k).received)
    (collected : s'.collected = (s k).collected)
    (datagramsOut : s'.interface.datagramsOut = (s k).interface.datagramsOut) :
    Represents layout (Function.update s k s') (Function.update said k (said k ++ more)) := by
  have collects : Collects layout k s' := by
    refine ⟨?_, ?_⟩
    · rw [received]
      exact (inv.collects k).sources
    · rw [received, collected, datagramsOut]
      exact (inv.collects k).collected
  refine inv.update ((inv.speaks k).utters sound utters popped submitted) (fun l linked => ?_)
    (fun i linked => ?_) collects
  · have later : Hears layout k l s' (s l) (said k ++ more) (said l ++ []) :=
      (inv.hears k l linked).later more [] rfl rfl (by rw [heard]) (utters.timers _)
    rwa [List.append_nil] at later
  · have same : s'.receivedFrom i = (s k).receivedFrom i := by
      rw [Station.receivedFrom, received]
      rfl
    have later : Hears layout i k (s i) s' (said i ++ []) (said k ++ more) :=
      (inv.hears i k linked).later [] more (by rw [heard]) same rfl .inl
    rwa [List.append_nil] at later

section Hearing

variable {j : ι} {message : Message ι}

/-- The station after it has heard a message. -/
theorem hear_eq (sound : layout.Sound k (s k).interface.toNetworkInterface)
    (linked : layout.Linked j k) (sayable : layout.Sayable j message) :
    ((s k).hear j (layout.frame j message)).interface.toNetworkInterface =
        (s k).interface.toNetworkInterface.apply (.recv (layout.frame j message).joined) ∧
      ((s k).hear j (layout.frame j message)).interface.datagramsOut =
        (s k).interface.datagramsOut ++
          ((message.datagramTo k).map IPv4Datagram.reread).toList ∧
      ((s k).hear j (layout.frame j message)).received = (s k).received ++
        (((message.datagramTo k).map IPv4Datagram.reread).toList.map fun dgram => (j, dgram)) := by
  have single : (layout.frame j message).joined.payload.length ≤ 1 := Nat.le_refl 1
  obtain ⟨after, ran, _⟩ := recvFrame_returns single sound.flushable
  rw [receivedDatagram_frame sound.names linked sayable] at ran
  have async := Router.recvFrame_run ran
  refine ⟨?_, ?_, ?_⟩
  · rw [Station.hear, async, apply, ran]
    rfl
  · rw [Station.hear, async]
    rfl
  · rw [Station.hear, async]
    simp only [finalState_ok, List.drop_left]

theorem receivedFrom_append (s : Station ι) (i : ι) (dgrams : List IPv4Datagram) :
    Station.receivedFrom i { s with received := s.received ++ dgrams.map fun dgram => (j, dgram) } =
      s.receivedFrom i ++ if j = i then dgrams else [] := by
  rw [Station.receivedFrom, Station.receivedFrom, List.filter_append, List.map_append]
  by_cases same : j = i <;> simp [same, List.filter_map, Function.comp_def]

/-- From a station whose next message has been heard. -/
theorem Hears.next {sender receiver receiver' : Station ι} {said back : List (Message ι)}
    (hears : Hears layout j k sender receiver said back)
    (next : said[receiver.heard j]? = some message)
    (heard : receiver'.heard j = receiver.heard j + 1)
    (received : receiver'.receivedFrom j = receiver.receivedFrom j ++
      ((message.datagramTo k).map IPv4Datagram.reread).toList)
    (heardBack : sender.heard k ≤ back.length)
    (replies : message = .request (layout.ip k) → .reply j ∈ more) :
    Hears layout j k sender receiver' said (back ++ more) := by
  obtain ⟨bound, isMessage⟩ := List.getElem?_eq_some_iff.mp next
  refine ⟨heard ▸ bound, ?_, fun started => ?_⟩
  · rw [heard, received, hears.received, List.take_succ_eq_append_getElem bound, isMessage,
      List.filterMap_append, List.map_append]
    cases found : message.datagramTo k <;> simp [found]
  · rw [heard, List.drop_append_of_le_length heardBack]
    rcases hears.asked started with request | reply
    · rw [List.drop_eq_getElem_cons bound, isMessage] at request
      rcases List.mem_cons.mp request with now | later
      · exact .inr (List.mem_append_right _ (replies now.symm))
      · exact .inl later
    · exact .inr (List.mem_append_left _ reply)

/-- To a station whose next message has been heard. -/
theorem Hears.back {sender sender' receiver : Station ι} {said back : List (Message ι)}
    (hears : Hears layout k j sender receiver said back)
    (next : back[sender.heard j]? = some message)
    (heard : sender'.heard j = sender.heard j + 1)
    (timers : (sender'.interface.arpTimer (layout.ip j)).isSome →
      (sender.interface.arpTimer (layout.ip j)).isSome ∨ .request (layout.ip j) ∈ more)
    (learns : message = .reply k → sender'.interface.arpTimer (layout.ip j) = none) :
    Hears layout k j sender' receiver (said ++ more) back := by
  obtain ⟨bound, isMessage⟩ := List.getElem?_eq_some_iff.mp next
  refine ⟨?_, ?_, fun started => ?_⟩
  · rw [List.length_append]
    exact hears.heard.trans (Nat.le_add_right _ _)
  · rw [List.take_append_of_le_length hears.heard]
    exact hears.received
  · rw [heard, List.drop_append_of_le_length hears.heard]
    rcases timers started with before | asks
    · rcases hears.asked before with request | reply
      · exact .inl (List.mem_append_left _ request)
      · rw [List.drop_eq_getElem_cons bound, isMessage] at reply
        rcases List.mem_cons.mp reply with now | later
        · rw [learns now.symm] at started
          contradiction
        · exact .inr later
    · exact .inl (List.mem_append_right _ asks)

/-- A station hears the next message of another one. -/
theorem Represents.hear (inv : Represents layout s said) (linked : layout.Linked j k)
    (next : (said j)[(s k).heard j]? = some message) :
    ∃ more, layout.Answers k j message (s k).interface.toNetworkInterface
        ((s k).hear j (layout.frame j message)).interface.toNetworkInterface more ∧
      Represents layout (Function.update s k ((s k).hear j (layout.frame j message)))
        (Function.update said k (said k ++ more)) := by
  have speaks := inv.speaks k
  have sayable := (inv.speaks j).sayable message (List.mem_of_getElem? next)
  obtain ⟨sound, more, answers⟩ := speaks.sound.hear linked sayable
  obtain ⟨interface, datagramsOut, received⟩ := hear_eq speaks.sound linked sayable
  rw [← interface] at sound answers
  have fromStation (i : ι) : ((s k).hear j (layout.frame j message)).receivedFrom i =
      (s k).receivedFrom i ++
        if j = i then ((message.datagramTo k).map IPv4Datagram.reread).toList else [] := by
    rw [← receivedFrom_append, Station.receivedFrom, received]
    rfl
  have heard (i : ι) : ((s k).hear j (layout.frame j message)).heard i =
      if i = j then (s k).heard j + 1 else (s k).heard i := Function.update_apply ..
  have collects : Collects layout k ((s k).hear j (layout.frame j message)) := by
    have before := inv.collects k
    refine ⟨?_, ?_⟩
    · rw [received]
      refine List.forall_mem_append.mpr ⟨before.sources, ?_⟩
      exact List.forall_mem_map.mpr fun _ _ => linked
    · rw [received, datagramsOut, ← List.append_assoc, List.map_append, before.collected]
      simp [Station.hear]
  refine ⟨more, answers, inv.update ?_ (fun l here => ?_) (fun i here => ?_) collects⟩
  · exact speaks.utters sound answers.toUtters rfl (List.append_nil _).symm
  · by_cases same : l = j
    · subst same
      exact (inv.hears k l here).back next (by rw [heard, if_pos rfl]) (answers.timers _)
        answers.learns
    · have later : Hears layout k l _ (s l) (said k ++ more) (said l ++ []) :=
        (inv.hears k l here).later more [] rfl rfl (by rw [heard, if_neg same]) (answers.timers _)
      rwa [List.append_nil] at later
  · by_cases same : i = j
    · subst same
      exact (inv.hears i k here).next next (by rw [heard, if_pos rfl])
        (by rw [fromStation, if_pos rfl]) (inv.hears k i here.symm).heard answers.replies
    · have later : Hears layout i k (s i) _ (said i ++ []) (said k ++ more) :=
        (inv.hears i k here).later [] more (by rw [heard, if_neg same])
          (by rw [fromStation, if_neg (Ne.symm same), List.append_nil]) rfl .inl
      rwa [List.append_nil] at later

end Hearing

section Runs

theorem represents_initial (layout : Layout ι κ) : Represents layout layout.initial fun _ => [] where
  speaks k := ⟨layout.sound_new k, rfl, List.forall_mem_nil _, fun _ _ => rfl⟩
  hears _ _ _ := ⟨Nat.le_refl 0, rfl, fun started => nomatch started⟩
  collects _ := ⟨List.forall_mem_nil _, rfl⟩

omit [DecidableEq ι] in
theorem onInterface_interface {α : Type} (method : NetworkInterface.Method α) (s : Station ι) :
    (s.onInterface method).interface =
      { s.interface with
        toNetworkInterface := finalState (method s.interface.toNetworkInterface) } :=
  finalState_within _ _ _ _

omit [DecidableEq ι] in
theorem onInterface_datagramsOut {α : Type} (method : NetworkInterface.Method α) (s : Station ι) :
    (s.onInterface method).interface.datagramsOut = s.interface.datagramsOut := by
  rw [onInterface_interface]

/-- Something has been taken off the queues of a station. -/
structure Requeued (s s' : Station ι) : Prop where
  interface : ∃ frames, s'.interface.toNetworkInterface =
    { s.interface.toNetworkInterface with framesOut := frames }
  frames : s'.frames = s.frames
  submitted : s'.submitted = s.submitted
  heard : s'.heard = s.heard
  received : s'.received = s.received
  collected : s'.collected ++ s'.interface.datagramsOut = s.collected ++ s.interface.datagramsOut

omit [DecidableEq ι] in
theorem Requeued.refl (s : Station ι) : Requeued s s :=
  ⟨⟨s.interface.framesOut, rfl⟩, rfl, rfl, rfl, rfl, rfl⟩

/-- The queues do not matter for what has been said and heard. -/
theorem Represents.requeued (inv : Represents layout s said) {s' : ι → Station ι}
    (requeued : ∀ k, Requeued (s k) (s' k)) : Represents layout s' said := by
  have timers (k : ι) : (s' k).interface.arpTimer = (s k).interface.arpTimer := by
    obtain ⟨frames, interface⟩ := (requeued k).interface
    rw [interface]
  have queue (k : ι) :
      (s' k).interface.queueingIPDatagrams = (s k).interface.queueingIPDatagrams := by
    obtain ⟨frames, interface⟩ := (requeued k).interface
    rw [interface]
  refine ⟨fun k => ?_, fun i k linked => ?_, fun k => ?_⟩
  · obtain ⟨sound, frames, sayable, submitted⟩ := inv.speaks k
    refine ⟨?_, (requeued k).frames.trans frames, sayable, ?_⟩
    · obtain ⟨frames, interface⟩ := (requeued k).interface
      rw [interface]
      exact sound.withFrames frames
    · rw [(requeued k).submitted, queue]
      exact submitted
  · obtain ⟨heard, received, asked⟩ := inv.hears i k linked
    rw [← (requeued k).heard] at heard received asked
    rw [← (requeued i).heard, ← timers] at asked
    refine ⟨heard, ?_, asked⟩
    rw [Station.receivedFrom, (requeued k).received]
    exact received
  · obtain ⟨sources, collected⟩ := inv.collects k
    rw [← (requeued k).received] at sources collected
    exact ⟨sources, collected.trans (requeued k).collected.symm⟩

theorem requeued_update (requeued : Requeued (s k) s') (l : ι) :
    Requeued (s l) (Function.update s k s' l) := by
  by_cases same : l = k
  · subst same
    rwa [Function.update_self]
  · rw [Function.update_of_ne same]
    exact .refl _

theorem Represents.sendDatagram (inv : Represents layout s said) {dgram : IPv4Datagram}
    (wellFormed : dgram.WellFormed) (k : ι) (nextHop : Address) :
    ∃ more, layout.Utters k (s k).interface.toNetworkInterface
        ((s k).sendDatagram dgram nextHop).interface.toNetworkInterface
        [(dgram, nextHop.ipv4Numeric)] more ∧
      (∀ message ∈ more, ∀ asker, message ≠ .reply asker) ∧
      Represents layout (Function.update s k ((s k).sendDatagram dgram nextHop))
        (Function.update said k (said k ++ more)) := by
  obtain ⟨sound, more, utters, noReply⟩ := (inv.speaks k).sound.send wellFormed nextHop
  have interface : ((s k).sendDatagram dgram nextHop).interface.toNetworkInterface =
      (s k).interface.toNetworkInterface.apply (.send dgram nextHop) :=
    congrArg AsyncNetworkInterface.toNetworkInterface (onInterface_interface _ (s k))
  rw [← interface] at sound utters
  exact ⟨more, utters, noReply, inv.utters sound utters rfl rfl rfl rfl rfl
    (onInterface_datagramsOut _ (s k))⟩

theorem Represents.tick (inv : Represents layout s said) (k : ι) (ms : ℕ) :
    Represents layout (Function.update s k ((s k).onInterface (NetworkInterface.tick ms))) said := by
  obtain ⟨sound, utters⟩ := (inv.speaks k).sound.tick ms
  have interface : ((s k).onInterface (NetworkInterface.tick ms)).interface.toNetworkInterface =
      (s k).interface.toNetworkInterface.apply (.tick ms) :=
    congrArg AsyncNetworkInterface.toNetworkInterface (onInterface_interface _ (s k))
  rw [← interface] at sound utters
  have ticked := inv.utters sound utters rfl (List.append_nil _).symm rfl rfl rfl
    (onInterface_datagramsOut _ (s k))
  rwa [List.append_nil, Function.update_eq_self] at ticked

omit [DecidableEq ι] in
theorem requeued_popFrame (s : Station ι) : Requeued s s.popFrame where
  interface := ⟨_, rfl⟩
  frames := by
    rw [Station.frames, Station.popFrame, List.append_assoc]
    cases framesOut : s.interface.framesOut <;> simp [Station.frames, framesOut]
  submitted := rfl
  heard := rfl
  received := rfl
  collected := rfl

omit [DecidableEq ι] in
theorem requeued_popDatagram (s : Station ι) : Requeued s s.popDatagram where
  interface := ⟨s.interface.framesOut, rfl⟩
  frames := rfl
  submitted := rfl
  heard := rfl
  received := rfl
  collected := by
    rw [Station.popDatagram, List.append_assoc]
    cases s.interface.datagramsOut <;> simp

/-- Every event leaves what has been said, and adds to it. -/
theorem Represents.step (inv : Represents layout s said) {event : Event ι}
    (permitted : Permitted layout event) : ∃ said', Represents layout (step s event) said' := by
  cases event with
  | sendDatagram k dgram nextHop =>
      obtain ⟨more, _, _, next⟩ := inv.sendDatagram permitted k nextHop
      exact ⟨_, next⟩
  | deliver j k =>
      rw [NetworkSimulator.step, (inv.speaks j).frames, List.getElem?_map]
      cases next : (said j)[(s k).heard j]? with
      | none => exact ⟨said, inv⟩
      | some message =>
          obtain ⟨more, _, heard⟩ := inv.hear permitted next
          exact ⟨_, heard⟩
  | popFrame k => exact ⟨said, inv.requeued (requeued_update (requeued_popFrame (s k)))⟩
  | popDatagram k => exact ⟨said, inv.requeued (requeued_update (requeued_popDatagram (s k)))⟩
  | tick k ms => exact ⟨said, inv.tick k ms⟩

/-- Nothing waits for a station that has heard everything. -/
theorem Represents.waiting_eq_nil (inv : Represents layout s said) {i k : ι}
    (linked : layout.Linked i k) (all : (s k).heard i = (said i).length)
    (back : (s i).heard k = (said k).length) :
    datagramsFor (layout.ip k) (s i).interface.queueingIPDatagrams = [] := by
  by_contra waits
  obtain ⟨dgram, waiting⟩ := List.exists_mem_of_ne_nil _ waits
  obtain ⟨entry, queued, rfl⟩ := List.mem_map.mp waiting
  obtain ⟨queued, same⟩ := List.mem_filter.mp queued
  have timer := (inv.speaks i).sound.consistent.requested entry queued
  rw [of_decide_eq_true same] at timer
  have asked := (inv.hears i k linked).asked timer
  rw [all, back, List.drop_length, List.drop_length] at asked
  exact asked.elim List.not_mem_nil List.not_mem_nil

theorem Represents.delivered (inv : Represents layout s said) {i k : ι}
    (linked : layout.Linked i k) :
    (s k).receivedFrom i <+:
        (datagramsFor (layout.ip k) (s i).submitted).map IPv4Datagram.reread ∧
      ((s k).heard i = (said i).length → (s i).heard k = (said k).length →
        (s k).receivedFrom i =
          (datagramsFor (layout.ip k) (s i).submitted).map IPv4Datagram.reread) := by
  have hears := inv.hears i k linked
  rw [hears.received, (inv.speaks i).submitted k linked]
  constructor
  · refine List.IsPrefix.map _ (List.IsPrefix.trans ?_ (List.prefix_append _ _))
    exact (List.take_prefix _ _).filterMap _
  · intro all back
    rw [inv.waiting_eq_nil linked all back, all, List.take_length, List.append_nil]

/-- In every run, the datagrams that have come out of an interface are the first of
those that another one on its segment was given for it, each once and in order, and
they are all of them as soon as every frame has been heard. -/
theorem datagrams_delivered (layout : Layout ι κ) (events : List (Event ι))
    (permitted : ∀ event ∈ events, Permitted layout event) (i k : ι)
    (linked : layout.Linked i k) :
    let s := run step layout.initial events
    (s k).receivedFrom i <+:
        (datagramsFor (layout.ip k) (s i).submitted).map IPv4Datagram.reread ∧
      (Silent layout s → (s k).receivedFrom i =
        (datagramsFor (layout.ip k) (s i).submitted).map IPv4Datagram.reread) := by
  intro s
  have guarded : Guarded step (fun _ event => Permitted layout event) layout.initial events :=
    (guarded_iff_forall_mem (Permitted layout) layout.initial events).mpr permitted
  obtain ⟨said, inv⟩ : ∃ said, Represents layout s said :=
    guarded.invariant (fun s => ∃ said, Represents layout s said)
      ⟨_, represents_initial layout⟩ fun s event ⟨_, inv⟩ permitted => inv.step permitted
  have length (k : ι) : (s k).frames.length = (said k).length := by
    rw [(inv.speaks k).frames, List.length_map]
  obtain ⟨initial, complete⟩ := inv.delivered linked
  refine ⟨initial, fun silent => complete ?_ ?_⟩
  · rw [silent i k linked, length]
  · rw [silent k i linked.symm, length]

/-- Two interfaces on one segment. -/
def pair : Layout Bool Unit where
  segment _ := ()
  ethernetAddress i := Vector.replicate 6 (if i then 4 else 2)
  ipAddress i := { ip := if i then 7 else 8 }
  ethernetDistinct {i j} _ := by cases i <;> cases j <;> decide
  ipDistinct {i j} _ := by cases i <;> cases j <;> decide
  unicast i := by cases i <;> decide

/-- A datagram is kept back until its request has been answered. -/
def resolution (dgram : IPv4Datagram) : List (Event Bool) :=
  [.sendDatagram false dgram { ip := 7 }, .deliver false true, .popFrame false,
    .deliver true false, .popFrame true, .deliver false true]

theorem datagrams_delivered_resolution :
    let dgram : IPv4Datagram := { header := { len := 22, dst := 7 }, payload := [[104, 105]] }
    (run step pair.initial (resolution dgram) true).receivedFrom false = [dgram.reread] := by
  intro dgram
  have wellFormed : dgram.WellFormed := ⟨⟨by decide, by decide, by decide, by decide⟩, by decide⟩
  have permitted : ∀ event ∈ resolution dgram, Permitted pair event := by
    simp only [resolution, List.forall_mem_cons]
    exact ⟨wellFormed, ⟨rfl, by decide⟩, trivial, ⟨rfl, by decide⟩, trivial, ⟨rfl, by decide⟩,
      List.forall_mem_nil _⟩
  have silent : Silent pair (run step pair.initial (resolution dgram)) := by
    intro i k linked
    cases i <;> cases k
    · exact absurd rfl linked.2
    · decide +kernel
    · decide +kernel
    · exact absurd rfl linked.2
  exact ((datagrams_delivered pair _ permitted false true ⟨rfl, by decide⟩).2 silent).trans
    (by decide +kernel)

end Runs

end Sponge.NetworkSimulator
