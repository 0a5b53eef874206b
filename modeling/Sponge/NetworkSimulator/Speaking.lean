import Sponge.NetworkSimulator.Messages

/-!
# What a call makes an interface say

An interface that has only heard from its segment knows only true addresses.  Every
call makes it say some messages, and those are exactly the datagrams that do not
wait any more, the requests for which it has started a timer, and the reply to a
request that it has heard.
-/

namespace Sponge.NetworkInterface

/-- Nothing waits for an address that is known. -/
theorem Settled.datagramsFor_known {i : NetworkInterface} (settled : i.Settled) {ip : UInt32}
    {entry : EthernetAddress × ℕ} (known : i.ethernetAddrCache ip = some entry) :
    datagramsFor ip i.queueingIPDatagrams = [] := by
  rw [datagramsFor, List.map_eq_nil_iff, List.filter_eq_nil_iff]
  intro waiting membership same
  have unknown := settled waiting membership
  rw [of_decide_eq_true same, known] at unknown
  contradiction

end Sponge.NetworkInterface

namespace Sponge.NetworkSimulator

open Lib Throwing NetworkInterface

universe u v

variable {ι : Type u} {κ : Type v} [DecidableEq ι] {layout : Layout ι κ} {k : ι}
  {i next : NetworkInterface}

/-- What holds of an interface that has only heard from its segment. -/
structure Layout.Sound (layout : Layout ι κ) (k : ι) (i : NetworkInterface) : Prop where
  names : layout.Names k i
  truthful : ∀ ip address age, i.ethernetAddrCache ip = some (address, age) →
    ∃ j, layout.Linked k j ∧ layout.ip j = ip ∧ layout.ethernetAddress j = address
  consistent : i.Consistent
  settled : i.Settled
  wellFormed : ∀ entry ∈ i.queueingIPDatagrams, entry.1.WellFormed

/-- An interface that is given some datagrams says `more`. -/
structure Layout.Utters (layout : Layout ι κ) (k : ι) (i next : NetworkInterface)
    (given : List (IPv4Datagram × UInt32)) (more : List (Message ι)) : Prop where
  frames : next.framesOut = i.framesOut ++ more.map (layout.frame k)
  sayable : ∀ message ∈ more, layout.Sayable k message
  /-- The datagrams that do not wait any more have been said. -/
  queue : ∀ j, layout.Linked k j →
    datagramsFor (layout.ip j) (i.queueingIPDatagrams ++ given) =
      more.filterMap (Message.datagramTo j) ++ datagramsFor (layout.ip j) next.queueingIPDatagrams
  /-- A timer that starts comes with a request. -/
  timers : ∀ ip, (next.arpTimer ip).isSome → (i.arpTimer ip).isSome ∨ .request ip ∈ more

omit [DecidableEq ι] in
theorem Layout.Sound.flushable (sound : layout.Sound k i) : i.Flushable :=
  fun entry queued => (sound.wellFormed entry queued).serializable

omit [DecidableEq ι] in
theorem Layout.Sound.withFrames (sound : layout.Sound k i) (frames : List EthernetFrame) :
    layout.Sound k { i with framesOut := frames } where
  names := ⟨sound.names.1, sound.names.2⟩
  truthful := sound.truthful
  consistent := ⟨sound.consistent.requested, sound.consistent.exclusive⟩
  settled := sound.settled
  wellFormed := sound.wellFormed

omit [DecidableEq ι] in
theorem Layout.sound_new (layout : Layout ι κ) (k : ι) :
    layout.Sound k
      { ethernetAddress := layout.ethernetAddress k, ipAddress := layout.ipAddress k } where
  names := ⟨rfl, rfl⟩
  truthful _ _ _ := nofun
  consistent := consistent_new _ _
  settled := List.forall_mem_nil _
  wellFormed := List.forall_mem_nil _

theorem Layout.Utters.refl (layout : Layout ι κ) (k : ι) (i : NetworkInterface) :
    layout.Utters k i i [] [] where
  frames := (List.append_nil _).symm
  sayable := List.forall_mem_nil _
  queue j _ := by simp
  timers ip := .inl

section Frames

variable (names : layout.Names k i)
include names

omit [DecidableEq ι] in
theorem frameTo_eq (dst : EthernetAddress) (type : UInt16) (payload : BufferList) :
    i.frameTo dst type payload = { header := layout.header k dst type, payload } := by
  rw [frameTo, names.ethernetAddress]
  rfl

omit [DecidableEq ι] in
theorem framesTo_eq (j : ι) (dgrams : List IPv4Datagram) :
    i.framesTo (layout.ethernetAddress j) dgrams =
      (dgrams.map (Message.datagram j)).map (layout.frame k) := by
  rw [framesTo, List.map_map]
  exact List.map_congr_left fun dgram _ => frameTo_eq names _ _ _

omit [DecidableEq ι] in
theorem requestFrames_eq (ip : UInt32) :
    i.requestFrames ip =
      (if i.requestDue ip then [Message.request ip] else []).map (layout.frame k) := by
  have request : i.arpRequest ip = layout.arpRequest k ip := by
    rw [arpRequest, names.ethernetAddress, names.ipAddress]
    rfl
  rw [requestFrames, frameTo_eq names, request]
  split <;> rfl

omit [DecidableEq ι] in
theorem replyFrames_eq {msg : ARPMessage} {j : ι}
    (ethernetAddress : msg.senderEthernetAddress = layout.ethernetAddress j)
    (ipAddress : msg.senderIpAddress = layout.ip j) :
    i.replyFrames msg =
      (if msg.opcode = ARPMessage.opcodeRequest ∧ msg.targetIpAddress = layout.ip k then
        [Message.reply j] else []).map (layout.frame k) := by
  have reply : i.arpReply msg = layout.arpReply k j := by
    rw [arpReply, names.ethernetAddress, names.ipAddress, ethernetAddress, ipAddress]
    rfl
  have ip : i.ipAddress.ipv4Numeric = layout.ip k := congrArg Address.ipv4Numeric names.ipAddress
  rw [replyFrames, frameTo_eq names, reply, ip, ethernetAddress]
  split <;> rfl

end Frames

section Sending

variable {dgram : IPv4Datagram} {nextHop : Address}

/-- A datagram that is sent at once goes to the interface with that address. -/
theorem utters_sent (sound : layout.Sound k i) (wellFormed : dgram.WellFormed)
    {dst : EthernetAddress} {age : ℕ}
    (known : i.ethernetAddrCache nextHop.ipv4Numeric = some (dst, age)) :
    ∃ more, layout.Utters k i { i with framesOut := i.framesOut ++ i.framesTo dst [dgram] }
      [(dgram, nextHop.ipv4Numeric)] more ∧ ∀ message ∈ more, ∀ asker, message ≠ .reply asker := by
  obtain ⟨j, linked, ip, rfl⟩ := sound.truthful _ dst age known
  refine ⟨[.datagram j dgram], ⟨?_, List.forall_mem_singleton.mpr ⟨linked, wellFormed⟩, ?_,
    fun _ => .inl⟩, List.forall_mem_singleton.mpr nofun⟩
  · rw [framesTo_eq sound.names]
    rfl
  · intro l here
    rw [datagramsFor_append, ← ip]
    by_cases same : j = l
    · subst same
      rw [← ip] at known
      simp [sound.settled.datagramsFor_known known, datagramsFor_cons_self, Message.datagramTo]
    · have other : layout.ip j ≠ layout.ip l := fun eq => same ((here.ip_eq_iff linked).mp eq)
      simp [datagramsFor_cons_of_ne other, Message.datagramTo, same]

/-- A datagram that is kept back comes with a request, if it is time for one. -/
theorem utters_keptBack (names : layout.Names k i) (dgram : IPv4Datagram) (ip : UInt32) :
    layout.Utters k i
      { i with
        arpTimer := i.askedTimer ip
        framesOut := i.framesOut ++ i.requestFrames ip
        queueingIPDatagrams := i.queueingIPDatagrams ++ [(dgram, ip)] }
      [(dgram, ip)] (if i.requestDue ip then [Message.request ip] else []) where
  frames := by rw [requestFrames_eq names]
  sayable := by
    split
    · exact List.forall_mem_singleton.mpr trivial
    · exact List.forall_mem_nil _
  queue j _ := by split <;> rfl
  timers other started := by
    by_cases same : other = ip
    · subst same
      cases due : i.requestDue other with
      | true => exact .inr (by simp)
      | false =>
          obtain ⟨time, _, timer, _⟩ := askedTimer_of_not_due due
          exact .inl (by rw [timer, Option.isSome_some])
    · exact .inl (by rwa [← askedTimer_of_ne same])

/-- Giving a datagram to an interface makes it send or ask. -/
theorem Layout.Sound.send (sound : layout.Sound k i) (wellFormed : dgram.WellFormed)
    (nextHop : Address) :
    layout.Sound k (i.apply (.send dgram nextHop)) ∧
      ∃ more, layout.Utters k i (i.apply (.send dgram nextHop)) [(dgram, nextHop.ipv4Numeric)]
        more ∧ ∀ message ∈ more, ∀ asker, message ≠ .reply asker := by
  have serializes : Op.Serializes (.send dgram nextHop) :=
    ⟨_, wellFormed.serializable.serialize_ok⟩
  have step := step_apply sound.flushable serializes
  generalize i.apply (.send dgram nextHop) = next at step
  have consistent := sound.consistent.step step
  have settled := sound.settled.step step
  cases step with
  | sent known =>
      exact ⟨⟨⟨sound.names.1, sound.names.2⟩, sound.truthful, consistent, settled,
        sound.wellFormed⟩, utters_sent sound wellFormed known⟩
  | keptBack unknown =>
      refine ⟨⟨⟨sound.names.1, sound.names.2⟩, sound.truthful, consistent, settled, ?_⟩, _,
        utters_keptBack sound.names dgram _, ?_⟩
      · exact List.forall_mem_append.mpr ⟨sound.wellFormed, List.forall_mem_singleton.mpr wellFormed⟩
      · intro message membership asker
        split at membership
        · rw [List.mem_singleton.mp membership]
          nofun
        · contradiction

end Sending

/-- Time passes without a word. -/
theorem Layout.Sound.tick (sound : layout.Sound k i) (ms : ℕ) :
    layout.Sound k (i.apply (.tick ms)) ∧ layout.Utters k i (i.apply (.tick ms)) [] [] := by
  have step : i.Step (.tick ms) (i.apply (.tick ms)) := .ticked
  refine ⟨⟨⟨sound.names.1, sound.names.2⟩, ?_, sound.consistent.step step,
    sound.settled.step step, sound.wellFormed⟩, ?_⟩
  · intro ip address age kept
    obtain ⟨⟨before, time⟩, known, aged⟩ := Option.bind_eq_some_iff.mp kept
    obtain ⟨_, same⟩ := Option.ite_none_left_eq_some.mp aged
    cases same
    exact sound.truthful ip address time known
  · refine ⟨(List.append_nil _).symm, List.forall_mem_nil _, fun _ _ => ?_, fun ip started => ?_⟩
    · rw [List.append_nil]
      rfl
    · exact .inl (by simpa [apply, NetworkInterface.tick] using started)

section Hearing

variable {j : ι} {message : Message ι}

/-- What an interface says to a message of the interface `j` that it hears. -/
structure Layout.Answers (layout : Layout ι κ) (k j : ι) (message : Message ι)
    (i next : NetworkInterface) (more : List (Message ι)) : Prop
    extends layout.Utters k i next [] more where
  /-- The reply to a request, and the datagrams that have waited for `j`. -/
  answers : ∀ answer ∈ more, (answer = .reply j ∧ ∃ target, message = .request target) ∨
    ((∃ dgram, answer = .datagram j dgram) ∧ (i.arpTimer (layout.ip j)).isSome ∧
      ∀ receiver dgram, message ≠ .datagram receiver dgram)
  replies : message = .request (layout.ip k) → .reply j ∈ more
  learns : message = .reply k → next.arpTimer (layout.ip j) = none

/-- The interface when it has learnt the address of `j`. -/
def Layout.learnt (layout : Layout ι κ) (j : ι) (i : NetworkInterface)
    (frames : List EthernetFrame) : NetworkInterface :=
  { i with
    ethernetAddrCache := Function.update i.ethernetAddrCache (layout.ip j)
      (some (layout.ethernetAddress j, 0))
    arpTimer := Function.update i.arpTimer (layout.ip j) none
    queueingIPDatagrams := i.queueingIPDatagrams.filter (·.2 ≠ layout.ip j)
    framesOut := i.framesOut ++ frames }

omit [DecidableEq ι] in
theorem sound_learnt (sound : layout.Sound k i) (linked : layout.Linked j k)
    (frames : List EthernetFrame) : layout.Sound k (layout.learnt j i frames) where
  names := ⟨sound.names.1, sound.names.2⟩
  truthful ip address age known := by
    rw [Layout.learnt] at known
    by_cases same : ip = layout.ip j
    · subst same
      cases (Function.update_self ..).symm.trans known
      exact ⟨j, linked.symm, rfl, rfl⟩
    · exact sound.truthful ip address age ((Function.update_of_ne same ..).symm.trans known)
  consistent := sound.consistent.learnt _ _ _
  settled entry queued := by
    obtain ⟨queued, other⟩ := List.mem_filter.mp queued
    exact (Function.update_of_ne (of_decide_eq_true other) _ _).trans (sound.settled entry queued)
  wellFormed entry queued := sound.wellFormed entry (List.mem_of_mem_filter queued)

/-- The datagrams that wait for `j`. -/
def Layout.waiting (layout : Layout ι κ) (j : ι) (i : NetworkInterface) : List (Message ι) :=
  (datagramsFor (layout.ip j) i.queueingIPDatagrams).map (Message.datagram j)

/-- What has waited for `j` is said when its address is learnt, and then the reply. -/
theorem utters_learnt (sound : layout.Sound k i) (linked : layout.Linked j k)
    {replies : List (Message ι)} (only : ∀ reply ∈ replies, reply = .reply j) :
    layout.Utters k i
      (layout.learnt j i ((layout.waiting j i ++ replies).map (layout.frame k)))
      [] (layout.waiting j i ++ replies) where
  frames := rfl
  sayable := by
    refine List.forall_mem_append.mpr ⟨?_, fun reply membership => ?_⟩
    · intro message membership
      obtain ⟨dgram, waiting, rfl⟩ := List.mem_map.mp membership
      obtain ⟨entry, queued, rfl⟩ := List.mem_map.mp waiting
      exact ⟨linked.symm, sound.wellFormed entry (List.mem_of_mem_filter queued)⟩
    · rw [only reply membership]
      exact linked.symm
  queue l here := by
    have silent : replies.filterMap (Message.datagramTo l) = [] := by
      rw [List.filterMap_eq_nil_iff]
      intro reply membership
      rw [only reply membership]
      rfl
    have said : (layout.waiting j i).filterMap (Message.datagramTo l) =
        if layout.ip l = layout.ip j then datagramsFor (layout.ip j) i.queueingIPDatagrams
        else [] := by
      simp only [Layout.waiting, List.filterMap_map, linked.symm.ip_eq_iff here]
      by_cases same : j = l
      · simp [same, Message.datagramTo]
      · simp [same, Ne.symm same, Message.datagramTo]
    rw [List.append_nil, List.filterMap_append, silent, List.append_nil, said]
    exact Observed.datagramsFor_rest _ _ _
  timers ip started := by
    by_cases same : ip = layout.ip j
    · simp [Layout.learnt, same] at started
    · exact .inl (by simpa [Layout.learnt, Function.update_of_ne same] using started)

omit [DecidableEq ι] in
theorem Layout.Sound.timer_of_waiting (sound : layout.Sound k i) {answer : Message ι}
    (waits : answer ∈ layout.waiting j i) :
    (∃ dgram, answer = .datagram j dgram) ∧ (i.arpTimer (layout.ip j)).isSome := by
  obtain ⟨dgram, waiting, rfl⟩ := List.mem_map.mp waits
  obtain ⟨entry, queued, rfl⟩ := List.mem_map.mp waiting
  obtain ⟨queued, same⟩ := List.mem_filter.mp queued
  exact ⟨⟨entry.1, rfl⟩, of_decide_eq_true same ▸ sound.consistent.requested entry queued⟩

theorem teaches_sender {msg : ARPMessage} (teaches : layout.teaches j k message = some msg) :
    (msg.senderEthernetAddress = layout.ethernetAddress j ∧ msg.senderIpAddress = layout.ip j) ∧
      (∀ receiver dgram, message ≠ .datagram receiver dgram) ∧
      (msg.opcode = ARPMessage.opcodeRequest ↔ ∃ target, message = .request target) ∧
      ∀ target, message = .request target → msg.targetIpAddress = target := by
  cases message with
  | request target =>
      cases teaches
      exact ⟨⟨rfl, rfl⟩, nofun, ⟨fun _ => ⟨target, rfl⟩, fun _ => rfl⟩, fun _ same => by
        cases same
        rfl⟩
  | reply asker =>
      obtain ⟨_, isReply⟩ := Option.ite_none_right_eq_some.mp teaches
      cases isReply
      have different : ARPMessage.opcodeReply ≠ ARPMessage.opcodeRequest := by decide
      exact ⟨⟨rfl, rfl⟩, nofun, ⟨fun same => absurd same different, nofun⟩, nofun⟩
  | datagram receiver dgram => cases teaches

/-- Hearing a message of another interface. -/
theorem Layout.Sound.hear (sound : layout.Sound k i) (linked : layout.Linked j k)
    (sayable : layout.Sayable j message) :
    layout.Sound k (i.apply (.recv (layout.frame j message).joined)) ∧
      ∃ more, layout.Answers k j message i (i.apply (.recv (layout.frame j message).joined))
        more := by
  have step : i.Step (.recv (layout.frame j message).joined)
      (i.apply (.recv (layout.frame j message).joined)) := step_apply sound.flushable trivial
  have taught := acceptedARP_frame sound.names linked sayable
  generalize i.apply (.recv (layout.frame j message).joined) = next at step
  cases step with
  | ignored ignored =>
      have nothing : layout.teaches j k message = none := taught.symm.trans ignored
      refine ⟨sound, [], { Layout.Utters.refl layout k i with
        answers := List.forall_mem_nil _
        replies := ?_
        learns := ?_ }⟩
      · rintro rfl
        cases nothing
      · rintro rfl
        simp [Layout.teaches] at nothing
  | @learnt _ msg accepted =>
      have teaches : layout.teaches j k message = some msg := taught.symm.trans accepted
      obtain ⟨⟨ethernetAddress, ip⟩, arp, request, target⟩ := teaches_sender teaches
      rw [ethernetAddress, ip, framesTo_eq sound.names,
        replyFrames_eq sound.names ethernetAddress ip, ← List.map_append]
      refine ⟨sound_learnt sound linked _, _, { utters_learnt sound linked ?_ with
        answers := List.forall_mem_append.mpr ⟨?_, ?_⟩
        replies := ?_
        learns := fun _ => Function.update_self _ _ _ }⟩
      · intro reply membership
        split at membership
        · exact List.mem_singleton.mp membership
        · contradiction
      · intro answer waits
        obtain ⟨isDatagram, timer⟩ := sound.timer_of_waiting waits
        exact .inr ⟨isDatagram, timer, arp⟩
      · intro reply membership
        split at membership
        next asked => exact .inl ⟨List.mem_singleton.mp membership, request.mp asked.1⟩
        next => contradiction
      · intro isRequest
        rw [if_pos ⟨request.mpr ⟨_, isRequest⟩, target _ isRequest⟩]
        exact List.mem_append_right _ List.mem_cons_self

end Hearing

end Sponge.NetworkSimulator
