import Sponge.NetworkInterface.Basic
import Sponge.Lib.Throwing

/-!
# What the methods of an interface do
-/

namespace Sponge.NetworkInterface

open Lib Throwing

variable {i : NetworkInterface} {dgram : IPv4Datagram} {nextHop : Address}

/-- The frame that carries a payload from the interface. -/
def frameTo (i : NetworkInterface) (dst : EthernetAddress) (type : UInt16) (payload : BufferList) :
    EthernetFrame :=
  { header := { dst, src := i.ethernetAddress, type }, payload }

theorem pushFrame_run (dst : EthernetAddress) (type : UInt16) (payload : BufferList) :
    pushFrame dst type payload i =
      .ok () { i with framesOut := i.framesOut ++ [i.frameTo dst type payload] } := rfl

/-- The messages that the interface itself makes can always be sent. -/
theorem sendArp_run {msg : ARPMessage} (supported : msg.supported = true)
    (dst : EthernetAddress) :
    sendArp dst msg i = .ok ()
      { i with framesOut := i.framesOut ++ [i.frameTo dst EthernetHeader.typeARP [msg.fields]] } := by
  rw [sendArp, ARPMessage.serialize_of_supported supported, ofExcept_ok_bind, pushFrame_run]

theorem sendDatagram_known {dst : EthernetAddress} {age : ℕ} {payload : BufferList}
    (known : i.ethernetAddrCache nextHop.ipv4Numeric = some (dst, age))
    (serialized : dgram.serialize = .ok payload) :
    sendDatagram dgram nextHop i = .ok ()
      { i with
        framesOut := i.framesOut ++ [i.frameTo dst EthernetHeader.typeIPv4 payload] } := by
  simp only [sendDatagram, get_bind_run, known, serialized, ofExcept_ok_bind, pushFrame_run]

/-- The request for an address, if none was sent lately. -/
def requestFrames (i : NetworkInterface) (ip : UInt32) : List EthernetFrame :=
  if i.requestDue ip then
    [i.frameTo ethernetBroadcast EthernetHeader.typeARP [(i.arpRequest ip).fields]]
  else []

/-- A datagram for an unknown next hop is kept back, and the address is asked
for. -/
theorem sendDatagram_unknown (unknown : i.ethernetAddrCache nextHop.ipv4Numeric = none) :
    sendDatagram dgram nextHop i = .ok ()
      { i with
        arpTimer :=
          if i.requestDue nextHop.ipv4Numeric then
            Function.update i.arpTimer nextHop.ipv4Numeric (some 0)
          else i.arpTimer
        framesOut := i.framesOut ++ i.requestFrames nextHop.ipv4Numeric
        queueingIPDatagrams :=
          i.queueingIPDatagrams ++ [(dgram, nextHop.ipv4Numeric)] } := by
  simp only [sendDatagram, get_bind_run, unknown, requestFrames]
  cases i.requestDue nextHop.ipv4Numeric with
  | false => simp
  | true =>
      simp only [if_true, set_bind_run]
      rw [bind_of_ok (sendArp_run rfl ethernetBroadcast)]
      rfl

/-- A datagram that can be serialized is sent or kept back without trouble. -/
theorem sendDatagram_returns (serializable : dgram.Serializable) (nextHop : Address) :
    ∃ next, sendDatagram dgram nextHop i = .ok () next ∧
      ∀ entry ∈ next.queueingIPDatagrams, entry ∈ i.queueingIPDatagrams ∨ entry.1 = dgram := by
  cases known : i.ethernetAddrCache nextHop.ipv4Numeric with
  | none =>
      refine ⟨_, sendDatagram_unknown known, ?_⟩
      intro entry membership
      rcases List.mem_append.mp membership with old | new
      · exact .inl old
      · rw [List.mem_singleton.mp new]
        exact .inr rfl
  | some address =>
      refine ⟨_, sendDatagram_known known serializable.serialize_ok, ?_⟩
      exact fun entry membership => .inl membership

/-- The datagrams among `entries` whose next hop is `ip`. -/
def datagramsFor (ip : UInt32) (entries : List (IPv4Datagram × UInt32)) : List IPv4Datagram :=
  (entries.filter (·.2 = ip)).map (·.1)

@[simp]
theorem datagramsFor_nil (ip : UInt32) : datagramsFor ip [] = [] := rfl

@[simp]
theorem datagramsFor_append (ip : UInt32) (first second : List (IPv4Datagram × UInt32)) :
    datagramsFor ip (first ++ second) = datagramsFor ip first ++ datagramsFor ip second := by
  simp [datagramsFor]

theorem datagramsFor_cons_self (ip : UInt32) (dgram : IPv4Datagram)
    (entries : List (IPv4Datagram × UInt32)) :
    datagramsFor ip ((dgram, ip) :: entries) = dgram :: datagramsFor ip entries := by
  simp [datagramsFor]

theorem datagramsFor_cons_of_ne {ip hop : UInt32} (other : hop ≠ ip) (dgram : IPv4Datagram)
    (entries : List (IPv4Datagram × UInt32)) :
    datagramsFor ip ((dgram, hop) :: entries) = datagramsFor ip entries := by
  simp [datagramsFor, other]

theorem serializable_datagramsFor {entries : List (IPv4Datagram × UInt32)}
    (serializable : ∀ entry ∈ entries, entry.1.Serializable) (ip : UInt32) :
    ∀ dgram ∈ datagramsFor ip entries, dgram.Serializable := by
  intro dgram membership
  obtain ⟨entry, queued, rfl⟩ := List.mem_map.mp membership
  exact serializable entry (List.mem_of_mem_filter queued)

/-- The frames that carry datagrams to a next hop. -/
def framesTo (i : NetworkInterface) (dst : EthernetAddress) (dgrams : List IPv4Datagram) :
    List EthernetFrame :=
  dgrams.map fun dgram => i.frameTo dst EthernetHeader.typeIPv4 dgram.serialized

/-- Once an address is known, the loop sends everything that waits for it and
leaves the rest in order, whatever fuel beyond the length of the queue it has. -/
theorem flush_run {ip : UInt32} {dst : EthernetAddress} {age fuel : ℕ}
    (before : List (IPv4Datagram × UInt32)) {rest : List (IPv4Datagram × UInt32)}
    (known : i.ethernetAddrCache ip = some (dst, age))
    (queue : i.queueingIPDatagrams = before ++ rest) (enough : rest.length ≤ fuel)
    (serializable : ∀ dgram ∈ datagramsFor ip rest, dgram.Serializable) :
    flush ip fuel before.length i = .ok ()
      { i with
        queueingIPDatagrams := before ++ rest.filter (·.2 ≠ ip)
        framesOut := i.framesOut ++ i.framesTo dst (datagramsFor ip rest) } := by
  induction rest generalizing before i fuel with
  | nil =>
      have done : i.queueingIPDatagrams[before.length]? = none := by
        rw [queue, List.append_nil, List.getElem?_length]
      cases fuel with
      | zero => simp [flush, framesTo, ← queue]
      | succ fuel => simp [flush, framesTo, done, ← queue]
  | cons entry rest inductionHypothesis =>
      obtain ⟨dgram, hop⟩ := entry
      have next : i.queueingIPDatagrams[before.length]? = some (dgram, hop) := by
        rw [queue, List.getElem?_append_right (Nat.le_refl _), Nat.sub_self]
        rfl
      cases fuel with
      | zero => contradiction
      | succ fuel =>
          simp only [flush, get_bind_run, next]
          by_cases waits : hop = ip
          · subst waits
            rw [datagramsFor_cons_self] at serializable ⊢
            have first : dgram.Serializable := serializable dgram List.mem_cons_self
            rw [if_pos rfl, bind_of_ok (sendDatagram_known known first.serialize_ok),
              modify_bind_run, inductionHypothesis before]
            · simp [framesTo, frameTo]
            · exact known
            · simp [queue, List.eraseIdx_append_of_length_le]
            · exact Nat.le_of_succ_le_succ enough
            · exact fun later membership => serializable later (List.mem_cons_of_mem _ membership)
          · rw [datagramsFor_cons_of_ne waits] at serializable ⊢
            have step := inductionHypothesis (before ++ [(dgram, hop)]) known
              (by rw [queue, List.append_assoc]; rfl) (Nat.le_of_succ_le_succ enough) serializable
            rw [List.length_append, List.length_singleton] at step
            rw [if_neg waits, step]
            simp [waits]

/-- The reply to a request for our own address. -/
def replyFrames (i : NetworkInterface) (msg : ARPMessage) : List EthernetFrame :=
  if msg.opcode = ARPMessage.opcodeRequest ∧ msg.targetIpAddress = i.ipAddress.ipv4Numeric then
    [i.frameTo msg.senderEthernetAddress EthernetHeader.typeARP [(i.arpReply msg).fields]]
  else []

/-- Taking in a message: the address of the sender is known from now on, what
has waited for it is sent, and a request for our own address is answered. -/
theorem learn_run {msg : ARPMessage}
    (serializable : ∀ dgram ∈ datagramsFor msg.senderIpAddress i.queueingIPDatagrams,
      dgram.Serializable) :
    learn msg i = .ok ()
      { i with
        ethernetAddrCache := Function.update i.ethernetAddrCache msg.senderIpAddress
          (some (msg.senderEthernetAddress, 0))
        arpTimer := Function.update i.arpTimer msg.senderIpAddress none
        queueingIPDatagrams := i.queueingIPDatagrams.filter (·.2 ≠ msg.senderIpAddress)
        framesOut := i.framesOut ++
          (i.framesTo msg.senderEthernetAddress
            (datagramsFor msg.senderIpAddress i.queueingIPDatagrams) ++ i.replyFrames msg) } := by
  let learned : NetworkInterface :=
    { i with
      ethernetAddrCache := Function.update i.ethernetAddrCache msg.senderIpAddress
        (some (msg.senderEthernetAddress, 0))
      arpTimer := Function.update i.arpTimer msg.senderIpAddress none }
  have flushed : flush msg.senderIpAddress i.queueingIPDatagrams.length 0 learned = _ :=
    flush_run [] (Function.update_self _ _ _) rfl (Nat.le_refl _) serializable
  simp only [learn, modify_bind_run, get_bind_run]
  rw [bind_of_ok flushed, get_bind_run, replyFrames, ← List.append_assoc]
  split
  next asked =>
    rw [sendArp_run rfl]
    rfl
  next other =>
    rw [pure_run, List.append_nil]
    rfl

/-- The ARP message in a frame, if the interface takes it in. -/
def acceptedARP (i : NetworkInterface) (frame : EthernetFrame) : Option ARPMessage :=
  if i.isDestination frame = true ∧ frame.header.type ≠ EthernetHeader.typeIPv4 then
    match frame.payload.toBuffer with
    | .ok payload =>
        let (msg, parsingResult) := ARPMessage.parse {} payload
        if parsingResult = .noError then some msg else none
    | .error _ => none
  else none

theorem recvFrame_accepted {frame : EthernetFrame} {msg : ARPMessage}
    (accepted : i.acceptedARP frame = some msg) :
    recvFrame frame i = (learn msg >>= fun _ => pure none) i := by
  unfold acceptedARP at accepted
  split at accepted
  next ours =>
    cases payload : frame.payload.toBuffer with
    | error e => simp [payload] at accepted
    | ok payload =>
        simp [payload] at accepted
        simp [recvFrame, ours, payload, accepted]
  next => contradiction

/-- Any other frame leaves the interface as it was, also if reading it throws. -/
theorem recvFrame_ignored {frame : EthernetFrame} (ignored : i.acceptedARP frame = none) :
    finalState (recvFrame frame i) = i := by
  simp only [recvFrame, get_bind_run]
  by_cases ours : i.isDestination frame
  · simp only [ours, Bool.not_true, Bool.false_eq_true, if_false]
    cases payload : frame.payload.toBuffer with
    | error e => split <;> rfl
    | ok payload =>
        by_cases type : frame.header.type = EthernetHeader.typeIPv4
        · simp [type]
        · simp [acceptedARP, ours, type, payload] at ignored
          simp [type, ignored]
  · simp [ours]

/-- The datagram in a frame, if the interface hands it on. -/
def receivedDatagram (i : NetworkInterface) (frame : EthernetFrame) : Option IPv4Datagram :=
  if i.isDestination frame = true ∧ frame.header.type = EthernetHeader.typeIPv4 then
    match frame.payload.toBuffer with
    | .ok payload =>
        let (dgram, parsingResult) := IPv4Datagram.parse {} payload
        if parsingResult = .noError then some dgram else none
    | .error _ => none
  else none

theorem receivedDatagram_of_accepted {frame : EthernetFrame} {msg : ARPMessage}
    (accepted : i.acceptedARP frame = some msg) : i.receivedDatagram frame = none := by
  unfold acceptedARP at accepted
  split at accepted
  next ours => rw [receivedDatagram, if_neg fun other => ours.2 other.2]
  next => contradiction

theorem size_of_receivedDatagram {frame : EthernetFrame}
    (received : i.receivedDatagram frame = some dgram) :
    dgram.payload.size = dgram.header.payloadLength.toNat := by
  unfold receivedDatagram at received
  split at received
  next ours =>
    cases payload : frame.payload.toBuffer with
    | error e => simp [payload] at received
    | ok payload =>
        simp [payload] at received
        rw [← received.2]
        exact IPv4Datagram.size_of_parse received.1
  next => contradiction

theorem recvFrame_unless_accepted {frame : EthernetFrame} {payload : Buffer}
    (unpacked : frame.payload.toBuffer = .ok payload) (ignored : i.acceptedARP frame = none) :
    recvFrame frame i = .ok (i.receivedDatagram frame) i := by
  by_cases ours : i.isDestination frame
  · by_cases type : frame.header.type = EthernetHeader.typeIPv4
    · simp [recvFrame, receivedDatagram, ours, type, unpacked]
    · simp [acceptedARP, ours, type, unpacked] at ignored
      simp [recvFrame, receivedDatagram, ours, type, unpacked, ignored]
  · simp [recvFrame, receivedDatagram, ours]

/-- A frame with one buffer is taken in without trouble if what waits can be
serialized. -/
theorem recvFrame_returns {frame : EthernetFrame} (single : frame.payload.length ≤ 1)
    (serializable : ∀ entry ∈ i.queueingIPDatagrams, entry.1.Serializable) :
    ∃ next, recvFrame frame i = .ok (i.receivedDatagram frame) next ∧
      ∀ entry ∈ next.queueingIPDatagrams, entry ∈ i.queueingIPDatagrams := by
  obtain ⟨payload, unpacked⟩ := BufferList.toBuffer_of_length_le single
  cases accepted : i.acceptedARP frame with
  | none => exact ⟨i, recvFrame_unless_accepted unpacked accepted, fun _ queued => queued⟩
  | some msg =>
      have learnt := learn_run (serializable_datagramsFor serializable msg.senderIpAddress)
      rw [recvFrame_accepted accepted, bind_of_ok learnt, receivedDatagram_of_accepted accepted,
        pure_run]
      exact ⟨_, rfl, fun entry queued => List.mem_of_mem_filter queued⟩

end Sponge.NetworkInterface
