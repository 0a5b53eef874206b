import Sponge.NetworkInterface.Calls

/-!
# Frames that are not for the interface

A frame for somebody else, of another protocol, or with a payload that does not
parse should have no effect.  But every type other than IPv4 is read as ARP, and
a frame of any such type teaches the interface an address if its payload looks
like an ARP message.
-/

namespace Sponge.NetworkInterface

open Lib Throwing

section Address

theorem keeps_pushFrame (dst : EthernetAddress) (type : UInt16) (payload : BufferList) :
    Keeps ethernetAddress (pushFrame dst type payload) :=
  keeps_modify fun _ => rfl

theorem keeps_sendArp (dst : EthernetAddress) (msg : ARPMessage) :
    Keeps ethernetAddress (sendArp dst msg) :=
  (keeps_ofExcept _).bind fun _ => keeps_pushFrame _ _ _

theorem keeps_sendDatagram (dgram : IPv4Datagram) (nextHop : Address) :
    Keeps ethernetAddress (sendDatagram dgram nextHop) := by
  intro i
  cases known : i.ethernetAddrCache nextHop.ipv4Numeric with
  | none => rw [sendDatagram_unknown known, finalState_ok]
  | some entry =>
      simp only [sendDatagram, get_bind_run, known]
      exact (keeps_ofExcept _).bind (fun _ => keeps_pushFrame _ _ _) i

theorem keeps_flush (ip : UInt32) (fuel position : ℕ) :
    Keeps ethernetAddress (flush ip fuel position) := by
  induction fuel generalizing position with
  | zero => exact keeps_pure ()
  | succ fuel inductionHypothesis =>
      refine keeps_get.bind fun i => ?_
      cases i.queueingIPDatagrams[position]? with
      | none => exact keeps_pure ()
      | some entry =>
          refine .branch ?_ (inductionHypothesis _)
          refine (keeps_sendDatagram _ _).bind fun _ => ?_
          exact .bind (keeps_modify fun _ => rfl) fun _ => inductionHypothesis position

theorem keeps_learn (msg : ARPMessage) : Keeps ethernetAddress (learn msg) := by
  refine .bind (keeps_modify fun _ => rfl) fun _ => keeps_get.bind fun i => ?_
  refine (keeps_flush _ _ _).bind fun _ => keeps_get.bind fun i => ?_
  exact .branch (keeps_sendArp _ _) (keeps_pure ())

/-- No call changes the Ethernet address of the interface. -/
theorem ethernetAddress_apply (i : NetworkInterface) (op : Op) :
    (i.apply op).ethernetAddress = i.ethernetAddress := by
  cases op with
  | send dgram nextHop => exact keeps_sendDatagram dgram nextHop i
  | recv frame =>
      rw [apply]
      cases accepted : i.acceptedARP frame with
      | none => rw [recvFrame_ignored accepted]
      | some msg =>
          rw [recvFrame_accepted accepted]
          exact (keeps_learn msg).bind (fun _ => keeps_pure none) i
  | tick => rfl

end Address

/-- A payload is accepted by a parser. -/
def Parses {α : Type} (parse : Buffer → α × ParseResult) (payload : BufferList) : Prop :=
  ∃ buffer, payload.toBuffer = .ok buffer ∧ (parse buffer).2 = .noError

/-- A frame is addressed to the interface or to everybody. -/
def Destined (ethernetAddress : EthernetAddress) (frame : EthernetFrame) : Prop :=
  frame.header.dst = ethernetBroadcast ∨ frame.header.dst = ethernetAddress

/-- A frame that should have no effect. -/
inductive Irrelevant (ethernetAddress : EthernetAddress) (frame : EthernetFrame) : Prop where
  | elsewhere (other : ¬ Destined ethernetAddress frame)
  | unknownType (notIPv4 : frame.header.type ≠ EthernetHeader.typeIPv4)
      (notARP : frame.header.type ≠ EthernetHeader.typeARP)
  | badDatagram (type : frame.header.type = EthernetHeader.typeIPv4)
      (unparsed : ¬ Parses (IPv4Datagram.parse {}) frame.payload)
  | badMessage (type : frame.header.type = EthernetHeader.typeARP)
      (unparsed : ¬ Parses (ARPMessage.parse {}) frame.payload)

/-- A frame of another protocol whose payload looks like an ARP message. -/
structure MistakenForARP (ethernetAddress : EthernetAddress) (frame : EthernetFrame) : Prop where
  destined : Destined ethernetAddress frame
  notIPv4 : frame.header.type ≠ EthernetHeader.typeIPv4
  notARP : frame.header.type ≠ EthernetHeader.typeARP
  parses : Parses (ARPMessage.parse {}) frame.payload

/-- A frame leaves an interface as it is, and no datagram is returned.  A payload
of several buffers may make the call throw instead. -/
structure Ignores (i : NetworkInterface) (frame : EthernetFrame) : Prop where
  unchanged : finalState (recvFrame frame i) = i
  returns : frame.payload.length ≤ 1 → recvFrame frame i = .ok none i
  silent : ∀ dgram next, recvFrame frame i ≠ .ok (some dgram) next

variable {i next : NetworkInterface} {frame : EthernetFrame}

theorem isDestination_iff : i.isDestination frame = true ↔ Destined i.ethernetAddress frame := by
  simp [isDestination, Destined]

theorem isSome_acceptedARP_iff :
    (i.acceptedARP frame).isSome ↔
      Destined i.ethernetAddress frame ∧ frame.header.type ≠ EthernetHeader.typeIPv4 ∧
        Parses (ARPMessage.parse {}) frame.payload := by
  rw [← isDestination_iff, ← and_assoc, acceptedARP, Parses]
  split
  next ours => cases frame.payload.toBuffer <;> simp [ours]
  next others => simp [others]

theorem isSome_receivedDatagram_iff :
    (i.receivedDatagram frame).isSome ↔
      Destined i.ethernetAddress frame ∧ frame.header.type = EthernetHeader.typeIPv4 ∧
        Parses (IPv4Datagram.parse {}) frame.payload := by
  rw [← isDestination_iff, ← and_assoc, receivedDatagram, Parses]
  split
  next ours => cases frame.payload.toBuffer <;> simp [ours]
  next others => simp [others]

theorem receivedDatagram_of_recvFrame (ignored : i.acceptedARP frame = none)
    {result : Option IPv4Datagram} (returned : recvFrame frame i = .ok result next) :
    i.receivedDatagram frame = result := by
  cases unpacked : frame.payload.toBuffer with
  | ok payload =>
      rw [recvFrame_unless_accepted unpacked ignored] at returned
      cases returned
      rfl
  | error e =>
      by_cases ours : i.isDestination frame
      · by_cases type : frame.header.type = EthernetHeader.typeIPv4
        · simp [recvFrame, ours, type, unpacked] at returned
        · simp [recvFrame, ours, type, unpacked] at returned
      · rw [receivedDatagram, if_neg fun both => ours both.1]
        simp [recvFrame, ours] at returned
        exact returned.1

theorem ignores_of_none (ignored : i.acceptedARP frame = none)
    (silent : i.receivedDatagram frame = none) : i.Ignores frame where
  unchanged := recvFrame_ignored ignored
  returns single := by
    obtain ⟨payload, unpacked⟩ := BufferList.toBuffer_of_length_le single
    rw [recvFrame_unless_accepted unpacked ignored, silent]
  silent dgram next returned := by
    have received := receivedDatagram_of_recvFrame ignored returned
    rw [silent] at received
    contradiction

theorem Irrelevant.receivedDatagram (irrelevant : Irrelevant i.ethernetAddress frame) :
    i.receivedDatagram frame = none := by
  rw [← Option.not_isSome_iff_eq_none, isSome_receivedDatagram_iff]
  rintro ⟨destined, isIPv4, parses⟩
  cases irrelevant with
  | elsewhere other => exact other destined
  | unknownType notIPv4 _ => exact notIPv4 isIPv4
  | badDatagram _ unparsed => exact unparsed parses
  | badMessage isARP _ => exact absurd (isIPv4.symm.trans isARP) (by decide)

theorem Irrelevant.mistaken (irrelevant : Irrelevant i.ethernetAddress frame)
    (accepted : (i.acceptedARP frame).isSome) : MistakenForARP i.ethernetAddress frame := by
  obtain ⟨destined, notIPv4, parses⟩ := isSome_acceptedARP_iff.mp accepted
  cases irrelevant with
  | elsewhere other => exact absurd destined other
  | unknownType _ notARP => exact ⟨destined, notIPv4, notARP, parses⟩
  | badDatagram isIPv4 _ => exact absurd isIPv4 notIPv4
  | badMessage _ unparsed => exact absurd parses unparsed

/-- A fresh interface learns from every message that it takes in. -/
theorem not_ignores_new {ethernetAddress : EthernetAddress} {ipAddress : Address}
    (accepted : (acceptedARP { ethernetAddress, ipAddress } frame).isSome) :
    ¬ Ignores { ethernetAddress, ipAddress } frame := by
  intro ignores
  obtain ⟨msg, accepted⟩ := Option.isSome_iff_exists.mp accepted
  have unchanged := ignores.unchanged
  rw [recvFrame_accepted accepted, bind_of_ok (learn_run (List.forall_mem_nil _))] at unchanged
  have cache := congrFun (congrArg ethernetAddrCache unchanged) msg.senderIpAddress
  simp at cache

/-- A frame that should have no effect has none on any interface that can be
reached, unless it is taken for an ARP message. -/
theorem ignores_irrelevant_iff (ethernetAddress : EthernetAddress) (ipAddress : Address)
    (frame : EthernetFrame) (irrelevant : Irrelevant ethernetAddress frame) :
    (∀ ops, (run apply { ethernetAddress, ipAddress } ops).Ignores frame) ↔
      ¬ MistakenForARP ethernetAddress frame := by
  constructor
  · intro ignores mistaken
    have accepted : (acceptedARP { ethernetAddress, ipAddress } frame).isSome :=
      isSome_acceptedARP_iff.mpr ⟨mistaken.destined, mistaken.notIPv4, mistaken.parses⟩
    exact not_ignores_new accepted (ignores [])
  · intro notMistaken ops
    have address : (run apply { ethernetAddress, ipAddress } ops).ethernetAddress =
        ethernetAddress :=
      run_invariant (fun i => i.ethernetAddress = ethernetAddress) ops rfl
        fun i op same => (ethernetAddress_apply i op).trans same
    rw [← address] at irrelevant notMistaken
    refine ignores_of_none ?_ irrelevant.receivedDatagram
    rw [← Option.not_isSome_iff_eq_none]
    exact fun accepted => notMistaken (irrelevant.mistaken accepted)

/-- A frame of another protocol whose payload is too short for ARP. -/
theorem ignores_irrelevant_iff_short :
    let frame : EthernetFrame :=
      { header := { dst := ethernetBroadcast, type := 0x86dd }, payload := [[1, 2, 3]] }
    ∀ ops, (run apply { ethernetAddress := Vector.replicate 6 2, ipAddress := { ip := 1 } }
      ops).Ignores frame := by
  intro frame
  refine (ignores_irrelevant_iff (Vector.replicate 6 2) { ip := 1 } frame
    (.unknownType (by decide) (by decide))).mpr ?_
  rintro ⟨_, _, _, buffer, unpacked, parsed⟩
  obtain rfl : [1, 2, 3] = buffer := Except.ok.inj unpacked
  exact absurd parsed (by decide)

/-- The frame says that it carries IPv6, but the interface learns an address from
it and sends what has waited for that address. -/
theorem mistaken_frame_learnt :
    let dgram : IPv4Datagram := { header := { len := 20 } }
    let reply : ARPMessage :=
      { opcode := ARPMessage.opcodeReply, senderEthernetAddress := Vector.replicate 6 9,
        senderIpAddress := 7 }
    let frame : EthernetFrame :=
      { header := { dst := ethernetBroadcast, type := 0x86dd }, payload := [reply.fields] }
    let ethernetAddress : EthernetAddress := Vector.replicate 6 2
    let i := run apply { ethernetAddress, ipAddress := { ip := 1 } } [.send dgram { ip := 7 }]
    let next := finalState (recvFrame frame i)
    Irrelevant ethernetAddress frame ∧
      i.ethernetAddrCache 7 = none ∧
      next.ethernetAddrCache 7 = some (reply.senderEthernetAddress, 0) ∧
      (i.arpTimer 7, next.arpTimer 7) = (some 0, none) ∧
      (i.queueingIPDatagrams.length, next.queueingIPDatagrams.length) = (1, 0) ∧
      (i.framesOut.length, next.framesOut.length) = (1, 2) := by
  intro dgram reply frame ethernetAddress i next
  refine ⟨.unknownType (by decide) (by decide), ?_⟩
  decide +kernel

end Sponge.NetworkInterface
