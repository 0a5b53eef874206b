import Sponge.EthernetFrame.Codec
import Sponge.NetworkInterface.Tables
import Sponge.NetworkSimulator.Stations
import Sponge.Router.Robustness

/-!
# What interfaces say to each other

Every frame of an interface says one of three things: a request for the Ethernet
address of an IP address, a reply to another interface, or a datagram for another
interface.  What an interface does when it hears a frame depends only on that.
-/

namespace Sponge.NetworkSimulator

open Lib Throwing

universe u v

inductive Message (ι : Type u) where
  | request (target : UInt32)
  | reply (asker : ι)
  | datagram (receiver : ι) (dgram : IPv4Datagram)

section Encoding

variable {ι : Type u} {κ : Type v} (layout : Layout ι κ)

def Layout.ip (i : ι) : UInt32 := (layout.ipAddress i).ipv4Numeric

/-- The header of a frame of the interface `i`. -/
def Layout.header (i : ι) (dst : EthernetAddress) (type : UInt16) : EthernetHeader where
  dst := dst
  src := layout.ethernetAddress i
  type := type

def Layout.arpRequest (i : ι) (target : UInt32) : ARPMessage where
  opcode := ARPMessage.opcodeRequest
  senderEthernetAddress := layout.ethernetAddress i
  senderIpAddress := layout.ip i
  targetIpAddress := target

def Layout.arpReply (i asker : ι) : ARPMessage where
  opcode := ARPMessage.opcodeReply
  senderEthernetAddress := layout.ethernetAddress i
  senderIpAddress := layout.ip i
  targetEthernetAddress := layout.ethernetAddress asker
  targetIpAddress := layout.ip asker

/-- The frame in which the interface `i` says something. -/
def Layout.frame (i : ι) : Message ι → EthernetFrame
  | .request target =>
      { header := layout.header i ethernetBroadcast EthernetHeader.typeARP
        payload := [(layout.arpRequest i target).fields] }
  | .reply asker =>
      { header := layout.header i (layout.ethernetAddress asker) EthernetHeader.typeARP
        payload := [(layout.arpReply i asker).fields] }
  | .datagram receiver dgram =>
      { header := layout.header i (layout.ethernetAddress receiver) EthernetHeader.typeIPv4
        payload := dgram.serialized }

/-- What an interface may say: it speaks to others on its segment, and its
datagrams are well formed. -/
def Layout.Sayable (i : ι) : Message ι → Prop
  | .request _ => True
  | .reply asker => layout.Linked i asker
  | .datagram receiver dgram => layout.Linked i receiver ∧ dgram.WellFormed

variable {layout}

theorem Layout.Linked.symm {i j : ι} (linked : layout.Linked i j) : layout.Linked j i :=
  ⟨linked.1.symm, linked.2.symm⟩

/-- Addresses tell the interfaces of a segment apart. -/
theorem Layout.Linked.ethernetAddress_eq_iff {i j k : ι} (heard : layout.Linked i k)
    (spoken : layout.Linked i j) :
    layout.ethernetAddress j = layout.ethernetAddress k ↔ j = k :=
  ⟨layout.ethernetDistinct (spoken.1.symm.trans heard.1), congrArg _⟩

theorem Layout.Linked.ip_eq_iff {i j k : ι} (heard : layout.Linked i k)
    (spoken : layout.Linked i j) : layout.ip j = layout.ip k ↔ j = k :=
  ⟨layout.ipDistinct (spoken.1.symm.trans heard.1), congrArg _⟩

end Encoding

variable {ι : Type u} {κ : Type v} [DecidableEq ι] {layout : Layout ι κ}

/-- The datagram in a message, if it is for the interface `k`. -/
def Message.datagramTo (k : ι) : Message ι → Option IPv4Datagram
  | .datagram receiver dgram => if receiver = k then some dgram else none
  | _ => none

/-- The ARP message that the interface `k` takes from a message of `i`. -/
def Layout.teaches (layout : Layout ι κ) (i k : ι) : Message ι → Option ARPMessage
  | .request target => some (layout.arpRequest i target)
  | .reply asker => if asker = k then some (layout.arpReply i asker) else none
  | .datagram _ _ => none

/-- The interface has the addresses of the layout. -/
structure Layout.Names (layout : Layout ι κ) (k : ι) (interface : NetworkInterface) : Prop where
  ethernetAddress : interface.ethernetAddress = layout.ethernetAddress k
  ipAddress : interface.ipAddress = layout.ipAddress k

section Hearing

variable {i k : ι} {interface : NetworkInterface}

theorem joined_arp (header : EthernetHeader) (msg : ARPMessage) :
    EthernetFrame.joined { header, payload := [msg.fields] } =
      { header, payload := [msg.fields] } := by
  simp [EthernetFrame.joined, BufferList.concatenate]

theorem parse_fields {msg : ARPMessage} (supported : msg.supported = true) :
    ARPMessage.parse {} msg.fields = (msg, .noError) := by
  have read := msg.parse_written {} []
  rwa [List.append_nil, if_pos supported] at read

omit [DecidableEq ι] in
theorem Layout.Names.isDestination (names : layout.Names k interface) (frame : EthernetFrame) :
    interface.isDestination frame = true ↔
      frame.header.dst = ethernetBroadcast ∨ frame.header.dst = layout.ethernetAddress k := by
  rw [NetworkInterface.isDestination, Bool.or_eq_true, beq_iff_eq, beq_iff_eq,
    names.ethernetAddress]

omit [DecidableEq ι] in
theorem acceptedARP_arp (names : layout.Names k interface) {dst : EthernetAddress}
    {msg : ARPMessage} (supported : msg.supported = true) :
    interface.acceptedARP
        { header := layout.header i dst EthernetHeader.typeARP, payload := [msg.fields] } =
      if dst = ethernetBroadcast ∨ dst = layout.ethernetAddress k then some msg else none := by
  have other : (layout.header i dst EthernetHeader.typeARP).type ≠ EthernetHeader.typeIPv4 :=
    EthernetHeader.typeARP_ne
  simp only [NetworkInterface.acceptedARP, names.isDestination, BufferList.toBuffer,
    parse_fields supported, if_true, other, ne_eq, not_false_iff, and_true]
  rfl

/-- What an interface learns from a frame that it hears. -/
theorem acceptedARP_frame (names : layout.Names k interface) (linked : layout.Linked i k)
    {message : Message ι} (sayable : layout.Sayable i message) :
    interface.acceptedARP (layout.frame i message).joined = layout.teaches i k message := by
  cases message with
  | request target =>
      rw [Layout.frame, joined_arp, acceptedARP_arp names rfl, if_pos (.inl rfl)]
      rfl
  | reply asker =>
      have unicast := layout.unicast asker
      rw [Layout.frame, joined_arp, acceptedARP_arp names rfl, Layout.teaches]
      simp only [unicast, false_or, linked.ethernetAddress_eq_iff sayable]
  | datagram receiver dgram =>
      rw [NetworkInterface.acceptedARP, if_neg fun other => other.2 rfl]
      rfl

/-- The datagram that comes out when an interface hears a frame. -/
theorem receivedDatagram_frame (names : layout.Names k interface) (linked : layout.Linked i k)
    {message : Message ι} (sayable : layout.Sayable i message) :
    interface.receivedDatagram (layout.frame i message).joined =
      (message.datagramTo k).map IPv4Datagram.reread := by
  cases message with
  | request target =>
      rw [NetworkInterface.receivedDatagram, if_neg fun other => EthernetHeader.typeARP_ne other.2]
      rfl
  | reply asker =>
      rw [NetworkInterface.receivedDatagram, if_neg fun other => EthernetHeader.typeARP_ne other.2]
      rfl
  | datagram receiver dgram =>
      obtain ⟨spoken, wellFormed⟩ := sayable
      have unicast := layout.unicast receiver
      have type : (layout.frame i (.datagram receiver dgram)).joined.header.type =
          EthernetHeader.typeIPv4 := rfl
      have dst : (layout.frame i (.datagram receiver dgram)).joined.header.dst =
          layout.ethernetAddress receiver := rfl
      have payload : (layout.frame i (.datagram receiver dgram)).joined.payload =
          [dgram.serialized.concatenate] := rfl
      simp only [NetworkInterface.receivedDatagram, names.isDestination, type, dst, payload,
        unicast, false_or, and_true, linked.ethernetAddress_eq_iff spoken, BufferList.toBuffer,
        wellFormed.parse_eq, if_true, Message.datagramTo]
      split <;> rfl

end Hearing

end Sponge.NetworkSimulator
