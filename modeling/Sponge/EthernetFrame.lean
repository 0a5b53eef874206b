import Sponge.IPv4Datagram

/-!
# Ethernet frames and ARP messages
-/

namespace Sponge

abbrev EthernetAddress := Vector UInt8 6

/-- The address of all stations, `ff:ff:ff:ff:ff:ff`. -/
def ethernetBroadcast : EthernetAddress := Vector.replicate 6 0xff

namespace NetParser

/-- Read an Ethernet address, byte by byte. -/
def ethernetAddress : StateM NetParser EthernetAddress := do
  return #v[← u8, ← u8, ← u8, ← u8, ← u8, ← u8]

end NetParser

def NetUnparser.ethernetAddress (address : EthernetAddress) : Buffer :=
  address.toList.flatMap u8

structure EthernetHeader where
  dst : EthernetAddress := Vector.replicate 6 0
  src : EthernetAddress := Vector.replicate 6 0
  type : UInt16 := 0
  deriving DecidableEq, Repr

namespace EthernetHeader

/-- Ethernet header length in bytes. -/
def length : Nat := 14

def typeIPv4 : UInt16 := 0x800

def typeARP : UInt16 := 0x806

theorem typeARP_ne : typeARP ≠ typeIPv4 := by decide

/-- Parse the fields.  Too short a header is reported in the result only, and the
parser stays as it was. -/
def parse (h : EthernetHeader) : StateM NetParser (EthernetHeader × ParseResult) := do
  if (← get).buffer.length < length then return (h, .packetTooShort)
  let dst ← NetParser.ethernetAddress
  let src ← NetParser.ethernetAddress
  let type ← NetParser.u16
  return ({ dst, src, type }, (← get).error)

def serialize (h : EthernetHeader) : Buffer :=
  NetUnparser.ethernetAddress h.dst ++ NetUnparser.ethernetAddress h.src ++ NetUnparser.u16 h.type

end EthernetHeader

structure EthernetFrame where
  header : EthernetHeader := {}
  payload : BufferList := []
  deriving DecidableEq, Repr

namespace EthernetFrame

/-- The result of parsing the header is not looked at. -/
def parse (f : EthernetFrame) (buffer : Buffer) : EthernetFrame × ParseResult :=
  let ((header, _), p) := f.header.parse { buffer }
  ({ header, payload := [p.buffer] }, p.error)

def serialize (f : EthernetFrame) : BufferList := f.header.serialize :: f.payload

end EthernetFrame

structure ARPMessage where
  hardwareType : UInt16 := 1
  protocolType : UInt16 := EthernetHeader.typeIPv4
  hardwareAddressSize : UInt8 := 6
  protocolAddressSize : UInt8 := 4
  opcode : UInt16 := 0
  senderEthernetAddress : EthernetAddress := Vector.replicate 6 0
  senderIpAddress : UInt32 := 0
  targetEthernetAddress : EthernetAddress := Vector.replicate 6 0
  targetIpAddress : UInt32 := 0
  deriving DecidableEq, Repr

namespace ARPMessage

/-- Message length in bytes. -/
def length : Nat := 28

def typeEthernet : UInt16 := 1

def opcodeRequest : UInt16 := 1

def opcodeReply : UInt16 := 2

/-- Is this type of message supported by the parser? -/
def supported (m : ARPMessage) : Bool :=
  m.hardwareType == typeEthernet && m.protocolType == EthernetHeader.typeIPv4 &&
    m.hardwareAddressSize == 6 && m.protocolAddressSize == 4 &&
    (m.opcode == opcodeRequest || m.opcode == opcodeReply)

def parseFields (m : ARPMessage) : StateM NetParser (ARPMessage × ParseResult) := do
  if (← get).buffer.length < length then return (m, .packetTooShort)
  let m :=
    { m with
      hardwareType := ← NetParser.u16
      protocolType := ← NetParser.u16
      hardwareAddressSize := ← NetParser.u8
      protocolAddressSize := ← NetParser.u8
      opcode := ← NetParser.u16 }
  if !m.supported then return (m, .unsupported)
  let m :=
    { m with
      senderEthernetAddress := ← NetParser.ethernetAddress
      senderIpAddress := ← NetParser.u32
      targetEthernetAddress := ← NetParser.ethernetAddress
      targetIpAddress := ← NetParser.u32 }
  return (m, (← get).error)

def parse (m : ARPMessage) (buffer : Buffer) : ARPMessage × ParseResult :=
  (m.parseFields { buffer }).1

/-- The bytes of the fields. -/
def fields (m : ARPMessage) : Buffer :=
  NetUnparser.u16 m.hardwareType ++ NetUnparser.u16 m.protocolType ++
    NetUnparser.u8 m.hardwareAddressSize ++ NetUnparser.u8 m.protocolAddressSize ++
    NetUnparser.u16 m.opcode ++
    NetUnparser.ethernetAddress m.senderEthernetAddress ++ NetUnparser.u32 m.senderIpAddress ++
    NetUnparser.ethernetAddress m.targetEthernetAddress ++ NetUnparser.u32 m.targetIpAddress

def serialize (m : ARPMessage) : Except Exception Buffer :=
  if !m.supported then
    .error (.runtimeError
      "ARPMessage::serialize(): unsupported field combination (must be Ethernet/IP, and request or reply)")
  else .ok m.fields

theorem serialize_of_supported {m : ARPMessage} (supported : m.supported = true) :
    m.serialize = .ok m.fields := by
  rw [serialize, supported, Bool.not_true, if_neg Bool.false_ne_true]

end ARPMessage

end Sponge
