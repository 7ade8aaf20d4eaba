import PolledNet.Link.Packet

/-!
# ARP messages

Requests and replies of the address resolution protocol for IPv4 over Ethernet.
-/

namespace PolledNet

namespace Arp

/-- Hardware type of Ethernet. -/
def hardwareEthernet : UInt16 := 1

/-- Protocol type of IPv4. -/
def protocolIpv4 : UInt16 := 0x0800

/-- Operation code of a request. -/
def operationRequest : UInt16 := 1

/-- Operation code of a reply. -/
def operationReply : UInt16 := 2

/-- Octets of a message. -/
def messageSize : Nat := 28

end Arp

/-- Why octets are not an ARP message for IPv4 over Ethernet. -/
inductive ArpError where
  | packetTooShort
  | invalidHardwareType
  | invalidProtocolType
  | invalidAddressLength
  /-- Neither a request nor a reply. -/
  | unknownOperation
  deriving DecidableEq, Repr

/-- What to tell the operator. -/
def ArpError.message : ArpError → String
  | .packetTooShort => "ARP packet too short"
  | .invalidHardwareType => "ARP hardware type is not Ethernet"
  | .invalidProtocolType => "ARP protocol type is not IPv4"
  | .invalidAddressLength => "ARP address length mismatch"
  | .unknownOperation => "Unknown ARP operation"

/-- An error is shown by what the operator is told. -/
instance : ToString ArpError := ⟨ArpError.message⟩

/-- An ARP message for IPv4 over Ethernet. -/
structure ArpMessage where
  /-- Request or reply. -/
  operation : UInt16
  /-- Hardware address of the sender. -/
  senderMac : Mac
  /-- Address of the sender; unspecified while it has none. -/
  sender : Ipv4
  /-- Hardware address of the target; zero in a request. -/
  targetMac : Mac
  /-- Address of the target. -/
  target : Ipv4
  deriving DecidableEq, Repr

namespace ArpMessage

/-- Asks who has the address `target`. -/
def request (senderMac : Mac) (sender target : Ipv4) : ArpMessage :=
  ⟨Arp.operationRequest, senderMac, sender, Mac.zero, target⟩

/-- Tells the target that the sender has its address. -/
def reply (senderMac : Mac) (sender : Ipv4) (targetMac : Mac) (target : Ipv4) : ArpMessage :=
  ⟨Arp.operationReply, senderMac, sender, targetMac, target⟩

/-- Whether the message asks. -/
def isRequest (m : ArpMessage) : Bool := m.operation = Arp.operationRequest

/-- Whether the message answers. -/
def isReply (m : ArpMessage) : Bool := m.operation = Arp.operationReply

/-- Reads the message that the octets start with. The checks run in the order length, hardware
type, protocol type, address lengths, operation; the first that fails is the error. -/
def parse : Bytes → Except ArpError ArpMessage
  | h0 :: h1 :: p0 :: p1 :: hl :: pl :: op0 :: op1 ::
      a0 :: a1 :: a2 :: a3 :: a4 :: a5 :: s0 :: s1 :: s2 :: s3 ::
      b0 :: b1 :: b2 :: b3 :: b4 :: b5 :: t0 :: t1 :: t2 :: t3 :: _ =>
    let operation := word16 op0 op1
    if word16 h0 h1 ≠ Arp.hardwareEthernet then .error .invalidHardwareType
    else if word16 p0 p1 ≠ Arp.protocolIpv4 then .error .invalidProtocolType
    else if hl ≠ 6 ∨ pl ≠ 4 then .error .invalidAddressLength
    else if operation ≠ Arp.operationRequest ∧ operation ≠ Arp.operationReply then
      .error .unknownOperation
    else
      .ok ⟨operation, ⟨a0, a1, a2, a3, a4, a5⟩, ⟨s0, s1, s2, s3⟩, ⟨b0, b1, b2, b3, b4, b5⟩,
        ⟨t0, t1, t2, t3⟩⟩
  | _ => .error .packetTooShort

/-- The twenty-eight octets of the message. -/
def octets (m : ArpMessage) : Bytes :=
  octets16 Arp.hardwareEthernet ++ octets16 Arp.protocolIpv4 ++ [6, 4] ++ octets16 m.operation ++
    m.senderMac.octets ++ m.sender.octets ++ m.targetMac.octets ++ m.target.octets

/-- The frame of the message to the station `dest`, fully addressed. -/
def packet (m : ArpMessage) (dest : Mac) : Packet :=
  let ethernet : EthernetHeader := ⟨dest, m.senderMac, Ethernet.typeArp⟩
  { data := ethernet.octets ++ m.octets
    offsets := { payload := Ethernet.headerSize, payloadLength := Arp.messageSize }
    addressed := true }

end ArpMessage

end PolledNet
