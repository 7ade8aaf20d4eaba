import PolledNet.Inet.Header
import PolledNet.Link.Packet

/-!
# UDP

The header and the frame of an outbound datagram. Its destination hardware address and its
checksums are filled in when it is transmitted.
-/

namespace PolledNet

namespace Udp

/-- Octets of the header. -/
def headerSize : Nat := 8

/-- First port of the range local ports are taken from. -/
def ephemeralFirst : UInt16 := 49152

/-- Last port of the range local ports are taken from. -/
def ephemeralLast : UInt16 := 65535

end Udp

/-- Why octets are not a UDP datagram. -/
inductive UdpError where
  /-- Too few octets for a header. -/
  | packetTooShort
  /-- The length field is below the header's, or more than there is. -/
  | invalidLength
  /-- The checksum is wrong. -/
  | checksumMismatch
  deriving DecidableEq, Repr

/-- What to tell the operator. -/
def UdpError.message : UdpError → String
  | .packetTooShort => "UDP packet too short"
  | .invalidLength => "UDP length field invalid"
  | .checksumMismatch => "UDP checksum mismatch"

/-- An error is shown by what the operator is told. -/
instance : ToString UdpError := ⟨UdpError.message⟩

/-- A UDP header. -/
structure UdpHeader where
  /-- Port of the sender. -/
  sourcePort : UInt16
  /-- Port of the receiver. -/
  destPort : UInt16
  /-- Octets of header and data. -/
  length : UInt16
  /-- Zero when the sender computed none. -/
  checksum : UInt16
  deriving DecidableEq, Repr

namespace UdpHeader

/-- Reads the header that the octets start with; its length must fit them. -/
def parse (b : Bytes) : Except UdpError UdpHeader :=
  match b with
  | s0 :: s1 :: d0 :: d1 :: l0 :: l1 :: c0 :: c1 :: _ =>
    let length := word16 l0 l1
    if length.toNat < Udp.headerSize ∨ length.toNat > b.length then .error .invalidLength
    else .ok ⟨word16 s0 s1, word16 d0 d1, length, word16 c0 c1⟩
  | _ => .error .packetTooShort

/-- The eight octets of the header. -/
def octets (h : UdpHeader) : Bytes :=
  octets16 h.sourcePort ++ octets16 h.destPort ++ octets16 h.length ++ octets16 h.checksum

/-- The buffer with its first eight octets replaced by the header. -/
def write? (h : UdpHeader) (buffer : Bytes) : Except Fault Bytes := buffer.overwrite? 0 h.octets

/-- Octets of data that the length field implies. -/
def payloadLength (h : UdpHeader) : Nat := h.length.toNat - Udp.headerSize

/-- A header always takes the same number of octets. -/
@[simp] theorem length_octets (h : UdpHeader) : h.octets.length = Udp.headerSize := rfl

end UdpHeader

/-- Where an outbound datagram comes from and goes to. -/
structure Endpoints where
  /-- Hardware address of the sender. -/
  sourceMac : Mac
  /-- Address of the sender. -/
  source : Ipv4
  /-- Port of the sender. -/
  sourcePort : UInt16
  /-- Address of the receiver. -/
  dest : Ipv4
  /-- Port of the receiver. -/
  destPort : UInt16
  deriving DecidableEq, Repr

/-- The frame of a datagram. The destination hardware address and both checksums are zero. -/
def Endpoints.datagram (ends : Endpoints) (identification : UInt16) (payload : Bytes) : Packet :=
  let length := Udp.headerSize + payload.length
  let ethernet : EthernetHeader := ⟨Mac.zero, ends.sourceMac, Ethernet.typeIpv4⟩
  let ip := { IpHeader.make ends.source ends.dest Ip.udp length with identification }
  let udp : UdpHeader := ⟨ends.sourcePort, ends.destPort, UInt16.ofNat length, 0⟩
  let transport := Ethernet.headerSize + Ip.headerSize
  { data := ethernet.octets ++ ip.octets ++ udp.octets ++ payload
    offsets :=
      { transport, payload := transport + Udp.headerSize, payloadLength := payload.length } }

end PolledNet
