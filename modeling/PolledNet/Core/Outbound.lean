import PolledNet.Core.Error
import PolledNet.Config
import PolledNet.Inet.Icmp

/-!
# What becomes of an outbound packet

The stack decides what to do with an IPv4 packet from its headers and the configuration of the
interface alone: refuse it, hand its frame to the device, or look up the hardware address of its
next hop first. On the way the checksums are filled in.
-/

namespace PolledNet

/-- What the headers of an outbound IPv4 packet say. -/
structure OutboundHeader where
  /-- The sender. -/
  source : Ipv4
  /-- The receiver. -/
  dest : Ipv4
  /-- What the datagram carries. -/
  protocol : UInt8
  /-- Octets of the header. -/
  headerLength : Nat
  /-- Octets of header and data. -/
  totalLength : Nat
  deriving DecidableEq, Repr

namespace OutboundHeader

/-- Reads the headers back from a packet; its lengths must fit the frame. -/
def read? (p : Packet) : Option OutboundHeader :=
  match p.data.drop p.offsets.network with
  | v :: _ :: l0 :: l1 :: _ :: _ :: _ :: _ :: _ :: protocol :: _ :: _ ::
      s0 :: s1 :: s2 :: s3 :: d0 :: d1 :: d2 :: d3 :: _ =>
    let headerLength := v.toNat % 16 * 4
    let totalLength := (word16 l0 l1).toNat
    if headerLength < Ip.headerSize ∨ totalLength < headerLength ∨
        p.offsets.network + totalLength > p.data.length then none
    else
      some { source := ⟨s0, s1, s2, s3⟩, dest := ⟨d0, d1, d2, d3⟩, protocol, headerLength
             totalLength }
  | _ => none

/-- The UDP port that the packet is sent from. -/
def sourcePort? (h : OutboundHeader) (p : Packet) : Option UInt16 :=
  if h.protocol = Ip.udp then
    match p.data.drop (p.offsets.network + h.headerLength) with
    | hi :: lo :: _ => some (word16 hi lo)
    | _ => none
  else none

/-- The transport part of the datagram with its checksum filled in, where it is long enough to hold
one. -/
def sealTransport (h : OutboundHeader) (transport : Bytes) : Bytes :=
  if h.protocol = Ip.icmp ∧ Icmp.headerSize ≤ transport.length then Checksum.sealIcmp transport
  else if h.protocol = Ip.udp ∧ Udp.headerSize ≤ transport.length then
    Checksum.sealUdp h.source h.dest transport
  else transport

/-- The packet with its checksums filled in. -/
def sealPacket (h : OutboundHeader) (p : Packet) : Packet :=
  let datagram := p.data.drop p.offsets.network
  let header := datagram.take h.headerLength
  let transport := (datagram.take h.totalLength).drop h.headerLength
  { p with
    data := p.data.take p.offsets.network ++ Checksum.sealIpv4 header ++
      h.sealTransport transport ++ datagram.drop h.totalLength }

end OutboundHeader

/-- The finished frame of a datagram for the station `dest`, with its checksums. -/
def Endpoints.frame (ends : Endpoints) (dest : Mac) (identification : UInt16) (payload : Bytes) :
    Bytes :=
  let p := (ends.datagram identification payload).addressedTo dest
  match OutboundHeader.read? p with
  | none => p.data
  | some header => (header.sealPacket p).data

/-- What becomes of an outbound packet. -/
inductive Disposition where
  /-- There is no address to send it from. -/
  | barred
  /-- It is refused for another reason. -/
  | refused (cause : NetError)
  /-- Its frame goes to the device as it is. -/
  | send (packet : Packet)
  /-- Its frame goes to the device once the hardware address of the next hop is known. -/
  | resolve (hop : Ipv4) (packet : Packet)
  deriving DecidableEq, Repr

/-- The only port a packet may be sent from while the interface has no address. -/
def unconfiguredPort : UInt16 := 68

/-- Whether a packet may be sent: the interface has an address and so has the packet, or it asks
for an address. -/
def OutboundHeader.mayLeave (h : OutboundHeader) (p : Packet) (iface : InterfaceConfig) : Bool :=
  (iface.isConfigured && !h.source.isUnspecified) || h.sourcePort? p = some unconfiguredPort

/-- Whether a destination is reached by broadcast. -/
def InterfaceConfig.isBroadcast (iface : InterfaceConfig) (dest : Ipv4) : Bool :=
  dest = Ipv4.allOnes || iface.routes?.any (·.isBroadcast dest)

/-- Decides what becomes of an outbound IPv4 packet. -/
def Packet.disposition (p : Packet) (iface : InterfaceConfig) : Disposition :=
  match OutboundHeader.read? p with
  | none => .refused .malformed
  | some header =>
    if !header.mayLeave p iface then .barred
    else
      let p := header.sealPacket p
      if p.addressed then .send p
      else if iface.isBroadcast header.dest then .send (p.addressedTo Mac.broadcast)
      else
        match iface.routes? with
        | none => .refused .notConfigured
        | some routes =>
          match routes.nextHop? header.dest with
          | none => .refused .noRoute
          | some hop => .resolve hop { p with nextHop := some hop }

/-! ## Errands -/

/-- Why a frame is sent. -/
inductive Cause where
  /-- Its sender has addressed it. -/
  | asIs
  /-- It asks who has an address. -/
  | asking (hop : Ipv4)
  /-- It is that of a packet which, by the addresses of the interface, needs no next hop. -/
  | direct (p : Packet) (iface : InterfaceConfig)
  /-- It is that of a packet whose next hop is a known station. -/
  | known (p : Packet) (hop : Ipv4)

/-- What is left to do about a packet once it is known what becomes of it. -/
inductive Errand where
  /-- Whoever sends it is told an answer. -/
  | answer (told : Except NetError Unit)
  /-- A frame is sent. -/
  | send (cause : Cause) (frame : Packet)

end PolledNet
