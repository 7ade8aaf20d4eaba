import PolledNet.Inet.Udp
import PolledNet.Time

/-!
# ICMP

Echo requests to us are turned around in their own frame. Datagrams that nobody claims are answered
by a port-unreachable message that quotes their header and the eight octets after it; a limiter
spaces those answers out.
-/

namespace PolledNet

/-- The kind of an ICMP message. -/
inductive IcmpType where
  | echoReply
  | destinationUnreachable
  | echoRequest
  /-- A kind that is not acted on. -/
  | unknown (code : UInt8)
  deriving DecidableEq, Repr

namespace IcmpType

/-- The kind that a type octet names. -/
def ofOctet (b : UInt8) : IcmpType :=
  if b = 0 then .echoReply
  else if b = 3 then .destinationUnreachable
  else if b = 8 then .echoRequest
  else .unknown b

/-- The type octet. -/
def octet : IcmpType → UInt8
  | .echoReply => 0
  | .destinationUnreachable => 3
  | .echoRequest => 8
  | .unknown code => code

/-- The kind as shown to the operator. -/
def text : IcmpType → String
  | .echoReply => "Echo Reply"
  | .destinationUnreachable => "Destination Unreachable"
  | .echoRequest => "Echo Request"
  | .unknown code => s!"Unknown({code.toNat})"

/-- No octet is lost in its reading. -/
theorem octet_ofOctet (b : UInt8) : (ofOctet b).octet = b := by
  unfold ofOctet
  split
  · simp [octet, *]
  split
  · simp [octet, *]
  split <;> simp [octet, *]

end IcmpType

namespace Icmp

/-- Octets of type, code, checksum and the four that follow them. -/
def headerSize : Nat := 8

/-- Octets quoted after the header of an unclaimed datagram. -/
def quotedPayload : Nat := 8

/-- Code of an unreachable message for a closed port. -/
def codePortUnreachable : UInt8 := 3

/-- Least time between two port-unreachable messages. -/
def unreachableInterval : Tick := Tick.ofMillis 100

end Icmp

/-! ## Messages -/

/-- An outbound ICMP message. -/
structure IcmpMessage where
  /-- Its kind. -/
  type : IcmpType
  /-- Refines the kind. -/
  code : UInt8 := 0
  /-- First word after the checksum: the identifier of an echo. -/
  restHigh : UInt16 := 0
  /-- Second word after the checksum: the sequence number of an echo. -/
  restLow : UInt16 := 0
  /-- What follows the header. -/
  data : Bytes
  deriving DecidableEq, Repr

namespace IcmpMessage

/-- An echo request. -/
def echoRequest (identifier sequence : UInt16) (data : Bytes) : IcmpMessage :=
  { type := .echoRequest, restHigh := identifier, restLow := sequence, data }

/-- The answer to a datagram for a port that nobody listens on. -/
def portUnreachable (quoted : Bytes) : IcmpMessage :=
  { type := .destinationUnreachable, code := Icmp.codePortUnreachable, data := quoted }

/-- The octets of the message, the checksum left zero. -/
def octets (m : IcmpMessage) : Bytes :=
  [m.type.octet, m.code, 0, 0] ++ octets16 m.restHigh ++ octets16 m.restLow ++ m.data

/-- The frame of the message from one station to another. It is fully addressed; its checksums are
zero. -/
def packet (m : IcmpMessage) (sourceMac : Mac) (source : Ipv4) (destMac : Mac) (dest : Ipv4)
    (identification : UInt16) : Packet :=
  let ethernet : EthernetHeader := ⟨destMac, sourceMac, Ethernet.typeIpv4⟩
  let length := Icmp.headerSize + m.data.length
  let ip := { IpHeader.make source dest Ip.icmp length with identification }
  let transport := Ethernet.headerSize + Ip.headerSize
  { data := ethernet.octets ++ ip.octets ++ m.octets
    offsets :=
      { transport, payload := transport + Icmp.headerSize, payloadLength := m.data.length }
    addressed := true }

end IcmpMessage

/-! ## Echo -/

/-- What becomes of a packet for the echo service. -/
inductive EchoOutcome where
  /-- Too short for an ICMP message. -/
  | malformed
  /-- Not an echo request. -/
  | ignored (type : IcmpType)
  /-- The reply to send, and to whom. -/
  | reply (requester : Ipv4) (packet : Packet)
  deriving DecidableEq, Repr

/-- An IPv4 header with its addresses exchanged and its time to live set anew. -/
def turnAround : Bytes → Except Fault (Ipv4 × Bytes)
  | v :: t :: l0 :: l1 :: i0 :: i1 :: f0 :: f1 :: _ttl :: p :: c0 :: c1 ::
      s0 :: s1 :: s2 :: s3 :: d0 :: d1 :: d2 :: d3 :: options =>
    .ok (⟨s0, s1, s2, s3⟩,
      v :: t :: l0 :: l1 :: i0 :: i1 :: f0 :: f1 :: Ip.defaultTtl :: p :: c0 :: c1 ::
        d0 :: d1 :: d2 :: d3 :: s0 :: s1 :: s2 :: s3 :: options)
  | _ => .error .outOfRange

/-- Answers an echo request in its own frame: hardware and IPv4 addresses exchanged, the time to
live set anew, type and code zero. All else is returned as it came. -/
def Packet.echo (p : Packet) (mac : Mac) : Except Fault EchoOutcome := do
  let message ← p.transport?
  if message.length < Icmp.headerSize then
    return .malformed
  let type := IcmpType.ofOctet (message.headD 0)
  if type ≠ .echoRequest then
    return .ignored type
  let requesterMac ← p.source?
  let header ← Bytes.slice? p.data p.offsets.network p.offsets.transport
  let (requester, turned) ← turnAround header
  let data := p.data.take p.offsets.network ++ turned ++
    (IcmpType.echoReply.octet :: 0 :: message.drop 2)
  return .reply requester (({ p with data }.withSource mac).addressedTo requesterMac)

/-! ## Unreachable ports -/

/-- The spacing of port-unreachable messages. -/
structure UnreachableLimiter where
  /-- When the last one was allowed. -/
  lastSent : Option Tick := none
  deriving DecidableEq, Repr

/-- Whether one may be sent at `now`, and the limiter after that. -/
def UnreachableLimiter.permit (l : UnreachableLimiter) (now : Tick) : Bool × UnreachableLimiter :=
  let allowed := l.lastSent.all fun last =>
    Tick.reached now (Tick.deadline last Icmp.unreachableInterval)
  (allowed, if allowed then ⟨some now⟩ else l)

/-- The sender of an unclaimed datagram, its hardware address, and the octets to quote: the IPv4
header and at most eight octets after it. -/
def Packet.quote (p : Packet) : Except Fault (Ipv4 × Mac × Bytes) := do
  let o0 ← p.data.octet? (p.offsets.network + 12)
  let o1 ← p.data.octet? (p.offsets.network + 13)
  let o2 ← p.data.octet? (p.offsets.network + 14)
  let o3 ← p.data.octet? (p.offsets.network + 15)
  let stop := min (p.offsets.transport + Icmp.quotedPayload) p.data.length
  let quoted ← Bytes.slice? p.data p.offsets.network stop
  let mac ← p.source?
  return (⟨o0, o1, o2, o3⟩, mac, quoted)

end PolledNet
