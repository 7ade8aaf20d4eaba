import PolledNet.Inet.Address

/-!
# The Internet checksum

The one's-complement sum of big-endian 16-bit words, with an odd last octet padded by zero. Sealing
stores the complement of the sum in the checksum field; a sealed range sums to all ones, which is
what verifying asks for.

The sum is kept in 32 bits and folded early, so that no length overflows it.
-/

namespace PolledNet.Checksum

/-- Moves the high half of a sum down onto its low half. -/
def carry (sum : UInt32) : UInt32 := sum % 65536 + sum / 65536

/-- The 16-bit one's-complement value of a sum. Two carries are enough for 32 bits. -/
def fold (sum : UInt32) : UInt16 := (carry (carry sum)).toUInt16

/-- Adds the words of the octets to a running sum, carrying as soon as the next word might not
fit. -/
def addWords : Bytes → UInt32 → UInt32
  | hi :: lo :: rest, sum =>
    let sum := sum + (word16 hi lo).toUInt32
    addWords rest (if sum > 0xFFFF0000 then carry sum else sum)
  | [last], sum => sum + (word16 last 0).toUInt32
  | [], sum => sum

/-- The Internet checksum of the octets. -/
def ofBytes (b : Bytes) : UInt16 := ~~~ fold (addWords b 0)

/-- The octets with the word at `offset` replaced. -/
def store (b : Bytes) (offset : Nat) (w : UInt16) : Bytes := b.overwrite offset (octets16 w)

/-- What `f` makes of octets that hold the checksum field at `offset`; others are refused. -/
def guarded (offset : Nat) (f : Bytes → Bytes) (b : Bytes) : Except Fault Bytes :=
  if offset + 2 ≤ b.length then .ok (f b) else .error .outOfRange

/-! ## IPv4 headers -/

/-- Where the checksum is in an IPv4 header. -/
def ipv4Offset : Nat := 10

/-- The IPv4 header with its checksum stored. -/
def sealIpv4 (header : Bytes) : Bytes :=
  let cleared := store header ipv4Offset 0
  store cleared ipv4Offset (ofBytes cleared)

/-- `sealIpv4`, refusing octets too short for the field. -/
def sealIpv4? : Bytes → Except Fault Bytes := guarded ipv4Offset sealIpv4

/-- Whether an IPv4 header sums to all ones. -/
def verifyIpv4 (header : Bytes) : Bool := ofBytes header = 0

/-! ## ICMP messages -/

/-- Where the checksum is in an ICMP message. -/
def icmpOffset : Nat := 2

/-- The ICMP message with its checksum stored. -/
def sealIcmp (message : Bytes) : Bytes :=
  let cleared := store message icmpOffset 0
  store cleared icmpOffset (ofBytes cleared)

/-- `sealIcmp`, refusing octets too short for the field. -/
def sealIcmp? : Bytes → Except Fault Bytes := guarded icmpOffset sealIcmp

/-- Whether an ICMP message sums to all ones. -/
def verifyIcmp (message : Bytes) : Bool := ofBytes message = 0

/-! ## UDP datagrams -/

/-- Where the checksum is in a UDP datagram. -/
def udpOffset : Nat := 6

/-- The protocol number that a UDP pseudo-header carries. -/
def udpProtocol : UInt32 := 17

/-- The sum of the pseudo-header of a UDP datagram of `length` octets. The length is summed here and
once more as part of the datagram's own header. -/
def pseudoSum (source dest : Ipv4) (length : Nat) : UInt32 :=
  addWords dest.octets (addWords source.octets 0) + udpProtocol + UInt32.ofNat length

/-- The sum of a UDP datagram and its pseudo-header. -/
def udpSum (source dest : Ipv4) (datagram : Bytes) : UInt32 :=
  addWords datagram (pseudoSum source dest datagram.length)

/-- The UDP datagram with its checksum stored. A checksum of zero is stored as all ones, because a
zero field says that there is none. -/
def sealUdp (source dest : Ipv4) (datagram : Bytes) : Bytes :=
  let cleared := store datagram udpOffset 0
  let value := ~~~ fold (udpSum source dest cleared)
  store cleared udpOffset (if value = 0 then 0xFFFF else value)

/-- `sealUdp`, refusing octets too short for the field. -/
def sealUdp? (source dest : Ipv4) : Bytes → Except Fault Bytes :=
  guarded udpOffset (sealUdp source dest)

/-- Whether a UDP datagram has no checksum or a right one. -/
def verifyUdp (source dest : Ipv4) (datagram : Bytes) : Bool :=
  match datagram[udpOffset]?, datagram[udpOffset + 1]? with
  | some hi, some lo =>
    word16 hi lo = 0 || fold (udpSum source dest datagram) = 0xFFFF
  | _, _ => false

end PolledNet.Checksum
