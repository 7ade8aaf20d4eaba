import PolledNet.Inet.Checksum

/-!
# IPv4 headers

Received headers may carry options, which are skipped; the headers written here have none.
Fragments are recognised so that they can be dropped.
-/

namespace PolledNet

namespace Ip

/-- Protocol number of ICMP. -/
def icmp : UInt8 := 1

/-- Protocol number of UDP. -/
def udp : UInt8 := 17

/-- Octets of a header without options, the only kind written here. -/
def headerSize : Nat := 20

/-- Time to live of what we send. -/
def defaultTtl : UInt8 := 64

/-- Flag: routers must not fragment the datagram. -/
def dontFragment : UInt16 := 0x4000

/-- Flag: more fragments of the datagram follow. -/
def moreFragments : UInt16 := 0x2000

/-- The bits of the flag word that hold the fragment's offset. -/
def fragmentOffsetMask : UInt16 := 0x1FFF

end Ip

/-- Why octets do not start with an IPv4 header that can be trusted. -/
inductive IpHeaderError where
  /-- Too few octets for the header. -/
  | packetTooShort
  /-- The version is not 4. -/
  | invalidVersion (version : UInt8)
  /-- The header length is below five words. -/
  | invalidIhl (words : UInt8)
  /-- The total length is below the header's, or more than there is. -/
  | invalidLength
  /-- The header does not sum to all ones. -/
  | checksumMismatch
  deriving DecidableEq, Repr

/-- What to tell the operator. -/
def IpHeaderError.message : IpHeaderError → String
  | .packetTooShort => "Packet too short"
  | .invalidVersion version => s!"Invalid IP version: {version.toNat}"
  | .invalidIhl words => s!"Invalid IHL: {words.toNat}"
  | .invalidLength => "Invalid total length"
  | .checksumMismatch => "Checksum mismatch"

/-- An error is shown by what the operator is told. -/
instance : ToString IpHeaderError := ⟨IpHeaderError.message⟩

/-- An IPv4 header without its options. -/
structure IpHeader where
  /-- Length of the header in 32-bit words; five without options. -/
  headerWords : UInt8 := 5
  /-- Type of service. -/
  tos : UInt8 := 0
  /-- Octets of header and data. -/
  totalLength : UInt16
  /-- Identification shared by the fragments of a datagram. -/
  identification : UInt16 := 0
  /-- Flags and fragment offset, as sent. -/
  flagsFragment : UInt16 := Ip.dontFragment
  /-- Hops left. -/
  ttl : UInt8 := Ip.defaultTtl
  /-- What the data is. -/
  protocol : UInt8
  /-- Checksum of the header, as received. -/
  checksum : UInt16 := 0
  /-- The sender. -/
  source : Ipv4
  /-- The receiver. -/
  dest : Ipv4
  deriving DecidableEq, Repr

namespace IpHeader

/-- The header of an unfragmented datagram with `length` octets of data. -/
def make (source dest : Ipv4) (protocol : UInt8) (length : Nat) : IpHeader :=
  { totalLength := UInt16.ofNat (Ip.headerSize + length), protocol, source, dest }

/-- Octets of the header. -/
def headerLength (h : IpHeader) : Nat := h.headerWords.toNat * 4

/-- Octets of the data. -/
def payloadLength (h : IpHeader) : Nat := h.totalLength.toNat - h.headerLength

/-- Whether the datagram is one of several fragments. -/
def isFragment (h : IpHeader) : Bool :=
  h.flagsFragment &&& Ip.moreFragments ≠ 0 || h.flagsFragment &&& Ip.fragmentOffsetMask ≠ 0

/-- Reads the header that the octets start with. The checks run in the order version, header
length, octets for the header, total length, checksum; the first that fails is the error. -/
def parse (b : Bytes) : Except IpHeaderError IpHeader :=
  match b with
  | versionWords :: tos :: l0 :: l1 :: i0 :: i1 :: f0 :: f1 :: ttl :: protocol :: c0 :: c1 ::
      s0 :: s1 :: s2 :: s3 :: d0 :: d1 :: d2 :: d3 :: _ =>
    let version := versionWords >>> 4
    let words := versionWords &&& 0x0F
    let header : IpHeader :=
      { headerWords := words, tos, totalLength := word16 l0 l1, identification := word16 i0 i1
        flagsFragment := word16 f0 f1, ttl, protocol, checksum := word16 c0 c1
        source := ⟨s0, s1, s2, s3⟩, dest := ⟨d0, d1, d2, d3⟩ }
    if version ≠ 4 then .error (.invalidVersion version)
    else if words < 5 then .error (.invalidIhl words)
    else if b.length < header.headerLength then .error .packetTooShort
    else if header.totalLength.toNat < header.headerLength ∨
        header.totalLength.toNat > b.length then
      .error .invalidLength
    else if !Checksum.verifyIpv4 (b.take header.headerLength) then .error .checksumMismatch
    else .ok header
  | _ => .error .packetTooShort

/-- The twenty octets of the header without options, the checksum left zero. -/
def octets (h : IpHeader) : Bytes :=
  [0x45, h.tos] ++ octets16 h.totalLength ++ octets16 h.identification ++
    octets16 h.flagsFragment ++ [h.ttl, h.protocol, 0, 0] ++ h.source.octets ++ h.dest.octets

/-- The buffer with its first twenty octets replaced by the header. -/
def write? (h : IpHeader) (buffer : Bytes) : Except Fault Bytes := buffer.overwrite? 0 h.octets

/-- A header without options takes the least number of octets. -/
@[simp] theorem length_octets (h : IpHeader) : h.octets.length = Ip.headerSize := rfl

end IpHeader

end PolledNet
