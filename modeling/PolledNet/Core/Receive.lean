import PolledNet.Core.State
import PolledNet.Inet.Icmp
import PolledNet.Sink.Filter

/-!
# Classifying received frames

A received frame is either dropped for one cause, which one counter counts, or it becomes a packet
with the offsets of its headers and the fields that filters look at. Padding is cut off on the way.
-/

namespace PolledNet

/-- Why a received frame is dropped before any sink sees it. -/
inductive DropCause where
  /-- It has no Ethernet header. -/
  | badEthernet (cause : EthernetError)
  /-- It is for another station. -/
  | otherStation
  /-- Its IPv4 header does not sum up. -/
  | badIpChecksum
  /-- Its IPv4 header is wrong in another way. -/
  | badIp (cause : IpHeaderError)
  /-- It is a fragment. -/
  | fragment
  /-- Its UDP header is wrong. -/
  | badUdp (cause : UdpError)
  /-- It is too short for an ICMP message. -/
  | shortIcmp
  /-- Its UDP or ICMP content does not sum up. -/
  | badTransportChecksum
  deriving DecidableEq, Repr

namespace DropCause

/-- Counts the drop. -/
def count (d : DropCause) (s : Stats) : Stats :=
  match d with
  | .otherStation => { s with rxDroppedMac := s.rxDroppedMac + 1 }
  | .badIpChecksum => { s with rxBadIpChecksum := s.rxBadIpChecksum + 1 }
  | .fragment => { s with rxFragments := s.rxFragments + 1 }
  | .badTransportChecksum => { s with rxBadTransportChecksum := s.rxBadTransportChecksum + 1 }
  | .badEthernet _ | .badIp _ | .badUdp _ | .shortIcmp =>
    { s with rxMalformed := s.rxMalformed + 1 }

/-- What the operator is told of the drop, if anything. -/
def event? : DropCause → Option Event
  | .badEthernet cause => some (.frame (.badEthernet cause))
  | .badIp cause => some (.frame (.badIp cause))
  | .badUdp cause => some (.frame (.badUdp cause))
  | _ => none

end DropCause

/-- A classified frame. -/
structure Arrival where
  /-- The frame with the offsets of its headers. -/
  packet : Packet
  /-- The fields that filters look at. -/
  info : FrameInfo
  deriving DecidableEq, Repr

namespace Arrival

/-- The transport layer of an IPv4 datagram: its ports, and where its payload starts and how long
it is, relative to the transport header. -/
structure Transport where
  sourcePort : Option UInt16 := none
  destPort : Option UInt16 := none
  payload : Nat := 0
  payloadLength : Nat

/-- Reads the transport layer; what is neither UDP nor ICMP is taken as it is. -/
def readTransport (ip : IpHeader) (content : Bytes) : Except DropCause Transport :=
  if ip.protocol = Ip.udp then
    match UdpHeader.parse content with
    | .error e => .error (.badUdp e)
    | .ok udp =>
      if Checksum.verifyUdp ip.source ip.dest (content.take udp.length.toNat) then
        .ok { sourcePort := some udp.sourcePort, destPort := some udp.destPort
              payload := Udp.headerSize, payloadLength := udp.payloadLength }
      else .error .badTransportChecksum
  else if ip.protocol = Ip.icmp then
    if content.length < Icmp.headerSize then .error .shortIcmp
    else if Checksum.verifyIcmp content then
      .ok { payload := Icmp.headerSize, payloadLength := content.length - Icmp.headerSize }
    else .error .badTransportChecksum
  else .ok { payloadLength := content.length }

/-- Reads an IPv4 datagram. -/
def readIpv4 (frame : Bytes) : Except DropCause Arrival :=
  let datagram := frame.drop Ethernet.headerSize
  match IpHeader.parse datagram with
  | .error .checksumMismatch => .error .badIpChecksum
  | .error e => .error (.badIp e)
  | .ok ip =>
    if ip.isFragment then .error .fragment
    else
      let datagram := datagram.take ip.totalLength.toNat
      match readTransport ip (datagram.drop ip.headerLength) with
      | .error cause => .error cause
      | .ok content =>
        let transport := Ethernet.headerSize + ip.headerLength
        .ok {
          packet := {
            data := frame.take Ethernet.headerSize ++ datagram
            offsets := { transport, payload := transport + content.payload
                         payloadLength := content.payloadLength } }
          info := {
            ethertype := Ethernet.typeIpv4, protocol := some ip.protocol
            source := some ip.source, dest := some ip.dest
            sourcePort := content.sourcePort, destPort := content.destPort } }

/-- Classifies a frame received by the station `mac`. -/
def ofFrame (mac : Mac) (frame : Bytes) : Except DropCause Arrival :=
  match EthernetHeader.parse frame with
  | .error e => .error (.badEthernet e)
  | .ok ethernet =>
    if ethernet.dest ≠ mac && !ethernet.dest.isMulticast then .error .otherStation
    else if ethernet.ethertype = Ethernet.typeIpv4 then readIpv4 frame
    else
      let offsets : HeaderOffsets :=
        if ethernet.ethertype = Ethernet.typeArp then
          { payload := Ethernet.headerSize, payloadLength := frame.length - Ethernet.headerSize }
        else {}
      .ok { packet := { data := frame, offsets }, info := { ethertype := ethernet.ethertype } }

end Arrival

/-- Counts a received frame and classifies it; a drop is counted and told. -/
def Core.classify {ω : Type} (c : Core ω) (frame : Bytes) : Option Arrival × Core ω :=
  let c := c.count fun s => { s with rxFrames := s.rxFrames + 1 }
  match Arrival.ofFrame c.mac frame with
  | .ok arrival => (some arrival, c)
  | .error cause =>
    let c := c.count cause.count
    (none, match cause.event? with
      | none => c
      | some event => c.tell event)

end PolledNet
