import PolledNet.Arp.Message
import PolledNet.Inet.Icmp
import PolledNet.Inet.Udp
import PolledNet.Proofs.Access.Octets

/-!
# Checked building of frames

A frame is built by storing its fields into octets that are all zero. Every field of a datagram, of
an ICMP message and of an ARP message has its place, whatever the content is
(`Endpoints.checkedDatagram_eq`, `IcmpMessage.checkedPacket_eq`, `ArpMessage.checkedPacket_eq`).
-/

namespace PolledNet

/-! ## Headers -/

section Headers

variable {old after : Bytes}

/-- Stores the header into the first octets. -/
def EthernetHeader.checkedWrite (h : EthernetHeader) (b : Bytes) : Except Fault Bytes :=
  b.fill? 0 [h.dest.octets, h.source.octets, octets16 h.ethertype]

/-- An Ethernet header fits where room was made for it. -/
theorem EthernetHeader.checkedWrite_append (h : EthernetHeader)
    (length : old.length = Ethernet.headerSize) :
    h.checkedWrite (old ++ after) = .ok (h.octets ++ after) :=
  Bytes.fill?_append [] old after _ length.symm

/-- Stores the header into the first octets. -/
def IpHeader.checkedWrite (h : IpHeader) (b : Bytes) : Except Fault Bytes :=
  b.fill? 0 [[0x45], [h.tos], octets16 h.totalLength, octets16 h.identification,
    octets16 h.flagsFragment, [h.ttl], [h.protocol], [0], [0], h.source.octets, h.dest.octets]

/-- An IPv4 header fits where room was made for it. -/
theorem IpHeader.checkedWrite_eq (h : IpHeader) (length : old.length = Ip.headerSize) :
    h.checkedWrite old = .ok h.octets :=
  Bytes.fill?_eq old _ length.symm

/-- Stores the header into the first octets. -/
def UdpHeader.checkedWrite (h : UdpHeader) (b : Bytes) : Except Fault Bytes :=
  b.fill? 0 [octets16 h.sourcePort, octets16 h.destPort, octets16 h.length, octets16 h.checksum]

/-- A UDP header fits where room was made for it. -/
theorem UdpHeader.checkedWrite_eq (h : UdpHeader) (length : old.length = Udp.headerSize) :
    h.checkedWrite old = .ok h.octets :=
  Bytes.fill?_eq old _ length.symm

end Headers

/-- A frame that starts with both headers, with `length` zeros behind them. -/
def checkedHeaders (ethernet : EthernetHeader) (ip : IpHeader) (length : Nat) :
    Except Fault Bytes := do
  let transport := Ethernet.headerSize + Ip.headerSize
  let data ← ethernet.checkedWrite (Packet.zeroed (transport + length)).data
  data.update? Ethernet.headerSize transport ip.checkedWrite

/-- Room is made for both headers, and for so many octets behind them. -/
theorem checkedHeaders_eq (ethernet : EthernetHeader) (ip : IpHeader) (length : Nat) :
    checkedHeaders ethernet ip length =
      .ok (ethernet.octets ++ ip.octets ++ List.replicate length 0) := by
  have zeros : (Packet.zeroed (Ethernet.headerSize + Ip.headerSize + length)).data =
      List.replicate Ethernet.headerSize 0 ++
        (List.replicate Ip.headerSize 0 ++ List.replicate length 0) := by
    have least : max (Ethernet.headerSize + Ip.headerSize + length) Ethernet.headerSize =
        Ethernet.headerSize + (Ip.headerSize + length) := by omega
    rw [Packet.zeroed, least, ← List.replicate_append_replicate, ← List.replicate_append_replicate]
  have first : ethernet.checkedWrite (List.replicate Ethernet.headerSize 0 ++
      (List.replicate Ip.headerSize 0 ++ List.replicate length 0)) =
        .ok (ethernet.octets ++ (List.replicate Ip.headerSize 0 ++ List.replicate length 0)) :=
    ethernet.checkedWrite_append List.length_replicate
  have second := Bytes.update?_append ethernet.octets (List.replicate Ip.headerSize 0)
    (List.replicate length 0) (ip.checkedWrite_eq List.length_replicate) List.length_replicate.symm
  rw [List.append_assoc ethernet.octets] at second
  unfold checkedHeaders
  dsimp only
  rw [zeros, first, ok_bind]
  exact second

/-! ## Datagrams -/

namespace Endpoints

/-- The frame of a datagram. -/
def checkedDatagram (ends : Endpoints) (identification : UInt16) (payload : Bytes) :
    Except Fault Packet := do
  let length := Udp.headerSize + payload.length
  let ethernet : EthernetHeader := ⟨Mac.zero, ends.sourceMac, Ethernet.typeIpv4⟩
  let ip := { IpHeader.make ends.source ends.dest Ip.udp length with identification }
  let udp : UdpHeader := ⟨ends.sourcePort, ends.destPort, UInt16.ofNat length, 0⟩
  let transport := Ethernet.headerSize + Ip.headerSize
  let content := transport + Udp.headerSize
  let data ← checkedHeaders ethernet ip length
  let data ← data.update? transport content udp.checkedWrite
  let data ← data.replace? content data.length payload
  return { data, offsets := { transport, payload := content, payloadLength := payload.length } }

/-- A datagram is built without a fault. -/
theorem checkedDatagram_eq (ends : Endpoints) (identification : UInt16) (payload : Bytes) :
    ends.checkedDatagram identification payload = .ok (ends.datagram identification payload) := by
  unfold checkedDatagram datagram
  dsimp only
  generalize EthernetHeader.mk Mac.zero ends.sourceMac Ethernet.typeIpv4 = ethernet
  generalize { IpHeader.make ends.source ends.dest Ip.udp (Udp.headerSize + payload.length) with
    identification } = ip
  generalize UdpHeader.mk ends.sourcePort ends.destPort
    (UInt16.ofNat (Udp.headerSize + payload.length)) 0 = udp
  have header := Bytes.update?_append (ethernet.octets ++ ip.octets)
    (List.replicate Udp.headerSize 0) (List.replicate payload.length 0)
    (udp.checkedWrite_eq List.length_replicate) List.length_replicate.symm
  rw [List.append_assoc _ (List.replicate _ _), List.replicate_append_replicate] at header
  have content := Bytes.replace?_append (ethernet.octets ++ ip.octets ++ udp.octets)
    (List.replicate payload.length 0) [] payload List.length_replicate.symm
  rw [List.append_nil, List.append_nil, ← List.length_append] at content
  have transport : (ethernet.octets ++ ip.octets).length = Ethernet.headerSize + Ip.headerSize :=
    rfl
  have place : (ethernet.octets ++ ip.octets ++ udp.octets).length =
      Ethernet.headerSize + Ip.headerSize + Udp.headerSize := rfl
  rw [transport, List.length_replicate] at header
  rw [place] at content
  rw [checkedHeaders_eq, ok_bind, header, ok_bind, content, ok_bind]
  rfl

end Endpoints

/-! ## ICMP messages -/

namespace IcmpMessage

/-- Stores the message into octets of its length. -/
def checkedWrite (m : IcmpMessage) (b : Bytes) : Except Fault Bytes := do
  let b ← b.fill? 0 [[m.type.octet], [m.code]]
  let b ← b.fill? 4 [octets16 m.restHigh, octets16 m.restLow]
  b.replace? Icmp.headerSize b.length m.data

/-- Stored over zeros, the checksum is zero. -/
theorem checkedWrite_eq (m : IcmpMessage) :
    m.checkedWrite (List.replicate (Icmp.headerSize + m.data.length) 0) = .ok m.octets := by
  have zeros : List.replicate (Icmp.headerSize + m.data.length) (0 : UInt8) =
      [0, 0] ++ ([0, 0] ++ ([0, 0, 0, 0] ++ List.replicate m.data.length 0)) := by
    rw [← List.replicate_append_replicate]
    rfl
  have first : Bytes.fill? ([0, 0] ++ ([0, 0] ++ ([0, 0, 0, 0] ++ List.replicate m.data.length 0)))
      0 [[m.type.octet], [m.code]] = .ok ([m.type.octet, m.code, 0, 0] ++ [0, 0, 0, 0] ++
        List.replicate m.data.length 0) :=
    Bytes.fill?_append [] [0, 0] _ [[m.type.octet], [m.code]] rfl
  have second : Bytes.fill? ([m.type.octet, m.code, 0, 0] ++ [0, 0, 0, 0] ++
      List.replicate m.data.length 0) 4 [octets16 m.restHigh, octets16 m.restLow] =
        .ok ([m.type.octet, m.code, 0, 0] ++ (octets16 m.restHigh ++ octets16 m.restLow) ++
          List.replicate m.data.length 0) :=
    Bytes.fill?_append [m.type.octet, m.code, 0, 0] [0, 0, 0, 0] _
      [octets16 m.restHigh, octets16 m.restLow] rfl
  have third := Bytes.replace?_append
    ([m.type.octet, m.code, 0, 0] ++ (octets16 m.restHigh ++ octets16 m.restLow))
    (List.replicate m.data.length 0) [] m.data List.length_replicate.symm
  rw [List.append_nil, List.append_nil, ← List.length_append] at third
  unfold checkedWrite
  rw [zeros, first, ok_bind, second, ok_bind]
  exact third

/-- The frame of the message from one station to another. -/
def checkedPacket (m : IcmpMessage) (sourceMac : Mac) (source : Ipv4) (destMac : Mac) (dest : Ipv4)
    (identification : UInt16) : Except Fault Packet := do
  let ethernet : EthernetHeader := ⟨destMac, sourceMac, Ethernet.typeIpv4⟩
  let length := Icmp.headerSize + m.data.length
  let ip := { IpHeader.make source dest Ip.icmp length with identification }
  let transport := Ethernet.headerSize + Ip.headerSize
  let data ← checkedHeaders ethernet ip length
  let data ← data.update? transport data.length m.checkedWrite
  return {
    data
    offsets :=
      { transport, payload := transport + Icmp.headerSize, payloadLength := m.data.length }
    addressed := true }

/-- An ICMP message is built into a packet without a fault. -/
theorem checkedPacket_eq (m : IcmpMessage) (sourceMac : Mac) (source : Ipv4) (destMac : Mac)
    (dest : Ipv4) (identification : UInt16) :
    m.checkedPacket sourceMac source destMac dest identification =
      .ok (m.packet sourceMac source destMac dest identification) := by
  unfold checkedPacket packet
  dsimp only
  generalize EthernetHeader.mk destMac sourceMac Ethernet.typeIpv4 = ethernet
  generalize { IpHeader.make source dest Ip.icmp (Icmp.headerSize + m.data.length) with
    identification } = ip
  have length : m.octets.length = Icmp.headerSize + m.data.length := by
    simp only [octets, List.length_append, List.length_cons, List.length_nil, length_octets16,
      Icmp.headerSize]
  have stored := Bytes.update?_append (ethernet.octets ++ ip.octets)
    (List.replicate (Icmp.headerSize + m.data.length) 0) [] m.checkedWrite_eq
    (length.trans List.length_replicate.symm)
  have transport : (ethernet.octets ++ ip.octets).length = Ethernet.headerSize + Ip.headerSize :=
    rfl
  rw [List.append_nil, List.append_nil, ← List.length_append, transport] at stored
  rw [checkedHeaders_eq, ok_bind, stored, ok_bind]
  rfl

end IcmpMessage

/-! ## ARP messages -/

namespace ArpMessage

/-- Stores the message into the first octets. -/
def checkedWrite (m : ArpMessage) (b : Bytes) : Except Fault Bytes :=
  b.fill? 0 [octets16 Arp.hardwareEthernet, octets16 Arp.protocolIpv4, [6], [4],
    octets16 m.operation, m.senderMac.octets, m.sender.octets, m.targetMac.octets, m.target.octets]

/-- An ARP message fits where room was made for it. -/
theorem checkedWrite_eq (m : ArpMessage) {old : Bytes} (length : old.length = Arp.messageSize) :
    m.checkedWrite old = .ok m.octets :=
  Bytes.fill?_eq old _ length.symm

/-- The frame of the message to the station `dest`. -/
def checkedPacket (m : ArpMessage) (dest : Mac) : Except Fault Packet := do
  let ethernet : EthernetHeader := ⟨dest, m.senderMac, Ethernet.typeArp⟩
  let p := Packet.zeroed (Ethernet.headerSize + Arp.messageSize)
  let data ← ethernet.checkedWrite p.data
  let data ← data.update? Ethernet.headerSize data.length m.checkedWrite
  return {
    data
    offsets := { payload := Ethernet.headerSize, payloadLength := Arp.messageSize }
    addressed := true }

/-- An ARP message is built into a packet without a fault. -/
theorem checkedPacket_eq (m : ArpMessage) (dest : Mac) :
    m.checkedPacket dest = .ok (m.packet dest) := by
  unfold checkedPacket packet
  dsimp only
  generalize EthernetHeader.mk dest m.senderMac Ethernet.typeArp = ethernet
  have zeros : (Packet.zeroed (Ethernet.headerSize + Arp.messageSize)).data =
      List.replicate Ethernet.headerSize 0 ++ List.replicate Arp.messageSize 0 :=
    List.replicate_append_replicate.symm
  have first : ethernet.checkedWrite
      (List.replicate Ethernet.headerSize 0 ++ List.replicate Arp.messageSize 0) =
        .ok (ethernet.octets ++ List.replicate Arp.messageSize 0) :=
    ethernet.checkedWrite_append List.length_replicate
  have stored := Bytes.update?_append ethernet.octets (List.replicate Arp.messageSize 0) []
    (m.checkedWrite_eq List.length_replicate) List.length_replicate.symm
  rw [List.append_nil, List.append_nil, ← List.length_append, ethernet.length_octets] at stored
  rw [zeros, first, ok_bind, stored, ok_bind]
  rfl

end ArpMessage

end PolledNet
