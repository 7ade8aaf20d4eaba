import PolledNet.Proofs.Core.Ownership
import PolledNet.Proofs.Inet.Header
import PolledNet.Proofs.Stack.Receiving

/-!
# From a sender's datagram to a receiver's

A datagram is built without checksums and without a receiving station. On its way out both are
filled in and a short frame is padded (`Endpoints.outbound`). A receiver takes the frame apart by
the lengths that it finds in it, so neither the padding nor anything behind it matters: every
station that the frame is for gets the same packet, with the addresses, the ports and the payload
that were sent (`datagram_arrives`).
-/

namespace PolledNet

/-! ## Headers that were sealed -/

namespace IpHeader

variable (h : IpHeader)

/-- Sealing fills in the checksum and leaves the other fields of a header. -/
theorem sealIpv4_octets :
    ∃ checksum, Checksum.sealIpv4 h.octets =
      [0x45, h.tos] ++ octets16 h.totalLength ++ octets16 h.identification ++
        octets16 h.flagsFragment ++ [h.ttl, h.protocol] ++ octets16 checksum ++
        h.source.octets ++ h.dest.octets :=
  ⟨_, rfl⟩

/-- Sealing a header does not change its length. -/
theorem length_sealIpv4_octets : (Checksum.sealIpv4 h.octets).length = Ip.headerSize := by
  obtain ⟨checksum, sealed⟩ := h.sealIpv4_octets
  rw [sealed]
  rfl

/-- **A sealed header without options reads back**, whatever follows it. -/
theorem parse_sealIpv4 (words : h.headerWords = 5) (rest : Bytes)
    (least : Ip.headerSize ≤ h.totalLength.toNat)
    (most : h.totalLength.toNat ≤ Ip.headerSize + rest.length) :
    ∃ checksum, parse (Checksum.sealIpv4 h.octets ++ rest) = .ok { h with checksum } := by
  have octets : h.octets = { h with checksum := 0 }.written [] := by
    have first : (0x40 : UInt8) + 5 = 0x45 := by decide
    have clear : octets16 0 = [0, 0] := by decide
    rw [written, words, first, clear]
    rfl
  obtain ⟨checksum, sealed, sums⟩ := sealIpv4_written { h with checksum := 0 } []
  have length : h.headerLength = Ip.headerSize := by rw [headerLength, words]; rfl
  have front : (({ h with checksum }.written [] : Bytes) ++ rest).take h.headerLength =
      { h with checksum }.written [] := List.take_left' length.symm
  refine ⟨checksum, ?_⟩
  rw [octets, sealed, written_append]
  refine parse_written ⟨Nat.le_of_eq length.symm, ?_, ?_, ?_, ?_⟩
  · rw [words]
    decide
  · exact Nat.le_trans (Nat.le_of_eq length) least
  · rw [length_written]
    exact most
  · rw [← written_append]
    exact (congrArg Checksum.verifyIpv4 front).trans sums

/-- A datagram that must not be fragmented is no fragment. -/
theorem isFragment_of_whole {h : IpHeader} (whole : h.flagsFragment = Ip.dontFragment) :
    h.isFragment = false := by
  rw [isFragment, whole]
  decide

end IpHeader

namespace UdpHeader

variable (h : UdpHeader) (payload : Bytes)

/-- What is stored in the checksum field is the checksum. -/
theorem store_octets (checksum : UInt16) :
    Checksum.store (h.octets ++ payload) Checksum.udpOffset checksum =
      { h with checksum }.octets ++ payload := rfl

/-- Sealing fills in the checksum and leaves the rest of a datagram. -/
theorem sealUdp_octets (source dest : Ipv4) :
    ∃ checksum, Checksum.sealUdp source dest (h.octets ++ payload) =
      { h with checksum }.octets ++ payload :=
  ⟨_, store_octets { h with checksum := 0 } payload _⟩

/-- Sealing keeps the length of a datagram. -/
theorem length_sealUdp_octets (source dest : Ipv4) :
    (Checksum.sealUdp source dest (h.octets ++ payload)).length =
      Udp.headerSize + payload.length := by
  obtain ⟨checksum, sealed⟩ := h.sealUdp_octets payload source dest
  rw [sealed, List.length_append, length_octets]

/-- A header reads back, if the datagram is as long as it says. -/
theorem parse_octets_append (length : h.length.toNat = Udp.headerSize + payload.length) :
    parse (h.octets ++ payload) = .ok h := by
  have read : parse (h.octets ++ payload) =
      if h.length.toNat < Udp.headerSize ∨ h.length.toNat > (h.octets ++ payload).length then
        .error .invalidLength
      else .ok h := by
    simp only [octets, octets16, List.cons_append, List.nil_append, parse, word16_octets16]
    rfl
  rw [read, List.length_append, length_octets, if_neg (by omega)]

end UdpHeader

namespace Packet

/-- The payload is found where the offsets say. -/
theorem payload?_of_data {p : Packet} {front payload : Bytes} (data : p.data = front ++ payload)
    (start : front.length = p.offsets.payload) (length : payload.length = p.offsets.payloadLength) :
    p.payload? = .ok payload := by
  have all : p.data.length = p.offsets.payload + p.offsets.payloadLength := by
    rw [data, List.length_append, start, length]
  rw [Packet.payload?, Bytes.slice?_eq_ok (Nat.le_add_right ..) (Nat.le_of_eq all.symm), data,
    ← start, List.drop_left, Nat.add_sub_cancel_left, ← length, List.take_length]

end Packet

namespace Arrival

variable (ip : IpHeader) (udp : UdpHeader) (payload : Bytes)

/-- **A sealed datagram is read as what it was.** -/
theorem readTransport_sealUdp (carries : ip.protocol = Ip.udp)
    (length : udp.length.toNat = Udp.headerSize + payload.length) :
    readTransport ip (Checksum.sealUdp ip.source ip.dest (udp.octets ++ payload)) =
      .ok { sourcePort := some udp.sourcePort, destPort := some udp.destPort
            payload := Udp.headerSize, payloadLength := payload.length } := by
  have bound := udp.length.toNat_lt
  have whole := udp.length_sealUdp_octets payload ip.source ip.dest
  have long : (udp.octets ++ payload).length = Udp.headerSize + payload.length := by
    rw [List.length_append, UdpHeader.length_octets]
  have verified := Checksum.verifyUdp_sealUdp ip.source ip.dest (b := udp.octets ++ payload)
    (by rw [long]; exact Nat.le_add_right 8 _) (by omega)
  obtain ⟨checksum, sealed⟩ := udp.sealUdp_octets payload ip.source ip.dest
  have read : UdpHeader.parse (Checksum.sealUdp ip.source ip.dest (udp.octets ++ payload)) =
      .ok { udp with checksum } := by
    rw [sealed]
    exact UdpHeader.parse_octets_append _ payload length
  rw [readTransport, if_pos carries, read]
  dsimp only
  rw [List.take_of_length_le (by omega), verified, if_pos rfl]
  simp only [UdpHeader.payloadLength, length, Nat.add_sub_cancel_left]

/-- The packet of a datagram behind a header without options, and what filters see of it. -/
def ofDatagram (ethernet : EthernetHeader) : Arrival where
  packet :=
    { data := ethernet.octets ++ (Checksum.sealIpv4 ip.octets ++
        Checksum.sealUdp ip.source ip.dest (udp.octets ++ payload))
      offsets :=
        { transport := Ethernet.headerSize + Ip.headerSize
          payload := Ethernet.headerSize + Ip.headerSize + Udp.headerSize
          payloadLength := payload.length } }
  info :=
    { ethertype := Ethernet.typeIpv4, protocol := some Ip.udp, source := some ip.source
      dest := some ip.dest, sourcePort := some udp.sourcePort, destPort := some udp.destPort }

/-- **A frame is classified as the layers that it is made of**, whatever stands behind them in it.
-/
theorem ofFrame_of_parts {mac : Mac} {ethernet : EthernetHeader} {ip : IpHeader} {t : Transport}
    {header content behind : Bytes} (ipv4 : ethernet.ethertype = Ethernet.typeIpv4)
    (ours : ethernet.dest = mac ∨ ethernet.dest.isMulticast = true)
    (read : IpHeader.parse (header ++ (content ++ behind)) = .ok ip) (whole : ip.isFragment = false)
    (length : header.length = ip.headerLength)
    (total : ip.totalLength.toNat = header.length + content.length)
    (transport : readTransport ip content = .ok t)
    (fits : (ethernet.octets ++ (header ++ (content ++ behind))).length ≤
      Ethernet.maxFrameSize + Ethernet.checkSize) :
    ofFrame mac (ethernet.octets ++ (header ++ (content ++ behind))) =
      .ok (ofLayers (ethernet.octets ++ (header ++ content)) ip t) := by
  have accepted : (ethernet.dest ≠ mac && !ethernet.dest.isMulticast) = false := by
    rcases ours with same | group
    · simp [same]
    · simp [group]
  -- the datagram in the frame, cut to its length, and its content
  have datagram : (ethernet.octets ++ (header ++ (content ++ behind))).drop Ethernet.headerSize =
      header ++ (content ++ behind) := List.drop_left' ethernet.length_octets
  have cut : (header ++ (content ++ behind)).take ip.totalLength.toNat = header ++ content := by
    rw [← List.append_assoc]
    exact List.take_left' (by rw [List.length_append, total])
  have inner : (header ++ content).drop ip.headerLength = content := List.drop_left' length
  have front : (ethernet.octets ++ (header ++ (content ++ behind))).take Ethernet.headerSize =
      ethernet.octets := List.take_left' ethernet.length_octets
  rw [ofFrame, EthernetHeader.parse, EthernetHeader.read?_octets_append]
  dsimp only
  rw [if_neg (Nat.not_lt.mpr fits)]
  dsimp only
  rw [accepted, if_neg Bool.false_ne_true, if_pos ipv4, readIpv4, datagram]
  dsimp only
  rw [read]
  dsimp only
  rw [whole, if_neg Bool.false_ne_true, cut, inner, transport, front]
  rfl

/-- **A frame that holds a sealed datagram is classified as that datagram**, whatever stands behind
it in the frame. -/
theorem ofFrame_sealed {mac : Mac} {ethernet : EthernetHeader} {behind : Bytes}
    (carriesIp : ethernet.ethertype = Ethernet.typeIpv4) (words : ip.headerWords = 5)
    (carriesUdp : ip.protocol = Ip.udp) (whole : ip.isFragment = false)
    (total : ip.totalLength.toNat = Ip.headerSize + (Udp.headerSize + payload.length))
    (length : udp.length.toNat = Udp.headerSize + payload.length)
    (ours : ethernet.dest = mac ∨ ethernet.dest.isMulticast = true)
    (fits : (ethernet.octets ++ (Checksum.sealIpv4 ip.octets ++
      (Checksum.sealUdp ip.source ip.dest (udp.octets ++ payload) ++ behind))).length ≤
        Ethernet.maxFrameSize + Ethernet.checkSize) :
    ofFrame mac (ethernet.octets ++ (Checksum.sealIpv4 ip.octets ++
        (Checksum.sealUdp ip.source ip.dest (udp.octets ++ payload) ++ behind))) =
      .ok (ofDatagram ip udp payload ethernet) := by
  have ipLength := ip.length_sealIpv4_octets
  have udpLength := udp.length_sealUdp_octets payload ip.source ip.dest
  have headerLength : ip.headerLength = Ip.headerSize := by rw [IpHeader.headerLength, words]; rfl
  obtain ⟨checksum, read⟩ := ip.parse_sealIpv4 words
    (Checksum.sealUdp ip.source ip.dest (udp.octets ++ payload) ++ behind) (by omega)
    (by rw [List.length_append]; omega)
  have transport := readTransport_sealUdp { ip with checksum } udp payload carriesUdp length
  rw [ofFrame_of_parts carriesIp ours read whole (ipLength.trans headerLength.symm)
    (by rw [ipLength, udpLength]; exact total) transport fits, ofLayers, ofDatagram]
  dsimp only
  rw [show IpHeader.headerLength { ip with checksum } = Ip.headerSize from headerLength, carriesUdp]

/-- The payload of a received datagram is what was sent. -/
theorem payload?_ofDatagram (ethernet : EthernetHeader) :
    (ofDatagram ip udp payload ethernet).packet.payload? = .ok payload := by
  obtain ⟨checksum, sealed⟩ := udp.sealUdp_octets payload ip.source ip.dest
  have front : (ethernet.octets ++ (Checksum.sealIpv4 ip.octets ++
      { udp with checksum }.octets)).length =
        Ethernet.headerSize + Ip.headerSize + Udp.headerSize := by
    rw [List.length_append, List.length_append, ethernet.length_octets, ip.length_sealIpv4_octets,
      UdpHeader.length_octets]
    rfl
  have data : (ofDatagram ip udp payload ethernet).packet.data =
      ethernet.octets ++ (Checksum.sealIpv4 ip.octets ++ { udp with checksum }.octets) ++
        payload := by
    show ethernet.octets ++ (Checksum.sealIpv4 ip.octets ++ _) = _
    rw [sealed, List.append_assoc, List.append_assoc]
  exact Packet.payload?_of_data data front rfl

end Arrival

/-! ## Leaving -/

namespace Packet

variable {p q : Packet} {iface : InterfaceConfig}

/-- A packet for a next hop leaves sealed. -/
theorem eq_of_resolve {hop : Ipv4} (resolves : p.disposition iface = .resolve hop q) :
    q = { p.sealed with nextHop := some hop } := by
  unfold disposition at resolves
  unfold sealed
  cases read : OutboundHeader.read? p with
  | none => simp [read] at resolves
  | some header =>
    simp only [read] at resolves
    repeat' split at resolves
    all_goals cases resolves
    rfl

/-- A packet for all stations leaves sealed, and addressed to them. -/
theorem eq_of_send (unaddressed : p.addressed = false) (sends : p.disposition iface = .send q) :
    q = p.sealed.addressedTo Mac.broadcast := by
  unfold disposition at sends
  unfold sealed
  cases read : OutboundHeader.read? p with
  | none => simp [read] at sends
  | some header =>
    simp only [read] at sends
    repeat' split at sends
    all_goals cases sends
    · rename_i addressed
      cases unaddressed.symm.trans addressed
    · rfl

/-- The frames in which an unaddressed packet leaves: for all stations at once, or for the one that
turns out to be its next hop. -/
inductive LeavesFor (iface : InterfaceConfig) (p : Packet) : Mac → Bytes → Prop where
  /-- It is broadcast. -/
  | all {q : Packet} (sends : p.disposition iface = .send q) :
    LeavesFor iface p Mac.broadcast q.padded.data
  /-- It goes to its next hop. -/
  | hop {hop : Ipv4} {q : Packet} (dest : Mac) (resolves : p.disposition iface = .resolve hop q) :
    LeavesFor iface p dest (q.addressedTo dest).padded.data

/-- **Every frame in which a packet leaves** is the packet sealed, addressed and padded. -/
theorem LeavesFor.eq {dest : Mac} {frame : Bytes} (leaves : LeavesFor iface p dest frame)
    (unaddressed : p.addressed = false) : frame = (p.sealed.addressedTo dest).padded.data := by
  cases leaves with
  | all sends => rw [eq_of_send unaddressed sends]
  | hop dest resolves => rw [eq_of_resolve resolves]; rfl

end Packet

namespace Endpoints

variable (ends : Endpoints) (identification : UInt16) (payload : Bytes)

/-- The longest payload of a datagram that fits a frame. -/
def maxPayload : Nat :=
  Ethernet.maxFrameSize - Ethernet.headerSize - Ip.headerSize - Udp.headerSize

/-- The IPv4 header of a datagram. -/
def ipHeader : IpHeader :=
  { IpHeader.make ends.source ends.dest Ip.udp (Udp.headerSize + payload.length) with
    identification }

/-- The UDP header of a datagram. -/
def udpHeader : UdpHeader :=
  ⟨ends.sourcePort, ends.destPort, UInt16.ofNat (Udp.headerSize + payload.length), 0⟩

/-- The frame in which a datagram leaves for a station: with its checksums, addressed to the
station, and padded. -/
def outbound (dest : Mac) : Bytes :=
  ((ends.datagram identification payload).sealed.addressedTo dest).padded.data

variable {payload}

/-- The payload leaves room for the headers in what a length field can say. -/
def Counted (payload : Bytes) : Prop :=
  Ip.headerSize + (Udp.headerSize + payload.length) < UInt16.size

/-- A payload that fits a frame fits the length fields. -/
theorem counted_of_short (short : payload.length ≤ maxPayload) : Counted payload :=
  Nat.lt_of_le_of_lt (Nat.add_le_add_left (Nat.add_le_add_left short _) _) (by decide)

/-- The total length is what the packet is long. -/
theorem toNat_totalLength (counted : Counted payload) :
    (ends.ipHeader identification payload).totalLength.toNat =
      Ip.headerSize + (Udp.headerSize + payload.length) := by
  show (UInt16.ofNat (Ip.headerSize + (Udp.headerSize + payload.length))).toNat = _
  rw [UInt16.toNat_ofNat', Nat.mod_eq_of_lt counted]

/-- The length of a datagram is that of its header and its payload. -/
theorem toNat_length (counted : Counted payload) :
    (ends.udpHeader payload).length.toNat = Udp.headerSize + payload.length := by
  show (UInt16.ofNat (Udp.headerSize + payload.length)).toNat = _
  rw [UInt16.toNat_ofNat', Nat.mod_eq_of_lt (Nat.lt_of_le_of_lt (Nat.le_add_left _ _) counted)]

/-- The parts of a datagram's frame. -/
theorem data_datagram :
    (ends.datagram identification payload).data =
      (⟨Mac.zero, ends.sourceMac, Ethernet.typeIpv4⟩ : EthernetHeader).octets ++
        ((ends.ipHeader identification payload).octets ++
          ((ends.udpHeader payload).octets ++ payload)) := by
  rw [← List.append_assoc, ← List.append_assoc]
  rfl

/-- The payload of a datagram is what it was built for, however long. -/
theorem payload?_datagram : (ends.datagram identification payload).payload? = .ok payload :=
  Packet.payload?_of_data rfl rfl rfl

/-- What is read back from a datagram, however long. -/
theorem read?_datagram_eq :
    OutboundHeader.read? (ends.datagram identification payload) =
      if Ip.headerSize < Ip.headerSize ∨
          (ends.ipHeader identification payload).totalLength.toNat < Ip.headerSize ∨
          Ethernet.headerSize + (ends.ipHeader identification payload).totalLength.toNat >
            (ends.datagram identification payload).data.length then none
      else
        some { source := ends.source, dest := ends.dest, protocol := Ip.udp
               headerLength := Ip.headerSize
               totalLength := (ends.ipHeader identification payload).totalLength.toNat } := by
  have ip : (ends.datagram identification payload).data.drop Ethernet.headerSize =
      (ends.ipHeader identification payload).octets ++
        ((ends.udpHeader payload).octets ++ payload) := by
    rw [data_datagram]
    exact List.drop_left' (EthernetHeader.length_octets _)
  unfold OutboundHeader.read?
  rw [show (ends.datagram identification payload).offsets.network = Ethernet.headerSize from rfl,
    ip]
  simp only [IpHeader.octets, octets16, Ipv4.octets, List.cons_append, List.nil_append,
    word16_octets16]
  rfl

/-- The headers of a datagram are read back as they were built. -/
theorem read?_datagram (counted : Counted payload) :
    OutboundHeader.read? (ends.datagram identification payload) =
      some { source := ends.source, dest := ends.dest, protocol := Ip.udp
             headerLength := Ip.headerSize
             totalLength := Ip.headerSize + (Udp.headerSize + payload.length) } := by
  have total := ends.toNat_totalLength identification counted
  have length : (ends.datagram identification payload).data.length =
      Ethernet.headerSize + (Ip.headerSize + (Udp.headerSize + payload.length)) := by
    rw [data_datagram, List.length_append, List.length_append, List.length_append]
    rfl
  rw [read?_datagram_eq, total, length, if_neg (by omega)]

variable {ends identification} in
/-- The receiver that is read back is the one the datagram is for. -/
theorem dest_of_read? {header : OutboundHeader}
    (read : OutboundHeader.read? (ends.datagram identification payload) = some header) :
    header.dest = ends.dest := by
  rw [read?_datagram_eq] at read
  split at read
  · cases read
  · cases read
    rfl

/-- Filling in the checksums seals both headers where they stand. -/
theorem data_sealed (counted : Counted payload) :
    (ends.datagram identification payload).sealed.data =
      (⟨Mac.zero, ends.sourceMac, Ethernet.typeIpv4⟩ : EthernetHeader).octets ++
        (Checksum.sealIpv4 (ends.ipHeader identification payload).octets ++
          Checksum.sealUdp ends.source ends.dest
            ((ends.udpHeader payload).octets ++ payload)) := by
  have ipLength := IpHeader.length_octets (ends.ipHeader identification payload)
  have udpLength : ((ends.udpHeader payload).octets ++ payload).length =
      Udp.headerSize + payload.length := by
    rw [List.length_append, UdpHeader.length_octets]
  have udpNotIcmp : Ip.udp ≠ Ip.icmp := by decide
  have whole : ((ends.ipHeader identification payload).octets ++
      ((ends.udpHeader payload).octets ++ payload)).length ≤
        Ip.headerSize + (Udp.headerSize + payload.length) :=
    Nat.le_of_eq (by rw [List.length_append, ipLength, udpLength])
  rw [Packet.sealed, ends.read?_datagram identification counted]
  dsimp only
  rw [OutboundHeader.sealPacket]
  rw [show (ends.datagram identification payload).offsets.network = Ethernet.headerSize from rfl,
    data_datagram, List.drop_left' (EthernetHeader.length_octets _),
    List.take_left' (EthernetHeader.length_octets _), List.take_left' ipLength,
    List.take_of_length_le whole, List.drop_left' ipLength, List.drop_of_length_le whole,
    List.append_nil, OutboundHeader.sealTransport, if_neg fun icmp => udpNotIcmp icmp.1,
    if_pos ⟨rfl, by rw [udpLength]; exact Nat.le_add_right ..⟩, List.append_assoc]

/-- **What leaves for a station**: its address, the sealed headers, the payload and padding. -/
theorem outbound_eq (counted : Counted payload) (dest : Mac) :
    ∃ padding, ends.outbound identification payload dest =
      (⟨dest, ends.sourceMac, Ethernet.typeIpv4⟩ : EthernetHeader).octets ++
        (Checksum.sealIpv4 (ends.ipHeader identification payload).octets ++
          (Checksum.sealUdp ends.source ends.dest
            ((ends.udpHeader payload).octets ++ payload) ++ padding)) := by
  have addressed : ((ends.datagram identification payload).sealed.addressedTo dest).data =
      (⟨dest, ends.sourceMac, Ethernet.typeIpv4⟩ : EthernetHeader).octets ++
        (Checksum.sealIpv4 (ends.ipHeader identification payload).octets ++
          Checksum.sealUdp ends.source ends.dest
            ((ends.udpHeader payload).octets ++ payload)) := by
    show Bytes.overwrite (Packet.sealed _).data 0 dest.octets = _
    rw [ends.data_sealed identification counted]
    rfl
  refine ⟨List.replicate (Ethernet.minFrameSize -
    ((ends.datagram identification payload).sealed.addressedTo dest).data.length) 0, ?_⟩
  rw [outbound, Packet.padded]
  dsimp only
  rw [addressed, List.append_assoc, List.append_assoc]

end Endpoints

/-- **What is sent is what arrives.** All frames in which a datagram leaves for a station are alike.
Every station of that address, or every station at all if the address is a multicast one, classifies
such a frame as the same packet, with the addresses, ports and payload that were sent. It counts the
frame and no drop, and nothing that follows the datagram in the frame makes a difference. -/
theorem datagram_arrives {ω : Type} (ends : Endpoints) (identification : UInt16) {payload : Bytes}
    (short : payload.length ≤ Endpoints.maxPayload) (dest : Mac) :
    (∀ iface frame, Packet.LeavesFor iface (ends.datagram identification payload) dest frame →
      frame = ends.outbound identification payload dest) ∧
    ∃ arrival : Arrival,
      arrival.info =
        { ethertype := Ethernet.typeIpv4, protocol := some Ip.udp, source := some ends.source
          dest := some ends.dest, sourcePort := some ends.sourcePort
          destPort := some ends.destPort } ∧
      arrival.packet.ethernet? = .ok ⟨dest, ends.sourceMac, Ethernet.typeIpv4⟩ ∧
      arrival.packet.payload? = .ok payload ∧
      ∀ (c : Core ω) (trailing : Bytes), dest = c.mac ∨ dest.isMulticast = true →
        (ends.outbound identification payload dest ++ trailing).length ≤
          Ethernet.maxFrameSize + Ethernet.checkSize →
        c.classify (ends.outbound identification payload dest ++ trailing) =
          (some arrival, c.count fun s => { s with rxFrames := s.rxFrames + 1 }) := by
  have counted := Endpoints.counted_of_short short
  obtain ⟨padding, outbound⟩ := ends.outbound_eq identification counted dest
  let ethernet : EthernetHeader := ⟨dest, ends.sourceMac, Ethernet.typeIpv4⟩
  let arrival := Arrival.ofDatagram (ends.ipHeader identification payload) (ends.udpHeader payload)
    payload ethernet
  refine ⟨fun iface frame leaves => leaves.eq rfl, arrival, rfl, ethernet.read?_octets_append _,
    Arrival.payload?_ofDatagram _ _ _ _, fun c trailing ours fits => ?_⟩
  have frame : ends.outbound identification payload dest ++ trailing =
      ethernet.octets ++ (Checksum.sealIpv4 (ends.ipHeader identification payload).octets ++
        (Checksum.sealUdp ends.source ends.dest ((ends.udpHeader payload).octets ++ payload) ++
          (padding ++ trailing))) := by
    rw [outbound]
    simp only [List.append_assoc, ethernet]
  rw [frame] at fits ⊢
  exact Stack.classify_of_ok (Arrival.ofFrame_sealed (ends.ipHeader identification payload)
    (ends.udpHeader payload) payload rfl rfl rfl (IpHeader.isFragment_of_whole rfl)
    (ends.toNat_totalLength identification counted) (ends.toNat_length counted) ours fits)

/-- From one neighbour to another. -/
def Endpoints.neighbours : Endpoints :=
  ⟨⟨2, 0, 0, 0, 0, 9⟩, ⟨10, 0, 0, 9⟩, 9, ⟨10, 0, 0, 2⟩, 7⟩

/-- Four octets follow a datagram in its frame, and are left out. -/
theorem datagram_arrives_neighbours :
    ([1, 2, 3] : Bytes).length ≤ Endpoints.maxPayload ∧
      (∃ q, (Endpoints.neighbours.datagram 5 [1, 2, 3]).disposition Core.faulty.iface =
          .resolve ⟨10, 0, 0, 2⟩ q ∧
        (q.addressedTo ⟨2, 0, 0, 0, 0, 1⟩).padded.data =
          Endpoints.neighbours.outbound 5 [1, 2, 3] ⟨2, 0, 0, 0, 0, 1⟩) ∧
      ∃ arrival : Arrival,
        arrival.packet.payload? = .ok [1, 2, 3] ∧
          Core.faulty.classify (Endpoints.neighbours.outbound 5 [1, 2, 3] ⟨2, 0, 0, 0, 0, 1⟩ ++
              [0xde, 0xad, 0xbe, 0xef]) =
            (some arrival, Core.faulty.count fun s => { s with rxFrames := s.rxFrames + 1 }) := by
  have short : ([1, 2, 3] : Bytes).length ≤ Endpoints.maxPayload := by decide
  obtain ⟨leaving, arrival, -, -, payload, arrives⟩ :=
    datagram_arrives Endpoints.neighbours 5 short ⟨2, 0, 0, 0, 0, 1⟩
  have route : ∃ q, (Endpoints.neighbours.datagram 5 [1, 2, 3]).disposition Core.faulty.iface =
      .resolve ⟨10, 0, 0, 2⟩ q := ⟨_, rfl⟩
  obtain ⟨q, route⟩ := route
  exact ⟨short, ⟨q, route, leaving _ _ (.hop _ route)⟩, arrival, payload,
    arrives Core.faulty _ (.inl rfl) (by decide +kernel)⟩

end PolledNet
