import PolledNet.Proofs.Access.Frames
import PolledNet.Proofs.Core.Silence
import PolledNet.Proofs.Inet.Header
import PolledNet.Proofs.Stack.Arrival

/-!
# What a frame says

Whatever way a frame takes, what it says can be read off its letter: which station an ARP message in
it tells of (`Bytes.Introduces`), and which UDP datagram it brings (`Bytes.datagram?`). A datagram
is read here by its length fields alone, with no look at checksums and addresses, so that one that
was altered on its way would be read as well; what a station takes for a datagram is read so
(`datagram?_of_ofFrame`).

A datagram that was built reads as what it was built of, if it reads at all (`datagram?_sealed`).
The answers of the services are signals (`Bytes.Signals`): ARP messages of their sender, and ICMP
messages.
-/

namespace PolledNet

/-- A station on a link. -/
structure Station where
  /-- Its hardware address. -/
  mac : Mac
  /-- Its address. -/
  address : Ipv4
  deriving DecidableEq, Repr

/-- What a UDP datagram brings. -/
structure Datagram where
  /-- The port of the sender. -/
  sourcePort : UInt16
  /-- The port of the receiver. -/
  destPort : UInt16
  /-- The content. -/
  payload : Bytes
  deriving DecidableEq, Repr

namespace Bytes

/-! ## Datagrams -/

/-- So many octets of a frame from a position on. -/
def octetsAt (frame : Bytes) (start n : Nat) : Bytes :=
  (List.range n).map fun i => frame.octetAt (start + i)

/-- The UDP datagram in a frame, as its length fields say. -/
def datagram? (frame : Bytes) : Option Datagram :=
  if frame.length ≤ Ethernet.maxFrameSize + Ethernet.checkSize ∧
      frame.wordAt 12 = Ethernet.typeIpv4 ∧ frame.octetAt (Ethernet.headerSize + 9) = Ip.udp then
    let start := frame.transportAt
    some { sourcePort := frame.wordAt start, destPort := frame.wordAt (start + 2)
           payload := frame.octetsAt (start + Udp.headerSize)
             ((frame.wordAt (start + 4)).toNat - Udp.headerSize) }
  else none

/-- The frame to all stations that has a letter. -/
def toAll (letter : Bytes) : Bytes := Mac.broadcast.octets ++ letter

variable {frame frame' : Bytes}

/-- A letter leaves out the six octets of the destination, and it is as long as a frame must be at
least. -/
theorem length_letter (frame : Bytes) :
    frame.letter.length = max frame.length Ethernet.minFrameSize - 6 := by
  simp only [letter, List.length_drop, List.length_append, List.length_replicate]
  omega

/-- A frame to all stations has the letter that was put into it. -/
theorem letter_toAll (frame : Bytes) : frame.letter.toAll.letter = frame.letter := by
  have least : Ethernet.minFrameSize = 60 := rfl
  have long : Ethernet.minFrameSize ≤ frame.letter.toAll.length := by
    rw [toAll, List.length_append, length_letter, Mac.length_octets]
    omega
  rw [letter, Nat.sub_eq_zero_of_le long, List.replicate_zero, List.append_nil, toAll]
  exact List.drop_left' (Mac.length_octets _)

/-- **A datagram can be read off the letter of its frame.** -/
theorem datagram?_of_letter (same : frame.letter = frame'.letter) :
    frame.datagram? = frame'.datagram? := by
  have octets {i : Nat} (behind : 6 ≤ i) : frame.octetAt i = frame'.octetAt i :=
    octetAt_of_letter same behind
  have words {i : Nat} (behind : 6 ≤ i) : frame.wordAt i = frame'.wordAt i :=
    wordAt_of_letter same behind
  have start : frame.transportAt = frame'.transportAt := by
    rw [transportAt, transportAt, octets (by decide)]
  have behind : 6 ≤ frame'.transportAt := Nat.le_add_right_of_le (by decide)
  have content (i n : Nat) :
      frame.octetsAt (frame'.transportAt + i) n = frame'.octetsAt (frame'.transportAt + i) n :=
    List.map_congr_left fun j _ => octets (by omega)
  have length : frame.length ≤ Ethernet.maxFrameSize + Ethernet.checkSize ↔
      frame'.length ≤ Ethernet.maxFrameSize + Ethernet.checkSize := by
    have least : Ethernet.minFrameSize = 60 := rfl
    have most : Ethernet.maxFrameSize + Ethernet.checkSize = 1518 := rfl
    have equal := congrArg List.length same
    rw [length_letter, length_letter] at equal
    omega
  unfold datagram?
  simp only [length, start, words (by decide : 6 ≤ 12), content, words behind,
    octets (by decide : 6 ≤ Ethernet.headerSize + 9), words (Nat.le_add_right_of_le behind)]

/-- A datagram can be read off the letter alone, whoever the frame is for. -/
theorem datagram?_toAll (frame : Bytes) : frame.letter.toAll.datagram? = frame.datagram? :=
  datagram?_of_letter frame.letter_toAll

/-- The octets behind a front of known length are those that were put there. -/
theorem octetsAt_append (front content : Bytes) :
    octetsAt (front ++ content) front.length content.length = content := by
  refine List.ext_getElem (by simp [octetsAt]) ?_
  intro i _ inside
  simp [octetsAt, octetAt, List.getElem?_append_right, inside]

end Bytes

namespace Endpoints

variable {ends : Endpoints} {identification : UInt16} {payload : Bytes}

/-- What stands before the payload of a datagram on its way. -/
theorem data_sealed_eq (ends : Endpoints) (identification : UInt16) (counted : Counted payload) :
    ∃ front : Bytes, (ends.datagram identification payload).sealed.data = front ++ payload ∧
      front.length = 34 + Udp.headerSize ∧ (front ++ payload).transportAt = 34 ∧
      (front ++ payload).wordAt 34 = ends.sourcePort ∧
      (front ++ payload).wordAt (34 + 2) = ends.destPort ∧
      (front ++ payload).wordAt (34 + 4) = (ends.udpHeader payload).length := by
  obtain ⟨ipChecksum, ip⟩ := (ends.ipHeader identification payload).sealIpv4_octets
  obtain ⟨udpChecksum, udp⟩ :=
    (ends.udpHeader payload).sealUdp_octets payload ends.source ends.dest
  have data := ends.data_sealed identification counted
  rw [ip, udp, ← List.append_assoc, ← List.append_assoc] at data
  refine ⟨_, data, rfl, ?_, word16_octets16 _, word16_octets16 _, word16_octets16 _⟩
  show Ethernet.headerSize + UInt8.toNat 0x45 % 16 * 4 = 34
  rfl

/-- **A datagram that was built reads as what it was built of**, if it reads at all: one that is too
long for a frame does not. -/
theorem datagram?_sealed {d : Datagram}
    (read : (ends.datagram identification payload).sealed.data.datagram? = some d) :
    d = ⟨ends.sourcePort, ends.destPort, payload⟩ := by
  have length : (ends.datagram identification payload).sealed.data.length =
      Ethernet.headerSize + (Ip.headerSize + (Udp.headerSize + payload.length)) := by
    rw [Packet.length_sealed, data_datagram, List.length_append, List.length_append,
      List.length_append]
    rfl
  unfold Bytes.datagram? at read
  split at read
  · rename_i fits
    have short := fits.1
    rw [length] at short
    have most : Ethernet.maxFrameSize + Ethernet.checkSize = 1518 := rfl
    have counted : Counted payload := Nat.lt_of_le_of_lt (by omega : _ ≤ 1518) (by decide)
    obtain ⟨front, data, size, start, source, dest, octets⟩ :=
      ends.data_sealed_eq identification counted
    rw [data, start] at read
    cases read
    rw [source, dest, octets, ends.toNat_length counted, Nat.add_sub_cancel_left, ← size,
      Bytes.octetsAt_append]
  · cases read

end Endpoints

/-! ## ARP messages -/

namespace ArpMessage

/-- What follows a message does not matter. -/
theorem parse_append {b : Bytes} {m : ArpMessage} (read : parse b = .ok m) (rest : Bytes) :
    parse (b ++ rest) = .ok m := by
  unfold parse at read
  split at read
  · exact read
  · cases read

/-- The sender of an ARP message reads back. -/
theorem sender_of_parse {m m' : ArpMessage} {rest : Bytes}
    (read : parse (m.octets ++ rest) = .ok m') :
    m'.senderMac = m.senderMac ∧ m'.sender = m.sender := by
  simp only [octets, octets16, Mac.octets, Ipv4.octets, List.cons_append, List.nil_append,
    parse] at read
  repeat' split at read
  all_goals cases read
  exact ⟨rfl, rfl⟩

end ArpMessage

namespace Bytes

variable {who : Station} {frame letter : Bytes}

/-- An ARP message in a frame with this letter, if there is one, tells of the station. -/
def Introduces (who : Station) (letter : Bytes) : Prop :=
  letter.wordAt 6 = Ethernet.typeArp → ∀ m, ArpMessage.parse (letter.drop 8) = .ok m →
    m.senderMac = who.mac ∧ m.sender = who.address

/-- A letter that tells of the station, if of any, and brings no datagram. -/
structure Signals (who : Station) (letter : Bytes) : Prop where
  introduces : letter.Introduces who
  empty : letter.toAll.datagram? = none

/-- The words of a letter are those of its frame, six octets further on. -/
theorem wordAt_letter (frame : Bytes) (i : Nat) : frame.letter.wordAt i = frame.wordAt (6 + i) := by
  rw [wordAt, wordAt, octetAt_letter, octetAt_letter]
  rfl

/-- Behind the header a letter has the content of its frame, and padding. -/
theorem drop_letter (frame : Bytes) : ∃ padding,
    frame.letter.drop 8 = frame.drop Ethernet.headerSize ++ padding := by
  rw [letter, List.drop_drop, List.drop_append]
  exact ⟨_, rfl⟩

/-- What is learned from a frame. -/
theorem Introduces.sender (introduces : frame.letter.Introduces who)
    (arp : frame.wordAt 12 = Ethernet.typeArp) {m : ArpMessage}
    (read : ArpMessage.parse (frame.drop Ethernet.headerSize) = .ok m) :
    m.senderMac = who.mac ∧ m.sender = who.address := by
  obtain ⟨padding, eq⟩ := frame.drop_letter
  refine introduces ((wordAt_letter frame 6).trans arp) m ?_
  rw [eq]
  exact ArpMessage.parse_append read padding

/-- An IPv4 frame tells of no station. -/
theorem introduces_of_ipv4 (ipv4 : frame.wordAt 12 = Ethernet.typeIpv4) :
    frame.letter.Introduces who := by
  intro arp
  rw [wordAt_letter] at arp
  exact absurd (ipv4.symm.trans arp) (by decide)

/-- An IPv4 frame without a UDP datagram is a signal of any station. -/
theorem signals_of_ipv4 (ipv4 : frame.wordAt 12 = Ethernet.typeIpv4)
    (other : frame.octetAt (Ethernet.headerSize + 9) ≠ Ip.udp) : frame.letter.Signals who := by
  refine ⟨introduces_of_ipv4 ipv4, ?_⟩
  rw [datagram?_toAll]
  exact if_neg fun fits => other fits.2.2

/-- An ARP message tells of its sender. -/
theorem signals_packet {m : ArpMessage} (mac : m.senderMac = who.mac)
    (sender : m.sender = who.address) (dest : Mac) : (m.packet dest).letter.Signals who := by
  have type : (m.packet dest).data.wordAt 12 = Ethernet.typeArp := word16_octets16 _
  refine ⟨?_, ?_⟩
  · intro _ m' read
    obtain ⟨padding, eq⟩ := (m.packet dest).data.drop_letter
    rw [Packet.letter, eq] at read
    obtain ⟨sameMac, same⟩ := ArpMessage.sender_of_parse read
    exact ⟨sameMac.trans mac, same.trans sender⟩
  · rw [Packet.letter, datagram?_toAll]
    exact if_neg fun fits => absurd (type.symm.trans fits.2.1) (by decide)

end Bytes

/-! ## What classification reads -/

namespace Bytes

variable {frame : Bytes}

/-- An octet that is kept by `take` is the same as before. -/
theorem octetAt_take {n i : Nat} (before : i < n) : octetAt (frame.take n) i = frame.octetAt i :=
  octetAt_of_take (by rw [List.take_take, Nat.min_self]) before

/-- A word that is kept by `take` is the same as before. -/
theorem wordAt_take {n i : Nat} (before : i + 1 < n) :
    wordAt (frame.take n) i = frame.wordAt i := by
  rw [wordAt, octetAt_take (Nat.lt_of_succ_lt before), octetAt_take before]
  rfl

/-- The words behind a front are found further on in the whole. -/
theorem wordAt_drop (frame : Bytes) (n i : Nat) :
    wordAt (frame.drop n) i = frame.wordAt (n + i) := by
  rw [wordAt, octetAt_drop, octetAt_drop]
  rfl

/-- Octets that are all there make up a segment of the list. -/
theorem octetsAt_eq {start n : Nat} (inside : start + n ≤ frame.length) :
    frame.octetsAt start n = (frame.drop start).take n := by
  refine List.ext_getElem (by simp [octetsAt]; omega) ?_
  intro i short _
  have within : start + i < frame.length := by
    simp only [octetsAt, List.length_map, List.length_range] at short
    omega
  simp [octetsAt, octetAt, within]

end Bytes

/-- A header that can be read shows its type in the frame, which is not too long. -/
theorem EthernetHeader.ethertype_of_parse {frame : Bytes} {h : EthernetHeader}
    (read : parse frame = .ok h) : frame.wordAt 12 = h.ethertype ∧
      frame.length ≤ Ethernet.maxFrameSize + Ethernet.checkSize := by
  obtain ⟨parts, fits⟩ := eq_octets_append_of_parse read
  refine ⟨?_, fits⟩
  rw [parts]
  exact word16_octets16 h.ethertype

/-- The protocol and the length of a header are read off its octets. -/
theorem IpHeader.octets_of_parse {b : Bytes} {h : IpHeader} (read : parse b = .ok h) :
    h.protocol = b.octetAt 9 ∧ h.headerLength = (b.octetAt 0).toNat % 16 * 4 := by
  obtain ⟨written, most, -⟩ := eq_written_of_parse read
  rw [written]
  exact ⟨rfl, (headerLength_first most).symm⟩

/-- The fields of a UDP header are its first three words. -/
theorem UdpHeader.words_of_parse {b : Bytes} {h : UdpHeader} (read : parse b = .ok h) :
    h.sourcePort = b.wordAt 0 ∧ h.destPort = b.wordAt 2 ∧ h.length = b.wordAt 4 := by
  unfold parse at read
  split at read
  · dsimp only at read
    split at read
    · cases read
    · cases read
      exact ⟨rfl, rfl, rfl⟩
  · cases read

namespace Arrival

variable {mac : Mac} {frame : Bytes} {arrival : Arrival}

/-- How an IPv4 frame is taken apart: by the lengths in its headers, what follows the datagram cut
off. -/
structure ReadsAs (frame : Bytes) (ip : IpHeader) (content : Transport) (arrival : Arrival) :
    Prop where
  header : IpHeader.parse (frame.drop Ethernet.headerSize) = .ok ip
  transport : readTransport ip (((frame.drop Ethernet.headerSize).take ip.totalLength.toNat).drop
    ip.headerLength) = .ok content
  info : arrival.info =
    { ethertype := Ethernet.typeIpv4, protocol := some ip.protocol, source := some ip.source
      dest := some ip.dest, sourcePort := content.sourcePort, destPort := content.destPort }
  data : arrival.packet.data = frame.take (Ethernet.headerSize + ip.totalLength.toNat)
  start : arrival.packet.offsets.payload =
    Ethernet.headerSize + ip.headerLength + content.payload
  length : arrival.packet.offsets.payloadLength = content.payloadLength

/-- An IPv4 frame that is classified as a packet has the headers that the packet tells of. -/
theorem readsAs_of_readIpv4 (read : readIpv4 frame = .ok arrival) :
    ∃ ip content, ReadsAs frame ip content arrival := by
  obtain ⟨ip, content, parsed, -, transport, rfl⟩ := exists_of_readIpv4 read
  exact ⟨ip, content, parsed, transport, rfl, List.take_add.symm, rfl, rfl⟩

/-- No frame that is classified is too long. -/
theorem length_of_ofFrame (classified : ofFrame mac frame = .ok arrival) :
    frame.length ≤ Ethernet.maxFrameSize + Ethernet.checkSize := by
  obtain ⟨ethernet, parsed, -⟩ := exists_of_ofFrame classified
  exact (EthernetHeader.ethertype_of_parse parsed).2

/-- A frame is read as an IPv4 one if its type says so, and else kept as it is. -/
theorem readsAs_or_of_ofFrame (classified : ofFrame mac frame = .ok arrival) :
    (frame.wordAt 12 = Ethernet.typeIpv4 ∧ ∃ ip content, ReadsAs frame ip content arrival) ∨
      (frame.wordAt 12 = arrival.info.ethertype ∧ arrival.info.protocol = none ∧
        arrival.packet.data = frame) := by
  obtain ⟨ethernet, parsed, ⟨ipv4, read⟩ | ⟨-, info, data⟩⟩ := exists_of_ofFrame classified
  · rw [(EthernetHeader.ethertype_of_parse parsed).1]
    exact .inl ⟨ipv4, readsAs_of_readIpv4 read⟩
  · rw [(EthernetHeader.ethertype_of_parse parsed).1, info]
    exact .inr ⟨rfl, rfl, data⟩

/-- The words of the transport header stand where the frame says that it starts. -/
theorem ReadsAs.wordAt {ip : IpHeader} {content : Transport}
    (reads : ReadsAs frame ip content arrival)
    {i : Nat} (inside : ip.headerLength + i + 1 < ip.totalLength.toNat) :
    Bytes.wordAt (((frame.drop Ethernet.headerSize).take ip.totalLength.toNat).drop
      ip.headerLength) i = frame.wordAt (frame.transportAt + i) := by
  have words := (IpHeader.octets_of_parse reads.header).2
  rw [Bytes.octetAt_drop, Nat.add_zero] at words
  rw [Bytes.wordAt_drop, Bytes.wordAt_take inside, Bytes.wordAt_drop, Bytes.transportAt, words,
    Nat.add_assoc]

/-- **What a station takes for a datagram** is the one in the frame. -/
theorem datagram?_of_ofFrame (classified : ofFrame mac frame = .ok arrival)
    (carries : arrival.info.protocol = some Ip.udp) :
    ∃ d, frame.datagram? = some d ∧ arrival.info.sourcePort = some d.sourcePort ∧
      arrival.info.destPort = some d.destPort ∧ arrival.packet.payload? = .ok d.payload := by
  obtain ⟨ipv4, ip, content, reads⟩ := (readsAs_or_of_ofFrame classified).resolve_right fun other =>
    Option.some_ne_none _ (carries.symm.trans other.2.1)
  have short := length_of_ofFrame classified
  obtain ⟨protocol, words⟩ := IpHeader.octets_of_parse reads.header
  obtain ⟨least, header, total⟩ := IpHeader.lengths_of_parse reads.header
  rw [Bytes.octetAt_drop] at protocol words
  rw [Nat.add_zero] at words
  rw [List.length_drop] at total
  have udp : ip.protocol = Ip.udp := by
    rw [reads.info] at carries
    exact Option.some.inj carries
  have transport := reads.transport
  rw [readTransport, if_pos udp] at transport
  split at transport
  · cases transport
  · rename_i h parsed
    obtain ⟨room, fits⟩ := UdpHeader.length_of_parse parsed
    obtain ⟨source, dest, length⟩ := UdpHeader.words_of_parse parsed
    rw [List.length_drop, List.length_take, List.length_drop] at fits
    have size : Udp.headerSize = 8 := rfl
    rw [reads.wordAt (by omega)] at source dest length
    split at transport
    · cases transport
      have start : frame.transportAt = Ethernet.headerSize + ip.headerLength := by
        rw [Bytes.transportAt, words]
      have inside : frame.transportAt + Udp.headerSize + (h.length.toNat - Udp.headerSize) ≤
          Ethernet.headerSize + ip.totalLength.toNat := by
        rw [start]
        omega
      refine ⟨_, if_pos ⟨short, ipv4, protocol.symm.trans udp⟩, ?_, ?_, ?_⟩
      · rw [reads.info]
        exact congrArg some source
      · rw [reads.info]
        exact congrArg some dest
      · rw [Packet.payload?, reads.data, reads.start, reads.length, ← start]
        dsimp only [UdpHeader.payloadLength]
        rw [← length, Bytes.octetsAt_eq (by omega), Bytes.slice?_eq_ok (Nat.le_add_right ..)
          (by rw [List.length_take]; omega), List.drop_take, List.take_take,
          Nat.add_sub_cancel_left, Nat.min_eq_left (by omega)]
    · cases transport

/-- An ARP message is kept as it came. -/
theorem data_of_arp (classified : ofFrame mac frame = .ok arrival)
    (arp : arrival.info.ethertype = Ethernet.typeArp) :
    frame.wordAt 12 = Ethernet.typeArp ∧ arrival.packet.data = frame := by
  obtain ⟨-, ip, content, reads⟩ | ⟨type, -, data⟩ := readsAs_or_of_ofFrame classified
  · rw [reads.info] at arp
    dsimp only at arp
    exact absurd arp (by decide)
  · exact ⟨type.trans arp, data⟩

/-- What a datagram carries stands in its header. -/
theorem octets_of_protocol (classified : ofFrame mac frame = .ok arrival) {protocol : UInt8}
    (carries : arrival.info.protocol = some protocol) :
    arrival.packet.FramedIpv4 ∧ arrival.packet.data.wordAt 12 = Ethernet.typeIpv4 ∧
      arrival.packet.data.octetAt (Ethernet.headerSize + 9) = protocol := by
  obtain ⟨ipv4, ip, content, reads⟩ := (readsAs_or_of_ofFrame classified).resolve_right fun other =>
    Option.some_ne_none _ (carries.symm.trans other.2.1)
  obtain ⟨least, header, -⟩ := IpHeader.lengths_of_parse reads.header
  have long : 20 ≤ ip.totalLength.toNat := Nat.le_trans least header
  have octet := (IpHeader.octets_of_parse reads.header).1
  rw [Bytes.octetAt_drop] at octet
  have size : Ethernet.headerSize = 14 := rfl
  refine ⟨(framed_of_ofFrame classified).2 (by rw [reads.info]), ?_, ?_⟩
  · rw [reads.data, Bytes.wordAt_take (by omega)]
    exact ipv4
  · rw [reads.data, Bytes.octetAt_take (by omega), ← octet]
    rw [reads.info] at carries
    exact Option.some.inj carries

end Arrival

/-! ## ICMP messages -/

namespace Packet

variable {who : Station} {p : Packet}

/-- Filling in the checksums leaves the type alone. -/
theorem wordAt_sealed (behind : p.offsets.network = Ethernet.headerSize) :
    p.sealed.data.wordAt 12 = p.data.wordAt 12 := by
  rw [Bytes.wordAt, octetAt_sealed behind (by decide), octetAt_sealed behind (by decide)]
  rfl

/-- An IPv4 packet that carries no UDP signals, also with its checksums. -/
theorem signals_sealed (behind : p.offsets.network = Ethernet.headerSize)
    (ipv4 : p.data.wordAt 12 = Ethernet.typeIpv4)
    (other : p.data.octetAt (Ethernet.headerSize + 9) ≠ Ip.udp) :
    p.sealed.letter.Signals who := by
  refine Bytes.signals_of_ipv4 ((wordAt_sealed behind).trans ipv4) ?_
  rw [octetAt_sealed behind (by decide)]
  exact other

/-- An ICMP message brings no datagram, and tells of nobody. -/
theorem signals_icmp (m : IcmpMessage) (sourceMac : Mac) (source : Ipv4) (destMac : Mac)
    (dest : Ipv4) (identification : UInt16) :
    (m.packet sourceMac source destMac dest identification).sealed.letter.Signals who :=
  signals_sealed rfl (word16_octets16 _) (by show Ip.icmp ≠ Ip.udp; decide)

/-! ### Echo -/

/-- The octets behind a part that is overwritten stay as they were. -/
theorem octetAt_overwrite {b : Bytes} {start : Nat} (inside : start ≤ b.length) (content : Bytes)
    {i : Nat} (behind : start + content.length ≤ i) :
    (b.overwrite start content).octetAt i = b.octetAt i := by
  have front : (b.take start ++ content).length = start + content.length := by
    rw [List.length_append, List.length_take_of_le inside]
  obtain ⟨j, rfl⟩ := Nat.exists_eq_add_of_le behind
  rw [Bytes.overwrite, ← Bytes.octetAt_drop, ← Bytes.octetAt_drop, List.drop_left' front]

/-- Turning a header around leaves alone what the datagram carries. -/
theorem octetAt_turnAround {header turned : Bytes} {requester : Ipv4}
    (turns : turnAround header = .ok (requester, turned)) (rest : Bytes) :
    Bytes.octetAt (turned ++ rest) 9 = header.octetAt 9 := by
  unfold turnAround at turns
  split at turns
  · cases turns
    rfl
  · cases turns

/-- **An echo reply carries what the request carries.** -/
theorem octets_of_echo {mac : Mac} {requester : Ipv4} {reply : Packet} (framed : p.FramedIpv4)
    (echoed : p.echo mac = .ok (.reply requester reply)) :
    reply.offsets.network = Ethernet.headerSize ∧
      reply.data.wordAt 12 = p.data.wordAt 12 ∧
      reply.data.octetAt (Ethernet.headerSize + 9) = p.data.octetAt (Ethernet.headerSize + 9) := by
  have network := framed.network
  have long := framed.header
  obtain ⟨requesterMac, header, turned, message, sliced, turns, rfl⟩ := exists_of_echo echoed
  rw [network, Bytes.slice?_eq_ok (Nat.le_trans (Nat.le_add_right ..) framed.ipv4)
    framed.transport] at sliced
  cases sliced
  have front : (p.data.take Ethernet.headerSize).length = Ethernet.headerSize :=
    List.length_take_of_le long
  have size : Ethernet.headerSize = 14 := rfl
  -- addressing the reply changes what stands before its type
  have kept {i : Nat} (behind : 12 ≤ i) (rest : Bytes) :
      Bytes.octetAt (Bytes.overwrite (Bytes.overwrite (p.data.take Ethernet.headerSize ++ rest)
        6 mac.octets) 0 requesterMac.octets) i =
          Bytes.octetAt (p.data.take Ethernet.headerSize ++ rest) i := by
    rw [octetAt_overwrite (Nat.zero_le _) _ (by rw [Mac.length_octets]; omega),
      octetAt_overwrite (by rw [List.length_append, front]; omega) _
        (by rw [Mac.length_octets]; omega)]
  have same (rest : Bytes) {i : Nat} (before : i < Ethernet.headerSize) :
      Bytes.octetAt (p.data.take Ethernet.headerSize ++ rest) i = p.data.octetAt i :=
    Bytes.octetAt_of_take (List.take_left' front) before
  refine ⟨network, ?_, ?_⟩
  · show Bytes.wordAt (Bytes.overwrite (Bytes.overwrite _ 6 mac.octets) 0 _) 12 = _
    rw [Bytes.wordAt, network, List.append_assoc, kept (by decide), kept (by decide),
      same _ (by decide), same _ (by decide)]
    rfl
  · show Bytes.octetAt (Bytes.overwrite (Bytes.overwrite _ 6 mac.octets) 0 _) _ = _
    rw [network, List.append_assoc, kept (by decide), ← Bytes.octetAt_drop, List.drop_left' front,
      octetAt_turnAround turns, Bytes.octetAt_take
        (Nat.lt_of_lt_of_le (by decide) (Nat.sub_le_sub_right framed.ipv4 _)),
      Bytes.octetAt_drop]

end Packet

end PolledNet
