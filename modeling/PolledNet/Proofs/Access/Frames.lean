import PolledNet.Core.Receive
import PolledNet.Proofs.Access.Octets

/-!
# Checked reading of frames

The headers of a received frame, read position by position. However short or long a frame is and
whatever its length fields say, nothing outside it is looked at (`checkedOfFrame_eq`).
-/

namespace PolledNet

/-! ## Ethernet -/

namespace EthernetHeader

/-- Reads the header of a received frame. -/
def checkedParse (frame : Bytes) : Except Fault (Except EthernetError EthernetHeader) :=
  if frame.length < Ethernet.headerSize then .ok (.error .frameTooShort)
  else if frame.length > Ethernet.maxFrameSize + Ethernet.checkSize then
    .ok (.error .payloadTooLarge)
  else do
    let dest ← frame.station? 0
    let source ← frame.station? 6
    let ethertype ← frame.word16? 12
    return .ok ⟨dest, source, ethertype⟩

/-- An Ethernet header is read without a fault. -/
theorem checkedParse_eq (frame : Bytes) : checkedParse frame = .ok (parse frame) := by
  unfold checkedParse parse
  by_cases short : frame.length < Ethernet.headerSize
  · have unread : read? frame = .error .outOfRange := by
      unfold read?
      split
      · simp only [List.length_cons, Ethernet.headerSize] at short
        omega
      · rfl
    rw [if_pos short, unread]
  · rw [if_neg short]
    iterate 14
      rcases frame with _ | ⟨_, frame⟩
      · simp [Ethernet.headerSize] at short
    simp only [read?]
    refine ite_ok (fun _ => rfl) fun _ => ?_
    simp [Bytes.station?, Bytes.word16?, Bytes.slice?, Bytes.octet?, Mac.ofBytes?]

/-- A frame whose header was read holds one. -/
theorem length_of_parse {frame : Bytes} {h : EthernetHeader} (read : parse frame = .ok h) :
    Ethernet.headerSize ≤ frame.length := by
  unfold parse at read
  split at read
  · cases read
  · rename_i found
    unfold read? at found
    split at found
    · simp [Ethernet.headerSize]
    · cases found

end EthernetHeader

/-! ## IPv4 -/

namespace IpHeader

/-- Reads the header that the octets start with. -/
def checkedParse (b : Bytes) : Except Fault (Except IpHeaderError IpHeader) :=
  if b.length < Ip.headerSize then .ok (.error .packetTooShort)
  else do
    let first ← b.octet? 0
    let version := first >>> 4
    let words := first &&& 0x0F
    if version ≠ 4 then .ok (.error (.invalidVersion version))
    else if words < 5 then .ok (.error (.invalidIhl words))
    else if b.length < words.toNat * 4 then .ok (.error .packetTooShort)
    else do
      let totalLength ← b.word16? 2
      if totalLength.toNat < words.toNat * 4 ∨ totalLength.toNat > b.length then
        .ok (.error .invalidLength)
      else do
        let header ← b.slice? 0 (words.toNat * 4)
        if !Checksum.verifyIpv4 header then .ok (.error .checksumMismatch)
        else do
          let tos ← b.octet? 1
          let identification ← b.word16? 4
          let flagsFragment ← b.word16? 6
          let ttl ← b.octet? 8
          let protocol ← b.octet? 9
          let checksum ← b.word16? 10
          let source ← b.address? 12
          let dest ← b.address? 16
          return .ok { headerWords := words, tos, totalLength, identification, flagsFragment, ttl
                       protocol, checksum, source, dest }

/-- An IPv4 header is read without a fault. -/
theorem checkedParse_eq (b : Bytes) : checkedParse b = .ok (parse b) := by
  unfold checkedParse
  by_cases short : b.length < Ip.headerSize
  · have unread : parse b = .error .packetTooShort := by
      unfold parse
      split
      · simp only [List.length_cons, Ip.headerSize] at short
        omega
      · rfl
    rw [if_pos short, unread]
  · rw [if_neg short]
    iterate 20
      rcases b with _ | ⟨_, b⟩
      · simp [Ip.headerSize] at short
    simp only [parse, headerLength, Bytes.word16?, Bytes.address?, Bytes.octet?_cons_zero,
      Bytes.octet?_cons_succ, Nat.reduceAdd, ok_bind, pure_eq_ok]
    refine ite_ok (fun _ => rfl) fun _ => ?_
    refine ite_ok (fun _ => rfl) fun _ => ?_
    refine ite_ok (fun _ => rfl) fun within => ?_
    refine ite_ok (fun _ => rfl) fun _ => ?_
    rw [Bytes.slice?_eq_ok (Nat.zero_le _) (Nat.le_of_not_lt within), ok_bind]
    exact ite_ok (fun _ => rfl) fun _ => rfl

/-- What the length fields of a header that was read imply. -/
theorem lengths_of_parse {b : Bytes} {h : IpHeader} (read : parse b = .ok h) :
    Ip.headerSize ≤ h.headerLength ∧ h.headerLength ≤ h.totalLength.toNat ∧
      h.totalLength.toNat ≤ b.length := by
  unfold parse at read
  split at read
  · dsimp only at read
    split at read
    · cases read
    · split at read
      · cases read
      · rename_i words
        split at read
        · cases read
        · split at read
          · cases read
          · rename_i bounded
            split at read
            · cases read
            · cases read
              have five : 5 ≤ UInt8.toNat _ := UInt8.le_iff_toNat_le.mp (UInt8.not_lt.mp words)
              refine ⟨Nat.mul_le_mul_right 4 five, ?_⟩
              dsimp only [headerLength] at bounded ⊢
              omega
  · cases read

end IpHeader

/-! ## UDP -/

namespace UdpHeader

/-- Reads the header that the octets start with. -/
def checkedParse (b : Bytes) : Except Fault (Except UdpError UdpHeader) :=
  if b.length < Udp.headerSize then .ok (.error .packetTooShort)
  else do
    let length ← b.word16? 4
    if length.toNat < Udp.headerSize ∨ length.toNat > b.length then .ok (.error .invalidLength)
    else do
      let sourcePort ← b.word16? 0
      let destPort ← b.word16? 2
      let checksum ← b.word16? 6
      return .ok ⟨sourcePort, destPort, length, checksum⟩

/-- A UDP header is read without a fault. -/
theorem checkedParse_eq (b : Bytes) : checkedParse b = .ok (parse b) := by
  unfold checkedParse
  by_cases short : b.length < Udp.headerSize
  · have unread : parse b = .error .packetTooShort := by
      unfold parse
      split
      · simp only [List.length_cons, Udp.headerSize] at short
        omega
      · rfl
    rw [if_pos short, unread]
  · rw [if_neg short]
    iterate 8
      rcases b with _ | ⟨_, b⟩
      · simp [Udp.headerSize] at short
    simp only [parse, Bytes.word16?, Bytes.octet?_cons_zero, Bytes.octet?_cons_succ, Nat.reduceAdd,
      ok_bind, pure_eq_ok]
    exact ite_ok (fun _ => rfl) fun _ => rfl

/-- What the length field of a header that was read implies. -/
theorem length_of_parse {b : Bytes} {h : UdpHeader} (read : parse b = .ok h) :
    Udp.headerSize ≤ h.length.toNat ∧ h.length.toNat ≤ b.length := by
  unfold parse at read
  split at read
  · dsimp only at read
    split at read
    · cases read
    · rename_i bounded
      cases read
      dsimp only
      omega
  · cases read

end UdpHeader

namespace Checksum

/-- Whether a UDP datagram has no checksum or a right one. -/
def checkedVerifyUdp (source dest : Ipv4) (datagram : Bytes) : Except Fault Bool :=
  if datagram.length < udpOffset + 2 then .ok false
  else do
    let field ← datagram.word16? udpOffset
    return field = 0 || fold (udpSum source dest datagram) = 0xFFFF

/-- The checksum of a datagram is verified without a fault. -/
theorem checkedVerifyUdp_eq (source dest : Ipv4) (datagram : Bytes) :
    checkedVerifyUdp source dest datagram = .ok (verifyUdp source dest datagram) := by
  unfold checkedVerifyUdp verifyUdp
  by_cases short : datagram.length < udpOffset + 2
  · have none : datagram[udpOffset + 1]? = none := List.getElem?_eq_none (by omega)
    rw [if_pos short, none]
    cases datagram[udpOffset]? <;> rfl
  · have high : udpOffset < datagram.length := by omega
    have low : udpOffset + 1 < datagram.length := by omega
    rw [if_neg short, Bytes.word16?, Bytes.octet?_eq high, Bytes.octet?_eq low,
      List.getElem?_eq_getElem high, List.getElem?_eq_getElem low]
    rfl

end Checksum

/-! ## Frames -/

namespace Arrival

/-- Reads the transport layer. -/
def checkedTransport (ip : IpHeader) (content : Bytes) :
    Except Fault (Except DropCause Transport) :=
  if ip.protocol = Ip.udp then do
    match ← UdpHeader.checkedParse content with
    | .error e => return .error (.badUdp e)
    | .ok udp =>
      let datagram ← content.slice? 0 udp.length.toNat
      if ← Checksum.checkedVerifyUdp ip.source ip.dest datagram then
        let payloadLength ← minus? udp.length.toNat Udp.headerSize
        return .ok { sourcePort := some udp.sourcePort, destPort := some udp.destPort
                     payload := Udp.headerSize, payloadLength }
      else return .error .badTransportChecksum
  else if ip.protocol = Ip.icmp then
    if content.length < Icmp.headerSize then .ok (.error .shortIcmp)
    else if Checksum.verifyIcmp content then do
      let payloadLength ← minus? content.length Icmp.headerSize
      return .ok { payload := Icmp.headerSize, payloadLength }
    else .ok (.error .badTransportChecksum)
  else .ok (.ok { payloadLength := content.length })

/-- The transport header is read without a fault. -/
theorem checkedTransport_eq (ip : IpHeader) (content : Bytes) :
    checkedTransport ip content = .ok (readTransport ip content) := by
  unfold checkedTransport readTransport
  refine ite_ok (fun _ => ?_) fun _ => ite_ok (fun _ => ?_) fun _ => rfl
  · rw [UdpHeader.checkedParse_eq, ok_bind]
    cases read : UdpHeader.parse content with
    | error e => rfl
    | ok udp =>
      obtain ⟨least, fits⟩ := UdpHeader.length_of_parse read
      dsimp only
      rw [Bytes.slice?_eq_ok (Nat.zero_le _) fits, ok_bind, Checksum.checkedVerifyUdp_eq, ok_bind,
        minus?_eq least, List.drop_zero, Nat.sub_zero]
      exact ite_ok (fun _ => rfl) fun _ => rfl
  · refine ite_ok (fun _ => rfl) fun long => ite_ok (fun _ => ?_) fun _ => rfl
    rw [minus?_eq (Nat.le_of_not_lt long)]
    rfl

/-- Reads an IPv4 datagram. -/
def checkedIpv4 (frame : Bytes) : Except Fault (Except DropCause Arrival) := do
  let datagram ← frame.suffix? Ethernet.headerSize
  match ← IpHeader.checkedParse datagram with
  | .error .checksumMismatch => return .error .badIpChecksum
  | .error e => return .error (.badIp e)
  | .ok ip =>
    if ip.isFragment then return .error .fragment
    else
      let data : Bytes := frame.take (Ethernet.headerSize + ip.totalLength.toNat)
      let transport := Ethernet.headerSize + ip.headerLength
      let content ← data.suffix? transport
      match ← checkedTransport ip content with
      | .error cause => return .error cause
      | .ok content =>
        return .ok {
          packet := {
            data
            offsets := { transport, payload := transport + content.payload
                         payloadLength := content.payloadLength } }
          info := {
            ethertype := Ethernet.typeIpv4, protocol := some ip.protocol
            source := some ip.source, dest := some ip.dest
            sourcePort := content.sourcePort, destPort := content.destPort } }

/-- A frame that has an Ethernet header is read as an IPv4 one without a fault. -/
theorem checkedIpv4_eq {frame : Bytes} (long : Ethernet.headerSize ≤ frame.length) :
    checkedIpv4 frame = .ok (readIpv4 frame) := by
  unfold checkedIpv4 readIpv4
  rw [Bytes.suffix?_eq long, ok_bind, IpHeader.checkedParse_eq, ok_bind]
  dsimp only
  cases read : IpHeader.parse (frame.drop Ethernet.headerSize) with
  | error e => cases e <;> rfl
  | ok ip =>
    obtain ⟨-, header, total⟩ := IpHeader.lengths_of_parse read
    rw [List.length_drop] at total
    have data : frame.take (Ethernet.headerSize + ip.totalLength.toNat) =
        frame.take Ethernet.headerSize ++
          (frame.drop Ethernet.headerSize).take ip.totalLength.toNat := List.take_add
    have start : (frame.take Ethernet.headerSize).length = Ethernet.headerSize :=
      List.length_take_of_le long
    have content : (frame.take (Ethernet.headerSize + ip.totalLength.toNat)).drop
        (Ethernet.headerSize + ip.headerLength) =
          ((frame.drop Ethernet.headerSize).take ip.totalLength.toNat).drop ip.headerLength := by
      rw [data, ← List.drop_drop, List.drop_left' start]
    have inside : Ethernet.headerSize + ip.headerLength ≤
        (frame.take (Ethernet.headerSize + ip.totalLength.toNat)).length := by
      rw [List.length_take]
      omega
    refine ite_ok (fun _ => rfl) fun _ => ?_
    rw [Bytes.suffix?_eq inside, ok_bind, content, checkedTransport_eq, ok_bind, ← data]
    rcases readTransport ip _ with cause | transport <;> rfl

/-- Classifies a received frame. -/
def checkedOfFrame (mac : Mac) (frame : Bytes) : Except Fault (Except DropCause Arrival) := do
  match ← EthernetHeader.checkedParse frame with
  | .error e => return .error (.badEthernet e)
  | .ok ethernet =>
    if ethernet.dest ≠ mac && !ethernet.dest.isMulticast then return .error .otherStation
    else if ethernet.ethertype = Ethernet.typeIpv4 then checkedIpv4 frame
    else if ethernet.ethertype = Ethernet.typeArp then
      let payloadLength ← minus? frame.length Ethernet.headerSize
      let offsets : HeaderOffsets := { payload := Ethernet.headerSize, payloadLength }
      return .ok
        { packet := { data := frame, offsets }, info := { ethertype := ethernet.ethertype } }
    else return .ok { packet := { data := frame }, info := { ethertype := ethernet.ethertype } }

/-- **No frame is read outside its octets.** -/
theorem checkedOfFrame_eq (mac : Mac) (frame : Bytes) :
    checkedOfFrame mac frame = .ok (ofFrame mac frame) := by
  unfold checkedOfFrame ofFrame
  rw [EthernetHeader.checkedParse_eq, ok_bind]
  cases read : EthernetHeader.parse frame with
  | error e => rfl
  | ok ethernet =>
    have long := EthernetHeader.length_of_parse read
    dsimp only
    refine ite_ok (fun _ => rfl) fun _ => ite_ok (fun _ => checkedIpv4_eq long) fun _ => ?_
    by_cases arp : ethernet.ethertype = Ethernet.typeArp
    · rw [if_pos arp, if_pos arp, minus?_eq long]
      rfl
    · rw [if_neg arp, if_neg arp]
      rfl

end Arrival

/-! ## Where the layers are -/

/-- The layers of a received packet lie in its frame. -/
structure Packet.Framed (p : Packet) : Prop where
  header : Ethernet.headerSize ≤ p.data.length
  network : p.offsets.network = Ethernet.headerSize
  transport : p.offsets.transport ≤ p.data.length
  payload : p.offsets.payload + p.offsets.payloadLength ≤ p.data.length

/-- The layers of an IPv4 packet lie in its frame, which has an IPv4 header. -/
structure Packet.FramedIpv4 (p : Packet) : Prop extends p.Framed where
  ipv4 : Ethernet.headerSize + Ip.headerSize ≤ p.offsets.transport

namespace Arrival

/-- The payload of a datagram lies in the content of its packet. -/
theorem readTransport_fits {ip : IpHeader} {content : Bytes} {t : Transport}
    (read : readTransport ip content = .ok t) : t.payload + t.payloadLength ≤ content.length := by
  unfold readTransport at read
  split at read
  · split at read
    · cases read
    · rename_i udp parsed
      obtain ⟨least, fits⟩ := UdpHeader.length_of_parse parsed
      split at read
      · cases read
        dsimp only [UdpHeader.payloadLength]
        omega
      · cases read
  · split at read
    · split at read
      · cases read
      · rename_i long
        split at read
        · cases read
          dsimp only
          omega
        · cases read
    · cases read
      simp

/-- An IPv4 frame with the layers `ip` and `content`, and what filters see of it. -/
def ofLayers (data : Bytes) (ip : IpHeader) (content : Transport) : Arrival where
  packet :=
    { data
      offsets :=
        { transport := Ethernet.headerSize + ip.headerLength
          payload := Ethernet.headerSize + ip.headerLength + content.payload
          payloadLength := content.payloadLength } }
  info :=
    { ethertype := Ethernet.typeIpv4, protocol := some ip.protocol, source := some ip.source
      dest := some ip.dest, sourcePort := content.sourcePort, destPort := content.destPort }

/-- An IPv4 frame that is kept has a whole datagram whose layers can be read. What follows the
datagram is cut off. -/
theorem exists_of_readIpv4 {frame : Bytes} {arrival : Arrival}
    (read : readIpv4 frame = .ok arrival) :
    ∃ ip content, IpHeader.parse (frame.drop Ethernet.headerSize) = .ok ip ∧
      ip.isFragment = false ∧
      readTransport ip (((frame.drop Ethernet.headerSize).take ip.totalLength.toNat).drop
        ip.headerLength) = .ok content ∧
      arrival = ofLayers (frame.take Ethernet.headerSize ++
        (frame.drop Ethernet.headerSize).take ip.totalLength.toNat) ip content := by
  unfold readIpv4 at read
  dsimp only at read
  split at read
  · cases read
  · cases read
  · rename_i ip parsed
    split at read
    · cases read
    · rename_i whole
      split at read
      · cases read
      · rename_i content transport
        cases read
        exact ⟨ip, content, parsed, (Bool.not_eq_true _).mp whole, transport, rfl⟩

/-- An IPv4 frame that can be read has its layers in the frame. -/
theorem framed_of_readIpv4 {frame : Bytes} {arrival : Arrival}
    (long : Ethernet.headerSize ≤ frame.length) (read : readIpv4 frame = .ok arrival) :
    arrival.packet.FramedIpv4 := by
  obtain ⟨ip, content, parsed, -, transport, rfl⟩ := exists_of_readIpv4 read
  obtain ⟨least, header, total⟩ := IpHeader.lengths_of_parse parsed
  have fits := readTransport_fits transport
  rw [List.length_drop, List.length_take, List.length_drop] at fits
  rw [List.length_drop] at total
  have length : (frame.take Ethernet.headerSize ++
      (frame.drop Ethernet.headerSize).take ip.totalLength.toNat).length =
      Ethernet.headerSize + ip.totalLength.toNat := by
    rw [List.length_append, List.length_take, List.length_take, List.length_drop]
    omega
  refine ⟨⟨?_, rfl, ?_, ?_⟩, ?_⟩ <;> dsimp only [ofLayers]
  · rw [length]
    omega
  · rw [length]
    exact Nat.add_le_add_left header _
  · rw [length]
    omega
  · exact Nat.add_le_add_left least _

/-- A frame is read as an IPv4 one if its type says so, and else kept as it is. -/
theorem exists_of_ofFrame {mac : Mac} {frame : Bytes} {arrival : Arrival}
    (classified : ofFrame mac frame = .ok arrival) :
    ∃ ethernet, EthernetHeader.parse frame = .ok ethernet ∧
      (ethernet.ethertype = Ethernet.typeIpv4 ∧ readIpv4 frame = .ok arrival ∨
        ethernet.ethertype ≠ Ethernet.typeIpv4 ∧
          arrival.info = { ethertype := ethernet.ethertype } ∧ arrival.packet.data = frame) := by
  unfold ofFrame at classified
  split at classified
  · cases classified
  · rename_i ethernet parsed
    refine ⟨ethernet, parsed, ?_⟩
    split at classified
    · cases classified
    · split at classified
      · rename_i ipv4
        exact .inl ⟨ipv4, classified⟩
      · rename_i other
        cases classified
        exact .inr ⟨other, rfl, rfl⟩

/-- **The layers that classification finds lie in the frame**, and an IPv4 frame has its header. -/
theorem framed_of_ofFrame {mac : Mac} {frame : Bytes} {arrival : Arrival}
    (classified : ofFrame mac frame = .ok arrival) :
    arrival.packet.Framed ∧
      (arrival.info.ethertype = Ethernet.typeIpv4 → arrival.packet.FramedIpv4) := by
  unfold ofFrame at classified
  split at classified
  · cases classified
  · rename_i ethernet parsed
    have long := EthernetHeader.length_of_parse parsed
    split at classified
    · cases classified
    · split at classified
      · have framed := framed_of_readIpv4 long classified
        exact ⟨framed.toFramed, fun _ => framed⟩
      · rename_i other
        cases classified
        refine ⟨?_, fun ipv4 => absurd ipv4 other⟩
        split
        · exact ⟨long, rfl, Nat.zero_le _, Nat.le_of_eq (Nat.add_sub_cancel' long)⟩
        · exact ⟨long, rfl, Nat.zero_le _, Nat.zero_le _⟩

end Arrival

end PolledNet
