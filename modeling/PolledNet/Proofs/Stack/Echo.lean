import PolledNet.Proofs.Access.Services
import PolledNet.Proofs.Inet.Header
import PolledNet.Proofs.Stack.Reading

/-!
# Echoes

A received frame with an ICMP message is taken apart into what it is made of (`MessageFrame`), up to
padding that is cut off. An echo request is answered by the same frame with its ends exchanged, a
new time to live, type and code zero, and new checksums (`MessageFrame.reply`). This is what is
handed over to be sent, once, and whoever receives it classifies it as a message again
(`receiveEcho_answers`). Other messages are not answered.
-/

namespace PolledNet

/-! ## Frames that carry a message -/

/-- What a frame with an ICMP message is made of. -/
structure MessageFrame where
  /-- The Ethernet header. -/
  ethernet : EthernetHeader
  /-- The IPv4 header without its options. -/
  ip : IpHeader
  /-- The options of the IPv4 header. -/
  options : Bytes
  /-- The type of the message. -/
  type : UInt8
  /-- The code of the message. -/
  code : UInt8
  /-- The checksum of the message. -/
  checksum : UInt16
  /-- What follows in the message: of an echo the identifier, the sequence number and the data. -/
  rest : Bytes

namespace MessageFrame

variable {f : MessageFrame} {mac : Mac} {frame trailing : Bytes}

/-- The octets of the message. -/
def message (f : MessageFrame) : Bytes := [f.type, f.code] ++ octets16 f.checksum ++ f.rest

/-- The octets of the frame. -/
def octets (f : MessageFrame) : Bytes := f.ethernet.octets ++ f.ip.written (f.options ++ f.message)

/-- The frame says what it is, and as long as it is. -/
structure Laid (f : MessageFrame) : Prop where
  ipv4 : f.ethernet.ethertype = Ethernet.typeIpv4
  icmp : f.ip.protocol = Ip.icmp
  whole : f.ip.isFragment = false
  words : f.ip.headerLength = Ip.headerSize + f.options.length
  most : f.ip.headerWords.toNat ≤ 15
  total : f.ip.totalLength.toNat = f.ip.headerLength + f.message.length
  long : Icmp.headerSize ≤ f.message.length

/-- A frame that says what it is has the right checksums, too. -/
structure Sound (f : MessageFrame) : Prop extends f.Laid where
  headerSums : Checksum.verifyIpv4 (f.ip.written f.options) = true
  messageSums : Checksum.verifyIcmp f.message = true

/-- A frame is as long as its parts. -/
theorem length_octets (f : MessageFrame) :
    f.octets.length =
      Ethernet.headerSize + (Ip.headerSize + f.options.length) + f.message.length := by
  rw [octets, List.length_append, f.ethernet.length_octets, IpHeader.length_written,
    List.length_append, Nat.add_assoc, Nat.add_assoc]

/-- The packet of the frame, and what filters see of it. -/
def arrival (f : MessageFrame) : Arrival :=
  .ofLayers f.octets f.ip
    { payload := Icmp.headerSize, payloadLength := f.message.length - Icmp.headerSize }

/-- A header with its options is as long as it says. -/
theorem Laid.length_header (laid : f.Laid) :
    (f.ip.written f.options).length = f.ip.headerLength := by
  rw [IpHeader.length_written, laid.words]

/-- The datagram in the frame is the header and the message. -/
theorem written_eq (f : MessageFrame) (behind : Bytes) :
    f.ip.written (f.options ++ f.message) ++ behind =
      f.ip.written f.options ++ (f.message ++ behind) := by
  rw [IpHeader.written_append, IpHeader.written_append, List.append_assoc]

/-- A frame is an Ethernet header, an IPv4 header and a message. -/
theorem octets_eq (f : MessageFrame) :
    f.octets = f.ethernet.octets ++ f.ip.written f.options ++ f.message := by
  rw [octets, List.append_assoc, IpHeader.written_append]

/-- **A sound frame is classified as what it is**, whatever follows in it. -/
theorem ofFrame_octets (sound : f.Sound)
    (ours : f.ethernet.dest = mac ∨ f.ethernet.dest.isMulticast = true)
    (fits : (f.octets ++ trailing).length ≤ Ethernet.maxFrameSize + Ethernet.checkSize) :
    Arrival.ofFrame mac (f.octets ++ trailing) = .ok f.arrival := by
  have header := sound.length_header
  have total := sound.total
  have framed : f.octets ++ trailing =
      f.ethernet.octets ++ (f.ip.written f.options ++ (f.message ++ trailing)) := by
    rw [octets, List.append_assoc, written_eq]
  have read : IpHeader.parse (f.ip.written f.options ++ (f.message ++ trailing)) = .ok f.ip := by
    rw [IpHeader.written_append]
    refine IpHeader.parse_written ⟨?_, sound.most, ?_, ?_, ?_⟩
    · rw [sound.words]
      exact Nat.le_add_right _ _
    · omega
    · rw [← IpHeader.written_append, List.length_append, List.length_append]
      omega
    · rw [← IpHeader.written_append, List.take_left' header]
      exact sound.headerSums
  have transport : Arrival.readTransport f.ip f.message =
      .ok { payload := Icmp.headerSize, payloadLength := f.message.length - Icmp.headerSize } := by
    have other : ¬ Ip.icmp = Ip.udp := by decide
    rw [Arrival.readTransport, sound.icmp, if_neg other, if_pos rfl,
      if_neg (Nat.not_lt.mpr sound.long), sound.messageSums, if_pos rfl]
  rw [framed] at fits ⊢
  exact Arrival.ofFrame_of_parts sound.ipv4 ours read sound.whole header (by rw [header, total])
    transport fits

/-- A message that was read is long enough, and it sums up. -/
theorem sums_of_readTransport {ip : IpHeader} {content : Bytes} {t : Arrival.Transport}
    (read : Arrival.readTransport ip content = .ok t) (icmp : ip.protocol = Ip.icmp) :
    Icmp.headerSize ≤ content.length ∧ Checksum.verifyIcmp content = true ∧
      t = { payload := Icmp.headerSize, payloadLength := content.length - Icmp.headerSize } := by
  have other : ¬ ip.protocol = Ip.udp := by
    rw [icmp]
    decide
  rw [Arrival.readTransport, if_neg other, if_pos icmp] at read
  split at read
  · cases read
  · rename_i long
    split at read
    · rename_i sums
      cases read
      exact ⟨Nat.le_of_not_lt long, sums, rfl⟩
    · cases read

/-- What is long enough is a message. -/
theorem exists_message_eq {content : Bytes} (long : Icmp.headerSize ≤ content.length) :
    ∃ type code checksum rest, content = [type, code] ++ octets16 checksum ++ rest := by
  rw [Icmp.headerSize] at long
  obtain ⟨type, code, hi, lo, rest, rfl⟩ : ∃ type code hi lo rest,
      content = type :: code :: hi :: lo :: rest := by
    iterate 4
      rcases content with _ | ⟨_, content⟩
      · simp at long
    exact ⟨_, _, _, _, _, rfl⟩
  exact ⟨type, code, word16 hi lo, rest, by rw [octets16_word16]; rfl⟩

/-- **A frame that is classified as a message is a sound one**, and padding that was cut off. -/
theorem exists_of_ofFrame {arrival : Arrival} (classified : Arrival.ofFrame mac frame = .ok arrival)
    (carries : arrival.info.protocol = some Ip.icmp) :
    ∃ (f : MessageFrame) (padding : Bytes),
      frame = f.octets ++ padding ∧ f.Sound ∧ arrival = f.arrival := by
  obtain ⟨ethernet, framed, ⟨ipv4, read⟩ | ⟨-, info, -⟩⟩ := Arrival.exists_of_ofFrame classified
  · obtain ⟨ip, content, header, whole, transport, rfl⟩ := Arrival.exists_of_readIpv4 read
    have icmp : ip.protocol = Ip.icmp := Option.some.inj carries
    obtain ⟨long, sums, rfl⟩ := sums_of_readTransport transport icmp
    obtain ⟨datagram, rfl⟩ : ∃ datagram, frame = ethernet.octets ++ datagram :=
      ⟨_, (EthernetHeader.eq_octets_append_of_parse framed).1⟩
    rw [List.drop_left' ethernet.length_octets] at header long sums
    obtain ⟨least, inside, total⟩ := IpHeader.lengths_of_parse header
    obtain ⟨-, most, headerSums⟩ := IpHeader.eq_written_of_parse header
    obtain ⟨options, words, front⟩ := IpHeader.exists_options_of_parse header
    obtain ⟨type, code, checksum, rest, content⟩ := exists_message_eq long
    -- the datagram is the header with its options, the message, and what follows
    let f : MessageFrame := ⟨ethernet, ip, options, type, code, checksum, rest⟩
    have message : (datagram.take ip.totalLength.toNat).drop ip.headerLength = f.message := content
    have parts := OutboundHeader.take_append_drop_take_append_drop (b := datagram) inside
    have length := congrArg List.length message
    rw [List.length_drop, List.length_take_of_le total] at length
    rw [front] at headerSums parts
    rw [message] at long sums parts
    refine ⟨f, datagram.drop ip.totalLength.toNat, ?_,
      ⟨⟨ipv4, icmp, whole, words, most, ?_, long⟩, headerSums, sums⟩, ?_⟩
    · rw [octets_eq, List.append_assoc, List.append_assoc, parts]
    · show ip.totalLength.toNat = ip.headerLength + f.message.length
      omega
    · have cut : datagram.take ip.totalLength.toNat = ip.written options ++ f.message := by
        rw [← List.take_append_drop ip.headerLength (datagram.take ip.totalLength.toNat),
          List.take_take, Nat.min_eq_left inside, front, message]
      have data : f.octets = ethernet.octets ++ (ip.written options ++ f.message) :=
        f.octets_eq.trans (List.append_assoc ..)
      rw [List.take_left' ethernet.length_octets, List.drop_left' ethernet.length_octets, message,
        cut, ← data]
      rfl
  · rw [info] at carries
    cases carries

/-! ## Answering -/

/-- The frame that answers a request, but for its checksums: the ends exchanged, the time to live
set anew, type and code zero. -/
def reply (f : MessageFrame) (mac : Mac) : MessageFrame :=
  { f with
    ethernet := ⟨f.ethernet.source, mac, f.ethernet.ethertype⟩
    ip := { f.ip with ttl := Ip.defaultTtl, source := f.ip.dest, dest := f.ip.source }
    type := IcmpType.echoReply.octet
    code := 0 }

/-- The frame with other checksums. -/
def withChecksums (f : MessageFrame) (header message : UInt16) : MessageFrame :=
  { f with ip := { f.ip with checksum := header }, checksum := message }

/-- The packet of a frame that is to be sent as it is. -/
def outbound (f : MessageFrame) : Packet := { f.arrival.packet with addressed := true }

/-- A reply says what it is, as the request does. -/
theorem Laid.reply (laid : f.Laid) (mac : Mac) : (f.reply mac).Laid := { laid with }

/-- Checksums do not change what a frame says of itself. -/
theorem Laid.withChecksums (laid : f.Laid) (header message : UInt16) :
    (f.withChecksums header message).Laid := { laid with }

/-- The packet of the frame has the parts of the frame. -/
theorem Laid.parts (laid : f.Laid) :
    f.arrival.packet.Parts f.ethernet.octets (f.ip.written f.options) f.message :=
  ⟨f.octets_eq, rfl, by rw [laid.length_header, f.ethernet.length_octets]; rfl⟩

/-- The type of a message is that of a request only if it is 8. -/
theorem ofOctet_eq_echoRequest_iff {type : UInt8} :
    IcmpType.ofOctet type = .echoRequest ↔ type = IcmpType.echoRequest.octet := by
  constructor
  · intro request
    rw [← request, IcmpType.octet_ofOctet]
  · rintro rfl
    rfl

/-- A request is turned around, and so it is its reply that is handed on. -/
theorem Laid.echo_of_request (laid : f.Laid) (request : f.type = IcmpType.echoRequest.octet)
    (mac : Mac) :
    f.arrival.packet.echo mac = .ok (.reply f.ip.source (f.reply mac).outbound) := by
  have long := Nat.not_lt.mpr laid.long
  have type : IcmpType.ofOctet f.type = .echoRequest := ofOctet_eq_echoRequest_iff.mpr request
  unfold Packet.echo
  rw [laid.parts.transport?_eq, ok_bind, if_neg long, laid.parts.slice?_eq,
    laid.parts.take_network, if_neg fun other => other type]
  rfl

/-- Other messages are left alone. -/
theorem Laid.echo_of_other (laid : f.Laid) (other : f.type ≠ IcmpType.echoRequest.octet)
    (mac : Mac) : f.arrival.packet.echo mac = .ok (.ignored (.ofOctet f.type)) := by
  have long := Nat.not_lt.mpr laid.long
  unfold Packet.echo
  rw [laid.parts.transport?_eq, ok_bind, if_neg long]
  exact if_pos fun request => other (ofOctet_eq_echoRequest_iff.mp request)

/-! ## Sealing -/

/-- What is sealed of a message is its checksum. -/
theorem sealIcmp_message (f : MessageFrame) :
    ∃ checksum, Checksum.sealIcmp f.message = { f with checksum }.message ∧
      Checksum.verifyIcmp { f with checksum }.message = true := by
  have stored (checksum : UInt16) :
      Checksum.store f.message Checksum.icmpOffset checksum = { f with checksum }.message := rfl
  have long : Checksum.icmpOffset + 2 ≤ f.message.length := by
    rw [message, List.length_append]
    exact Nat.le_add_right 4 f.rest.length
  have sealed : Checksum.sealIcmp f.message = _ :=
    (Checksum.store_store long _ _).trans (stored _)
  exact ⟨_, sealed, sealed ▸ Checksum.verifyIcmp_sealIcmp long⟩

/-- What the headers of the frame say is read back from it. -/
theorem Laid.read?_outbound (laid : f.Laid) :
    OutboundHeader.read? f.outbound =
      some { source := f.ip.source, dest := f.ip.dest, protocol := f.ip.protocol
             headerLength := f.ip.headerLength, totalLength := f.ip.totalLength.toNat } := by
  have words := IpHeader.headerLength_first laid.most
  have least := laid.words
  have total := laid.total
  have frame : Ethernet.headerSize + f.ip.totalLength.toNat ≤ f.octets.length := by
    rw [octets_eq, List.length_append, List.length_append, f.ethernet.length_octets,
      laid.length_header]
    omega
  have fits : ¬ (f.ip.headerLength < Ip.headerSize ∨ f.ip.totalLength.toNat < f.ip.headerLength ∨
      Ethernet.headerSize + f.ip.totalLength.toNat > f.octets.length) := by omega
  have datagram : f.octets.drop Ethernet.headerSize = f.ip.written (f.options ++ f.message) :=
    List.drop_left' f.ethernet.length_octets
  unfold OutboundHeader.read? outbound arrival Arrival.ofLayers
  dsimp only
  rw [datagram]
  simp only [IpHeader.written, octets16, Ipv4.octets, List.cons_append, List.nil_append,
    word16_octets16, words, if_neg fits]

/-- **A frame is sealed soundly**: its checksums are set, and nothing else is changed. -/
theorem Laid.sealPacket_outbound (laid : f.Laid) {h : OutboundHeader}
    (protocol : h.protocol = f.ip.protocol) (headerLength : h.headerLength = f.ip.headerLength)
    (totalLength : h.totalLength = f.ip.totalLength.toNat) :
    ∃ header message, (f.withChecksums header message).Sound ∧
      h.sealPacket f.outbound = (f.withChecksums header message).outbound := by
  obtain ⟨header, sealedHeader, headerSums⟩ := IpHeader.sealIpv4_written f.ip f.options
  obtain ⟨message, sealedMessage, messageSums⟩ := f.sealIcmp_message
  refine ⟨header, message, ⟨laid.withChecksums header message, headerSums, messageSums⟩, ?_⟩
  have datagram : f.octets.drop Ethernet.headerSize = f.ip.written f.options ++ f.message := by
    rw [octets_eq, List.append_assoc]
    exact List.drop_left' f.ethernet.length_octets
  have front : f.octets.take Ethernet.headerSize = f.ethernet.octets := by
    rw [octets_eq, List.append_assoc]
    exact List.take_left' f.ethernet.length_octets
  have length : (f.ip.written f.options ++ f.message).length = f.ip.totalLength.toNat := by
    rw [List.length_append, laid.length_header, laid.total]
  have transport : h.sealTransport f.message = Checksum.sealIcmp f.message :=
    if_pos ⟨protocol.trans laid.icmp, laid.long⟩
  have data : (h.sealPacket f.outbound).data = (f.withChecksums header message).octets := by
    show f.octets.take Ethernet.headerSize ++
      Checksum.sealIpv4 ((f.octets.drop Ethernet.headerSize).take h.headerLength) ++
        h.sealTransport (((f.octets.drop Ethernet.headerSize).take h.totalLength).drop
          h.headerLength) ++ (f.octets.drop Ethernet.headerSize).drop h.totalLength = _
    rw [datagram, front, headerLength, totalLength, ← length, List.take_length, List.drop_length,
      List.take_left' laid.length_header, List.drop_left' laid.length_header, transport,
      sealedHeader, sealedMessage, List.append_nil, octets_eq]
    rfl
  exact congrArg (fun data => { f.outbound with data }) data

/-- The frame of a message is sent from an interface with an address, once it is sealed. -/
theorem Laid.disposition_outbound (laid : f.Laid) {iface : InterfaceConfig}
    (configured : iface.isConfigured = true) (named : f.ip.source.isUnspecified = false) :
    ∃ header message, (f.withChecksums header message).Sound ∧
      f.outbound.disposition iface = .send (f.withChecksums header message).outbound := by
  obtain ⟨header, message, sound, sealed⟩ :=
    laid.sealPacket_outbound (h := ⟨f.ip.source, f.ip.dest, f.ip.protocol, f.ip.headerLength,
      f.ip.totalLength.toNat⟩) rfl rfl rfl
  refine ⟨header, message, sound, ?_⟩
  rw [Packet.disposition, laid.read?_outbound]
  dsimp only
  rw [sealed, OutboundHeader.mayLeave, configured, named]
  rfl

/-- A frame with a message goes out as an IPv4 packet. -/
theorem Laid.ethertype?_outbound (laid : f.Laid) :
    f.outbound.ethertype? = .ok Ethernet.typeIpv4 := by
  rw [← laid.ipv4, ← word16_octets16 f.ethernet.ethertype]
  rfl

end MessageFrame

namespace Core

variable {ω : Type}

/-- A frame that is classified is one that can be read. -/
theorem exists_of_classify {c c' : Core ω} {frame : Bytes} {arrival : Arrival}
    (classified : c.classify frame = (some arrival, c')) :
    Arrival.ofFrame c.mac frame = .ok arrival := by
  unfold classify at classified
  dsimp only at classified
  split at classified
  · rename_i found
    cases classified
    exact found
  · cases classified

/-- The address of an interface is not the unspecified one. -/
theorem isUnspecified_of_address? {c : Core ω} {a : Ipv4} (ours : c.address? = some a) :
    a.isUnspecified = false := by
  unfold address? InterfaceConfig.address? at ours
  split at ours
  · rename_i configured
    cases ours
    simpa [InterfaceConfig.isConfigured] using configured
  · cases ours

section

variable {f : MessageFrame}

/-- The reply to a request is sealed and handed over to be sent. -/
theorem receiveEcho_of_request (laid : f.Laid) (request : f.type = IcmpType.echoRequest.octet)
    (c : Core ω) (configured : c.iface.isConfigured = true)
    (named : f.ip.dest.isUnspecified = false) :
    ∃ header message, ((f.reply c.mac).withChecksums header message).Sound ∧
      c.receiveEcho f.arrival.packet =
        .ok ((c.tell (.icmp (.replying f.ip.source))).sendFrame
          ((f.reply c.mac).withChecksums header message).outbound) := by
  have turned := laid.reply c.mac
  obtain ⟨header, message, sound, leaves⟩ := turned.disposition_outbound configured named
  refine ⟨header, message, sound, ?_⟩
  rw [receiveEcho, laid.echo_of_request request, ok_bind]
  dsimp only
  rw [transmit_of_ipv4 _ turned.ethertype?_outbound, transmitIpv4_of_send (c := c.tell _) leaves]

/-- Another message is ignored. -/
theorem receiveEcho_of_other (laid : f.Laid) (other : f.type ≠ IcmpType.echoRequest.octet)
    (c : Core ω) :
    c.receiveEcho f.arrival.packet = .ok (.ok (), c.tell (.icmp (.ignored (.ofOctet f.type)))) := by
  rw [receiveEcho, laid.echo_of_other other]
  rfl

end

/-- **Echo requests to us are answered.** A frame that was classified as a message is what it is
made of and padding. If it is a request to our address, then exactly one frame is handed over to be
sent: the same one with its ends exchanged, a new time to live, type and code zero, and new
checksums. The station that it is for classifies it as a message, whatever follows in the frame, so
its checksums are right. Any other message is ignored. -/
theorem receiveEcho_answers {b b' : Core ω} {frame : Bytes} {arrival : Arrival}
    (classified : b.classify frame = (some arrival, b'))
    (carries : arrival.info.protocol = some Ip.icmp) :
    ∃ (f : MessageFrame) (padding : Bytes), f.Sound ∧ frame = f.octets ++ padding ∧
      arrival = f.arrival ∧
      (∀ c : Core ω, f.type = IcmpType.echoRequest.octet → b.address? = arrival.info.dest →
        c.iface.isConfigured = true →
        ∃ header message answer, answer = (f.reply c.mac).withChecksums header message ∧
          answer.Sound ∧
          c.receiveEcho arrival.packet =
            .ok ((c.tell (.icmp (.replying f.ip.source))).sendFrame answer.outbound) ∧
          answer.outbound.padded.data.length ≤ Ethernet.maxFrameSize + Ethernet.checkSize ∧
          ∀ (d : Core ω) (trailing : Bytes),
            f.ethernet.source = d.mac ∨ f.ethernet.source.isMulticast = true →
            (answer.octets ++ trailing).length ≤ Ethernet.maxFrameSize + Ethernet.checkSize →
            d.classify (answer.octets ++ trailing) =
              (some answer.arrival, d.count fun s => { s with rxFrames := s.rxFrames + 1 })) ∧
      ∀ c : Core ω, f.type ≠ IcmpType.echoRequest.octet →
        c.receiveEcho arrival.packet =
          .ok (.ok (), c.tell (.icmp (.ignored (.ofOctet f.type)))) := by
  have read := exists_of_classify classified
  obtain ⟨f, padding, rfl, sound, rfl⟩ := MessageFrame.exists_of_ofFrame read carries
  refine ⟨f, padding, sound, rfl, rfl, fun c request ours configured => ?_, fun c other =>
    receiveEcho_of_other sound.toLaid other c⟩
  obtain ⟨header, message, sealedSound, handed⟩ :=
    receiveEcho_of_request sound.toLaid request c configured (isUnspecified_of_address? ours)
  refine ⟨header, message, _, rfl, sealedSound, handed, ?_, fun d trailing forThem fits =>
    Stack.classify_of_ok (MessageFrame.ofFrame_octets sealedSound forThem fits)⟩
  have short := Arrival.length_of_ofFrame read
  rw [List.length_append] at short
  have reach : ((f.reply c.mac).withChecksums header message).octets.length ≤
      Ethernet.maxFrameSize + Ethernet.checkSize := by
    rw [MessageFrame.length_octets] at short ⊢
    exact Nat.le_trans (Nat.le_add_right _ _) short
  rw [Packet.length_data_padded]
  exact Nat.max_le.mpr ⟨reach, by decide⟩

/-- A request with options in its header and an odd number of octets. -/
def ping : MessageFrame where
  ethernet := ⟨⟨2, 0, 0, 0, 0, 1⟩, ⟨2, 0, 0, 0, 0, 9⟩, Ethernet.typeIpv4⟩
  ip :=
    { headerWords := 6, totalLength := 35, identification := 7, ttl := 3, protocol := Ip.icmp
      checksum := 24776, source := ⟨10, 0, 0, 9⟩, dest := ⟨10, 0, 0, 2⟩ }
  options := [1, 1, 1, 0]
  type := IcmpType.echoRequest.octet
  code := 5
  checksum := 33083
  rest := [0, 1, 0, 2, 0xaa, 0xbb, 0xcc]

/-- The core of the station that sent it. -/
def pinger : Core (Tapped Bench) := { faulty with mac := ⟨2, 0, 0, 0, 0, 9⟩ }

/-- A request with options and padding is answered by a frame that its sender can read. -/
theorem receiveEcho_answers_ping :
    (faulty.classify (ping.octets ++ List.replicate 11 0)).1 = some ping.arrival ∧
      ping.arrival.info.protocol = some Ip.icmp ∧
      ∃ answer : MessageFrame, answer.Sound ∧
        faulty.receiveEcho ping.arrival.packet =
          .ok ((faulty.tell (.icmp (.replying ⟨10, 0, 0, 9⟩))).sendFrame answer.outbound) ∧
        (pinger.classify answer.octets).1 = some answer.arrival := by
  have classified : faulty.classify (ping.octets ++ List.replicate 11 0) =
      (some ping.arrival, faulty.count fun s => { s with rxFrames := s.rxFrames + 1 }) := rfl
  have carries : ping.arrival.info.protocol = some Ip.icmp := rfl
  obtain ⟨f, padding, sound, -, arrival, answers, -⟩ := receiveEcho_answers classified carries
  -- what the frame is made of can be read back from the packet
  have message : f.message = ping.message := by
    have read := sound.toLaid.parts.transport?_eq
    rw [← arrival] at read
    exact Except.ok.inj read.symm
  have request : f.type = IcmpType.echoRequest.octet := List.head_eq_of_cons_eq message
  have ethernet : f.ethernet = ping.ethernet := by
    have read : f.arrival.packet.ethernet? = .ok f.ethernet := f.ethernet.read?_octets_append _
    rw [← arrival] at read
    exact Except.ok.inj read.symm
  have source : f.ip.source = ⟨10, 0, 0, 9⟩ :=
    Option.some.inj (congrArg (fun a : Arrival => a.info.source) arrival).symm
  obtain ⟨header, checksum, answer, replied, answerSound, handed, padded, arrives⟩ :=
    answers faulty request rfl rfl
  refine ⟨congrArg Prod.fst classified, carries, answer, answerSound, source ▸ handed, ?_⟩
  have forThem : f.ethernet.source = pinger.mac := by rw [ethernet]; rfl
  have short : (answer.octets ++ []).length ≤ Ethernet.maxFrameSize + Ethernet.checkSize := by
    rw [List.append_nil]
    rw [Packet.length_data_padded] at padded
    exact Nat.le_trans (Nat.le_max_left _ _) padded
  have arrived := arrives pinger [] (.inl forThem) short
  rw [List.append_nil] at arrived
  exact congrArg Prod.fst arrived

end Core

end PolledNet
