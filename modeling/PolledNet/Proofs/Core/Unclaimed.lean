import PolledNet.Proofs.Deadline
import PolledNet.Proofs.Inet.Header
import PolledNet.Stack.Service

/-!
# Answering what nobody wants

What is quoted of a received IPv4 frame can be read off the frame: the header with its options and
the eight octets after it, or what there is of them (`Arrival.quote_of_ofFrame`). A datagram that
nobody wants is answered by one message, which quotes it, or by none (`Core.unreachable?`,
`Core.answers_receiveUnclaimed`).

A message is built only if the limiter permits it, and then the limiter holds the moment at which it
was built. Read back later, this moment tells how much true time has gone by only up to half the
tick space; but what was longer ago was long enough ago. So the messages are spaced out in true time
(`Spaced.answered`).
-/

namespace PolledNet

/-! ## What is quoted -/

namespace Bytes

/-- The datagram in a frame, without what follows it. -/
def datagramOf (frame : Bytes) (ip : IpHeader) : Bytes :=
  (frame.drop Ethernet.headerSize).take ip.totalLength.toNat

/-- What the datagram in a frame carries. -/
def contentOf (frame : Bytes) (ip : IpHeader) : Bytes := (frame.datagramOf ip).drop ip.headerLength

/-- A frame brings an IPv4 datagram that is whole and whose checksums are right. -/
structure Brings (frame : Bytes) (ethernet : EthernetHeader) (ip : IpHeader) : Prop where
  framed : EthernetHeader.parse frame = .ok ethernet
  header : IpHeader.parse (frame.drop Ethernet.headerSize) = .ok ip
  whole : ip.isFragment = false
  sums : Checksum.verifyIpv4 ((frame.drop Ethernet.headerSize).take ip.headerLength) = true
  udp : ip.protocol = Ip.udp → ∃ udp, UdpHeader.parse (frame.contentOf ip) = .ok udp ∧
    Checksum.verifyUdp ip.source ip.dest ((frame.contentOf ip).take udp.length.toNat) = true

/-- An octet that is there can be read. -/
theorem octet?_of_getElem? {b : Bytes} {i : Nat} {x : UInt8} (found : b[i]? = some x) :
    b.octet? i = .ok x := by
  unfold octet?
  rw [found]

end Bytes

/-- A header that was read sums up, and the sender stands in it. -/
theorem IpHeader.source_of_parse {b : Bytes} {h : IpHeader} (read : parse b = .ok h) :
    Checksum.verifyIpv4 (b.take h.headerLength) = true ∧ b[12]? = some h.source.o0 ∧
      b[13]? = some h.source.o1 ∧ b[14]? = some h.source.o2 ∧ b[15]? = some h.source.o3 := by
  obtain ⟨written, -, sums⟩ := eq_written_of_parse read
  refine ⟨sums, ?_⟩
  rw [written]
  exact ⟨rfl, rfl, rfl, rfl⟩

/-- The sender stands in the header, and what follows the header does not matter. -/
theorem EthernetHeader.source_of_parse {frame : Bytes} {h : EthernetHeader}
    (read : parse frame = .ok h) (rest : Bytes) :
    (frame.take Ethernet.headerSize).length = Ethernet.headerSize ∧
      Mac.ofBytes? ((frame.take Ethernet.headerSize ++ rest).drop 6) = .ok h.source := by
  have front : frame.take Ethernet.headerSize = h.octets := by
    rw [(eq_octets_append_of_parse read).1]
    exact List.take_left' h.length_octets
  rw [front]
  exact ⟨rfl, rfl⟩

namespace Arrival

variable {mac : Mac} {frame : Bytes} {arrival : Arrival}

/-- The sender, its hardware address, and the header with at most eight octets after it. -/
theorem quote_of_parse {ethernet : EthernetHeader} {ip : IpHeader}
    (framed : EthernetHeader.parse frame = .ok ethernet)
    (read : IpHeader.parse (frame.drop Ethernet.headerSize) = .ok ip) {offsets : HeaderOffsets}
    (network : offsets.network = Ethernet.headerSize)
    (transport : offsets.transport = Ethernet.headerSize + ip.headerLength) :
    Packet.quote { data := frame.take Ethernet.headerSize ++ frame.datagramOf ip, offsets } =
      .ok (ip.source, ethernet.source,
        (frame.datagramOf ip).take (ip.headerLength + Icmp.quotedPayload)) := by
  obtain ⟨-, s0, s1, s2, s3⟩ := IpHeader.source_of_parse read
  obtain ⟨front, source⟩ := EthernetHeader.source_of_parse framed (frame.datagramOf ip)
  obtain ⟨least, header, total⟩ := IpHeader.lengths_of_parse read
  have size : Ip.headerSize = 20 := rfl
  have datagram : (frame.datagramOf ip).length = ip.totalLength.toNat :=
    List.length_take_of_le total
  -- the octets of the header are the same ones in the packet
  have octet : ∀ i x, i < 20 → (frame.drop Ethernet.headerSize)[i]? = some x →
      Bytes.octet? (frame.take Ethernet.headerSize ++ frame.datagramOf ip)
        (Ethernet.headerSize + i) = .ok x := by
    intro i x early found
    apply Bytes.octet?_of_getElem?
    rw [List.getElem?_append_right (by rw [front]; exact Nat.le_add_right _ _), front,
      Nat.add_sub_cancel_left, Bytes.datagramOf, List.getElem?_take_of_lt (by omega)]
    exact found
  have quoted : (frame.datagramOf ip).take (min (Ethernet.headerSize + ip.headerLength +
      Icmp.quotedPayload) (Ethernet.headerSize + (frame.datagramOf ip).length) -
        Ethernet.headerSize) =
      (frame.datagramOf ip).take (ip.headerLength + Icmp.quotedPayload) := by
    rw [List.take_eq_take_iff]
    omega
  have length : (frame.take Ethernet.headerSize ++ frame.datagramOf ip).length =
      Ethernet.headerSize + (frame.datagramOf ip).length := by rw [List.length_append, front]
  unfold Packet.quote
  dsimp only
  rw [network, transport, octet 12 _ (by decide) s0, octet 13 _ (by decide) s1,
    octet 14 _ (by decide) s2, octet 15 _ (by decide) s3, length,
    Bytes.slice?_eq_ok (by omega) (by omega), List.drop_left' front, quoted, Packet.source?, source]
  rfl

/-- A UDP datagram that was read sums up, as far as its header says that it goes. -/
theorem sums_of_readTransport {ip : IpHeader} {octets : Bytes} {content : Transport}
    (read : readTransport ip octets = .ok content) (udp : ip.protocol = Ip.udp) :
    ∃ udp, UdpHeader.parse octets = .ok udp ∧
      Checksum.verifyUdp ip.source ip.dest (octets.take udp.length.toNat) = true := by
  unfold readTransport at read
  rw [if_pos udp] at read
  split at read
  · cases read
  · rename_i udp parsed
    split at read
    · rename_i sums
      exact ⟨udp, parsed, sums⟩
    · cases read

/-- **What is kept of a received IPv4 frame** says what the frame brings, and quotes it. -/
theorem quote_of_ofFrame (classified : ofFrame mac frame = .ok arrival)
    (ipv4 : arrival.info.ethertype = Ethernet.typeIpv4) :
    ∃ ethernet ip, frame.Brings ethernet ip ∧ arrival.info.protocol = some ip.protocol ∧
      arrival.info.dest = some ip.dest ∧
      arrival.packet.quote = .ok (ip.source, ethernet.source,
        (frame.datagramOf ip).take (ip.headerLength + Icmp.quotedPayload)) := by
  obtain ⟨ethernet, framed, ⟨-, read⟩ | ⟨other, info, -⟩⟩ := exists_of_ofFrame classified
  · obtain ⟨ip, content, header, whole, transport, rfl⟩ := exists_of_readIpv4 read
    exact ⟨ethernet, ip, ⟨framed, header, whole, (IpHeader.source_of_parse header).1,
      sums_of_readTransport transport⟩, rfl, rfl, quote_of_parse framed header rfl rfl⟩
  · rw [info] at ipv4
    exact absurd ipv4 other

end Arrival

/-! ## The answer -/

/-- What is permitted is taken note of. -/
theorem UnreachableLimiter.permit_snd (l : UnreachableLimiter) (now : Tick) :
    (l.permit now).2 = if (l.permit now).1 then ⟨some now⟩ else l := rfl

namespace Core

variable {ω : Type} {c c' : Core ω} {limiter limiter' : UnreachableLimiter} {p : Packet}
  {answer : Except NetError Unit}

/-- The port-unreachable message that answers a datagram which nobody wants, if one does. -/
def unreachable? (c : Core ω) (limiter : UnreachableLimiter) (p : Packet) : Option Packet :=
  match c.address?, p.quote with
  | some ours, .ok (sender, senderMac, quoted) =>
    if (limiter.permit c.now).1 then
      some ((IcmpMessage.portUnreachable quoted).packet c.mac ours senderMac sender
        c.nextIdentification.1)
    else none
  | _, _ => none

/-- A message is built only with leave, from what is quoted. -/
theorem exists_of_unreachable? {reply : Packet} (built : c.unreachable? limiter p = some reply) :
    ∃ ours sender senderMac quoted, c.address? = some ours ∧
      p.quote = .ok (sender, senderMac, quoted) ∧ (limiter.permit c.now).1 = true ∧
      reply = (IcmpMessage.portUnreachable quoted).packet c.mac ours senderMac sender
        c.nextIdentification.1 := by
  unfold unreachable? at built
  split at built
  · rename_i ours sender senderMac quoted up quote
    split at built
    · rename_i permitted
      cases built
      exact ⟨ours, sender, senderMac, quoted, up, quote, permitted, rfl⟩
    · cases built
  · cases built

/-- **The message that is built is sent**, and then the limiter holds the present moment; if none is
built, the operator is told at most. -/
inductive Answers (c : Core ω) (limiter : UnreachableLimiter) (p : Packet) :
    Except NetError Unit → UnreachableLimiter → Core ω → Prop where
  | silent {log : List Event} (none : c.unreachable? limiter p = none) :
      Answers c limiter p (.ok ()) limiter { c with log }
  | sent {reply : Packet} {log : List Event} {answer : Except NetError Unit} {c' : Core ω}
      (built : c.unreachable? limiter p = some reply)
      (sent : ({ c with log }.nextIdentification.2).transmit reply = .ok (answer, c')) :
      Answers c limiter p answer ⟨some c.now⟩ c'

/-- **What becomes of a packet that nobody claims**, whatever its octets. -/
theorem answers_receiveUnclaimed
    (handled : c.receiveUnclaimed limiter p = .ok (answer, limiter', c')) :
    c.Answers limiter p answer limiter' c' := by
  unfold receiveUnclaimed at handled
  split at handled
  · rename_i down
    cases handled
    have unbuilt : c.unreachable? limiter p = none := by rw [unreachable?, down]
    exact .silent unbuilt
  · rename_i ours up
    dsimp only at handled
    split at handled
    · rename_i refused
      have refused : (limiter.permit c.now).1 = false := by simpa using refused
      have unbuilt : c.unreachable? limiter p = none := by
        unfold unreachable?
        split
        · rw [refused]
          rfl
        · rfl
      cases handled
      rw [UnreachableLimiter.permit_snd, refused]
      exact .silent unbuilt
    · rename_i permitted
      have permitted : (limiter.permit c.now).1 = true := by simpa using permitted
      obtain ⟨-, -, handled⟩ := exists_ok_of_bind handled
      obtain ⟨⟨sender, senderMac, quoted⟩, quote, handled⟩ := exists_ok_of_bind handled
      obtain ⟨⟨answer, c''⟩, sent, handled⟩ := exists_ok_of_bind handled
      cases handled
      rw [UnreachableLimiter.permit_snd, permitted]
      have built : c.unreachable? limiter p =
          some ((IcmpMessage.portUnreachable quoted).packet c.mac ours senderMac sender
            c.nextIdentification.1) := by
        rw [unreachable?, up, quote]
        exact if_pos permitted
      exact .sent built sent

end Core

/-! ## Pace -/

/-- A message that was built. -/
structure Reply (ω : Type) where
  /-- The core as it was at that moment. -/
  core : Core ω
  /-- The message. -/
  packet : Packet

/-- Messages are spaced out in true time, and none was built after the moment that the limiter
holds. -/
structure Spaced {ω : Type} (time : ω → Nat) (replies : List (Reply ω))
    (limiter : UnreachableLimiter) (c : Core ω) : Prop where
  spaced : replies.Pairwise fun r r' =>
    time r.core.hw + Icmp.unreachableInterval.toNat ≤ time r'.core.hw
  last : ∀ r ∈ replies, ∃ T, limiter.lastSent = some (UInt32.ofNat T) ∧ time r.core.hw ≤ T ∧
    T ≤ time c.hw

namespace Spaced

variable {ω : Type} {time : ω → Nat} {replies : List (Reply ω)} {limiter : UnreachableLimiter}
  {c c' : Core ω}

/-- No answers keep any distance. -/
theorem nil : Spaced time [] limiter c :=
  ⟨.nil, fun _ mem => absurd mem List.not_mem_nil⟩

/-- Time may go by. -/
theorem later (spaced : Spaced time replies limiter c) (le : time c.hw ≤ time c'.hw) :
    Spaced time replies limiter c' := by
  refine ⟨spaced.spaced, fun r mem => ?_⟩
  obtain ⟨T, held, before, now⟩ := spaced.last r mem
  exact ⟨T, held, before, Nat.le_trans now le⟩

/-- What the limiter permits comes late enough. -/
theorem le_of_permit {T now : Nat} (held : limiter.lastSent = some (UInt32.ofNat T)) (le : T ≤ now)
    (permitted : (limiter.permit (UInt32.ofNat now)).1 = true) :
    T + Icmp.unreachableInterval.toNat ≤ now := by
  have interval : Icmp.unreachableInterval.toNat = 10 := by decide
  have clamped : Tick.clamped Icmp.unreachableInterval = 10 := by decide
  have reached : Tick.reached (UInt32.ofNat now)
      (Tick.deadline (UInt32.ofNat T) Icmp.unreachableInterval) = true := by
    rw [UnreachableLimiter.permit, held] at permitted
    exact permitted
  -- past half the tick space what is read says nothing, but then enough time has gone by
  by_cases near : now < T + Tick.clamped Icmp.unreachableInterval + 2147483648
  · have due := (Tick.reached_deadline_iff Icmp.unreachableInterval le near).mp reached
    omega
  · omega

/-- **A message that is permitted keeps the pace.** -/
theorem answered (spaced : Spaced time replies limiter c) (shown : c.now = UInt32.ofNat (time c.hw))
    (permitted : (limiter.permit c.now).1 = true) (packet : Packet) :
    Spaced time (replies ++ [⟨c, packet⟩]) ⟨some c.now⟩ c := by
  rw [shown] at permitted ⊢
  constructor
  · rw [List.pairwise_append]
    refine ⟨spaced.spaced, List.pairwise_singleton _ _, ?_⟩
    intro r mem r' new
    obtain rfl := List.mem_singleton.mp new
    obtain ⟨T, held, before, now⟩ := spaced.last r mem
    exact Nat.le_trans (Nat.add_le_add_right before _) (le_of_permit held now permitted)
  · intro r mem
    refine ⟨time c.hw, rfl, ?_, Nat.le_refl _⟩
    rcases List.mem_append.mp mem with old | new
    · obtain ⟨T, -, before, now⟩ := spaced.last r old
      exact Nat.le_trans before now
    · obtain rfl := List.mem_singleton.mp new
      exact Nat.le_refl _

end Spaced

end PolledNet
