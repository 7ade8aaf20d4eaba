import PolledNet.Proofs.Access.Frames
import PolledNet.Proofs.Access.Transfers

/-!
# Checked services

A service works on packets that classification has framed and on a core that is sane. The ARP
service reads any content (`Core.checkedReceiveArp_eq`). The echo service turns a packet around in
its own frame and the unreachable service quotes it; both rely on the IPv4 header that
classification found (`Core.checkedReceiveEcho_agrees`, `Core.checkedReceiveUnclaimed_agrees`).
-/

namespace PolledNet

/-! ## Echo -/

namespace Packet

variable {p : Packet}

/-- A frame taken apart at the offsets of its IPv4 header and of what follows it. -/
structure Parts (p : Packet) (ethernet ip message : Bytes) : Prop where
  data : p.data = ethernet ++ ip ++ message
  network : p.offsets.network = ethernet.length
  transport : p.offsets.transport = ethernet.length + ip.length

/-- A packet that is framed as an IPv4 one falls into an Ethernet header, an IPv4 header and a
message. -/
theorem FramedIpv4.exists_parts (framed : p.FramedIpv4) :
    ∃ ethernet ip message, p.Parts ethernet ip message ∧
      ethernet.length = Ethernet.headerSize ∧ Ip.headerSize ≤ ip.length := by
  have transport := framed.transport
  have least := framed.ipv4
  have first : (p.data.take Ethernet.headerSize).length = Ethernet.headerSize :=
    List.length_take_of_le framed.header
  have second : ((p.data.take p.offsets.transport).drop Ethernet.headerSize).length =
      p.offsets.transport - Ethernet.headerSize := by
    rw [List.length_drop, List.length_take_of_le transport]
  refine ⟨p.data.take Ethernet.headerSize,
    (p.data.take p.offsets.transport).drop Ethernet.headerSize,
    p.data.drop p.offsets.transport, ⟨?_, framed.network.trans first.symm, ?_⟩, first, ?_⟩
  · rw [List.append_assoc, OutboundHeader.take_append_drop_take_append_drop (by omega)]
  · omega
  · omega

section Parts

variable {ethernet ip message : Bytes} (parts : p.Parts ethernet ip message)

include parts

/-- The Ethernet header stands before the network layer. -/
theorem Parts.take_network : p.data.take p.offsets.network = ethernet := by
  rw [parts.data, parts.network, List.append_assoc, List.take_left]

/-- The message is what stands at the transport layer. -/
theorem Parts.transport?_eq : p.transport? = .ok message := by
  rw [transport?, parts.data, parts.transport, Bytes.suffix?_eq (by simp), ← List.length_append,
    List.drop_left]

/-- The IPv4 header stands between the layers. -/
theorem Parts.slice?_eq : p.data.slice? p.offsets.network p.offsets.transport = .ok ip := by
  rw [parts.data, parts.network, parts.transport, Bytes.slice?_eq_ok (by omega) (by simp),
    Nat.add_sub_cancel_left, List.append_assoc, List.drop_left, List.take_left]

/-- The IPv4 header can be updated by one as long. -/
theorem Parts.update?_eq {f : Bytes → Except Fault Bytes} {new : Bytes} (worked : f ip = .ok new)
    (length : new.length = ip.length) :
    p.data.update? p.offsets.network p.offsets.transport f =
      .ok (ethernet ++ new ++ message) := by
  rw [parts.data, parts.network, parts.transport]
  exact Bytes.update?_append ethernet ip message worked length

end Parts

/-- An IPv4 header with its addresses exchanged and its time to live set anew. -/
def checkedTurnAround (ip : Bytes) : Except Fault Bytes := do
  let source ← ip.slice? 12 16
  let dest ← ip.slice? 16 20
  let ip ← ip.replace? 12 16 dest
  let ip ← ip.replace? 16 20 source
  ip.replace? 8 9 [Ip.defaultTtl]

/-- A whole IPv4 header is turned around without a fault, and shows who is the requester. -/
theorem checkedTurnAround_eq {ip : Bytes} (least : Ip.headerSize ≤ ip.length) :
    ∃ requester turned, turnAround ip = .ok (requester, turned) ∧ ip.address? 12 = .ok requester ∧
      checkedTurnAround ip = .ok turned ∧ turned.length = ip.length := by
  rw [Ip.headerSize] at least
  iterate 20
    rcases ip with _ | ⟨_, ip⟩
    · simp at least
  refine ⟨_, _, rfl, rfl, ?_, rfl⟩
  simp [checkedTurnAround, Bytes.slice?, Bytes.replace?, Bytes.overwrite]

/-- Writes the stations that send and that receive. -/
def checkedReturned (p : Packet) (source dest : Mac) : Except Fault Packet := do
  let data ← p.data.replace? 6 12 source.octets
  { p with data }.checkedAddressedTo dest

/-- A packet with an Ethernet header is sent back without a fault, and keeps its length. -/
theorem checkedReturned_eq (long : Ethernet.headerSize ≤ p.data.length) (source dest : Mac) :
    p.checkedReturned source dest = .ok ((p.withSource source).addressedTo dest) ∧
      ((p.withSource source).addressedTo dest).data.length = p.data.length := by
  have first : (p.data.overwrite 6 source.octets).length = p.data.length :=
    Bytes.length_overwrite (Nat.le_trans (by decide : 6 + 6 ≤ 14) long)
  have holds : addressSize ≤ (p.data.overwrite 6 source.octets).length := by
    rw [first]
    exact Nat.le_trans (by decide) long
  refine ⟨?_, ?_⟩
  · unfold checkedReturned
    rw [Bytes.replace?_eq rfl (by decide) (Nat.le_trans (by decide : 12 ≤ 14) long), ok_bind,
      checkedAddressedTo_eq holds]
    rfl
  · exact (Bytes.length_overwrite (Nat.le_trans (Nat.le_of_eq (Nat.zero_add 6)) holds)).trans first

/-- Answers an echo request in its own frame. -/
def checkedEcho (p : Packet) (mac : Mac) : Except Fault EchoOutcome := do
  let message ← p.transport?
  if message.length < Icmp.headerSize then return .malformed
  else
    let type := IcmpType.ofOctet (← message.octet? 0)
    if type ≠ .echoRequest then return .ignored type
    else
      let requesterMac ← p.data.station? 6
      let header ← p.data.slice? p.offsets.network p.offsets.transport
      let requester ← header.address? 12
      let data ← p.data.update? p.offsets.network p.offsets.transport checkedTurnAround
      let data ← data.fill? p.offsets.transport [[IcmpType.echoReply.octet], [0]]
      return .reply requester (← { p with data }.checkedReturned mac requesterMac)

/-- The type of the payload is read from the Ethernet header. -/
theorem exists_ethertype? (long : Ethernet.headerSize ≤ p.data.length) :
    ∃ ethertype, p.ethertype? = .ok ethertype := by
  rw [Ethernet.headerSize] at long
  unfold ethertype?
  rw [Bytes.octet?_eq (by omega), Bytes.octet?_eq (by omega)]
  exact ⟨_, rfl⟩

/-- The station that sends can be read if there is an Ethernet header. -/
theorem exists_source? (long : Ethernet.headerSize ≤ p.data.length) :
    ∃ m, p.source? = .ok m ∧ p.data.station? 6 = .ok m := by
  rw [Ethernet.headerSize] at long
  unfold source? Bytes.station?
  rw [Bytes.slice?_eq_ok (by omega) (by omega), ok_bind]
  have left : 6 ≤ (p.data.drop 6).length := by
    rw [List.length_drop]
    omega
  generalize p.data.drop 6 = b at left
  iterate 6
    rcases b with _ | ⟨_, b⟩
    · simp at left
  exact ⟨_, rfl, rfl⟩

/-- **Any echo request can be answered**, and the answer can be sent. -/
theorem checkedEcho_agrees (framed : p.FramedIpv4) (mac : Mac) :
    Agree (p.checkedEcho mac) (p.echo mac) ∧
      ∀ requester reply, p.echo mac = .ok (.reply requester reply) →
        Ethernet.headerSize ≤ reply.data.length := by
  obtain ⟨ethernet, ip, message, parts, first, least⟩ := framed.exists_parts
  obtain ⟨requester, turned, turn, sender, checkedTurn, length⟩ := checkedTurnAround_eq least
  obtain ⟨requesterMac, source, station⟩ := exists_source? framed.header
  have exchanged := parts.update?_eq checkedTurn length
  unfold checkedEcho echo
  rw [parts.transport?_eq, ok_bind, ok_bind]
  by_cases short : message.length < Icmp.headerSize
  · rw [if_pos short, if_pos short]
    exact ⟨.ok _, nofun⟩
  rw [if_neg short, if_neg short]
  rcases message with _ | ⟨type, _ | ⟨code, rest⟩⟩
  · exact absurd (by decide) short
  · exact absurd (Nat.succ_lt_succ (by decide)) short
  rw [Bytes.octet?_cons_zero, ok_bind]
  dsimp only [List.headD_cons]
  by_cases other : IcmpType.ofOctet type ≠ .echoRequest
  · rw [if_pos other, if_pos other]
    exact ⟨.ok _, nofun⟩
  have answered : (ethernet ++ turned ++ (type :: code :: rest)).fill? p.offsets.transport
      [[IcmpType.echoReply.octet], [0]] =
        .ok (ethernet ++ turned ++ (IcmpType.echoReply.octet :: 0 :: rest)) := by
    have stored := Bytes.fill?_append (ethernet ++ turned) [type, code] rest
      [[IcmpType.echoReply.octet], [0]] rfl
    rw [List.length_append, length, ← parts.transport] at stored
    simpa using stored
  have long : Ethernet.headerSize ≤
      (ethernet ++ turned ++ (IcmpType.echoReply.octet :: 0 :: rest)).length := by
    simp only [List.length_append]
    omega
  rw [if_neg other, if_neg other, source, ok_bind, station, ok_bind, parts.slice?_eq, ok_bind,
    sender, ok_bind, exchanged, ok_bind, answered, ok_bind, ok_bind, turn, ok_bind,
    parts.take_network, show (type :: code :: rest).drop 2 = rest from rfl]
  dsimp only
  generalize ethernet ++ turned ++ (IcmpType.echoReply.octet :: 0 :: rest) = answer at long ⊢
  obtain ⟨returned, same⟩ :=
    checkedReturned_eq (p := { p with data := answer }) long mac requesterMac
  rw [returned, ok_bind]
  refine ⟨.ok _, ?_⟩
  rintro _ _ ⟨⟩
  exact Nat.le_trans long (Nat.le_of_eq same.symm)

/-- **Any IPv4 packet can be quoted.** -/
theorem exists_quote (framed : p.FramedIpv4) : ∃ quoted, p.quote = .ok quoted := by
  have network := framed.network
  have transport := framed.transport
  have least := framed.ipv4
  obtain ⟨m, source, -⟩ := exists_source? framed.header
  simp only [Ethernet.headerSize, Ip.headerSize] at network least
  unfold quote
  rw [network, Bytes.octet?_eq (by omega), Bytes.octet?_eq (by omega), Bytes.octet?_eq (by omega),
    Bytes.octet?_eq (by omega), source]
  simp only [ok_bind]
  rw [Bytes.slice?_eq_ok (by omega) (by omega)]
  exact ⟨_, rfl⟩

end Packet

/-! ## Services of the core -/

namespace Core

variable {ω : Type} {c : Core ω}

/-- A packet that has an Ethernet header can be sent. -/
theorem checkedTransmit_agrees (sane : c.Sane) {p : Packet}
    (long : Ethernet.headerSize ≤ p.data.length) : Agree (c.checkedTransmit p) (c.transmit p) := by
  obtain ⟨ethertype, read⟩ := Packet.exists_ethertype? long
  refine .of_ok (checkedTransmit_eq sane read) ?_
  unfold Core.transmit
  rw [read]
  rfl

/-- Learns the sender of an ARP message. -/
def checkedHear (c : Core ω) (m : ArpMessage) : Except Fault (Core ω) :=
  if m.sender.isUnspecified then .ok c
  else do
    let arp ← c.arp.checkedLearn m.sender m.senderMac c.now c.config.arpTtl
    return { c with arp }

/-- Answers a request for our address. -/
def checkedAnswer (c : Core ω) (m : ArpMessage) : Except Fault (Except NetError Unit × Core ω) :=
  match c.address? with
  | none => .ok (.ok (), c)
  | some ours =>
    if m.isRequest && m.target = ours then do
      let reply ← (ArpMessage.reply c.mac ours m.senderMac m.sender).checkedPacket m.senderMac
      return (c.tell (.arp (.replying ours c.mac m.sender))).sendFrame reply
    else .ok (.ok (), c)

/-- Handles an ARP message. -/
def checkedReceiveArp (c : Core ω) (content : Bytes) :
    Except Fault (Except NetError Unit × Core ω) := do
  match ← ArpMessage.checkedParse content with
  | .error e => return (.ok (), (c.tell (.arp (.malformed e))).countMalformed)
  | .ok m => (← c.checkedHear m).checkedAnswer m

/-- A sane core handles an ARP message without a fault. -/
theorem checkedReceiveArp_eq (sane : c.Sane) (content : Bytes) :
    c.checkedReceiveArp content = .ok (c.receiveArp content) := by
  unfold checkedReceiveArp receiveArp
  rw [ArpMessage.checkedParse_eq, ok_bind]
  cases ArpMessage.parse content with
  | error e => rfl
  | ok m =>
    have heard : c.checkedHear m =
        .ok (if m.sender.isUnspecified then c
          else { c with arp := c.arp.learn m.sender m.senderMac c.now c.config.arpTtl }) := by
      refine ite_ok (fun _ => rfl) fun _ => ?_
      rw [ArpCache.checkedLearn_eq sane.arp]
      rfl
    dsimp only
    rw [heard, ok_bind]
    generalize (if m.sender.isUnspecified then c
      else { c with arp := c.arp.learn m.sender m.senderMac c.now c.config.arpTtl }) = c₁
    unfold checkedAnswer
    cases c₁.address? with
    | none => rfl
    | some ours =>
      dsimp only
      rw [ArpMessage.checkedPacket_eq]
      exact ite_ok (fun _ => rfl) fun _ => rfl

/-- Removes the address bindings that have expired. -/
def checkedSweepArp (c : Core ω) : Except Fault (Core ω) := do
  let (removed, arp) ← c.arp.checkedSweep c.now
  let c := { c with arp }
  return if removed > 0 then c.tell (.arp (.swept removed)) else c

/-- The cache is swept without a fault. -/
theorem checkedSweepArp_eq (c : Core ω) : c.checkedSweepArp = .ok c.sweepArp := by
  unfold checkedSweepArp sweepArp
  rw [ArpCache.checkedSweep_eq]
  rfl

/-- Answers an echo request. -/
def checkedReceiveEcho (c : Core ω) (p : Packet) :
    Except Fault (Except NetError Unit × Core ω) := do
  match ← p.checkedEcho c.mac with
  | .malformed => return (.ok (), c.countMalformed)
  | .ignored type => return (.ok (), c.tell (.icmp (.ignored type)))
  | .reply requester reply => (c.tell (.icmp (.replying requester))).checkedTransmit reply

/-- The echo service handles a framed packet without a fault of its own. -/
theorem checkedReceiveEcho_agrees (sane : c.Sane) {p : Packet} (framed : p.FramedIpv4) :
    Agree (c.checkedReceiveEcho p) (c.receiveEcho p) := by
  obtain ⟨agree, sendable⟩ := Packet.checkedEcho_agrees framed c.mac
  refine agree.bind fun outcome came => ?_
  cases outcome with
  | malformed => exact .ok _
  | ignored type => exact .ok _
  | reply requester reply =>
    exact checkedTransmit_agrees (c := c.tell _) (sane.of_eq rfl rfl)
      (sendable requester reply came)

/-- Tells the sender of an unclaimed datagram that nobody wants it. -/
def checkedReceiveUnclaimed (c : Core ω) (limiter : UnreachableLimiter) (p : Packet) :
    Except Fault (Except NetError Unit × UnreachableLimiter × Core ω) := do
  match c.address? with
  | none => return (.ok (), limiter, c)
  | some ours =>
    let (permitted, limiter) := limiter.permit c.now
    if !permitted then return (.ok (), limiter, c.tell (.icmp .rateLimited))
    else
      let (sender, senderMac, quoted) ← p.quote
      let c := c.tell (.icmp (.unreachable sender))
      let (identification, c) := c.nextIdentification
      let reply ← (IcmpMessage.portUnreachable quoted).checkedPacket c.mac ours senderMac sender
        identification
      let (answer, c) ← c.checkedTransmit reply
      return (answer, limiter, c)

/-- The service for unclaimed datagrams handles a framed packet without a fault of its own. -/
theorem checkedReceiveUnclaimed_agrees (sane : c.Sane) (limiter : UnreachableLimiter) {p : Packet}
    (framed : p.FramedIpv4) :
    Agree (c.checkedReceiveUnclaimed limiter p) (c.receiveUnclaimed limiter p) := by
  obtain ⟨quoted, quote⟩ := Packet.exists_quote framed
  unfold checkedReceiveUnclaimed receiveUnclaimed
  cases c.address? with
  | none => exact .ok _
  | some ours =>
    refine .ite (fun _ => .ok _) fun _ => ?_
    rw [quote, ok_bind, ok_bind]
    dsimp only
    rw [IcmpMessage.checkedPacket_eq, ok_bind]
    refine .bind (checkedTransmit_agrees ?_ ?_) fun _ _ => .ok _
    · exact sane.of_eq rfl rfl
    · simp [IcmpMessage.packet]

end Core

end PolledNet
