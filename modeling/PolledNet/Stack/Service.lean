import PolledNet.Stack.State

/-!
# Handling packets and timers

What each service does with a packet that waited for its sink, and with the expiry of its timer. A
service sees its own sink, the core and the volume, and nothing of the other sinks.
-/

namespace PolledNet

/-- A sink at work: the sink with the core and the volume. -/
structure Duty (ω η φ : Type) where
  /-- The sink. -/
  sink : Sink (SinkKind η)
  /-- The core. -/
  core : Core ω
  /-- The volume. -/
  volume : φ

namespace Core

variable {ω : Type}

/-- Learns the sender of an ARP message, and answers a request for our address. -/
def receiveArp (c : Core ω) (content : Bytes) : Except NetError Unit × Core ω :=
  match ArpMessage.parse content with
  | .error e => (.ok (), (c.tell (.arp (.malformed e))).countMalformed)
  | .ok m =>
    let c :=
      if m.sender.isUnspecified then c
      else { c with arp := c.arp.learn m.sender m.senderMac c.now c.config.arpTtl }
    match c.address? with
    | none => (.ok (), c)
    | some ours =>
      if m.isRequest && m.target = ours then
        (c.tell (.arp (.replying ours c.mac m.sender))).sendFrame
          ((ArpMessage.reply c.mac ours m.senderMac m.sender).packet m.senderMac)
      else (.ok (), c)

/-- Removes the address bindings that have expired. -/
def sweepArp (c : Core ω) : Core ω :=
  let (removed, arp) := c.arp.sweep c.now
  let c := { c with arp }
  if removed > 0 then c.tell (.arp (.swept removed)) else c

/-- Answers an echo request. -/
def receiveEcho (c : Core ω) (p : Packet) : Except Fault (Except NetError Unit × Core ω) := do
  match ← p.echo c.mac with
  | .malformed => return (.ok (), c.countMalformed)
  | .ignored type => return (.ok (), c.tell (.icmp (.ignored type)))
  | .reply requester reply => (c.tell (.icmp (.replying requester))).transmit reply

/-- Tells the sender of an unclaimed datagram that nobody wants it, unless another was told just
now. -/
def receiveUnclaimed (c : Core ω) (limiter : UnreachableLimiter) (p : Packet) :
    Except Fault (Except NetError Unit × UnreachableLimiter × Core ω) := do
  match c.address? with
  | none => return (.ok (), limiter, c)
  | some ours =>
    let (permitted, limiter) := limiter.permit c.now
    if !permitted then
      return (.ok (), limiter, c.tell (.icmp .rateLimited))
    let (sender, senderMac, quoted) ← p.quote
    let c := c.tell (.icmp (.unreachable sender))
    let (identification, c) := c.nextIdentification
    let reply :=
      (IcmpMessage.portUnreachable quoted).packet c.mac ours senderMac sender identification
    let (answer, c) ← c.transmit reply
    return (answer, limiter, c)

end Core

namespace Duty

variable {ω η φ : Type}

/-- Runs a handler of the DHCP client. -/
def runClient (d : Duty ω η φ) (client : DhcpClient)
    (handler : DhcpClient.Session (Core ω) → Except NetError Unit × DhcpClient.Session (Core ω)) :
    Except NetError Unit × Duty ω η φ :=
  let (answer, s) := handler ⟨client, d.sink.timer, d.core⟩
  (answer,
    { d with sink := { d.sink with kind := .dhcp s.client, timer := s.timer }, core := s.link })

/-- Runs a handler of a transfer. -/
def runTransfer (d : Duty ω η φ) (transfer : Transfer η)
    (handler : Transfer.Session η (Core ω) φ →
      Except NetError Unit × Transfer.Session η (Core ω) φ) :
    Except NetError Unit × Duty ω η φ :=
  let ⟨sink, core, volume⟩ := d
  let (answer, s) := handler ⟨transfer, sink.timer, core, volume⟩
  (answer, ⟨{ sink with kind := .tftp s.transfer, timer := s.timer }, s.link, s.volume⟩)

variable [FileHandle η φ]

/-- Handles a packet that waited for the sink. -/
def deliver (d : Duty ω η φ) (p : Packet) : Except Fault (Except NetError Unit × Duty ω η φ) := do
  match d.sink.kind with
  | .arp =>
    let (answer, core) := d.core.receiveArp (← p.network?)
    return (answer, { d with core })
  | .icmpEcho =>
    let (answer, core) ← d.core.receiveEcho p
    return (answer, { d with core })
  | .icmpUnreachable limiter =>
    let (answer, limiter, core) ← d.core.receiveUnclaimed limiter p
    return (answer, { d with sink := { d.sink with kind := .icmpUnreachable limiter }, core })
  | .dhcp client =>
    let payload ← p.payload?
    return d.runClient client (·.receive (Core.uplink ω) payload)
  | .tftp transfer =>
    let segment ← p.transport?
    let payload ← p.payload?
    match segment with
    | hi :: lo :: _ =>
      return d.runTransfer transfer (·.receive (Core.uplink ω) (word16 hi lo) payload)
    | _ => return (.ok (), d)

/-- Handles the expiry of the sink's timer, which is no longer armed. -/
def expire (d : Duty ω η φ) : Except NetError Unit × Duty ω η φ :=
  match d.sink.kind with
  | .arp =>
    let core := d.core.sweepArp
    let timer := Timer.arm core.now core.config.arpSweepInterval
    (.ok (), { d with sink := { d.sink with timer }, core })
  | .icmpEcho | .icmpUnreachable _ => (.ok (), d)
  | .dhcp client => d.runClient client (·.expire (Core.uplink ω))
  | .tftp transfer => d.runTransfer transfer (·.expire (Core.uplink ω))

end Duty

end PolledNet
