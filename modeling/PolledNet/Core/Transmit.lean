import PolledNet.Core.Outbound
import PolledNet.Core.State

/-!
# Sending

A frame that is fully addressed goes to the device, or behind the frames that already wait for it.
A packet whose next hop has to be resolved first is parked until the address is known or given up.
Packets that go to the device or wait count as sent.

Whatever is done about a packet comes in two parts: the core makes up its mind and is left with an
errand (`transmitErrand`, `retryErrand`), and then the errand is done (`perform`).
-/

namespace PolledNet.Core

variable {ω : Type}

/-! ## Frames -/

/-- Puts a frame behind those that wait for the device. -/
def enqueue (c : Core ω) (p : Packet) : Except NetError Unit × Core ω :=
  if c.backlog.length < c.backlogLimit then
    (.ok (), { c with backlog := c.backlog ++ [p] }.count fun s =>
      { s with txBacklogged := s.txBacklogged + 1 })
  else
    (.error .backlogFull, c.count fun s => { s with txBacklogDrops := s.txBacklogDrops + 1 })

/-- Hands a frame to the device. -/
def handOver (c : Core ω) (p : Packet) : Except TransmitError Unit × Core ω :=
  match c.device.transmit p.data c.hw with
  | (.ok (), hw) =>
    (.ok (), { c with hw }.count fun s => { s with txFrames := s.txFrames + 1 })
  | (.error e, hw) => (.error e, { c with hw })

/-- Sends a fully addressed frame, padded to the least length. It waits when others wait or when the
device has no room for it now. -/
def sendFrame (c : Core ω) (p : Packet) : Except NetError Unit × Core ω :=
  let p := p.padded
  if c.backlog.isEmpty && c.device.canTransmit c.hw then
    match c.handOver p with
    | (.ok (), c) => (.ok (), c)
    | (.error e, c) => if e.isTransient then c.enqueue p else (.error (.transmit e), c)
  else c.enqueue p

/-- Hands waiting frames to the device while it has room. A frame it then refuses is lost. -/
def flush (c : Core ω) : List Packet → Core ω
  | [] => { c with backlog := [] }
  | p :: rest =>
    if c.device.canTransmit c.hw then
      match c.handOver p with
      | (.ok (), c) => flush c rest
      | (.error e, c) =>
        let c := c.count fun s => { s with txBacklogDrops := s.txBacklogDrops + 1 }
        flush (c.tell (.frame (.dropped c.device.name e))) rest
    else { c with backlog := p :: rest }

/-- Hands the frames of the backlog to the device while it has room. -/
def flushBacklog (c : Core ω) : Core ω := c.flush c.backlog

/-- Does what is left to do about a packet. -/
def perform (c : Core ω) : Errand → Except NetError Unit × Core ω
  | .answer told => (told, c)
  | .send _ frame => c.sendFrame frame

/-! ## Next hops -/

/-- The errand to ask who has an address. -/
def arpErrand (c : Core ω) (target : Ipv4) : Errand × Core ω :=
  let c := c.tell (.arp (.asking target c.iface.address))
  (.send (.asking target)
    ((ArpMessage.request c.mac c.iface.address target).packet Mac.broadcast), c)

/-- Asks who has an address. -/
def sendArpRequest (c : Core ω) (target : Ipv4) : Except NetError Unit × Core ω :=
  let (errand, c) := c.arpErrand target
  c.perform errand

/-- Counts a packet dropped because its next hop did not answer. -/
def countUnanswered (c : Core ω) : Core ω :=
  c.count fun s => { s with arpFailures := s.arpFailures + 1 }

/-- Advances the resolution of a next hop at `now`. -/
def advanceResolution (c : Core ω) (now : Tick) (hop : Ipv4) : Resolution × Core ω :=
  let (r, arp) := c.arp.resolve hop now c.config.arpRetryInterval
  (r, { c with arp })

/-- Puts a packet behind those that wait for their next hop. -/
def park (c : Core ω) (p : Packet) : Core ω := { c with parked := c.parked ++ [p] }

/-- What the state of a packet's next hop leads to: it is sent, it is parked, or it is given up with
the error `failed`. -/
def settleErrand (c : Core ω) (p : Packet) (hop : Ipv4) (resolution : Resolution)
    (failed : Except NetError Unit) : Errand × Core ω :=
  match resolution with
  | .hit mac => (.send (.known p hop) (p.addressedTo mac), c)
  | .sendRequest => (c.park p).arpErrand hop
  | .wait => (.answer (.ok ()), c.park p)
  | .fail => (.answer failed, (c.tell (.arp (.unanswered hop))).countUnanswered)

/-- To make up its mind, the core does not touch the hardware. -/
theorem settleErrand_kept (c : Core ω) (p : Packet) (hop : Ipv4) (resolution : Resolution)
    (failed : Except NetError Unit) :
    (c.settleErrand p hop resolution failed).2.hw = c.hw ∧
      (c.settleErrand p hop resolution failed).2.device = c.device := by
  cases resolution <;> exact ⟨rfl, rfl⟩

/-- Acts on the state of a packet's next hop. -/
def settle (c : Core ω) (p : Packet) (hop : Ipv4) (resolution : Resolution)
    (failed : Except NetError Unit) : Except NetError Unit × Core ω :=
  let (errand, c) := c.settleErrand p hop resolution failed
  c.perform errand

section Settle

variable (c : Core ω) (p : Packet) (hop : Ipv4) (failed : Except NetError Unit)

/-- A packet for a known station is sent to it. -/
@[simp] theorem settle_hit (mac : Mac) :
    c.settle p hop (.hit mac) failed = c.sendFrame (p.addressedTo mac) := rfl

/-- A packet for a hop that has to be asked is parked, and the hop is asked. -/
@[simp] theorem settle_sendRequest :
    c.settle p hop .sendRequest failed = (c.park p).sendArpRequest hop := rfl

/-- A packet for a hop that was asked is parked. -/
@[simp] theorem settle_wait : c.settle p hop .wait failed = (.ok (), c.park p) := rfl

/-- A packet for a hop that does not answer is dropped, and the operator is told. -/
@[simp] theorem settle_fail :
    c.settle p hop .fail failed =
      (failed, (c.tell (.arp (.unanswered hop))).countUnanswered) := rfl

end Settle

/-- What sending a packet by way of its next hop leads to. -/
def viaErrand (c : Core ω) (p : Packet) (hop : Ipv4) : Errand × Core ω :=
  let (resolution, c) := c.advanceResolution c.now hop
  c.settleErrand p hop resolution (.error (.arpFailed hop))

/-- Sends a packet by way of its next hop. -/
def sendVia (c : Core ω) (p : Packet) (hop : Ipv4) : Except NetError Unit × Core ω :=
  let (errand, c) := c.viaErrand p hop
  c.perform errand

/-- What sending an IPv4 packet leads to. -/
def transmitErrand (c : Core ω) (p : Packet) : Errand × Core ω :=
  match p.disposition c.iface with
  | .barred =>
    (.answer (.error .notConfigured), c.count fun s => { s with txRefused := s.txRefused + 1 })
  | .refused cause => (.answer (.error cause), c)
  | .send q => (.send (.direct p c.iface) q, c)
  | .resolve hop q => c.viaErrand q hop

/-- Sends an IPv4 packet. -/
def transmitIpv4 (c : Core ω) (p : Packet) : Except NetError Unit × Core ω :=
  let (errand, c) := c.transmitErrand p
  c.perform errand

/-- What sending an IPv4 packet does, by what becomes of it. -/
theorem transmitIpv4_eq (c : Core ω) (p : Packet) :
    c.transmitIpv4 p =
      match p.disposition c.iface with
      | .barred => (.error .notConfigured, c.count fun s => { s with txRefused := s.txRefused + 1 })
      | .refused cause => (.error cause, c)
      | .send q => c.sendFrame q
      | .resolve hop q => c.sendVia q hop := by
  rw [transmitIpv4, transmitErrand]
  cases p.disposition c.iface <;> rfl

/-- Sends a packet. What is not IPv4 must be fully addressed. -/
def transmit (c : Core ω) (p : Packet) : Except Fault (Except NetError Unit × Core ω) := do
  let ethertype ← p.ethertype?
  return if ethertype = Ethernet.typeIpv4 then c.transmitIpv4 p else c.sendFrame p

/-! ## Parked packets -/

/-- What a pass leads to for a packet with its next hop, after it has given up the hops `failed`.
Once a next hop is given up, all other packets for it are dropped in the same pass; they start no
new resolution. -/
def retryErrand (now : Tick) (c : Core ω) (failed : List Ipv4) (p : Packet) (hop : Ipv4) :
    Errand × Core ω × List Ipv4 :=
  if failed.contains hop then (.answer (.ok ()), c.countUnanswered, failed)
  else
    let (resolution, c) := c.advanceResolution now hop
    let (errand, c) := c.settleErrand p hop resolution (.ok ())
    (errand, c, if resolution = .fail then hop :: failed else failed)

/-- Retries the next hop of one packet. The operator is told when it cannot be sent. -/
def retryOne (now : Tick) (c : Core ω) (failed : List Ipv4) (p : Packet) : Core ω × List Ipv4 :=
  match p.nextHop with
  | none => (c, failed)
  | some hop =>
    let (errand, c, failed) := c.retryErrand now failed p hop
    match c.perform errand with
    | (.ok (), c) => (c, failed)
    | (.error e, c) => (c.tell (.arp (.sendFailed hop e)), failed)

/-- Retries the next hop of each packet in turn. The whole pass happens at `now`. -/
def retryParked (now : Tick) (c : Core ω) (failed : List Ipv4) : List Packet → Core ω
  | [] => c
  | p :: rest =>
    let (c, failed) := c.retryOne now failed p
    retryParked now c failed rest

/-- Retries the next hop of every parked packet. -/
def serviceParked (c : Core ω) : Core ω := retryParked c.now { c with parked := [] } [] c.parked

/-! ## Datagrams -/

/-- The datagram from our address. -/
def datagram (c : Core ω) (sourcePort : UInt16) (dest : Ipv4) (destPort : UInt16)
    (payload : Bytes) : Packet × Core ω :=
  let (identification, c) := c.nextIdentification
  let ends : Endpoints := ⟨c.mac, c.iface.address, sourcePort, dest, destPort⟩
  (ends.datagram identification payload, c)

/-- The datagram that answers what a filter selects: from its local side to its remote side. None
unless the filter fixes both ports and the remote address. -/
def datagramFor? (c : Core ω) (f : Filter) (payload : Bytes) : Option (Packet × Core ω) :=
  match f.localPort, f.remoteAddress, f.remotePort with
  | some sourcePort, some dest, some destPort =>
    let (identification, c) := c.nextIdentification
    let source := f.localAddress.getD c.iface.address
    let ends : Endpoints := ⟨c.mac, source, sourcePort, dest, destPort⟩
    some (ends.datagram identification payload, c)
  | _, _, _ => none

/-- Sends a datagram from our address. -/
def sendDatagram (c : Core ω) (sourcePort : UInt16) (dest : Ipv4) (destPort : UInt16)
    (payload : Bytes) : Except NetError Unit × Core ω :=
  let (p, c) := c.datagram sourcePort dest destPort payload
  c.transmitIpv4 p

end PolledNet.Core
