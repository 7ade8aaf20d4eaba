import PolledNet.Proofs.Access.Bindings
import PolledNet.Proofs.Access.Building
import PolledNet.Proofs.Access.Outbound
import PolledNet.Proofs.Core.Activity

/-!
# Checked sending

What is sent is built, decided on, and parked or handed over, and parked packets are retried. All
that the core has to keep for this to go through is one binding for each address and room for an
address in every parked packet (`Core.Sane`). Whatever is done to the core keeps both
(`Core.sane_act`).
-/

namespace PolledNet

namespace Core

variable {ω : Type} {c c' : Core ω}

/-! ## What the core keeps -/

/-- The bindings and the parked packets are fit for use. -/
structure Sane (c : Core ω) : Prop where
  arp : c.arp.Distinct
  parked : ∀ p ∈ c.parked, Packet.addressSize ≤ p.data.length

/-- What reaches neither of them. -/
theorem Sane.of_eq (sane : c.Sane) (arp : c'.arp = c.arp) (parked : c'.parked = c.parked) :
    c'.Sane :=
  ⟨arp ▸ sane.arp, parked ▸ sane.parked⟩

/-- A packet with room for a destination may be parked. -/
theorem Sane.park (sane : c.Sane) {p : Packet} (holds : Packet.addressSize ≤ p.data.length) :
    (c.park p).Sane := by
  refine ⟨sane.arp, ?_⟩
  intro q mem
  rcases List.mem_append.mp mem with old | new
  · exact sane.parked q old
  · rw [List.mem_singleton.mp new]
    exact holds

/-- Sending a frame keeps a core sane. -/
theorem Sane.sendFrame (sane : c.Sane) (p : Packet) : (c.sendFrame p).2.Sane := by
  have sent := c.sendFrame_sent p
  exact sane.of_eq sent.arp sent.parked

/-- Sending an ARP request keeps a core sane. -/
theorem Sane.sendArpRequest (sane : c.Sane) (target : Ipv4) : (c.sendArpRequest target).2.Sane :=
  Sane.sendFrame (c := c.tell _) (sane.of_eq rfl rfl) _

/-- Asking for the hardware address of a next hop keeps a core sane. -/
theorem Sane.advanceResolution (sane : c.Sane) (now : Tick) (hop : Ipv4) :
    (c.advanceResolution now hop).2.Sane :=
  ⟨sane.arp.resolve hop now _, sane.parked⟩

/-- Settling a packet with room for a destination keeps a core sane. -/
theorem Sane.settle (sane : c.Sane) {p : Packet} (holds : Packet.addressSize ≤ p.data.length)
    (hop : Ipv4) (resolution : Resolution) (failed : Except NetError Unit) :
    (c.settle p hop resolution failed).2.Sane := by
  cases resolution with
  | hit mac => exact sane.sendFrame _
  | sendRequest => exact (sane.park holds).sendArpRequest hop
  | wait => exact sane.park holds
  | fail => exact sane.of_eq rfl rfl

/-- Transmitting a packet keeps a core sane. -/
theorem Sane.transmitIpv4 (sane : c.Sane) (p : Packet) : (c.transmitIpv4 p).2.Sane := by
  rw [Core.transmitIpv4_eq]
  split
  · exact sane.of_eq rfl rfl
  · exact sane
  · exact sane.sendFrame _
  · rename_i resolves
    exact (sane.advanceResolution _ _).settle (Packet.addressSize_le_of_disposition resolves) _ _ _

/-- Retrying a packet with room for a destination keeps a core sane. -/
theorem Sane.retried (sane : c.Sane) {now : Tick} {failed failed' : List Ipv4} {p : Packet}
    (holds : Packet.addressSize ≤ p.data.length) (step : Retried now c failed p c' failed') :
    c'.Sane := by
  cases step with
  | aimless => exact sane
  | dropped => exact sane.of_eq rfl rfl
  | @retried hop _ next hope told =>
    have settled :=
      (sane.advanceResolution now hop).settle holds hop (c.resolution now hop) (.ok ())
    rcases told with rfl | ⟨e, rfl⟩
    · exact settled
    · exact settled.of_eq rfl rfl

/-- Retrying packets with room for a destination keeps a core sane. -/
theorem Sane.retryParked {packets : List Packet} (sane : c.Sane)
    (hold : ∀ p ∈ packets, Packet.addressSize ≤ p.data.length) (now : Tick) (failed : List Ipv4) :
    (retryParked now c failed packets).Sane := by
  induction packets generalizing c failed with
  | nil => exact sane
  | cons p rest ih =>
    obtain ⟨c', failed', step, eq⟩ := retryParked_cons now c failed p rest
    rw [eq]
    exact ih (sane.retried (hold p List.mem_cons_self) step)
      (fun q mem => hold q (List.mem_cons_of_mem p mem)) failed'

/-- Retrying all parked packets keeps a core sane. -/
theorem Sane.serviceParked (sane : c.Sane) : c.serviceParked.Sane :=
  Sane.retryParked (c := { c with parked := [] }) ⟨sane.arp, nofun⟩ sane.parked _ _

/-- Handing a packet to the device keeps a core sane. -/
theorem Sane.handOver (sane : c.Sane) (p : Packet) : (c.handOver p).2.Sane := by
  unfold Core.handOver
  split <;> exact sane.of_eq rfl rfl

/-- Flushing the backlog keeps a core sane. -/
theorem Sane.flush (sane : c.Sane) (frames : List Packet) : (c.flush frames).Sane := by
  induction frames generalizing c with
  | nil => exact sane.of_eq rfl rfl
  | cons p rest ih =>
    unfold Core.flush
    split
    · have handed := sane.handOver p
      split <;> rename_i eq <;> rw [eq] at handed
      · exact ih handed
      · exact ih (handed.of_eq rfl rfl)
    · exact sane.of_eq rfl rfl

/-- **Every act keeps the core sane.** -/
theorem sane_act (sane : c.Sane) (a : Act ω) : (c.act a).Sane := by
  cases a with
  | learn a mac => exact ⟨sane.arp.insert _, sane.parked⟩
  | sweep => exact ⟨sane.arp.filter _, sane.parked⟩
  | sendFrame p => exact sane.sendFrame p
  | transmit p => exact sane.transmitIpv4 p
  | retry => exact sane.serviceParked
  | flush => exact sane.flush _
  | tell | count | identify | receive | service | configure | elapse => exact sane.of_eq rfl rfl

/-- A core stays sane whatever it is led to. -/
theorem Leads.sane {Kind : Act ω → Prop} (leads : Leads Kind c c') (sane : c.Sane) : c'.Sane :=
  leads.keeps Sane (fun _ a _ sane => sane_act sane a) sane

/-! ## Next hops -/

/-- Asks who has an address. -/
def checkedSendArpRequest (c : Core ω) (target : Ipv4) :
    Except Fault (Except NetError Unit × Core ω) := do
  let c := c.tell (.arp (.asking target c.iface.address))
  let request ← (ArpMessage.request c.mac c.iface.address target).checkedPacket Mac.broadcast
  return c.sendFrame request

/-- An ARP request is sent without a fault. -/
theorem checkedSendArpRequest_eq (c : Core ω) (target : Ipv4) :
    c.checkedSendArpRequest target = .ok (c.sendArpRequest target) := by
  unfold checkedSendArpRequest
  dsimp only
  rw [ArpMessage.checkedPacket_eq]
  rfl

/-- Advances the resolution of a next hop at `now`. -/
def checkedAdvanceResolution (c : Core ω) (now : Tick) (hop : Ipv4) :
    Except Fault (Resolution × Core ω) := do
  let (r, arp) ← c.arp.checkedResolve hop now c.config.arpRetryInterval
  return (r, { c with arp })

/-- A sane core resolves a next hop without a fault. -/
theorem checkedAdvanceResolution_eq (sane : c.Sane) (now : Tick) (hop : Ipv4) :
    c.checkedAdvanceResolution now hop = .ok (c.advanceResolution now hop) := by
  unfold checkedAdvanceResolution
  rw [ArpCache.checkedResolve_eq sane.arp]
  rfl

/-- Acts on the state of a packet's next hop. -/
def checkedSettle (c : Core ω) (p : Packet) (hop : Ipv4) (resolution : Resolution)
    (failed : Except NetError Unit) : Except Fault (Except NetError Unit × Core ω) :=
  match resolution with
  | .hit mac => do return c.sendFrame (← p.checkedAddressedTo mac)
  | .sendRequest => (c.park p).checkedSendArpRequest hop
  | .wait => .ok (.ok (), c.park p)
  | .fail => .ok (failed, (c.tell (.arp (.unanswered hop))).countUnanswered)

/-- A packet with room for a destination is settled without a fault. -/
theorem checkedSettle_eq (c : Core ω) {p : Packet} (holds : Packet.addressSize ≤ p.data.length)
    (hop : Ipv4) (resolution : Resolution) (failed : Except NetError Unit) :
    c.checkedSettle p hop resolution failed = .ok (c.settle p hop resolution failed) := by
  cases resolution with
  | hit mac =>
    unfold checkedSettle
    dsimp only
    rw [Packet.checkedAddressedTo_eq holds]
    rfl
  | sendRequest => exact checkedSendArpRequest_eq _ hop
  | wait => rfl
  | fail => rfl

/-! ## Packets -/

/-- Sends a packet by way of its next hop. -/
def checkedSendVia (c : Core ω) (p : Packet) (hop : Ipv4) :
    Except Fault (Except NetError Unit × Core ω) := do
  let (resolution, c) ← c.checkedAdvanceResolution c.now hop
  c.checkedSettle p hop resolution (.error (.arpFailed hop))

/-- Sends an IPv4 packet. -/
def checkedTransmitIpv4 (c : Core ω) (p : Packet) :
    Except Fault (Except NetError Unit × Core ω) := do
  match ← p.checkedDisposition c.iface with
  | .barred =>
    return (.error .notConfigured, c.count fun s => { s with txRefused := s.txRefused + 1 })
  | .refused cause => return (.error cause, c)
  | .send p => return c.sendFrame p
  | .resolve hop p => c.checkedSendVia p hop

/-- A sane core transmits a packet without a fault. -/
theorem checkedTransmitIpv4_eq (sane : c.Sane) (p : Packet) :
    c.checkedTransmitIpv4 p = .ok (c.transmitIpv4 p) := by
  rw [checkedTransmitIpv4, Core.transmitIpv4_eq, Packet.checkedDisposition_eq, ok_bind]
  cases disposition : p.disposition c.iface with
  | barred => rfl
  | refused cause => rfl
  | send p => rfl
  | resolve hop p =>
    have holds := Packet.addressSize_le_of_disposition disposition
    dsimp only
    rw [checkedSendVia, checkedAdvanceResolution_eq sane, ok_bind]
    exact checkedSettle_eq _ holds _ _ _

/-- Sends a packet. -/
def checkedTransmit (c : Core ω) (p : Packet) :
    Except Fault (Except NetError Unit × Core ω) := do
  let ethertype ← p.ethertype?
  if ethertype = Ethernet.typeIpv4 then c.checkedTransmitIpv4 p else return c.sendFrame p

/-- A packet that has an Ethernet header can be sent. -/
theorem checkedTransmit_eq (sane : c.Sane) {p : Packet} {ethertype : UInt16}
    (read : p.ethertype? = .ok ethertype) :
    c.checkedTransmit p =
      .ok (if ethertype = Ethernet.typeIpv4 then c.transmitIpv4 p else c.sendFrame p) := by
  unfold checkedTransmit
  rw [read, ok_bind]
  exact ite_ok (fun _ => checkedTransmitIpv4_eq sane p) fun _ => rfl

/-- Sends a datagram from our address. -/
def checkedSendDatagram (c : Core ω) (sourcePort : UInt16) (dest : Ipv4) (destPort : UInt16)
    (payload : Bytes) : Except Fault (Except NetError Unit × Core ω) := do
  let (identification, c) := c.nextIdentification
  let ends : Endpoints := ⟨c.mac, c.iface.address, sourcePort, dest, destPort⟩
  c.checkedTransmit (← ends.checkedDatagram identification payload)

/-- A datagram is an IPv4 packet. -/
theorem ethertype?_datagram (ends : Endpoints) (identification : UInt16) (payload : Bytes) :
    (ends.datagram identification payload).ethertype? = .ok Ethernet.typeIpv4 :=
  congrArg Except.ok (word16_octets16 Ethernet.typeIpv4)

/-- **Datagrams of any content can be sent.** -/
theorem checkedSendDatagram_eq (sane : c.Sane) (sourcePort : UInt16) (dest : Ipv4)
    (destPort : UInt16) (payload : Bytes) :
    c.checkedSendDatagram sourcePort dest destPort payload =
      .ok (c.sendDatagram sourcePort dest destPort payload) := by
  have next : c.nextIdentification.2.Sane := sane.of_eq rfl rfl
  unfold checkedSendDatagram
  dsimp only
  rw [Endpoints.checkedDatagram_eq, ok_bind, checkedTransmit_eq next (ethertype?_datagram _ _ _),
    if_pos rfl]
  rfl

/-! ## Parked packets -/

/-- Retries the next hop of one packet. -/
def checkedRetryOne (now : Tick) (c : Core ω) (failed : List Ipv4) (p : Packet) :
    Except Fault (Core ω × List Ipv4) :=
  match p.nextHop with
  | none => .ok (c, failed)
  | some hop =>
    if failed.contains hop then .ok (c.countUnanswered, failed)
    else do
      let (resolution, c) ← c.checkedAdvanceResolution now hop
      let failed := if resolution = .fail then hop :: failed else failed
      match ← c.checkedSettle p hop resolution (.ok ()) with
      | (.ok (), c) => return (c, failed)
      | (.error e, c) => return (c.tell (.arp (.sendFailed hop e)), failed)

/-- A sane core retries a parked packet without a fault. -/
theorem checkedRetryOne_eq (sane : c.Sane) (holds : Packet.addressSize ≤ p.data.length) (now : Tick)
    (failed : List Ipv4) :
    c.checkedRetryOne now failed p = .ok (c.retryOne now failed p) := by
  unfold checkedRetryOne retryOne retryErrand
  cases p.nextHop with
  | none => rfl
  | some hop =>
    by_cases gone : failed.contains hop = true
    · dsimp only
      rw [if_pos gone, if_pos gone]
      rfl
    · dsimp only
      rw [if_neg gone, if_neg gone, checkedAdvanceResolution_eq sane, ok_bind]
      dsimp only
      rw [checkedSettle_eq _ holds, ok_bind, settle]
      dsimp only
      generalize perform _ _ = done
      obtain ⟨answer, c'⟩ := done
      cases answer <;> rfl

/-- Retries the next hop of each packet in turn. -/
def checkedRetryParked (now : Tick) (c : Core ω) (failed : List Ipv4) :
    List Packet → Except Fault (Core ω)
  | [] => .ok c
  | p :: rest => do
    let (c, failed) ← c.checkedRetryOne now failed p
    checkedRetryParked now c failed rest

/-- A sane core retries a list of parked packets without a fault. -/
theorem checkedRetryParked_eq {packets : List Packet} (sane : c.Sane)
    (hold : ∀ p ∈ packets, Packet.addressSize ≤ p.data.length) (now : Tick) (failed : List Ipv4) :
    checkedRetryParked now c failed packets = .ok (Core.retryParked now c failed packets) := by
  induction packets generalizing c failed with
  | nil => rfl
  | cons p rest ih =>
    have holds := hold p List.mem_cons_self
    have others := fun q mem => hold q (List.mem_cons_of_mem p mem)
    rw [checkedRetryParked, checkedRetryOne_eq sane holds, ok_bind]
    exact ih (sane.retried holds (c.retried_retryOne now failed p)) others _

/-- Retries the next hop of every parked packet. -/
def checkedServiceParked (c : Core ω) : Except Fault (Core ω) :=
  checkedRetryParked c.now { c with parked := [] } [] c.parked

/-- A sane core retries all its parked packets without a fault. -/
theorem checkedServiceParked_eq (sane : c.Sane) :
    c.checkedServiceParked = .ok c.serviceParked :=
  checkedRetryParked_eq (c := { c with parked := [] }) ⟨sane.arp, nofun⟩ sane.parked _ _

end Core

end PolledNet
