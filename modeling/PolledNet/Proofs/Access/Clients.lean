import PolledNet.Proofs.Access.Messages
import PolledNet.Proofs.Access.Sending
import PolledNet.Proofs.Core.Services
import PolledNet.Proofs.Dhcp.Conduct

/-!
# The checked DHCP client

A client reads what it receives and sends through its interface. On an interface that can always
send (`CheckedUplink.Sound`), which the core of a stack is as long as it is sane
(`Core.sound_checkedUplink`), the DHCP client never faults, whatever it receives
(`DhcpClient.Session.checkedReceive_eq`) and whenever its timer expires
(`DhcpClient.Session.checkedExpire_eq`).
-/

namespace PolledNet

/-! ## Interfaces -/

/-- An interface together with its sending spelled out. -/
structure CheckedUplink (σ : Type) extends Uplink σ where
  /-- Sends a datagram from our address: port of the sender, receiver, its port, content. -/
  checkedSend : UInt16 → Ipv4 → UInt16 → Bytes → σ → Except Fault (Except NetError Unit × σ)

/-- An interface in a `Good` state can send anything, and it stays so whatever is asked of it. -/
structure CheckedUplink.Sound {σ : Type} (up : CheckedUplink σ) (Good : σ → Prop) : Prop where
  keeps : up.MovesFreely fun s s' => Good s → Good s'
  sends {s : σ} (good : Good s) (sourcePort : UInt16) (dest : Ipv4) (destPort : UInt16)
    (content : Bytes) : up.checkedSend sourcePort dest destPort content s =
      .ok (up.send sourcePort dest destPort content s)

/-- The core of the stack as clients see it. -/
def Core.checkedUplink (ω : Type) : CheckedUplink (Core ω) where
  toUplink := Core.uplink ω
  checkedSend sourcePort dest destPort payload c :=
    c.checkedSendDatagram sourcePort dest destPort payload

/-- A core without faults is sound as an interface. -/
theorem Core.sound_checkedUplink (ω : Type) : (Core.checkedUplink ω).Sound Core.Sane := by
  have moves : (Core.uplink ω).MovesFreely (Leads fun _ => True) :=
    movesFreely_of_plain (fun _ _ => trivial) fun _ => trivial
  refine ⟨⟨⟨fun _ => id, fun first second => second ∘ first, ?_, ?_, ?_⟩, ?_⟩, ?_⟩
  · exact fun e c => (moves.tell e c).sane
  · exact fun sourcePort dest destPort content c =>
      (moves.send sourcePort dest destPort content c).sane
  · exact fun c => (moves.countMalformed c).sane
  · exact fun iface c => (moves.configure iface c).sane
  · exact fun sane => checkedSendDatagram_eq sane

namespace DhcpClient

namespace Session

variable {σ : Type} (up : CheckedUplink σ)

/-! ## Requests -/

/-- Sends a message to all servers. -/
def checkedSend (s : Session σ) (m : DhcpMessage) :
    Except Fault (Except NetError Unit × Session σ) := do
  let (answer, link) ←
    up.checkedSend Dhcp.clientPort Ipv4.allOnes Dhcp.serverPort m.octets s.link
  return (answer, { s with link })

/-- Starts a round: forgets the lease and looks for servers. -/
def checkedDiscover (s : Session σ) : Except Fault (Except NetError Unit × Session σ) :=
  let xid := nextXid s.client.xid (up.now s.link)
  let s := { s with client := { s.client with state := .select, lease := none, xid } }
  let s := (s.tell up.toUplink (.discovering xid)).arm up.toUplink s.client.backoff
  s.checkedSend up { type := .discover, xid, clientMac := s.client.mac }

/-- Asks for the leased address; a client that renews already uses it. -/
def checkedRequest (s : Session σ) : Except Fault (Except NetError Unit × Session σ) :=
  match s.client.lease with
  | none => .ok (.ok (), s)
  | some lease =>
    let m : DhcpMessage :=
      { type := .request, xid := s.client.xid, clientMac := s.client.mac
        serverId := some lease.serverId }
    let m :=
      if s.client.state = .renew then { m with clientAddress := lease.address }
      else { m with requestedAddress := some lease.address }
    (s.tell up.toUplink (.requesting lease.address lease.serverId)).checkedSend up m

/-! ## Answers -/

/-- Takes up an offer, or refuses it and waits on. -/
def checkedReceiveOffer (s : Session σ) (m : DhcpMessage) :
    Except Fault (Except NetError Unit × Session σ) :=
  match Lease.ofOffer m with
  | .error reason => .ok (.ok (), s.tell up.toUplink (.rejecting m.offeredAddress reason))
  | .ok lease =>
    let s := s.tell up.toUplink (.accepting lease.address lease.serverId)
    let client :=
      { s.client with lease := some lease, backoff := Dhcp.initialBackoff, state := .request }
    ({ s with client }.arm up.toUplink Dhcp.requestTimeout).checkedRequest up

/-- Starts again after a refusal. An address in use is given back first. -/
def checkedReceiveNak (s : Session σ) : Except Fault (Except NetError Unit × Session σ) :=
  let s := s.tell up.toUplink .refused
  let s :=
    if s.client.state = .renew then
      { s with link := up.configure InterfaceConfig.unconfigured s.link }
    else s
  s.checkedDiscover up

/-- Handles a received datagram. -/
def checkedReceive (s : Session σ) (payload : Bytes) :
    Except Fault (Except NetError Unit × Session σ) := do
  match ← DhcpMessage.checkedParse payload with
  | .error e =>
    let s := s.tell up.toUplink (.malformed e)
    return (.ok (), { s with link := up.countMalformed s.link })
  | .ok m =>
    if !isAnswer s.client m then return (.ok (), s.tell up.toUplink (.foreign m.type m.xid))
    else
      match s.client.state, m.type with
      | .select, .offer => s.checkedReceiveOffer up m
      | .request, .ack | .renew, .ack => return (.ok (), s.bind up.toUplink m)
      | .request, .nak | .renew, .nak => s.checkedReceiveNak up
      | state, type => return (.ok (), s.tell up.toUplink (.unexpected type state))

/-! ## Expiry -/

/-- Sends a renewal request and waits for its answer. -/
def checkedRenew (s : Session σ) (attempts : UInt32) :
    Except Fault (Except NetError Unit × Session σ) :=
  let client := { s.client with state := .renew, renewAttempts := attempts }
  ({ s with client }.arm up.toUplink (Tick.ofSeconds Dhcp.renewIntervalSeconds)).checkedRequest up

/-- Gives the lease up after the last renewal request went unanswered. -/
def checkedLoseLease (s : Session σ) : Except Fault (Except NetError Unit × Session σ) :=
  let s := s.tell up.toUplink (.leaseLost s.client.renewAttempts)
  { s with
    client := { s.client with backoff := Dhcp.initialBackoff }
    link := up.configure InterfaceConfig.unconfigured s.link }.checkedDiscover up

/-- Handles the expiry of the timer, which is no longer armed. -/
def checkedExpire (s : Session σ) : Except Fault (Except NetError Unit × Session σ) :=
  match s.client.state with
  | .discover => s.checkedDiscover up
  | .select =>
    let backoff := min (s.client.backoff * 2) Dhcp.maxBackoff
    let s := { s with client := { s.client with backoff } }
    (s.tell up.toUplink (.backingOff backoff)).checkedDiscover up
  | .request => (s.tell up.toUplink .unanswered).checkedDiscover up
  | .bound => s.checkedRenew up 1
  | .renew =>
    if s.client.renewAttempts ≥ Dhcp.renewRetries then s.checkedLoseLease up
    else s.checkedRenew up (s.client.renewAttempts + 1)

/-! ## No faults -/

section NoFaults

variable {up} {Good : σ → Prop} (sound : up.Sound Good) {s : Session σ} (good : Good s.link)

include sound good

/-- A message is sent without a fault. -/
theorem checkedSend_eq (m : DhcpMessage) :
    s.checkedSend up m = .ok (s.send up.toUplink m) := by
  unfold checkedSend
  rw [sound.sends good]
  rfl

/-- A search begins without a fault. -/
theorem checkedDiscover_eq : s.checkedDiscover up = .ok (s.discover up.toUplink) :=
  checkedSend_eq sound (sound.keeps.tell _ s.link good) _

/-- An address is asked for without a fault. -/
theorem checkedRequest_eq : s.checkedRequest up = .ok (s.request up.toUplink) := by
  unfold checkedRequest request
  cases s.client.lease with
  | none => rfl
  | some lease => exact checkedSend_eq sound (sound.keeps.tell _ s.link good) _

/-- An offer is handled without a fault. -/
theorem checkedReceiveOffer_eq (m : DhcpMessage) :
    s.checkedReceiveOffer up m = .ok (s.receiveOffer up.toUplink m) := by
  unfold checkedReceiveOffer receiveOffer
  cases Lease.ofOffer m with
  | error reason => rfl
  | ok lease => exact checkedRequest_eq sound (sound.keeps.tell _ s.link good)

/-- A refusal is handled without a fault. -/
theorem checkedReceiveNak_eq : s.checkedReceiveNak up = .ok (s.receiveNak up.toUplink) := by
  have told := sound.keeps.tell (.dhcp .refused) s.link good
  unfold checkedReceiveNak receiveNak
  apply checkedDiscover_eq sound
  split
  · exact sound.keeps.configure _ _ told
  · exact told

/-- **Whatever the client receives**, nothing outside it is looked at. -/
theorem checkedReceive_eq (payload : Bytes) :
    s.checkedReceive up payload = .ok (s.receive up.toUplink payload) := by
  unfold checkedReceive receive
  rw [DhcpMessage.checkedParse_eq, ok_bind]
  cases DhcpMessage.parse payload with
  | error e => rfl
  | ok m =>
    refine ite_ok (fun _ => rfl) fun _ => ?_
    have offer := checkedReceiveOffer_eq sound good m
    have nak := checkedReceiveNak_eq sound good
    cases s.client.state <;> cases m.type <;> first | exact offer | exact nak | rfl

/-- A lease is renewed without a fault. -/
theorem checkedRenew_eq (attempts : UInt32) :
    s.checkedRenew up attempts = .ok (s.renew up.toUplink attempts) :=
  checkedRequest_eq sound good

/-- A lease is lost without a fault. -/
theorem checkedLoseLease_eq : s.checkedLoseLease up = .ok (s.loseLease up.toUplink) :=
  checkedDiscover_eq sound (sound.keeps.configure _ _ (sound.keeps.tell _ s.link good))

/-- **Whenever the timer expires.** -/
theorem checkedExpire_eq : s.checkedExpire up = .ok (s.expire up.toUplink) := by
  unfold checkedExpire expire
  cases s.client.state with
  | discover => exact checkedDiscover_eq sound good
  | select => exact checkedDiscover_eq sound (sound.keeps.tell _ s.link good)
  | request => exact checkedDiscover_eq sound (sound.keeps.tell _ s.link good)
  | bound => exact checkedRenew_eq sound good 1
  | renew =>
    exact ite_ok (fun _ => checkedLoseLease_eq sound good) fun _ => checkedRenew_eq sound good _

end NoFaults

end Session

end DhcpClient

end PolledNet
