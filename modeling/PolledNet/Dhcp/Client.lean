import PolledNet.Core.Uplink

/-!
# The DHCP client

The client acquires an address and keeps it. It looks for servers, waits for an offer, requests the
address, holds it, and asks to keep it before the lease ends. All retries come from its one timer.
It never gives up: a refusal, a missing answer or the end of the lease leads back to discovery. The
wait for an offer doubles with every empty round, up to a limit.

The client runs on an interface of any state `σ` through an `Uplink`. Each handler is a step of a
`Session`: the client, its timer and the interface.
-/

namespace PolledNet

namespace Dhcp

/-- The first wait for an offer. -/
def initialBackoff : Tick := Tick.ofSeconds 2

/-- The longest wait for an offer. -/
def maxBackoff : Tick := Tick.ofSeconds 120

/-- How long a request waits for its answer. -/
def requestTimeout : Tick := Tick.ofSeconds 4

end Dhcp

/-- A DHCP client. -/
structure DhcpClient where
  /-- Where it is. -/
  state : DhcpState := .discover
  /-- Our hardware address. -/
  mac : Mac
  /-- What ties answers to the present round. -/
  xid : UInt32
  /-- The offer being requested, or the lease held. -/
  lease : Option Lease := none
  /-- How long the present round waits for an offer. -/
  backoff : Tick := Dhcp.initialBackoff
  /-- Renewal requests sent for the present lease. -/
  renewAttempts : UInt32 := 0
  deriving DecidableEq, Repr

namespace DhcpClient

/-- A client that has not started. -/
def ofMac (mac : Mac) : DhcpClient := { mac, xid := word32 mac.o2 mac.o3 mac.o4 mac.o5 }

/-- The transaction number of the round after `xid` that starts at `now`. -/
def nextXid (xid : UInt32) (now : Tick) : UInt32 := (xid * 1103515245 + 12345) ^^^ now

/-- A client with its timer and the interface it runs on. -/
structure Session (σ : Type) where
  /-- The client. -/
  client : DhcpClient
  /-- Its timer. -/
  timer : Timer
  /-- The interface. -/
  link : σ

namespace Session

variable {σ : Type} (up : Uplink σ)

/-- Tells the operator. -/
def tell (s : Session σ) (e : DhcpEvent) : Session σ := { s with link := up.tell (.dhcp e) s.link }

/-- Arms the timer for `delay` ticks from now. -/
def arm (s : Session σ) (delay : Tick) : Session σ :=
  { s with timer := Timer.arm (up.now s.link) delay }

/-- Sends a message to all servers. -/
def send (s : Session σ) (m : DhcpMessage) : Except NetError Unit × Session σ :=
  let (answer, link) := up.send Dhcp.clientPort Ipv4.allOnes Dhcp.serverPort m.octets s.link
  (answer, { s with link })

/-- Starts a round: forgets the lease and looks for servers. -/
def discover (s : Session σ) : Except NetError Unit × Session σ :=
  let xid := nextXid s.client.xid (up.now s.link)
  let s := { s with client := { s.client with state := .select, lease := none, xid } }
  let s := (s.tell up (.discovering xid)).arm up s.client.backoff
  s.send up { type := .discover, xid, clientMac := s.client.mac }

/-- Starts acquisition from scratch. -/
def start (s : Session σ) : Except NetError Unit × Session σ :=
  { s with client := { s.client with backoff := Dhcp.initialBackoff } }.discover up

/-- Asks for the leased address; a client that renews already uses it. -/
def request (s : Session σ) : Except NetError Unit × Session σ :=
  match s.client.lease with
  | none => (.ok (), s)
  | some lease =>
    let m : DhcpMessage :=
      { type := .request, xid := s.client.xid, clientMac := s.client.mac
        serverId := some lease.serverId }
    let m :=
      if s.client.state = .renew then { m with clientAddress := lease.address }
      else { m with requestedAddress := some lease.address }
    (s.tell up (.requesting lease.address lease.serverId)).send up m

/-! ## Answers -/

/-- Takes up an offer, or refuses it and waits on. -/
def receiveOffer (s : Session σ) (m : DhcpMessage) : Except NetError Unit × Session σ :=
  match Lease.ofOffer m with
  | .error reason => (.ok (), s.tell up (.rejecting m.offeredAddress reason))
  | .ok lease =>
    let s := s.tell up (.accepting lease.address lease.serverId)
    let client :=
      { s.client with lease := some lease, backoff := Dhcp.initialBackoff, state := .request }
    ({ s with client }.arm up Dhcp.requestTimeout).request up

/-- Configures the interface from the lease, whose time is the one just acknowledged, if any is. -/
def bind (s : Session σ) (m : DhcpMessage) : Session σ :=
  match s.client.lease with
  | none => s
  | some lease =>
    let lease := { lease with seconds := m.leaseSeconds.getD lease.seconds }
    let renewing := s.client.state = .renew
    let client := { s.client with lease := some lease, state := .bound, renewAttempts := 0 }
    let s := { s with client, link := up.configure lease.interfaceConfig s.link }
    (s.arm up lease.renewAfter).tell up
      (if renewing then .renewed lease.address lease.seconds else .bound lease)

/-- Starts again after a refusal. An address in use is given back first. -/
def receiveNak (s : Session σ) : Except NetError Unit × Session σ :=
  let s := s.tell up .refused
  let s :=
    if s.client.state = .renew then
      { s with link := up.configure InterfaceConfig.unconfigured s.link }
    else s
  s.discover up

/-- Whether a message answers the present round. -/
def isAnswer (client : DhcpClient) (m : DhcpMessage) : Bool :=
  m.op = Dhcp.bootReply && m.xid = client.xid && m.clientMac = client.mac

/-- Handles a received datagram. -/
def receive (s : Session σ) (payload : Bytes) : Except NetError Unit × Session σ :=
  match DhcpMessage.parse payload with
  | .error e =>
    let s := s.tell up (.malformed e)
    (.ok (), { s with link := up.countMalformed s.link })
  | .ok m =>
    if !isAnswer s.client m then (.ok (), s.tell up (.foreign m.type m.xid))
    else
      match s.client.state, m.type with
      | .select, .offer => s.receiveOffer up m
      | .request, .ack | .renew, .ack => (.ok (), s.bind up m)
      | .request, .nak | .renew, .nak => s.receiveNak up
      | state, type => (.ok (), s.tell up (.unexpected type state))

/-! ## Expiry -/

/-- Sends a renewal request and waits for its answer. -/
def renew (s : Session σ) (attempts : UInt32) : Except NetError Unit × Session σ :=
  let client := { s.client with state := .renew, renewAttempts := attempts }
  ({ s with client }.arm up (Tick.ofSeconds Dhcp.renewIntervalSeconds)).request up

/-- Gives the lease up after the last renewal request went unanswered. -/
def loseLease (s : Session σ) : Except NetError Unit × Session σ :=
  let s := s.tell up (.leaseLost s.client.renewAttempts)
  { s with
    client := { s.client with backoff := Dhcp.initialBackoff }
    link := up.configure InterfaceConfig.unconfigured s.link }.discover up

/-- Handles the expiry of the timer, which is no longer armed. -/
def expire (s : Session σ) : Except NetError Unit × Session σ :=
  match s.client.state with
  | .discover => s.discover up
  | .select =>
    let backoff := min (s.client.backoff * 2) Dhcp.maxBackoff
    let s := { s with client := { s.client with backoff } }
    (s.tell up (.backingOff backoff)).discover up
  | .request => (s.tell up .unanswered).discover up
  | .bound => s.renew up 1
  | .renew =>
    if s.client.renewAttempts ≥ Dhcp.renewRetries then s.loseLease up
    else s.renew up (s.client.renewAttempts + 1)

end Session

end DhcpClient

end PolledNet
