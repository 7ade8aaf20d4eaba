import PolledNet.Config
import PolledNet.Dhcp.Message

/-!
# Leases

What a server offers, and when it has to be asked for again. The first renewal is early enough for
all renewal requests to go out before the lease ends.
-/

namespace PolledNet

namespace Dhcp

/-- Seconds below which an offer is refused. -/
def minLeaseSeconds : UInt32 := 180

/-- Renewal requests sent before the lease is given up. -/
def renewRetries : UInt32 := 5

/-- Seconds between two renewal requests. -/
def renewIntervalSeconds : UInt32 := 10

end Dhcp

/-- Why an offer is refused. -/
inductive OfferRefusal where
  | noAddress
  | noGateway
  | noNameServer
  | noServerId
  | noLeaseTime
  | leaseTooShort
  deriving DecidableEq, Repr

/-- What to tell the operator. -/
def OfferRefusal.message : OfferRefusal → String
  | .noAddress => "no address"
  | .noGateway => "no gateway"
  | .noNameServer => "no DNS server"
  | .noServerId => "no server identifier"
  | .noLeaseTime => "no lease time"
  | .leaseTooShort => "lease too short"

/-- What a server lends the client. -/
structure Lease where
  /-- The server. -/
  serverId : Ipv4
  /-- The address lent. -/
  address : Ipv4
  /-- The mask of its subnet. -/
  netmask : Ipv4
  /-- The router of its subnet. -/
  gateway : Ipv4
  /-- The name server. -/
  nameServer : Ipv4
  /-- Seconds the address may be used. -/
  seconds : UInt32
  deriving DecidableEq, Repr

namespace Lease

/-- The mask assumed when a server names none. -/
def defaultNetmask : Ipv4 := ⟨255, 255, 255, 0⟩

/-- The lease that an offer makes, if it carries all that booting without a disk needs. -/
def ofOffer (m : DhcpMessage) : Except OfferRefusal Lease :=
  if m.offeredAddress.isUnspecified then .error .noAddress
  else
    match m.router, m.nameServer, m.serverId, m.leaseSeconds with
    | none, _, _, _ => .error .noGateway
    | some _, none, _, _ => .error .noNameServer
    | some _, some _, none, _ => .error .noServerId
    | some _, some _, some _, none => .error .noLeaseTime
    | some gateway, some nameServer, some serverId, some seconds =>
      if seconds < Dhcp.minLeaseSeconds then .error .leaseTooShort
      else
        .ok { serverId, address := m.offeredAddress
              netmask := m.subnetMask.getD defaultNetmask, gateway, nameServer, seconds }

/-- Ticks from binding to the first renewal request. It leaves room for all renewal requests before
the lease ends, is at least a second, and is never longer than a timer can hold. -/
def renewAfter (l : Lease) : Tick :=
  let budget := Dhcp.renewRetries * Dhcp.renewIntervalSeconds
  let early := if l.seconds < budget then 0 else l.seconds - budget
  min (Tick.ofSeconds (max early 1)) Tick.maxDelay

/-- The interface that the lease configures. -/
def interfaceConfig (l : Lease) : InterfaceConfig :=
  ⟨l.address, l.netmask, some l.gateway, some l.nameServer⟩

end Lease

end PolledNet
