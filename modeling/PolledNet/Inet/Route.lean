import PolledNet.Inet.Address

/-!
# Routing over one interface

One subnet and at most one gateway. A destination on the subnet is its own next hop; any other is
reached through the gateway, if there is one.
-/

namespace PolledNet

/-- The routes of the interface. -/
structure Routes where
  /-- Our address. -/
  address : Ipv4
  /-- The mask of our subnet. -/
  netmask : Ipv4
  /-- Where packets for other subnets go. -/
  gateway : Option Ipv4
  deriving DecidableEq, Repr

namespace Routes

/-- Whether `dest` is on our subnet. -/
def isLocal (r : Routes) (dest : Ipv4) : Bool := r.address.and r.netmask = dest.and r.netmask

/-- The station to hand a packet for `dest` to; none when it is off the subnet and there is no
gateway. -/
def nextHop? (r : Routes) (dest : Ipv4) : Option Ipv4 :=
  if r.isLocal dest then some dest else r.gateway

/-- Whether `dest` is the limited broadcast or the directed broadcast of our subnet. A subnet of a
single address has no directed broadcast. -/
def isBroadcast (r : Routes) (dest : Ipv4) : Bool :=
  dest = Ipv4.allOnes ||
    (r.netmask ≠ Ipv4.allOnes && r.isLocal dest && dest.or r.netmask = Ipv4.allOnes)

end Routes

end PolledNet
