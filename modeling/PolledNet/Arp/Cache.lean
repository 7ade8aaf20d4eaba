import PolledNet.Inet.Address
import PolledNet.Link.Mac
import PolledNet.Time

/-!
# The ARP cache

Bindings of IPv4 addresses to hardware addresses, in the order they were first met. An entry is
either *valid* until its stamp, or *resolving*: a request is out, its stamp is when the next one is
due, and after `maxTries` unanswered requests the entry is removed.

Only resolving an address advances or removes a resolving entry; sweeping removes valid entries
that have expired. The cache is a map: no address has two entries, and the operations on one
address leave the entries of all others alone.
-/

namespace PolledNet

namespace Arp

/-- Requests sent for one address before it is given up. -/
def maxTries : Nat := 4

end Arp

/-- How far the resolution of an address is. -/
inductive ArpState where
  /-- The hardware address is known. -/
  | valid
  /-- This many requests are out, unanswered. -/
  | resolving (attempt : Nat)
  deriving DecidableEq, Repr

/-- What the cache holds for one address. -/
structure ArpEntry where
  /-- The address. -/
  address : Ipv4
  /-- Its hardware address; while resolving, the last one known, or zero. -/
  mac : Mac
  /-- Whether the hardware address may be used. -/
  state : ArpState
  /-- Expiry when valid, next request when resolving. -/
  stamp : Tick
  deriving DecidableEq, Repr

/-- What to do with a packet whose next hop is being resolved. -/
inductive Resolution where
  /-- Send it to this station. -/
  | hit (mac : Mac)
  /-- Send a request and let the packet wait. -/
  | sendRequest
  /-- Let the packet wait for a request already out. -/
  | wait
  /-- Drop it: every request went unanswered, and the entry is gone. -/
  | fail
  deriving DecidableEq, Repr

/-- Whether an entry is valid but past its stamp. -/
def ArpEntry.isStale (e : ArpEntry) (now : Tick) : Bool :=
  e.state = .valid && Tick.reached now e.stamp

/-- Bindings of addresses to hardware addresses. -/
structure ArpCache where
  /-- The entries, oldest first. -/
  entries : List ArpEntry := []
  deriving DecidableEq, Repr

namespace ArpCache

/-- The cache without entries. -/
def empty : ArpCache := ⟨[]⟩

/-- The entry of an address. -/
def entry? (c : ArpCache) (a : Ipv4) : Option ArpEntry := c.entries.find? (·.address = a)

/-- The number of entries. -/
def size (c : ArpCache) : Nat := c.entries.length

/-- Whether there are no entries. -/
def isEmpty (c : ArpCache) : Bool := c.entries.isEmpty

/-- The cache with an entry in place of the one of the same address, or behind all others. -/
def insert (c : ArpCache) (e : ArpEntry) : ArpCache :=
  ⟨if c.entries.any (·.address = e.address) then
      c.entries.map fun old => if old.address = e.address then e else old
    else c.entries ++ [e]⟩

/-- The cache without the entry of an address. -/
def erase (c : ArpCache) (a : Ipv4) : ArpCache := ⟨c.entries.filter (·.address ≠ a)⟩

/-- The entry of an address for which another request goes out at `now`. -/
def request (a : Ipv4) (mac : Mac) (attempt : Nat) (now retry : Tick) : ArpEntry :=
  ⟨a, mac, .resolving attempt, Tick.deadline now retry⟩

/-- Advances the resolution of `a` and says what to do with a packet for it. -/
def resolve (c : ArpCache) (a : Ipv4) (now retry : Tick) : Resolution × ArpCache :=
  match c.entry? a with
  | none => (.sendRequest, c.insert (request a Mac.zero 1 now retry))
  | some e =>
    match e.state with
    | .valid =>
      if Tick.reached now e.stamp then (.sendRequest, c.insert (request a e.mac 1 now retry))
      else (.hit e.mac, c)
    | .resolving attempt =>
      if !Tick.reached now e.stamp then (.wait, c)
      else if attempt < Arp.maxTries then
        (.sendRequest, c.insert (request a e.mac (attempt + 1) now retry))
      else (.fail, c.erase a)

/-- Records a binding heard on the wire, whatever was known before. -/
def learn (c : ArpCache) (a : Ipv4) (mac : Mac) (now ttl : Tick) : ArpCache :=
  c.insert ⟨a, mac, .valid, Tick.deadline now ttl⟩

/-- The hardware address of `a` if it is known at `now`; starts no resolution. -/
def lookup? (c : ArpCache) (a : Ipv4) (now : Tick) : Option Mac :=
  (c.entries.find? fun e => e.address = a && e.state = .valid && !Tick.reached now e.stamp).map
    (·.mac)

/-- Removes the valid entries that have expired, and counts them. -/
def sweep (c : ArpCache) (now : Tick) : Nat × ArpCache :=
  let kept := c.entries.filter fun e => !e.isStale now
  (c.entries.length - kept.length, ⟨kept⟩)

end ArpCache

end PolledNet
