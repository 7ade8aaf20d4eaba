import PolledNet.Arp.Cache
import PolledNet.Log.Event

/-!
# The core of the stack

All that a service may touch while it handles a packet or a timer: the device and the clock, the
interface, the address bindings, the packets that wait, the counters and the log. The table of sinks
is kept apart from it, so that no service sees another.
-/

namespace PolledNet

/-- What the interface has counted since it came up. -/
structure Stats where
  /-- Frames taken from the device. -/
  rxFrames : Nat := 0
  /-- Frames for other stations. -/
  rxDroppedMac : Nat := 0
  /-- Datagrams whose IPv4 header does not sum up. -/
  rxBadIpChecksum : Nat := 0
  /-- Datagrams whose UDP or ICMP content does not sum up. -/
  rxBadTransportChecksum : Nat := 0
  /-- Frames that are not what they say. -/
  rxMalformed : Nat := 0
  /-- Fragments. -/
  rxFragments : Nat := 0
  /-- Frames that no sink wants. -/
  rxUnclaimed : Nat := 0
  /-- Frames handed to the device. -/
  txFrames : Nat := 0
  /-- Frames that had to wait for room in the device. -/
  txBacklogged : Nat := 0
  /-- Frames lost on the way to the device. -/
  txBacklogDrops : Nat := 0
  /-- Packets refused because there is no address to send them from. -/
  txRefused : Nat := 0
  /-- Packets dropped because their next hop did not answer. -/
  arpFailures : Nat := 0
  deriving DecidableEq, Repr

/-- The counters in their order: received, dropped on the way in, sent, lost on the way out. -/
def Stats.toList (s : Stats) : List Nat :=
  [s.rxFrames, s.rxDroppedMac, s.rxBadIpChecksum, s.rxBadTransportChecksum, s.rxMalformed,
    s.rxFragments, s.rxUnclaimed, s.txFrames, s.txBacklogged, s.txBacklogDrops, s.txRefused,
    s.arpFailures]

/-- All that a service may touch, on hardware of state `ω`. -/
structure Core (ω : Type) where
  /-- The network controller. -/
  device : Device ω
  /-- The clock. -/
  clock : ω → Tick
  /-- The present state of the hardware. -/
  hw : ω
  /-- The tunables. -/
  config : StackConfig
  /-- The addresses of the interface. -/
  iface : InterfaceConfig
  /-- Our hardware address. -/
  mac : Mac
  /-- The address bindings. -/
  arp : ArpCache := ArpCache.empty
  /-- Packets whose next hop is being resolved, oldest first. -/
  parked : List Packet := []
  /-- Frames for which the device had no room, oldest first. -/
  backlog : List Packet := []
  /-- The counters. -/
  stats : Stats := {}
  /-- The identification of the last datagram. -/
  identification : UInt16 := 0
  /-- What was told to the operator, last event first. -/
  log : List Event := []

namespace Core

variable {ω : Type}

/-- The present tick. -/
def now (c : Core ω) : Tick := c.clock c.hw

/-- Our address, if the interface has one. -/
def address? (c : Core ω) : Option Ipv4 := c.iface.address?

/-- Tells the operator. -/
def tell (c : Core ω) (e : Event) : Core ω := { c with log := e :: c.log }

/-- Counts. -/
def count (c : Core ω) (f : Stats → Stats) : Core ω := { c with stats := f c.stats }

/-- Counts a frame that is not what it says. -/
def countMalformed (c : Core ω) : Core ω :=
  c.count fun s => { s with rxMalformed := s.rxMalformed + 1 }

/-- Most frames that wait for the device. -/
def backlogLimit (c : Core ω) : Nat := max c.config.backlogCapacity 1

/-- Changes the addresses of the interface. -/
def configure (c : Core ω) (iface : InterfaceConfig) : Core ω := { c with iface }

/-- The identification of the next datagram; they count up and wrap. -/
def nextIdentification (c : Core ω) : UInt16 × Core ω :=
  let identification := c.identification + 1
  (identification, { c with identification })

end Core

end PolledNet
