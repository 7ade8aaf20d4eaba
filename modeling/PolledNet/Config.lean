import PolledNet.Inet.Route
import PolledNet.Time

/-!
# Configuration

The addresses of the interface and the tunables of the stack. All times are in ticks.
-/

namespace PolledNet

/-! ## The interface -/

/-- The addresses of the interface. -/
structure InterfaceConfig where
  /-- Our address; unspecified while there is none. -/
  address : Ipv4
  /-- The mask of our subnet. -/
  netmask : Ipv4
  /-- Where packets for other subnets go. -/
  gateway : Option Ipv4 := none
  /-- The name server handed out with the address; the stack itself does not use it. -/
  nameServer : Option Ipv4 := none
  deriving DecidableEq, Repr

namespace InterfaceConfig

/-- No address: only address acquisition may send. -/
def unconfigured : InterfaceConfig := ⟨Ipv4.unspecified, Ipv4.unspecified, none, none⟩

/-- Whether there is an address. -/
def isConfigured (c : InterfaceConfig) : Bool := !c.address.isUnspecified

/-- Our address, if there is one. -/
def address? (c : InterfaceConfig) : Option Ipv4 := if c.isConfigured then some c.address else none

/-- The routes, if there is an address. -/
def routes? (c : InterfaceConfig) : Option Routes :=
  if c.isConfigured then some ⟨c.address, c.netmask, c.gateway⟩ else none

end InterfaceConfig

/-! ## File transfer -/

/-- The block number that follows 65535. -/
inductive Rollover where
  | zero
  | one
  deriving DecidableEq, Repr, Inhabited

/-- The first block number after the wrap. -/
def Rollover.firstBlock : Rollover → UInt16
  | .zero => 0
  | .one => 1

/-- What a file transfer asks for, and how long it tries. -/
structure TransferConfig where
  /-- Requested octets of a block; the default fills the payload of an Ethernet frame. -/
  blockSize : UInt16 := 1468
  /-- Requested blocks of a window. -/
  windowSize : UInt16 := 8
  /-- Requested rule for the block number after 65535. -/
  rollover : Rollover := .zero
  /-- How long a step waits for an answer. -/
  retryTimeout : Tick := Tick.ofSeconds 1
  /-- How often in a row one step is repeated. -/
  maxRetries : UInt32 := 20
  /-- How often progress is reported. -/
  progressInterval : Tick := Tick.ofSeconds 2
  deriving DecidableEq, Repr

/-! ## The stack -/

/-- The tunables of the stack. -/
structure StackConfig where
  /-- A static address; without one the interface starts unconfigured. -/
  network : Option InterfaceConfig := none
  /-- How long an address binding stays valid. -/
  arpTtl : Tick := Tick.ofSeconds 300
  /-- Time between two requests for one address. -/
  arpRetryInterval : Tick := Tick.ofSeconds 1
  /-- Time between two sweeps of the bindings. -/
  arpSweepInterval : Tick := Tick.ofSeconds 10
  /-- Frames held while the device has no room; at least one is. -/
  backlogCapacity : Nat := 64
  /-- What file transfers ask for. -/
  transfer : TransferConfig := {}
  deriving DecidableEq, Repr

end PolledNet
