import PolledNet.Core.Receive
import PolledNet.Dhcp.Client
import PolledNet.Tftp.Transfer

/-!
# The stack

One interface: its core, the volume that transfers use, the registered sinks and the cursor over
local ports. All functions of the stack are steps from one such state to the next.
-/

namespace PolledNet

/-- The protocol state behind a sink; transfers have files `η`. -/
inductive SinkKind (η : Type) where
  | arp
  | icmpEcho
  | icmpUnreachable (limiter : UnreachableLimiter)
  | dhcp (client : DhcpClient)
  | tftp (transfer : Transfer η)

/-- What a sink does with what it receives. -/
def SinkKind.service {η : Type} : SinkKind η → Service
  | .arp => .arp
  | .icmpEcho => .icmpEcho
  | .icmpUnreachable _ => .icmpUnreachable
  | .dhcp _ => .dhcp
  | .tftp _ => .tftp

/-- The stack on hardware of state `ω`, with files `η` of a volume in state `φ`. -/
structure Stack (ω η φ : Type) where
  /-- The interface. -/
  core : Core ω
  /-- The volume. -/
  volume : φ
  /-- The registered sinks. -/
  sinks : SinkTable (SinkKind η) := {}
  /-- The local port to try first. -/
  nextPort : UInt16 := Udp.ephemeralFirst

namespace Stack

variable {ω η φ : Type}

/-- Tells the operator. -/
def tell (s : Stack ω η φ) (e : StackEvent) : Stack ω η φ :=
  { s with core := s.core.tell (.stack e) }

/-! ## Sinks -/

/-- Registers a sink. -/
def addSink (s : Stack ω η φ) (sink : Sink (SinkKind η)) : SinkId × Stack ω η φ :=
  let (id, sinks) := s.sinks.insert sink
  (id, { s with sinks }.tell (.registered id sink.kind.service))

/-- Takes a sink out, with the packets that still wait for it. -/
def removeSink? (s : Stack ω η φ) (id : SinkId) : Option (Sink (SinkKind η) × Stack ω η φ) :=
  (s.sinks.remove? id).map fun (sink, sinks) =>
    (sink, { s with sinks }.tell (.removed id sink.kind.service))

/-- Whether a sink names a local port. -/
def portTaken (s : Stack ω η φ) (port : UInt16) : Bool :=
  s.sinks.sinks.any (·.filter.localPort = some port)

/-- The local port to try after `port`. -/
def portAfter (port : UInt16) : UInt16 :=
  if port = Udp.ephemeralLast then Udp.ephemeralFirst else port + 1

/-- The first port that no sink names, of `count` ports from the cursor on. -/
def allocatePortWithin (s : Stack ω η φ) : (count : Nat) → Option UInt16 × Stack ω η φ
  | 0 => (none, s)
  | count + 1 =>
    let port := s.nextPort
    let s := { s with nextPort := portAfter port }
    if s.portTaken port then allocatePortWithin s count else (some port, s)

/-- Picks a local port that no sink names, the range taken in turn. -/
def allocatePort (s : Stack ω η φ) : Option UInt16 × Stack ω η φ :=
  s.allocatePortWithin (Udp.ephemeralLast.toNat - Udp.ephemeralFirst.toNat + 1)

/-! ## Bringing the interface up and down -/

/-- The sinks that every stack has: address bindings, with the timer of their sweep, echo, and what
nobody else wants. -/
def builtinSinks (now sweepInterval : Tick) : List (Sink (SinkKind η)) :=
  [{ filter := { ethertype := some Ethernet.typeArp }, kind := .arp
     timer := Timer.arm now sweepInterval },
    { filter := { ethertype := some Ethernet.typeIpv4, protocol := some Ip.icmp, toUs := true }
      kind := .icmpEcho },
    { filter := { ethertype := some Ethernet.typeIpv4, toUs := true }
      kind := .icmpUnreachable {} }]

/-- Brings the device up and registers the built-in sinks. Without a static address the interface
waits to be configured. -/
def bringUp (device : Device ω) (clock : ω → Tick) (config : StackConfig) (hw : ω) (volume : φ) :
    Except NetError (Stack ω η φ) × ω :=
  match device.start hw with
  | (.error e, hw) => (.error (.device e), hw)
  | (.ok (), hw) =>
    let iface := config.network.getD InterfaceConfig.unconfigured
    let core : Core ω := { device, clock, hw, config, iface, mac := device.mac }
    let s : Stack ω η φ := { core, volume }
    let s := s.tell (.deviceUp device.name device.mac)
    let s := (builtinSinks core.now config.arpSweepInterval).foldl (fun s k => (s.addSink k).2) s
    let s :=
      match config.network with
      | none => s
      | some network => s.tell (.staticAddress network.address network.netmask)
    (.ok s, hw)

/-- Changes the addresses of the interface. -/
def configure (s : Stack ω η φ) (iface : InterfaceConfig) : Stack ω η φ :=
  let s := s.tell (.configured iface.address iface.netmask iface.gateway)
  { s with core := s.core.configure iface }

/-- Stops the device. -/
def shutdown (s : Stack ω η φ) : Stack ω η φ :=
  let s := s.tell (.deviceDown s.core.device.name)
  { s with core := { s.core with hw := s.core.device.halt s.core.hw } }

/-- Sends a packet. -/
def transmit (s : Stack ω η φ) (p : Packet) :
    Except Fault (Except NetError Unit × Stack ω η φ) := do
  let (answer, core) ← s.core.transmit p
  return (answer, { s with core })

end Stack

end PolledNet
