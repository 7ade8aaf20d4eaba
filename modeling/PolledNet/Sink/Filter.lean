import PolledNet.Inet.Address

/-!
# Filters

A filter constrains header fields of received frames; a field it leaves open matches anything. The
more fields it constrains, the more specific it is.
-/

namespace PolledNet

/-- The header fields of a received frame that filters look at. -/
structure FrameInfo where
  /-- Type of the frame's payload. -/
  ethertype : UInt16 := 0
  /-- What the IPv4 datagram carries. -/
  protocol : Option UInt8 := none
  /-- Sender of the IPv4 datagram. -/
  source : Option Ipv4 := none
  /-- Receiver of the IPv4 datagram. -/
  dest : Option Ipv4 := none
  /-- UDP port of the sender. -/
  sourcePort : Option UInt16 := none
  /-- UDP port of the receiver. -/
  destPort : Option UInt16 := none
  deriving DecidableEq, Repr

/-- What a sink wants to receive. -/
structure Filter where
  /-- Type of the frame's payload. -/
  ethertype : Option UInt16 := none
  /-- What the IPv4 datagram carries. -/
  protocol : Option UInt8 := none
  /-- Receiver of the IPv4 datagram. -/
  localAddress : Option Ipv4 := none
  /-- Sender of the IPv4 datagram. -/
  remoteAddress : Option Ipv4 := none
  /-- The receiver must be the address of the interface. -/
  toUs : Bool := false
  /-- UDP port of the receiver. -/
  localPort : Option UInt16 := none
  /-- UDP port of the sender. -/
  remotePort : Option UInt16 := none
  deriving DecidableEq, Repr

namespace Filter

/-- The number of constrained fields. -/
def specificity (f : Filter) : Nat :=
  f.ethertype.isSome.toNat + f.protocol.isSome.toNat + f.localAddress.isSome.toNat +
    f.remoteAddress.isSome.toNat + f.toUs.toNat + f.localPort.isSome.toNat +
    f.remotePort.isSome.toNat

/-- Whether a constraint, if there is one, is met. -/
def admits {α : Type} [DecidableEq α] (want found : Option α) : Bool := want.isNone || want = found

/-- Whether a frame meets every constraint, when our address is `ours`. -/
def accepts (f : Filter) (frame : FrameInfo) (ours : Option Ipv4) : Bool :=
  admits f.ethertype (some frame.ethertype) && admits f.protocol frame.protocol &&
    admits f.localAddress frame.dest && admits f.remoteAddress frame.source &&
    admits f.localPort frame.destPort && admits f.remotePort frame.sourcePort &&
    (!f.toUs || (ours.isSome && frame.dest = ours))

end Filter

end PolledNet
