import PolledNet.Link.Device
import PolledNet.Link.Ethernet

/-!
# A wire between two ports

Two ports joined in memory: what one transmits, the other receives, in order. Each direction holds
a bounded number of frames and can be told to have no room. The wire lets the stack run without
hardware, and lets a test hold the far end.
-/

namespace PolledNet

/-- The two ports of a wire. -/
inductive WireEnd where
  | a
  | b
  deriving DecidableEq, Repr

namespace WireEnd

/-- The port at the other end. -/
def peer : WireEnd → WireEnd
  | .a => .b
  | .b => .a

/-- The device name of a port. -/
def name : WireEnd → String
  | .a => "wire0"
  | .b => "wire1"

end WireEnd

/-- The frames under way to one port. -/
structure Lane where
  /-- The frames, oldest first. -/
  frames : List Bytes := []
  /-- Whether the sending port has room. -/
  ready : Bool := true
  deriving DecidableEq, Repr

/-- Two joined ports. -/
structure Wire where
  /-- Frames under way to port `a`. -/
  toA : Lane := {}
  /-- Frames under way to port `b`. -/
  toB : Lane := {}
  /-- Most frames under way in one direction. -/
  depth : Nat := 256
  deriving DecidableEq, Repr

namespace Wire

/-- The frames under way to a port. -/
def lane (w : Wire) : WireEnd → Lane
  | .a => w.toA
  | .b => w.toB

/-- The wire with the frames under way to a port replaced. -/
def withLane (w : Wire) (e : WireEnd) (l : Lane) : Wire :=
  match e with
  | .a => { w with toA := l }
  | .b => { w with toB := l }

/-- The number of frames waiting for a port. -/
def pending (w : Wire) (e : WireEnd) : Nat := (w.lane e).frames.length

/-- Puts a frame on its way from a port, even one that has been told to have no room; only a full
direction refuses it. -/
def send (w : Wire) (e : WireEnd) (frame : Bytes) : Except TransmitError Unit × Wire :=
  let l := w.lane e.peer
  if l.frames.length ≥ w.depth then (.error .bufferFull, w)
  else (.ok (), w.withLane e.peer { l with frames := l.frames ++ [frame] })

/-- Takes the next frame for a port. -/
def receive (w : Wire) (e : WireEnd) : Option Bytes × Wire :=
  let l := w.lane e
  match l.frames with
  | [] => (none, w)
  | frame :: rest => (some frame, w.withLane e { l with frames := rest })

/-- Takes every frame for a port. -/
def drain (w : Wire) (e : WireEnd) : List Bytes × Wire :=
  let l := w.lane e
  (l.frames, w.withLane e { l with frames := [] })

/-- Drops every frame for a port. -/
def halt (w : Wire) (e : WireEnd) : Wire := (w.drain e).2

/-- Tells the port opposite `e` whether it has room. -/
def setPeerReady (w : Wire) (e : WireEnd) (ready : Bool) : Wire :=
  w.withLane e { w.lane e with ready }

/-- Whether a port has room for a frame. -/
def canTransmit (w : Wire) (e : WireEnd) : Bool :=
  let l := w.lane e.peer
  l.ready && l.frames.length < w.depth

/-- Transmits a frame from a port, which takes no frame longer than Ethernet allows. -/
def transmit (w : Wire) (e : WireEnd) (frame : Bytes) : Except TransmitError Unit × Wire :=
  if frame.length > Ethernet.maxFrameSize then (.error .packetTooLarge, w)
  else if !w.canTransmit e then (.error .bufferFull, w)
  else w.send e frame

/-- A port of the wire as a network device. -/
def port (e : WireEnd) (mac : Mac) : Device Wire where
  mac := mac
  name := e.name
  start w := (.ok (), w)
  halt w := w.halt e
  service w := w
  transmit frame w := w.transmit e frame
  canTransmit w := w.canTransmit e
  receive w := w.receive e

end Wire

end PolledNet
