import PolledNet.Link.Ethernet
import PolledNet.Inet.Address

/-!
# Packets in flight

A packet is one Ethernet frame with the offsets of the headers found in it, and, on its way out,
the next hop chosen for it. A packet is in one place at a time: a receive queue, the list of those
parked on address resolution, the transmit backlog, or the hands of a handler.

The accessors follow the stored offsets and refuse offsets that lie outside the frame.
-/

namespace PolledNet

/-- Where the layers of a frame start. `transport` and `payload` are zero until that header has
been parsed or built. -/
structure HeaderOffsets where
  /-- Start of the ARP or IPv4 header. -/
  network : Nat := Ethernet.headerSize
  /-- Start of the UDP or ICMP header. -/
  transport : Nat := 0
  /-- Start of the application's octets. -/
  payload : Nat := 0
  /-- Number of the application's octets. -/
  payloadLength : Nat := 0
  deriving DecidableEq, Repr

/-- One Ethernet frame on its way through the stack. -/
structure Packet where
  /-- The frame. -/
  data : Bytes
  /-- Where its layers start. -/
  offsets : HeaderOffsets := {}
  /-- Whether the destination address in the frame is final, so that no next hop is looked up. -/
  addressed : Bool := false
  /-- The next hop chosen by routing, while its hardware address is being resolved. -/
  nextHop : Option Ipv4 := none
  deriving DecidableEq, Repr

namespace Packet

/-- A zeroed frame of `length` octets, though never shorter than an Ethernet header. -/
def zeroed (length : Nat) : Packet :=
  { data := List.replicate (max length Ethernet.headerSize) 0 }

/-- The packet of a frame as it came from the device. -/
def ofFrame (frame : Bytes) : Packet := { data := frame }

/-- The packet without the octets past `length`. -/
def truncate (p : Packet) (length : Nat) : Packet := { p with data := p.data.take length }

/-- The packet padded with zeros to the shortest frame a controller takes. -/
def padded (p : Packet) : Packet :=
  { p with
    data := p.data ++ List.replicate (Ethernet.minFrameSize - p.data.length) 0 }

/-! ## Link layer -/

/-- The Ethernet header. -/
def ethernet? (p : Packet) : Except Fault EthernetHeader := EthernetHeader.read? p.data

/-- The type of the frame's payload. -/
def ethertype? (p : Packet) : Except Fault UInt16 := do
  let hi ← p.data.octet? 12
  let lo ← p.data.octet? 13
  return word16 hi lo

/-- The station addressed. -/
def dest? (p : Packet) : Except Fault Mac := Mac.ofBytes? p.data

/-- The station that sends. -/
def source? (p : Packet) : Except Fault Mac := Mac.ofBytes? (p.data.drop 6)

/-- The packet addressed to the station `m`. -/
def withDest (p : Packet) (m : Mac) : Packet := { p with data := Bytes.overwrite p.data 0 m.octets }

/-- The packet sent by the station `m`. -/
def withSource (p : Packet) (m : Mac) : Packet :=
  { p with data := Bytes.overwrite p.data 6 m.octets }

/-- `withDest`, refusing a frame too short to hold the address. -/
def withDest? (p : Packet) (m : Mac) : Except Fault Packet := do
  let data ← Bytes.overwrite? p.data 0 m.octets
  return { p with data }

/-- `withSource`, refusing a frame too short to hold the address. -/
def withSource? (p : Packet) (m : Mac) : Except Fault Packet := do
  let data ← Bytes.overwrite? p.data 6 m.octets
  return { p with data }

/-- The packet whose destination address is `m` for good. -/
def addressedTo (p : Packet) (m : Mac) : Packet := { p.withDest m with addressed := true }

/-! ## Higher layers -/

/-- The ARP or IPv4 header and all that follows it. -/
def network? (p : Packet) : Except Fault Bytes := Bytes.suffix? p.data p.offsets.network

/-- The transport header and all that follows it. -/
def transport? (p : Packet) : Except Fault Bytes := Bytes.suffix? p.data p.offsets.transport

/-- The application's octets. -/
def payload? (p : Packet) : Except Fault Bytes :=
  Bytes.slice? p.data p.offsets.payload (p.offsets.payload + p.offsets.payloadLength)

/-- A part of a frame that can be written on its own. -/
inductive Part where
  /-- The whole frame. -/
  | frame
  /-- From the ARP or IPv4 header on. -/
  | network
  /-- From the transport header on. -/
  | transport
  /-- The application's octets. -/
  | payload
  deriving DecidableEq, Repr

/-- Where a part starts and stops. -/
def range (p : Packet) : Part → Nat × Nat
  | .frame => (0, p.data.length)
  | .network => (p.offsets.network, p.data.length)
  | .transport => (p.offsets.transport, p.data.length)
  | .payload => (p.offsets.payload, p.offsets.payload + p.offsets.payloadLength)

/-- The packet with the first octets of a part replaced; the part must lie in the frame and hold
them. -/
def write? (p : Packet) (part : Part) (content : Bytes) : Except Fault Packet := do
  let (start, stop) := p.range part
  let old ← Bytes.slice? p.data start stop
  let new ← Bytes.overwrite? old 0 content
  return { p with data := Bytes.overwrite p.data start new }

/-! ## Laws -/

/-- Padding makes up for what a frame lacks in length. -/
theorem length_data_padded (p : Packet) :
    p.padded.data.length = max p.data.length Ethernet.minFrameSize := by
  simp only [padded, List.length_append, List.length_replicate]
  omega

/-- A frame that is long enough is not padded. -/
theorem padded_eq_self {p : Packet} (long : Ethernet.minFrameSize ≤ p.data.length) :
    p.padded = p := by
  simp [padded, Nat.sub_eq_zero_of_le long]

/-- Padding twice is padding once. -/
theorem padded_padded (p : Packet) : p.padded.padded = p.padded :=
  padded_eq_self (by rw [length_data_padded]; omega)

end Packet

/-! ## Queues -/

/-- Packets in arrival order. -/
structure PacketQueue where
  /-- The packets, oldest first. -/
  packets : List Packet := []
  deriving DecidableEq, Repr

namespace PacketQueue

/-- The queue with a packet added behind all others. -/
def push (q : PacketQueue) (p : Packet) : PacketQueue := ⟨q.packets ++ [p]⟩

/-- The oldest packet, and the queue without it. -/
def pop? (q : PacketQueue) : Option (Packet × PacketQueue) :=
  match q.packets with
  | [] => none
  | p :: rest => some (p, ⟨rest⟩)

/-- The oldest packet. -/
def peek? (q : PacketQueue) : Option Packet := q.packets.head?

/-- The number of packets. -/
def size (q : PacketQueue) : Nat := q.packets.length

/-- Whether no packet waits. -/
def isEmpty (q : PacketQueue) : Bool := q.packets.isEmpty

end PacketQueue

end PolledNet
