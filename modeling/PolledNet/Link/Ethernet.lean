import PolledNet.Link.Mac

/-!
# Ethernet framing

An Ethernet II header is destination, source and type of the payload. The controller appends and
strips the frame check sequence, though a received frame may still carry it.
-/

namespace PolledNet

namespace Ethernet

/-- Type of a frame that carries IPv4. -/
def typeIpv4 : UInt16 := 0x0800

/-- Type of a frame that carries ARP. -/
def typeArp : UInt16 := 0x0806

/-- Octets of the header. -/
def headerSize : Nat := 14

/-- Shortest frame handed to a controller. -/
def minFrameSize : Nat := 60

/-- Longest frame handed to a controller. -/
def maxFrameSize : Nat := 1514

/-- Octets of the frame check sequence that some controllers leave in place. -/
def checkSize : Nat := 4

end Ethernet

/-- Why a received frame has no Ethernet header. -/
inductive EthernetError where
  /-- Fewer octets than a header. -/
  | frameTooShort
  /-- More octets than the longest frame with its check sequence. -/
  | payloadTooLarge
  deriving DecidableEq, Repr

/-- What to tell the operator. -/
def EthernetError.message : EthernetError → String
  | .frameTooShort => "Ethernet frame too short"
  | .payloadTooLarge => "Ethernet payload exceeds MTU"

/-- An error is shown by what the operator is told. -/
instance : ToString EthernetError := ⟨EthernetError.message⟩

/-- An Ethernet II header. -/
structure EthernetHeader where
  /-- The station addressed. -/
  dest : Mac
  /-- The station that sends. -/
  source : Mac
  /-- What the payload is. -/
  ethertype : UInt16
  deriving DecidableEq, Repr

namespace EthernetHeader

/-- The fourteen octets of the header. -/
def octets (h : EthernetHeader) : Bytes :=
  h.dest.octets ++ h.source.octets ++ octets16 h.ethertype

/-- The header in the first fourteen octets, of whatever length the rest is. -/
def read? : Bytes → Except Fault EthernetHeader
  | d0 :: d1 :: d2 :: d3 :: d4 :: d5 :: s0 :: s1 :: s2 :: s3 :: s4 :: s5 :: t0 :: t1 :: _ =>
    .ok ⟨⟨d0, d1, d2, d3, d4, d5⟩, ⟨s0, s1, s2, s3, s4, s5⟩, word16 t0 t1⟩
  | _ => .error .outOfRange

/-- The header of a received frame, whose length must be that of a frame. -/
def parse (frame : Bytes) : Except EthernetError EthernetHeader :=
  match read? frame with
  | .error _ => .error .frameTooShort
  | .ok header =>
    if frame.length > Ethernet.maxFrameSize + Ethernet.checkSize then .error .payloadTooLarge
    else .ok header

/-- The buffer with its first fourteen octets replaced by the header. -/
def write? (h : EthernetHeader) (buffer : Bytes) : Except Fault Bytes :=
  buffer.overwrite? 0 h.octets

/-- A header always takes the same number of octets. -/
@[simp] theorem length_octets (h : EthernetHeader) :
    h.octets.length = Ethernet.headerSize := rfl

/-- A header is read back, whatever follows it. -/
theorem read?_octets_append (h : EthernetHeader) (rest : Bytes) :
    read? (h.octets ++ rest) = .ok h := by
  simp [octets, Mac.octets, octets16, read?, word16_octets16]

end EthernetHeader

end PolledNet
