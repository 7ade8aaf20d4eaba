import PolledNet.Inet.Address
import PolledNet.Link.Device

/-!
# Why a packet is not sent

The causes for which the stack refuses or loses an outbound packet.
-/

namespace PolledNet

/-- Why an operation of the stack failed. -/
inductive NetError where
  /-- The interface has no address, or the packet has none for its sender. -/
  | notConfigured
  /-- The destination is off the subnet and there is no gateway. -/
  | noRoute
  /-- The next hop did not answer. -/
  | arpFailed (hop : Ipv4)
  /-- The backlog is full. -/
  | backlogFull
  /-- The headers of the packet do not fit it. -/
  | malformed
  /-- The device did not come up. -/
  | device (cause : DeviceError)
  /-- The device refused the frame for good. -/
  | transmit (cause : TransmitError)
  /-- The operator gave up waiting. -/
  | cancelled
  deriving DecidableEq, Repr

/-- What to tell the operator. -/
def NetError.message : NetError → String
  | .notConfigured => "Interface not configured"
  | .noRoute => "No route to host"
  | .arpFailed hop => s!"No ARP reply from {hop.text}"
  | .backlogFull => "Transmit queue full"
  | .malformed => "Malformed outbound packet"
  | .device cause => s!"Device error: {cause.message}"
  | .transmit cause => s!"Transmit error: {cause.message}"
  | .cancelled => "Cancelled"

/-- An error is shown by what the operator is told. -/
instance : ToString NetError := ⟨NetError.message⟩

end PolledNet
