import PolledNet.Link.Mac

/-!
# Network devices

What the stack asks of a network controller. The device is given by functions on the state `ω` of
the hardware, which may hold more than the device itself, such as the clock or the far end of the
cable. The stack never waits for a device: it asks whether there is room before it hands over a
frame, and takes received frames one at a time.
-/

namespace PolledNet

/-- Why a device did not come up. -/
inductive DeviceError where
  | notPresent
  | resetFailed
  | ringSetupFailed
  deriving DecidableEq, Repr

/-- What to tell the operator. -/
def DeviceError.message : DeviceError → String
  | .notPresent => "Network controller not present"
  | .resetFailed => "Network controller reset failed"
  | .ringSetupFailed => "Descriptor ring setup failed"

/-- An error is shown by what the operator is told. -/
instance : ToString DeviceError := ⟨DeviceError.message⟩

/-- Why a device did not take a frame. -/
inductive TransmitError where
  /-- The frame is longer than the device takes. -/
  | packetTooLarge
  /-- There is no room now. -/
  | bufferFull
  /-- The device takes no frames now. -/
  | notReady
  /-- The transmission failed. -/
  | hardwareError
  deriving DecidableEq, Repr

namespace TransmitError

/-- What to tell the operator. -/
def message : TransmitError → String
  | .packetTooLarge => "Frame too large for device"
  | .bufferFull => "No free transmit descriptor"
  | .notReady => "Device not ready"
  | .hardwareError => "Hardware transmit error"

/-- A refusal is shown by what the operator is told. -/
instance : ToString TransmitError := ⟨message⟩

/-- Whether the same frame may be taken later. -/
def isTransient : TransmitError → Bool
  | .bufferFull | .notReady => true
  | .packetTooLarge | .hardwareError => false

end TransmitError

/-- Whether the cable carries a signal. -/
inductive LinkStatus where
  | up
  | down
  | unknown
  deriving DecidableEq, Repr

/-- A network controller on hardware of state `ω`. -/
structure Device (ω : Type) where
  /-- Its hardware address. -/
  mac : Mac
  /-- Its name. -/
  name : String
  /-- Resets it and makes it ready. -/
  start : ω → Except DeviceError Unit × ω
  /-- Stops it. -/
  halt : ω → ω
  /-- Its own housekeeping, once per pass. -/
  service : ω → ω
  /-- Hands it a frame. -/
  transmit : Bytes → ω → Except TransmitError Unit × ω
  /-- Whether it has room for a frame. -/
  canTransmit : ω → Bool
  /-- Takes a frame it has received. -/
  receive : ω → Option Bytes × ω
  /-- Whether its cable carries a signal. -/
  link : ω → LinkStatus := fun _ => .up

end PolledNet
