import PolledNet.File.Handle
import PolledNet.Time

/-!
# How a transfer ends

A transfer ends with a report of what it moved, or with the reason why it failed.
-/

namespace PolledNet

/-- Which way a file goes. -/
inductive Direction where
  /-- From the server to us. -/
  | get
  /-- From us to the server. -/
  | put
  deriving DecidableEq, Repr

/-- The direction as shown to the operator. -/
def Direction.text : Direction → String
  | .get => "Get"
  | .put => "Put"

/-- Why a transfer failed. -/
inductive TransferError where
  /-- The interface has no address. -/
  | notConfigured
  /-- Every local port is taken. -/
  | noPortAvailable
  /-- The local file could not be opened, read, written or closed. -/
  | file (cause : FileError)
  /-- The server ended the transfer. -/
  | server (code : UInt16) (text : String)
  /-- A step was repeated as often as allowed. -/
  | timeout
  /-- The server does not know options. -/
  | noOptionAck
  /-- The server agreed to more than was asked for. -/
  | badOption
  /-- The server sent what does not belong here. -/
  | protocol
  /-- The operator gave up. -/
  | cancelled
  /-- There is no such transfer. -/
  | unknownTransfer
  deriving DecidableEq, Repr

/-- What to tell the operator. -/
def TransferError.message : TransferError → String
  | .notConfigured => "Interface not configured"
  | .noPortAvailable => "No free UDP port"
  | .file cause => s!"File error: {cause.message}"
  | .server code text => s!"Server error {code.toNat}: {text}"
  | .timeout => "Transfer timed out"
  | .noOptionAck => "Server does not support TFTP options"
  | .badOption => "Server acknowledged an unacceptable option"
  | .protocol => "TFTP protocol error"
  | .cancelled => "Transfer cancelled"
  | .unknownTransfer => "No such transfer"

/-- An error is shown by what the operator is told. -/
instance : ToString TransferError := ⟨TransferError.message⟩

/-- What a finished transfer moved. -/
structure TransferReport where
  /-- Octets of the file. -/
  bytes : Nat
  /-- Ticks from start to end. -/
  elapsed : Tick
  /-- Steps that went unanswered. -/
  timeouts : UInt32
  /-- Octets of a second, taking no time as one tick. -/
  bytesPerSecond : Nat
  deriving DecidableEq, Repr

end PolledNet
