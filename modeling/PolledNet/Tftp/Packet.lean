import PolledNet.Config
import PolledNet.Text.Utf8

/-!
# TFTP packets

The packets of the trivial file transfer protocol with its option extension: block size, window
size, transfer size, and a rollover option that names the block number following 65535.

A string field ends with a NUL. Names of options may be in either case; their values are decimal
digits, and a value out of its range spoils the packet. Unknown options are read past. Writing and
reading are inverse to each other on packets whose names hold no NUL and whose options are in
range.
-/

namespace PolledNet

/-- Why octets are not a TFTP packet. -/
inductive TftpError where
  /-- Too few octets. -/
  | packetTooShort
  /-- The first word names no kind of packet. -/
  | unknownOpcode (opcode : UInt16)
  /-- A string field has no NUL at its end. -/
  | unterminated
  /-- A string field is not UTF-8. -/
  | invalidUtf8
  /-- An option's value is no number or out of range. -/
  | badOption
  deriving DecidableEq, Repr

/-- What to tell the operator. -/
def TftpError.message : TftpError → String
  | .packetTooShort => "TFTP packet too short"
  | .unknownOpcode opcode => s!"Unknown TFTP opcode {opcode.toNat}"
  | .unterminated => "Unterminated TFTP string"
  | .invalidUtf8 => "TFTP string is not UTF-8"
  | .badOption => "Bad TFTP option value"

/-- An error is shown by what the operator is told. -/
instance : ToString TftpError := ⟨TftpError.message⟩

namespace Tftp

/-- Well-known port of servers, for the first request. -/
def serverPort : UInt16 := 69

/-- The mode in which files go over unchanged. -/
def modeOctet : String := "octet"

/-- Octets of a block when nothing else was agreed on. -/
def defaultBlockSize : UInt16 := 512

/-- Least block size that may be agreed on. -/
def minBlockSize : Nat := 8

/-- Greatest block size that may be agreed on. -/
def maxBlockSize : Nat := 65464

/-! ## Kinds of packets -/

/-- Asks for a file. -/
def opReadRequest : UInt16 := 1

/-- Offers a file. -/
def opWriteRequest : UInt16 := 2

/-- Carries a block. -/
def opData : UInt16 := 3

/-- Acknowledges a block. -/
def opAck : UInt16 := 4

/-- Ends a transfer. -/
def opError : UInt16 := 5

/-- Acknowledges options. -/
def opOptionAck : UInt16 := 6

/-! ## Error codes -/

/-- Something that has no code of its own. -/
def errorNotDefined : UInt16 := 0

/-- There is no such file. -/
def errorFileNotFound : UInt16 := 1

/-- The file may not be used in this way. -/
def errorAccessViolation : UInt16 := 2

/-- The volume is full. -/
def errorDiskFull : UInt16 := 3

/-- The packet does not belong here. -/
def errorIllegalOperation : UInt16 := 4

/-- The packet belongs to no transfer. -/
def errorUnknownTransfer : UInt16 := 5

/-- There is such a file already. -/
def errorFileExists : UInt16 := 6

/-- The options that were offered cannot be agreed on. -/
def errorOptionRefused : UInt16 := 8

end Tftp

/-! ## String fields -/

namespace Tftp

/-- The octets of a string field. -/
def field (s : String) : Bytes := Text.octets s ++ [0]

/-- The octets of a field that is a number. -/
def numberField (n : Nat) : Bytes := field (toString n)

/-- Takes the next string field, if anything is left. -/
def nextField (b : Bytes) : Except TftpError (Option (String × Bytes)) :=
  if b.isEmpty then .ok none
  else
    match b.dropWhile (· ≠ 0) with
    | [] => .error .unterminated
    | _ :: rest =>
      match Text.ofOctets? (b.takeWhile (· ≠ 0)) with
      | none => .error .invalidUtf8
      | some s => .ok (some (s, rest))

/-- Taking a field shortens what is left. -/
theorem length_of_nextField {b rest : Bytes} {s : String}
    (h : nextField b = .ok (some (s, rest))) : rest.length < b.length := by
  unfold nextField at h
  split at h
  · cases h
  · split at h
    · cases h
    · rename_i x tail split
      split at h
      · cases h
      · cases h
        have suffix := List.dropWhile_suffix (fun o : UInt8 => o ≠ 0) (l := b)
        rw [split] at suffix
        have := suffix.length_le
        simp only [List.length_cons] at this
        omega

/-- The number that decimal digits say, if it is at most `most`. -/
def number? (most : Nat) (s : String) : Except TftpError Nat :=
  if s.isEmpty || !s.toList.all Char.isDigit then .error .badOption
  else
    let n := s.toList.foldl (fun n c => n * 10 + (c.toNat - '0'.toNat)) 0
    if n ≤ most then .ok n else .error .badOption

end Tftp

/-! ## Options -/

/-- The options of a request or of its acknowledgement. -/
structure TftpOptions where
  /-- Octets of a block. -/
  blockSize : Option UInt16 := none
  /-- Octets of the file. -/
  transferSize : Option UInt64 := none
  /-- Blocks of a window. -/
  windowSize : Option UInt16 := none
  /-- The block number after 65535. -/
  rollover : Option Rollover := none
  deriving DecidableEq, Repr

namespace TftpOptions

/-- Takes down one option; an unknown one says nothing. -/
def record (o : TftpOptions) (name value : String) : Except TftpError TftpOptions := do
  let name := name.toLower
  if name = "blksize" then
    let n ← Tftp.number? 65535 value
    if n < Tftp.minBlockSize ∨ n > Tftp.maxBlockSize then throw .badOption
    return { o with blockSize := some (UInt16.ofNat n) }
  else if name = "tsize" then
    let n ← Tftp.number? (UInt64.size - 1) value
    return { o with transferSize := some (UInt64.ofNat n) }
  else if name = "windowsize" then
    let n ← Tftp.number? 65535 value
    if n = 0 then throw .badOption
    return { o with windowSize := some (UInt16.ofNat n) }
  else if name = "rollover" then
    let n ← Tftp.number? 255 value
    match n with
    | 0 => return { o with rollover := some .zero }
    | 1 => return { o with rollover := some .one }
    | _ => throw .badOption
  else return o

/-- Reads pairs of name and value up to the end. -/
def read (o : TftpOptions) (b : Bytes) : Except TftpError TftpOptions :=
  match _named : Tftp.nextField b with
  | .error e => .error e
  | .ok none => .ok o
  | .ok (some (name, afterName)) =>
    match _valued : Tftp.nextField afterName with
    | .error e => .error e
    | .ok none => .error .unterminated
    | .ok (some (value, rest)) =>
      match o.record name value with
      | .error e => .error e
      | .ok o => read o rest
termination_by b.length
decreasing_by
  have := Tftp.length_of_nextField _named
  have := Tftp.length_of_nextField _valued
  omega

/-- The octets of an option, if it is there. -/
def option {α : Type} (name : String) (value : α → Nat) : Option α → Bytes
  | none => []
  | some x => Tftp.field name ++ Tftp.numberField (value x)

/-- The octets of the options. -/
def octets (o : TftpOptions) : Bytes :=
  option "blksize" UInt16.toNat o.blockSize ++ option "tsize" UInt64.toNat o.transferSize ++
    option "windowsize" UInt16.toNat o.windowSize ++
    option "rollover" (fun r : Rollover => r.firstBlock.toNat) o.rollover

end TftpOptions

/-! ## Packets -/

/-- A TFTP packet. -/
inductive TftpPacket where
  /-- Asks the server to send a file. -/
  | readRequest (filename mode : String) (options : TftpOptions)
  /-- Asks the server to take a file. -/
  | writeRequest (filename mode : String) (options : TftpOptions)
  /-- A block of the file. -/
  | data (block : UInt16) (content : Bytes)
  /-- Acknowledges all blocks up to one. -/
  | ack (block : UInt16)
  /-- Ends the transfer. -/
  | error (code : UInt16) (message : String)
  /-- Acknowledges the options of a request. -/
  | optionAck (options : TftpOptions)
  deriving DecidableEq, Repr

namespace TftpPacket

/-- Reads a file name, a mode and options. -/
def parseRequest (b : Bytes) : Except TftpError (String × String × TftpOptions) := do
  let some (filename, b) ← Tftp.nextField b | throw .packetTooShort
  let some (mode, b) ← Tftp.nextField b | throw .packetTooShort
  let options ← TftpOptions.read {} b
  return (filename, mode, options)

/-- The message of an error packet. Its last NUL may be missing, and it is kept as far as it is
UTF-8, since it is only shown. -/
def errorMessage (b : Bytes) : String :=
  Text.ofOctetsPrefix (if b.getLast? = some 0 then b.dropLast else b)

/-- Reads a packet. -/
def parse (b : Bytes) : Except TftpError TftpPacket :=
  match b with
  | hi :: lo :: body =>
    let opcode := word16 hi lo
    if opcode = Tftp.opReadRequest then
      (parseRequest body).map fun (filename, mode, options) => .readRequest filename mode options
    else if opcode = Tftp.opWriteRequest then
      (parseRequest body).map fun (filename, mode, options) => .writeRequest filename mode options
    else if opcode = Tftp.opOptionAck then (TftpOptions.read {} body).map .optionAck
    else if opcode = Tftp.opData ∨ opcode = Tftp.opAck ∨ opcode = Tftp.opError then
      match body with
      | w0 :: w1 :: rest =>
        let w := word16 w0 w1
        .ok (if opcode = Tftp.opData then .data w rest
          else if opcode = Tftp.opAck then .ack w
          else .error w (errorMessage rest))
      | _ => .error .packetTooShort
    else .error (.unknownOpcode opcode)
  | _ => .error .packetTooShort

/-- The octets of the packet. -/
def octets : TftpPacket → Bytes
  | .readRequest filename mode options =>
    octets16 Tftp.opReadRequest ++ Tftp.field filename ++ Tftp.field mode ++ options.octets
  | .writeRequest filename mode options =>
    octets16 Tftp.opWriteRequest ++ Tftp.field filename ++ Tftp.field mode ++ options.octets
  | .data block content => octets16 Tftp.opData ++ octets16 block ++ content
  | .ack block => octets16 Tftp.opAck ++ octets16 block
  | .error code message => octets16 Tftp.opError ++ octets16 code ++ Tftp.field message
  | .optionAck options => octets16 Tftp.opOptionAck ++ options.octets

end TftpPacket

end PolledNet
