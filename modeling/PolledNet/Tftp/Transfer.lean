import PolledNet.Core.Uplink
import PolledNet.Tftp.Block

/-!
# File transfers

One transfer moves one file, in windows of blocks. It begins with a request for options that the
server must acknowledge. After that the server sends blocks and we acknowledge each window, or we
send windows and the server acknowledges. Whatever step is outstanding is repeated when the timer
expires, at most so many times in a row.

Blocks are counted without bound; only packets carry the wrapped number. The port of the server is
that of its first answer, and packets from other ports are turned away.

A transfer runs on an interface of any state `σ` through an `Uplink`, with a file `η` of a volume in
state `φ`. Each handler is a step of a `Session`: the transfer, its timer, the interface and the
volume.
-/

namespace PolledNet

/-- How far a transfer is. -/
inductive TransferPhase where
  /-- The request is out. -/
  | negotiating
  /-- The options are agreed on. -/
  | transferring
  /-- The outcome is known. -/
  | done
  deriving DecidableEq, Repr

/-- The transfer of one file `η`. -/
structure Transfer (η : Type) where
  /-- Which way the file goes. -/
  direction : Direction
  /-- How far it is. -/
  phase : TransferPhase := .negotiating
  /-- The server's address. -/
  server : Ipv4
  /-- The server's port, once it has answered. -/
  serverPort : Option UInt16 := none
  /-- Our port. -/
  localPort : UInt16
  /-- The name of the file at the server. -/
  remote : String
  /-- The open local file, until the transfer is done. -/
  file : Option η
  /-- What was asked for. -/
  requested : TransferConfig
  /-- Octets of a block. -/
  blockSize : UInt16 := Tftp.defaultBlockSize
  /-- Blocks of a window. -/
  windowSize : UInt16 := 1
  /-- The block number after 65535. -/
  rollover : Rollover := .zero
  /-- Octets of the file, as the server says or as we told it. -/
  size : Option UInt64
  /-- The last block acknowledged, by us or by the server. -/
  acked : Nat := 0
  /-- The next block to receive or to send. -/
  nextBlock : Nat := 1
  /-- The last block of the file we send. -/
  finalBlock : Nat := 0
  /-- Blocks received and not yet written, oldest first. -/
  pending : List Bytes := []
  /-- Octets moved. -/
  bytes : Nat := 0
  /-- Steps that went unanswered. -/
  timeouts : UInt32 := 0
  /-- Steps that went unanswered since the last progress. -/
  retries : UInt32 := 0
  /-- When it started. -/
  started : Tick
  /-- When progress was last reported. -/
  lastReport : Tick
  /-- How it ended. -/
  outcome : Option (Except TransferError TransferReport) := none

namespace Transfer

variable {η σ φ : Type}

/-- Whether the outcome is known. -/
def isFinished (t : Transfer η) : Bool := t.outcome.isSome

/-- The file's size in octets, zero when nobody said. -/
def sizeOrZero (t : Transfer η) : Nat := (t.size.map UInt64.toNat).getD 0

/-- The options that the request asks for. -/
def requestOptions (t : Transfer η) : TftpOptions where
  blockSize := some t.requested.blockSize
  transferSize := some (t.size.getD 0)
  windowSize := some t.requested.windowSize
  rollover := some t.requested.rollover

/-- The packet that asks for the transfer. -/
def requestPacket (t : Transfer η) : TftpPacket :=
  match t.direction with
  | .get => .readRequest t.remote Tftp.modeOctet t.requestOptions
  | .put => .writeRequest t.remote Tftp.modeOctet t.requestOptions

/-- Adopts the options that the server acknowledged; an option it leaves out has its default. More
than was asked for is refused. -/
def acceptOptions (t : Transfer η) (o : TftpOptions) : Except TransferError (Transfer η) :=
  let blockSize := o.blockSize.getD Tftp.defaultBlockSize
  let windowSize := o.windowSize.getD 1
  if blockSize > t.requested.blockSize ∨ windowSize > t.requested.windowSize then
    .error .badOption
  else
    let t := { t with blockSize, windowSize, rollover := o.rollover.getD .zero }
    .ok (match t.direction with
      | .get => { t with size := o.transferSize }
      | .put => { t with finalBlock := t.sizeOrZero / blockSize.toNat + 1 })

/-- The block that an acknowledgement names: the first outstanding one that has its number. -/
def acknowledged? (t : Transfer η) (number : UInt16) : Option Nat :=
  (List.range' t.acked (t.nextBlock - t.acked)).find? fun n => wireBlock n t.rollover = number

/-- The last block that may be sent before another acknowledgement. -/
def windowEnd (t : Transfer η) : Nat := min (t.acked + t.windowSize.toNat) t.finalBlock

/-- What a transfer has moved when it ends at `now`. -/
def report (t : Transfer η) (now : Tick) : TransferReport :=
  let elapsed := now - t.started
  { bytes := t.bytes, elapsed, timeouts := t.timeouts
    bytesPerSecond := t.bytes * Tick.perSecond.toNat / (max elapsed 1).toNat }

/-- The code that tells the server of a local failure. -/
def errorCode : TransferError → UInt16
  | .file .diskFull => Tftp.errorDiskFull
  | .file .notFound => Tftp.errorFileNotFound
  | .file .alreadyExists => Tftp.errorFileExists
  | .file _ => Tftp.errorAccessViolation
  | _ => Tftp.errorNotDefined

/-- A transfer with its timer, the interface it runs on and the volume of its file. -/
structure Session (η σ φ : Type) where
  /-- The transfer. -/
  transfer : Transfer η
  /-- Its timer. -/
  timer : Timer
  /-- The interface. -/
  link : σ
  /-- The volume. -/
  volume : φ

namespace Session

variable (up : Uplink σ)

/-- Tells the operator. -/
def tell (s : Session η σ φ) (e : TftpEvent) : Session η σ φ :=
  { s with link := up.tell (.tftp e) s.link }

/-- Arms the timer for the time a step waits. -/
def arm (s : Session η σ φ) : Session η σ φ :=
  { s with timer := Timer.arm (up.now s.link) s.transfer.requested.retryTimeout }

/-- Sends a packet to a port of the server. -/
def sendTo (s : Session η σ φ) (port : UInt16) (p : TftpPacket) :
    Except NetError Unit × Session η σ φ :=
  let (answer, link) := up.send s.transfer.localPort s.transfer.server port p.octets s.link
  (answer, { s with link })

/-- Sends a packet to the server. -/
def send (s : Session η σ φ) (p : TftpPacket) : Except NetError Unit × Session η σ φ :=
  s.sendTo up (s.transfer.serverPort.getD Tftp.serverPort) p

/-- Sends the request, always to the well-known port. -/
def sendRequest (s : Session η σ φ) : Except NetError Unit × Session η σ φ :=
  let t := s.transfer
  (s.tell up (.requesting t.direction t.remote t.server)).sendTo up Tftp.serverPort t.requestPacket

/-- Sends the request for the first time. -/
def start (s : Session η σ φ) : Except NetError Unit × Session η σ φ := (s.arm up).sendRequest up

/-- Takes note of progress: the retries start anew, and so does the wait. -/
def progress (s : Session η σ φ) : Session η σ φ :=
  let now := up.now s.link
  let s := { s.arm up with transfer := { s.transfer with retries := 0 } }
  if now - s.transfer.lastReport ≥ s.transfer.requested.progressInterval then
    { s with transfer := { s.transfer with lastReport := now } }.tell up
      (.progress s.transfer.bytes s.transfer.timeouts)
  else s

/-- Acknowledges all blocks up to `block`. -/
def sendAck (s : Session η σ φ) (block : Nat) : Except NetError Unit × Session η σ φ :=
  let s := { s with transfer := { s.transfer with acked := block } }
  let number := wireBlock block s.transfer.rollover
  (s.tell up (.acknowledging number)).send up (.ack number)

variable [FileHandle η φ]

/-! ## Ending -/

/-- Closes the file, if it is open. -/
def closeFile (s : Session η σ φ) : Except FileError Unit × Session η σ φ :=
  let ⟨transfer, timer, link, volume⟩ := s
  match transfer.file with
  | none => (.ok (), ⟨transfer, timer, link, volume⟩)
  | some file =>
    let (answer, volume) := FileHandle.close file volume
    (answer, ⟨{ transfer with file := none }, timer, link, volume⟩)

/-- Ends the transfer. A file that cannot be closed spoils a transfer that went well. What ended
once stays as it is. -/
def finish (s : Session η σ φ) (result : Except TransferError Unit) : Session η σ φ :=
  if s.transfer.phase = .done then s
  else
    let (closed, s) := s.closeFile
    let report := s.transfer.report (up.now s.link)
    let outcome : Except TransferError TransferReport :=
      match result, closed with
      | .error e, _ => .error e
      | .ok (), .error e => .error (.file e)
      | .ok (), .ok () => .ok report
    let event : TftpEvent :=
      match outcome with
      | .ok report => .finished s.transfer.remote report
      | .error e => .failed s.transfer.remote e
    { s with
      transfer := { s.transfer with phase := .done, pending := [], outcome := some outcome }
      timer := Timer.idle }.tell up event

/-- Ends the transfer because of a failure, and tells the server once its port is known. -/
def fail (s : Session η σ φ) (cause : TransferError) (code : UInt16) :
    Except NetError Unit × Session η σ φ :=
  let s := s.finish up (.error cause)
  if s.transfer.serverPort.isSome then s.send up (.error code cause.message) else (.ok (), s)

/-- Abandons a transfer that is not done. -/
def cancel (s : Session η σ φ) : Session η σ φ :=
  match s.fail up .cancelled Tftp.errorNotDefined with
  | (.ok (), s) => s
  | (.error e, s) => s.tell up (.cancelNotSent e)

/-! ## Receiving a file -/

/-- Writes blocks to a file, oldest first, up to the first that cannot be written. -/
def writeBlocks (file : η) (volume : φ) : List Bytes → Except FileError Unit × η × φ
  | [] => (.ok (), file, volume)
  | block :: rest =>
    match FileHandle.writeAll file block volume with
    | (.ok (), file, volume) => writeBlocks file volume rest
    | (.error e, file, volume) => (.error e, file, volume)

/-- Writes the pending blocks to the file. -/
def flush (s : Session η σ φ) : Except TransferError Unit × Session η σ φ :=
  let ⟨transfer, timer, link, volume⟩ := s
  match transfer.file with
  | none => (.ok (), ⟨{ transfer with pending := [] }, timer, link, volume⟩)
  | some file =>
    let (answer, file, volume) := writeBlocks file volume transfer.pending
    (answer.mapError .file,
      ⟨{ transfer with file := some file, pending := [] }, timer, link, volume⟩)

/-- Acknowledges the blocks received so far and writes them; the acknowledgement goes first, so that
the server sends on meanwhile. When it cannot be sent, the blocks stay pending. -/
def acknowledgeAndFlush (s : Session η σ φ) : Except NetError Unit × Session η σ φ :=
  match s.sendAck up (s.transfer.nextBlock - 1) with
  | (.error e, s) => (.error e, s)
  | (.ok (), s) =>
    match s.flush with
    | (.ok (), s) => (.ok (), s)
    | (.error e, s) => s.fail up e (errorCode e)

/-- Takes the block that is next. A full window, or the short block at the end, is acknowledged and
written. -/
def receiveBlock (s : Session η σ φ) (content : Bytes) : Except NetError Unit × Session η σ φ :=
  let last := decide (content.length < s.transfer.blockSize.toNat)
  let transfer :=
    { s.transfer with
      pending := s.transfer.pending ++ [content]
      bytes := s.transfer.bytes + content.length
      nextBlock := s.transfer.nextBlock + 1 }
  let s := { s with transfer }.progress up
  if last || s.transfer.pending.length ≥ s.transfer.windowSize.toNat then
    match s.acknowledgeAndFlush up with
    | (.error e, s) => (.error e, s)
    | (.ok (), s) => (.ok (), if last then s.finish up (.ok ()) else s)
  else (.ok (), s)

/-- Handles a block of the file. -/
def receiveData (s : Session η σ φ) (number : UInt16) (content : Bytes) :
    Except NetError Unit × Session η σ φ :=
  if content.length > s.transfer.blockSize.toNat then
    s.fail up .protocol Tftp.errorIllegalOperation
  else if number ≠ wireBlock s.transfer.nextBlock s.transfer.rollover then
    (.ok (), s.tell up (.discarding number))
  else s.receiveBlock up content

/-! ## Sending a file -/

/-- Reads a block from the file. -/
def readBlock (s : Session η σ φ) (block : Nat) : Except TransferError Bytes × Session η σ φ :=
  let size := s.transfer.blockSize.toNat
  match s.transfer.file with
  | none => (.error (.file .ioError), s)
  | some file =>
    let (answer, file, volume) := FileHandle.seek file ((block - 1) * size) s.volume
    let s := { s with transfer := { s.transfer with file := some file }, volume }
    match answer with
    | .error e => (.error (.file e), s)
    | .ok () =>
      let (answer, content, file, volume) := FileHandle.readFull file size s.volume
      let s := { s with transfer := { s.transfer with file := some file }, volume }
      match answer with
      | .error e => (.error (.file e), s)
      | .ok () => (.ok content, s)

/-- Sends the next `count` blocks of the file. -/
def sendBlocks (s : Session η σ φ) : (count : Nat) → Except NetError Unit × Session η σ φ
  | 0 => (.ok (), s)
  | count + 1 =>
    let block := s.transfer.nextBlock
    match s.readBlock block with
    | (.error e, s) => s.fail up e Tftp.errorAccessViolation
    | (.ok content, s) =>
      match s.send up (.data (wireBlock block s.transfer.rollover) content) with
      | (.error e, s) => (.error e, s)
      | (.ok (), s) =>
        sendBlocks { s with transfer := { s.transfer with nextBlock := block + 1 } } count

/-- Sends blocks until the window is full. -/
def sendWindow (s : Session η σ φ) : Except NetError Unit × Session η σ φ :=
  s.sendBlocks up (s.transfer.windowEnd + 1 - s.transfer.nextBlock)

/-- Sends the window past the last acknowledged block once more. -/
def resendWindow (s : Session η σ φ) : Except NetError Unit × Session η σ φ :=
  { s with transfer := { s.transfer with nextBlock := s.transfer.acked + 1 } }.sendWindow up

/-- Handles an acknowledgement. It may name any block sent; the last acknowledged block again means
that the server missed part of the window. -/
def receiveAck (s : Session η σ φ) (number : UInt16) : Except NetError Unit × Session η σ φ :=
  match s.transfer.acknowledged? number with
  | none => (s.tell up (.strayAck number)).fail up .protocol Tftp.errorIllegalOperation
  | some block =>
    if block = s.transfer.acked then (s.tell up (.repeatedAck number)).resendWindow up
    else
      let bytes := min (block * s.transfer.blockSize.toNat) s.transfer.sizeOrZero
      let s := { s with transfer := { s.transfer with acked := block, bytes } }.progress up
      if block = s.transfer.finalBlock then (.ok (), s.finish up (.ok ())) else s.sendWindow up

/-! ## Packets -/

/-- Handles the acknowledgement of the options. -/
def receiveOptions (s : Session η σ φ) (o : TftpOptions) : Except NetError Unit × Session η σ φ :=
  match s.transfer.acceptOptions o with
  | .error e => s.fail up e Tftp.errorOptionRefused
  | .ok t =>
    let agreed : TftpEvent := .agreed t.blockSize t.windowSize t.rollover t.size
    let s := { s with transfer := t }.tell up agreed
    let s := { s with transfer := { s.transfer with phase := .transferring } }.progress up
    match s.transfer.direction with
    | .get => s.sendAck up 0
    | .put => s.sendWindow up

/-- Handles a packet from the server's port. -/
def receivePacket (s : Session η σ φ) (p : TftpPacket) : Except NetError Unit × Session η σ φ :=
  match s.transfer.phase, p, s.transfer.direction with
  | _, .error code text, _ =>
    (.ok (), (s.tell up (.serverError code text)).finish up (.error (.server code text)))
  | .negotiating, .optionAck options, _ => s.receiveOptions up options
  | .negotiating, .data .., _ | .negotiating, .ack _, _ =>
    (s.tell up (.optionsIgnored s.transfer.server)).fail up .noOptionAck Tftp.errorOptionRefused
  | .transferring, .data number content, .get => s.receiveData up number content
  | .transferring, .ack number, .put => s.receiveAck up number
  | phase, p, direction =>
    if phase = .transferring ∧ p matches .optionAck _ ∧ direction = .get ∧ s.transfer.acked = 0 then
      s.sendAck up 0
    else (s.tell up (.unexpected p)).fail up .protocol Tftp.errorIllegalOperation

/-- Handles the content of a datagram from the server's port. -/
def receiveContent (s : Session η σ φ) (payload : Bytes) : Except NetError Unit × Session η σ φ :=
  match TftpPacket.parse payload with
  | .error e =>
    let s := s.tell up (.malformed e)
    (.ok (), { s with link := up.countMalformed s.link })
  | .ok p => s.receivePacket up p

/-- Handles a received datagram. The first one fixes the port of the server; datagrams from its
other ports are turned away. -/
def receive (s : Session η σ φ) (sourcePort : UInt16) (payload : Bytes) :
    Except NetError Unit × Session η σ φ :=
  if s.transfer.phase = .done then (.ok (), s)
  else
    match s.transfer.serverPort with
    | none =>
      { s with transfer := { s.transfer with serverPort := some sourcePort } }.receiveContent up
        payload
    | some port =>
      if port = sourcePort then s.receiveContent up payload
      else
        (s.tell up (.foreign sourcePort)).sendTo up sourcePort
          (.error Tftp.errorUnknownTransfer "Unknown transfer ID")

/-! ## Expiry -/

/-- Repeats the outstanding step. -/
def retry (s : Session η σ φ) : Except NetError Unit × Session η σ φ :=
  match s.transfer.phase, s.transfer.direction with
  | .negotiating, _ => s.sendRequest up
  | _, .get => s.acknowledgeAndFlush up
  | _, .put => s.resendWindow up

/-- Handles the expiry of the timer, which is no longer armed. -/
def expire (s : Session η σ φ) : Except NetError Unit × Session η σ φ :=
  if s.transfer.phase = .done then (.ok (), s)
  else
    let transfer :=
      { s.transfer with timeouts := s.transfer.timeouts + 1, retries := s.transfer.retries + 1 }
    let s := { s with transfer }
    let most := transfer.requested.maxRetries
    if transfer.retries > most then
      (s.tell up (.givingUp most)).fail up .timeout Tftp.errorNotDefined
    else ((s.arm up).tell up (.timeout transfer.timeouts transfer.retries)).retry up

end Session

end Transfer

end PolledNet
