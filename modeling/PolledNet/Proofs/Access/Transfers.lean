import PolledNet.Proofs.Access.Clients
import PolledNet.Proofs.Access.Files
import PolledNet.Proofs.Tftp.Conduct

/-!
# Checked file transfers

A transfer works with what the server sends: the block size that it divides by, the numbers that it
looks up, the octets behind the header of a block. On an interface that can always send, and with a
handle that never reads more than it was asked for, a transfer that counts its blocks from one
(`Transfer.Counting`) never faults, whatever it receives (`Transfer.Session.checkedReceive_eq`) and
whenever its timer expires (`Transfer.Session.checkedExpire_eq`). It goes on counting so
(`Transfer.Session.counting_receive`, `Transfer.Session.counting_expire`).
-/

namespace PolledNet

/-! ## Block numbers -/

/-- The number on the wire of block `n`. -/
def checkedWireBlock (n : Nat) : Rollover → Except Fault UInt16
  | .zero => .ok (UInt16.ofNat n)
  | .one =>
    if n < 65536 then .ok (UInt16.ofNat n)
    else do return UInt16.ofNat ((← minus? n 65536) % 65535 + 1)

/-- The number of a block on the wire is computed without a fault. -/
theorem checkedWireBlock_eq (n : Nat) (r : Rollover) :
    checkedWireBlock n r = .ok (wireBlock n r) := by
  cases r with
  | zero => rfl
  | one =>
    refine ite_ok (fun _ => rfl) fun large => ?_
    rw [minus?_eq (Nat.le_of_not_lt large)]
    rfl

namespace Transfer

variable {η σ φ : Type}

/-- The next block has a block before it. -/
def Counting (t : Transfer η) : Prop := 1 ≤ t.nextBlock

/-- Whether a transfer counts depends on its next block only. -/
theorem Counting.of_eq {t t' : Transfer η} (counting : t.Counting)
    (same : t'.nextBlock = t.nextBlock) : t'.Counting :=
  Nat.le_trans counting (Nat.le_of_eq same.symm)

/-! ## Single computations -/

/-- The block that an acknowledgement names. -/
def checkedAcknowledged? (t : Transfer η) (number : UInt16) : Except Fault (Option Nat) :=
  (List.range' t.acked (t.nextBlock - t.acked)).findM? fun n => do
    return decide ((← checkedWireBlock n t.rollover) = number)

/-- The block of an acknowledgement is looked for without a fault. -/
theorem checkedAcknowledged?_eq (t : Transfer η) (number : UInt16) :
    t.checkedAcknowledged? number = .ok (t.acknowledged? number) := by
  unfold checkedAcknowledged? acknowledged?
  simp only [checkedWireBlock_eq, ok_bind]
  exact List.findM?_pure _ _

/-- Adopts the options that the server acknowledged. -/
def checkedAcceptOptions (t : Transfer η) (o : TftpOptions) :
    Except Fault (Except TransferError (Transfer η)) :=
  let blockSize := o.blockSize.getD Tftp.defaultBlockSize
  let windowSize := o.windowSize.getD 1
  if blockSize > t.requested.blockSize ∨ windowSize > t.requested.windowSize then
    .ok (.error .badOption)
  else
    let t := { t with blockSize, windowSize, rollover := o.rollover.getD .zero }
    match t.direction with
    | .get => .ok (.ok { t with size := o.transferSize })
    | .put => do
      let whole ← divide? t.sizeOrZero blockSize.toNat
      return .ok { t with finalBlock := whole + 1 }

/-- No block size that the server can agree to is zero. -/
theorem checkedAcceptOptions_eq (t : Transfer η) {o : TftpOptions} (sized : o.Sized) :
    t.checkedAcceptOptions o = .ok (t.acceptOptions o) := by
  have pos : 0 < (o.blockSize.getD Tftp.defaultBlockSize).toNat := by
    cases size : o.blockSize with
    | none => decide
    | some n => exact Nat.lt_of_lt_of_le (by decide) (sized n size)
  unfold checkedAcceptOptions acceptOptions
  refine ite_ok (fun _ => rfl) fun _ => ?_
  dsimp only
  cases t.direction with
  | get => rfl
  | put =>
    rw [divide?_eq _ pos]
    rfl

/-- What a transfer has moved when it ends at `now`. -/
def checkedReport (t : Transfer η) (now : Tick) : Except Fault TransferReport := do
  let elapsed := now - t.started
  return {
    bytes := t.bytes, elapsed, timeouts := t.timeouts
    bytesPerSecond := ← divide? (t.bytes * Tick.perSecond.toNat) (max elapsed 1).toNat }

/-- A report is made without a fault. -/
theorem checkedReport_eq (t : Transfer η) (now : Tick) :
    t.checkedReport now = .ok (t.report now) := by
  have pos : 0 < (max (now - t.started) 1).toNat := by
    show 0 < (if now - t.started ≤ 1 then 1 else now - t.started).toNat
    split
    · decide
    · rename_i long
      exact Nat.lt_trans Nat.one_pos (UInt32.lt_iff_toNat_lt.mp (UInt32.not_le.mp long))
  unfold checkedReport
  dsimp only
  rw [divide?_eq _ pos]
  rfl

namespace Session

variable (up : CheckedUplink σ)

/-! ## Talking to the server -/

/-- Sends a packet to a port of the server. -/
def checkedSendTo (s : Session η σ φ) (port : UInt16) (p : TftpPacket) :
    Except Fault (Except NetError Unit × Session η σ φ) := do
  let (answer, link) ←
    up.checkedSend s.transfer.localPort s.transfer.server port p.octets s.link
  return (answer, { s with link })

/-- Sends a packet to the server. -/
def checkedSend (s : Session η σ φ) (p : TftpPacket) :
    Except Fault (Except NetError Unit × Session η σ φ) :=
  s.checkedSendTo up (s.transfer.serverPort.getD Tftp.serverPort) p

/-- Sends the request, always to the well-known port. -/
def checkedSendRequest (s : Session η σ φ) :
    Except Fault (Except NetError Unit × Session η σ φ) :=
  let t := s.transfer
  (s.tell up.toUplink (.requesting t.direction t.remote t.server)).checkedSendTo up Tftp.serverPort
    t.requestPacket

/-- Acknowledges all blocks up to `block`. -/
def checkedSendAck (s : Session η σ φ) (block : Nat) :
    Except Fault (Except NetError Unit × Session η σ φ) := do
  let s := { s with transfer := { s.transfer with acked := block } }
  let number ← checkedWireBlock block s.transfer.rollover
  (s.tell up.toUplink (.acknowledging number)).checkedSend up (.ack number)

variable [FileHandle η φ]

/-- Ends the transfer. -/
def checkedFinish (s : Session η σ φ) (result : Except TransferError Unit) :
    Except Fault (Session η σ φ) :=
  if s.transfer.phase = .done then .ok s
  else do
    let (closed, s) := s.closeFile
    let report ← s.transfer.checkedReport (up.now s.link)
    let outcome : Except TransferError TransferReport :=
      match result, closed with
      | .error e, _ => .error e
      | .ok (), .error e => .error (.file e)
      | .ok (), .ok () => .ok report
    let event : TftpEvent :=
      match outcome with
      | .ok report => .finished s.transfer.remote report
      | .error e => .failed s.transfer.remote e
    return { s with
      transfer := { s.transfer with phase := .done, pending := [], outcome := some outcome }
      timer := Timer.idle }.tell up.toUplink event

/-- Ends the transfer because of a failure, and tells the server once its port is known. -/
def checkedFail (s : Session η σ φ) (cause : TransferError) (code : UInt16) :
    Except Fault (Except NetError Unit × Session η σ φ) := do
  let s ← s.checkedFinish up (.error cause)
  if s.transfer.serverPort.isSome then s.checkedSend up (.error code cause.message)
  else return (.ok (), s)

/-! ## Receiving a file -/

/-- Writes blocks to a file, oldest first. -/
def checkedWriteBlocks (file : η) (volume : φ) :
    List Bytes → Except Fault (Except FileError Unit × η × φ)
  | [] => .ok (.ok (), file, volume)
  | block :: rest => do
    match ← FileHandle.checkedWriteFrom file block 0 volume with
    | (.ok (), file, volume) => checkedWriteBlocks file volume rest
    | (.error e, file, volume) => return (.error e, file, volume)

/-- Writes the pending blocks to the file. -/
def checkedFlush (s : Session η σ φ) :
    Except Fault (Except TransferError Unit × Session η σ φ) :=
  let ⟨transfer, timer, link, volume⟩ := s
  match transfer.file with
  | none => .ok (.ok (), ⟨{ transfer with pending := [] }, timer, link, volume⟩)
  | some file => do
    let (answer, file, volume) ← checkedWriteBlocks file volume transfer.pending
    return (answer.mapError .file,
      ⟨{ transfer with file := some file, pending := [] }, timer, link, volume⟩)

/-- Acknowledges the blocks received so far and writes them. -/
def checkedAcknowledgeAndFlush (s : Session η σ φ) :
    Except Fault (Except NetError Unit × Session η σ φ) := do
  match ← s.checkedSendAck up (← minus? s.transfer.nextBlock 1) with
  | (.error e, s) => return (.error e, s)
  | (.ok (), s) =>
    match ← s.checkedFlush with
    | (.ok (), s) => return (.ok (), s)
    | (.error e, s) => s.checkedFail up e (errorCode e)

/-- Takes the block that is next, in the packet that it came in. -/
def checkedReceiveBlock (s : Session η σ φ) (payload : Bytes) :
    Except Fault (Except NetError Unit × Session η σ φ) := do
  let length ← minus? payload.length 4
  let content ← payload.suffix? 4
  let last := decide (length < s.transfer.blockSize.toNat)
  let transfer :=
    { s.transfer with
      pending := s.transfer.pending ++ [content]
      bytes := s.transfer.bytes + length
      nextBlock := s.transfer.nextBlock + 1 }
  let s := { s with transfer }.progress up.toUplink
  if last || s.transfer.pending.length ≥ s.transfer.windowSize.toNat then
    match ← s.checkedAcknowledgeAndFlush up with
    | (.error e, s) => return (.error e, s)
    | (.ok (), s) => return (.ok (), ← if last then s.checkedFinish up (.ok ()) else .ok s)
  else return (.ok (), s)

/-- Handles a block of the file. -/
def checkedReceiveData (s : Session η σ φ) (number : UInt16) (content payload : Bytes) :
    Except Fault (Except NetError Unit × Session η σ φ) :=
  if content.length > s.transfer.blockSize.toNat then
    s.checkedFail up .protocol Tftp.errorIllegalOperation
  else do
    if number ≠ (← checkedWireBlock s.transfer.nextBlock s.transfer.rollover) then
      return (.ok (), s.tell up.toUplink (.discarding number))
    else s.checkedReceiveBlock up payload

/-! ## Sending a file -/

/-- Reads a block from the file, into a buffer that has its size. -/
def checkedReadBlock (s : Session η σ φ) (block : Nat) (buffer : Bytes) :
    Except Fault (Except TransferError Bytes × Bytes × Session η σ φ) :=
  match s.transfer.file with
  | none => .ok (.error (.file .ioError), buffer, s)
  | some file => do
    let position := (← minus? block 1) * buffer.length
    let (answer, file, volume) := FileHandle.seek file position s.volume
    let s := { s with transfer := { s.transfer with file := some file }, volume }
    match answer with
    | .error e => return (.error (.file e), buffer, s)
    | .ok () =>
      let (answer, buffer, filled, file, volume) ←
        FileHandle.checkedReadInto file buffer 0 s.volume
      let s := { s with transfer := { s.transfer with file := some file }, volume }
      match answer with
      | .error e => return (.error (.file e), buffer, s)
      | .ok () => return (.ok (← buffer.slice? 0 filled), buffer, s)

/-- Sends the next `count` blocks of the file, each through the same buffer. -/
def checkedSendBlocks (s : Session η σ φ) (buffer : Bytes) :
    (count : Nat) → Except Fault (Except NetError Unit × Session η σ φ)
  | 0 => .ok (.ok (), s)
  | count + 1 => do
    let block := s.transfer.nextBlock
    match ← s.checkedReadBlock block buffer with
    | (.error e, _, s) => s.checkedFail up e Tftp.errorAccessViolation
    | (.ok content, buffer, s) =>
      let number ← checkedWireBlock block s.transfer.rollover
      match ← s.checkedSend up (.data number content) with
      | (.error e, s) => return (.error e, s)
      | (.ok (), s) =>
        checkedSendBlocks { s with transfer := { s.transfer with nextBlock := block + 1 } } buffer
          count

/-- Sends blocks until the window is full. -/
def checkedSendWindow (s : Session η σ φ) :
    Except Fault (Except NetError Unit × Session η σ φ) :=
  s.checkedSendBlocks up (List.replicate s.transfer.blockSize.toNat 0)
    (s.transfer.windowEnd + 1 - s.transfer.nextBlock)

/-- Sends the window past the last acknowledged block once more. -/
def checkedResendWindow (s : Session η σ φ) :
    Except Fault (Except NetError Unit × Session η σ φ) :=
  { s with
    transfer := { s.transfer with nextBlock := s.transfer.acked + 1 } }.checkedSendWindow up

/-- Handles an acknowledgement. -/
def checkedReceiveAck (s : Session η σ φ) (number : UInt16) :
    Except Fault (Except NetError Unit × Session η σ φ) := do
  match ← s.transfer.checkedAcknowledged? number with
  | none =>
    (s.tell up.toUplink (.strayAck number)).checkedFail up .protocol Tftp.errorIllegalOperation
  | some block =>
    if block = s.transfer.acked then
      (s.tell up.toUplink (.repeatedAck number)).checkedResendWindow up
    else
      let bytes := min (block * s.transfer.blockSize.toNat) s.transfer.sizeOrZero
      let s :=
        { s with transfer := { s.transfer with acked := block, bytes } }.progress up.toUplink
      if block = s.transfer.finalBlock then return (.ok (), ← s.checkedFinish up (.ok ()))
      else s.checkedSendWindow up

/-! ## Packets -/

/-- Handles the acknowledgement of the options. -/
def checkedReceiveOptions (s : Session η σ φ) (o : TftpOptions) :
    Except Fault (Except NetError Unit × Session η σ φ) := do
  match ← s.transfer.checkedAcceptOptions o with
  | .error e => s.checkedFail up e Tftp.errorOptionRefused
  | .ok t =>
    let agreed : TftpEvent := .agreed t.blockSize t.windowSize t.rollover t.size
    let s := { s with transfer := t }.tell up.toUplink agreed
    let s :=
      { s with transfer := { s.transfer with phase := .transferring } }.progress up.toUplink
    match s.transfer.direction with
    | .get => s.checkedSendAck up 0
    | .put => s.checkedSendWindow up

/-- Handles a packet from the server's port, and what it was read from. -/
def checkedReceivePacket (s : Session η σ φ) (p : TftpPacket) (payload : Bytes) :
    Except Fault (Except NetError Unit × Session η σ φ) :=
  match s.transfer.phase, p, s.transfer.direction with
  | _, .error code text, _ => do
    let s ← (s.tell up.toUplink (.serverError code text)).checkedFinish up
      (.error (.server code text))
    return (.ok (), s)
  | .negotiating, .optionAck options, _ => s.checkedReceiveOptions up options
  | .negotiating, .data .., _ | .negotiating, .ack _, _ =>
    (s.tell up.toUplink (.optionsIgnored s.transfer.server)).checkedFail up .noOptionAck
      Tftp.errorOptionRefused
  | .transferring, .data number content, .get => s.checkedReceiveData up number content payload
  | .transferring, .ack number, .put => s.checkedReceiveAck up number
  | phase, p, direction =>
    if phase = .transferring ∧ p matches .optionAck _ ∧ direction = .get ∧ s.transfer.acked = 0 then
      s.checkedSendAck up 0
    else
      (s.tell up.toUplink (.unexpected p)).checkedFail up .protocol Tftp.errorIllegalOperation

/-- Handles the content of a datagram from the server's port. -/
def checkedReceiveContent (s : Session η σ φ) (payload : Bytes) :
    Except Fault (Except NetError Unit × Session η σ φ) := do
  match ← TftpPacket.checkedParse payload with
  | .error e =>
    let s := s.tell up.toUplink (.malformed e)
    return (.ok (), { s with link := up.countMalformed s.link })
  | .ok p => s.checkedReceivePacket up p payload

/-- Handles a received datagram. -/
def checkedReceive (s : Session η σ φ) (sourcePort : UInt16) (payload : Bytes) :
    Except Fault (Except NetError Unit × Session η σ φ) :=
  if s.transfer.phase = .done then .ok (.ok (), s)
  else
    match s.transfer.serverPort with
    | none =>
      { s with
        transfer := { s.transfer with serverPort := some sourcePort } }.checkedReceiveContent up
          payload
    | some port =>
      if port = sourcePort then s.checkedReceiveContent up payload
      else
        (s.tell up.toUplink (.foreign sourcePort)).checkedSendTo up sourcePort
          (.error Tftp.errorUnknownTransfer "Unknown transfer ID")

/-! ## Expiry -/

/-- Repeats the outstanding step. -/
def checkedRetry (s : Session η σ φ) : Except Fault (Except NetError Unit × Session η σ φ) :=
  match s.transfer.phase, s.transfer.direction with
  | .negotiating, _ => s.checkedSendRequest up
  | _, .get => s.checkedAcknowledgeAndFlush up
  | _, .put => s.checkedResendWindow up

/-- Handles the expiry of the timer, which is no longer armed. -/
def checkedExpire (s : Session η σ φ) : Except Fault (Except NetError Unit × Session η σ φ) :=
  if s.transfer.phase = .done then .ok (.ok (), s)
  else
    let transfer :=
      { s.transfer with timeouts := s.transfer.timeouts + 1, retries := s.transfer.retries + 1 }
    let s := { s with transfer }
    let most := transfer.requested.maxRetries
    if transfer.retries > most then
      (s.tell up.toUplink (.givingUp most)).checkedFail up .timeout Tftp.errorNotDefined
    else
      ((s.arm up.toUplink).tell up.toUplink
        (.timeout transfer.timeouts transfer.retries)).checkedRetry up

/-! ## Counting goes on -/

section Counting

variable (up : Uplink σ) (s : Session η σ φ)

omit [FileHandle η φ] in
/-- Agreeing on options does not count a block. -/
theorem acceptOptions_nextBlock {t t' : Transfer η} {o : TftpOptions}
    (agreed : t.acceptOptions o = .ok t') : t'.nextBlock = t.nextBlock := by
  cases direction : t.direction with
  | get => rw [acceptOptions_get direction agreed]
  | put => rw [acceptOptions_put direction agreed]

omit [FileHandle η φ] in
/-- Progress does not count a block. -/
theorem progress_nextBlock : (s.progress up).transfer.nextBlock = s.transfer.nextBlock := by
  rw [progress_transfer]

/-- Finishing does not count a block. -/
theorem finish_nextBlock (result : Except TransferError Unit) :
    (s.finish up result).transfer.nextBlock = s.transfer.nextBlock := by
  by_cases done : s.transfer.phase = .done
  · rw [finish_of_done up s done]
  · rw [finish_transfer up s done]

/-- Failing does not count a block. -/
theorem fail_nextBlock (cause : TransferError) (code : UInt16) :
    (s.fail up cause code).2.transfer.nextBlock = s.transfer.nextBlock := by
  by_cases done : s.transfer.phase = .done
  · rw [fail_transfer_of_done up s done]
  · rw [fail_transfer up s done]

/-- Writing what is pending does not count a block. -/
theorem flush_nextBlock : s.flush.2.transfer.nextBlock = s.transfer.nextBlock := by
  obtain ⟨file, flushed⟩ := s.flush_transfer
  rw [flushed]

/-- Acknowledging and writing a window does not count a block. -/
theorem acknowledgeAndFlush_nextBlock :
    (s.acknowledgeAndFlush up).2.transfer.nextBlock = s.transfer.nextBlock := by
  have acked := congrArg nextBlock (sendAck_transfer up s (s.transfer.nextBlock - 1))
  unfold acknowledgeAndFlush
  split <;> rename_i s₁ sent <;> rw [sent] at acked
  · exact acked
  · have flushed := s₁.flush_nextBlock
    split <;> rename_i s₂ written <;> rw [written] at flushed
    · exact flushed.trans acked
    · exact (fail_nextBlock up s₂ _ _).trans (flushed.trans acked)

/-- Receiving a block counts it. -/
theorem receiveBlock_nextBlock (content : Bytes) :
    (s.receiveBlock up content).2.transfer.nextBlock = s.transfer.nextBlock + 1 := by
  have progressed := progress_nextBlock up (s.withBlock content)
  have acknowledged := acknowledgeAndFlush_nextBlock up ((s.withBlock content).progress up)
  rw [receiveBlock_eq]
  split
  · split <;> rename_i eq <;> rw [eq] at acknowledged
    · exact acknowledged.trans progressed
    · split
      · exact (finish_nextBlock up _ _).trans (acknowledged.trans progressed)
      · exact acknowledged.trans progressed
  · exact progressed

/-- Reading a block changes nothing of a transfer but its file. -/
theorem readBlock_transfer (block : Nat) :
    ∃ file, (s.readBlock block).2.transfer = { s.transfer with file } := by
  unfold readBlock
  dsimp only
  split
  · exact ⟨s.transfer.file, rfl⟩
  · split
    · exact ⟨_, rfl⟩
    · split <;> exact ⟨_, rfl⟩

variable {s}

/-- A transfer goes on counting when it receives data. -/
theorem counting_receiveData (counting : s.transfer.Counting) (number : UInt16)
    (content : Bytes) : (s.receiveData up number content).2.transfer.Counting := by
  unfold receiveData
  split
  · exact counting.of_eq (fail_nextBlock up s _ _)
  · split
    · exact counting
    · rw [Counting, receiveBlock_nextBlock]
      exact Nat.le_add_left 1 _

/-- A transfer goes on counting when it sends blocks. -/
theorem counting_sendBlocks (counting : s.transfer.Counting) (count : Nat) :
    (s.sendBlocks up count).2.transfer.Counting := by
  induction count generalizing s with
  | zero => exact counting
  | succ count ih =>
    obtain ⟨file, transfer⟩ := s.readBlock_transfer s.transfer.nextBlock
    have read := congrArg nextBlock transfer
    unfold sendBlocks
    dsimp only
    split <;> rename_i s₁ eq <;> rw [eq] at read
    · exact counting.of_eq ((fail_nextBlock up s₁ _ _).trans read)
    · rename_i content
      have sent := congrArg nextBlock (send_transfer up s₁
        (.data (wireBlock s.transfer.nextBlock s₁.transfer.rollover) content))
      split <;> rename_i s₂ eq' <;> rw [eq'] at sent
      · exact counting.of_eq (sent.trans read)
      · exact ih (Nat.le_add_left 1 _)

/-- A transfer counts from the acknowledged block on when it sends its window again. -/
theorem counting_resendWindow (s : Session η σ φ) :
    (s.resendWindow up).2.transfer.Counting :=
  counting_sendBlocks up (Nat.le_add_left 1 _) _

/-- A transfer goes on counting when it receives an acknowledgement. -/
theorem counting_receiveAck (counting : s.transfer.Counting) (number : UInt16) :
    (s.receiveAck up number).2.transfer.Counting := by
  rw [receiveAck_eq]
  split
  · exact counting.of_eq (fail_nextBlock up _ _ _)
  · rename_i block _
    have progressed : ((s.withAck block).progress up).transfer.Counting :=
      counting.of_eq (progress_nextBlock up (s.withAck block))
    split
    · exact counting_resendWindow up _
    · split
      · exact progressed.of_eq (finish_nextBlock up _ _)
      · exact counting_sendBlocks up progressed _

/-- A transfer goes on counting when it receives options. -/
theorem counting_receiveOptions (counting : s.transfer.Counting) (o : TftpOptions) :
    (s.receiveOptions up o).2.transfer.Counting := by
  cases agreed : s.transfer.acceptOptions o with
  | error e =>
    unfold receiveOptions
    rw [agreed]
    exact counting.of_eq (fail_nextBlock up _ _ _)
  | ok t =>
    have begun : (s.begun up t).transfer.Counting := by
      have same : t.nextBlock = s.transfer.nextBlock := acceptOptions_nextBlock agreed
      exact counting.of_eq ((progress_nextBlock up _).trans same)
    rw [receiveOptions_of_ok up s agreed]
    split
    · exact begun
    · exact counting_sendBlocks up begun _

/-- A transfer goes on counting when it receives a packet. -/
theorem counting_receivePacket (counting : s.transfer.Counting) (p : TftpPacket) :
    (s.receivePacket up p).2.transfer.Counting := by
  unfold receivePacket
  split
  · exact counting.of_eq (finish_nextBlock up _ _)
  · exact counting_receiveOptions up counting _
  · exact counting.of_eq (fail_nextBlock up _ _ _)
  · exact counting.of_eq (fail_nextBlock up _ _ _)
  · exact counting_receiveData up counting _ _
  · exact counting_receiveAck up counting _
  · split
    · split
      · exact counting
      · exact counting.of_eq (fail_nextBlock up _ _ _)
    · rw [if_neg (by simp)]
      exact counting.of_eq (fail_nextBlock up _ _ _)

/-- **Whatever a transfer receives**, it goes on counting from one. -/
theorem counting_receive (counting : s.transfer.Counting) (sourcePort : UInt16)
    (payload : Bytes) : (s.receive up sourcePort payload).2.transfer.Counting := by
  have content {s : Session η σ φ} (counting : s.transfer.Counting) :
      (s.receiveContent up payload).2.transfer.Counting := by
    unfold receiveContent
    split
    · exact counting
    · exact counting_receivePacket up counting _
  unfold receive
  split
  · exact counting
  · split
    · exact content counting
    · split
      · exact content counting
      · exact counting

/-- A transfer goes on counting when its timer expires. -/
theorem counting_expire (counting : s.transfer.Counting) :
    (s.expire up).2.transfer.Counting := by
  by_cases done : s.transfer.phase = .done
  · rw [expire, if_pos done]
    exact counting
  · rw [expire_eq up s done]
    split
    · exact counting.of_eq (fail_nextBlock up _ _ _)
    · unfold retry
      split
      · exact counting
      · exact counting.of_eq (acknowledgeAndFlush_nextBlock up _)
      · exact counting_resendWindow up _

end Counting

/-! ## No faults -/

section NoFaults

variable {up : CheckedUplink σ} {Good : σ → Prop} (sound : up.Sound Good) {s : Session η σ φ}

/-- Blocks are written without a fault. -/
theorem checkedWriteBlocks_eq (file : η) (volume : φ) (blocks : List Bytes) :
    checkedWriteBlocks file volume blocks = .ok (writeBlocks file volume blocks) := by
  induction blocks generalizing file volume with
  | nil => rfl
  | cons block rest ih =>
    rw [checkedWriteBlocks, writeBlocks, FileHandle.checkedWriteFrom_eq, List.drop_zero, ok_bind]
    rcases FileHandle.writeAll file block volume with ⟨e | ⟨⟩, next, nextVolume⟩
    · rfl
    · exact ih next nextVolume

/-- What is pending is written without a fault. -/
theorem checkedFlush_eq (s : Session η σ φ) : s.checkedFlush = .ok s.flush := by
  unfold checkedFlush flush
  dsimp only
  cases s.transfer.file with
  | none => rfl
  | some file =>
    dsimp only
    rw [checkedWriteBlocks_eq]
    rfl

/-- A transfer finishes without a fault. -/
theorem checkedFinish_eq (up : CheckedUplink σ) (s : Session η σ φ)
    (result : Except TransferError Unit) :
    s.checkedFinish up result = .ok (s.finish up.toUplink result) := by
  unfold checkedFinish finish
  refine ite_ok (fun _ => rfl) fun _ => ?_
  dsimp only
  rw [checkedReport_eq]
  rfl

include sound

section Plain

omit [FileHandle η φ]

variable (good : Good s.link)

include good

/-- A datagram is sent to a port without a fault. -/
theorem checkedSendTo_eq (port : UInt16) (p : TftpPacket) :
    s.checkedSendTo up port p = .ok (s.sendTo up.toUplink port p) := by
  unfold checkedSendTo
  rw [sound.sends good]
  rfl

/-- A packet is sent without a fault. -/
theorem checkedSend_eq (p : TftpPacket) :
    s.checkedSend up p = .ok (s.send up.toUplink p) :=
  checkedSendTo_eq sound good _ p

/-- The request is sent without a fault. -/
theorem checkedSendRequest_eq :
    s.checkedSendRequest up = .ok (s.sendRequest up.toUplink) :=
  checkedSendTo_eq sound (sound.keeps.tell _ s.link good) _ _

/-- An acknowledgement is sent without a fault. -/
theorem checkedSendAck_eq (block : Nat) :
    s.checkedSendAck up block = .ok (s.sendAck up.toUplink block) := by
  unfold checkedSendAck
  dsimp only
  rw [checkedWireBlock_eq, ok_bind]
  exact checkedSend_eq sound (sound.keeps.tell _ s.link good) _

end Plain

/-- A transfer fails without a fault. -/
theorem checkedFail_eq (good : Good s.link) (cause : TransferError) (code : UInt16) :
    s.checkedFail up cause code = .ok (s.fail up.toUplink cause code) := by
  have ended : Good (s.finish up.toUplink (.error cause)).link :=
    moves_finish sound.keeps.toMoves s (.error cause) good
  unfold checkedFail fail
  rw [checkedFinish_eq, ok_bind]
  exact ite_ok (fun _ => checkedSend_eq sound ended _) fun _ => rfl

/-- A window is acknowledged and written without a fault. -/
theorem checkedAcknowledgeAndFlush_eq (good : Good s.link) (counting : s.transfer.Counting) :
    s.checkedAcknowledgeAndFlush up = .ok (s.acknowledgeAndFlush up.toUplink) := by
  have acknowledged := moves_sendAck sound.keeps.toMoves s (s.transfer.nextBlock - 1) good
  unfold checkedAcknowledgeAndFlush acknowledgeAndFlush
  rw [minus?_eq counting, ok_bind, checkedSendAck_eq sound good, ok_bind]
  generalize s.sendAck up.toUplink (s.transfer.nextBlock - 1) = sent at acknowledged ⊢
  rcases sent with ⟨e | ⟨⟩, s₁⟩
  · rfl
  · have flushed : Good s₁.flush.2.link := s₁.flush_link.symm ▸ acknowledged
    dsimp only
    rw [checkedFlush_eq, ok_bind]
    generalize s₁.flush = written at flushed ⊢
    rcases written with ⟨e | ⟨⟩, s₂⟩
    · exact checkedFail_eq sound flushed _ _
    · rfl

/-- A block is cut out of its packet and received without a fault. -/
theorem checkedReceiveBlock_eq (good : Good s.link) {payload : Bytes} (whole : 4 ≤ payload.length) :
    s.checkedReceiveBlock up payload = .ok (s.receiveBlock up.toUplink (payload.drop 4)) := by
  have progressed : Good ((s.withBlock (payload.drop 4)).progress up.toUplink).link :=
    moves_progress sound.keeps.toMoves (s.withBlock (payload.drop 4)) good
  have counting : ((s.withBlock (payload.drop 4)).progress up.toUplink).transfer.Counting := by
    rw [Counting, progress_nextBlock]
    exact Nat.le_add_left 1 _
  have acknowledged := checkedAcknowledgeAndFlush_eq sound progressed counting
  have length : payload.length - 4 = (payload.drop 4).length := List.length_drop.symm
  unfold checkedReceiveBlock receiveBlock
  rw [minus?_eq whole, ok_bind, Bytes.suffix?_eq whole, ok_bind, length]
  refine ite_ok (fun _ => (bind_of_ok acknowledged _).trans ?_) fun _ => rfl
  show _ = Except.ok
    (match
      ((s.withBlock (payload.drop 4)).progress up.toUplink).acknowledgeAndFlush up.toUplink with
    | (.error e, s) => _
    | (.ok (), s) => _)
  rcases ((s.withBlock (payload.drop 4)).progress up.toUplink).acknowledgeAndFlush up.toUplink with
    ⟨e | ⟨⟩, s₁⟩
  · rfl
  · dsimp only
    rw [checkedFinish_eq]
    split <;> rfl

/-- Data are cut out of their packet and received without a fault. -/
theorem checkedReceiveData_eq (good : Good s.link) (number : UInt16) {payload : Bytes}
    (whole : 4 ≤ payload.length) :
    s.checkedReceiveData up number (payload.drop 4) payload =
      .ok (s.receiveData up.toUplink number (payload.drop 4)) := by
  unfold checkedReceiveData receiveData
  refine ite_ok (fun _ => checkedFail_eq sound good _ _) fun _ => ?_
  rw [checkedWireBlock_eq, ok_bind]
  exact ite_ok (fun _ => rfl) fun _ => checkedReceiveBlock_eq sound good whole

/-! ### Sending a file -/

section Reading

variable [FileHandle.Bounded η φ]

omit sound in
/-- The buffer serves for one block after the other. -/
theorem checkedReadBlock_eq (s : Session η σ φ) {block : Nat} (named : 1 ≤ block) {buffer : Bytes}
    (length : buffer.length = s.transfer.blockSize.toNat) :
    ∃ buffer', buffer'.length = buffer.length ∧
      s.checkedReadBlock block buffer =
        .ok ((s.readBlock block).1, buffer', (s.readBlock block).2) := by
  unfold checkedReadBlock readBlock
  dsimp only
  cases s.transfer.file with
  | none => exact ⟨buffer, rfl, rfl⟩
  | some file =>
    dsimp only
    rw [minus?_eq named, ok_bind, length]
    rcases FileHandle.seek file ((block - 1) * s.transfer.blockSize.toNat) s.volume with
      ⟨e | ⟨⟩, sought, volume⟩
    · exact ⟨buffer, length, rfl⟩
    · dsimp only
      obtain ⟨answer, octets, file', volume', buffer', plain, checked, same, within, filled⟩ :=
        FileHandle.checkedReadInto_eq sought buffer 0 volume (Nat.zero_le _)
      rw [checked, ok_bind]
      rw [Nat.sub_zero, length] at plain
      rw [plain]
      cases answer with
      | error e => exact ⟨buffer', same.trans length, rfl⟩
      | ok done =>
        refine ⟨buffer', same.trans length, ?_⟩
        rw [Nat.zero_add, List.take_zero, List.nil_append] at filled
        dsimp only
        rw [Nat.zero_add, Bytes.slice?_eq_ok (Nat.zero_le _) (by omega), ok_bind, List.drop_zero,
          Nat.sub_zero, filled]
        rfl

/-- Blocks are sent from a buffer of their size without a fault. -/
theorem checkedSendBlocks_eq (good : Good s.link) (counting : s.transfer.Counting) {buffer : Bytes}
    (length : buffer.length = s.transfer.blockSize.toNat) (count : Nat) :
    s.checkedSendBlocks up buffer count = .ok (s.sendBlocks up.toUplink count) := by
  induction count generalizing s buffer with
  | zero => rfl
  | succ count ih =>
    obtain ⟨buffer', same, checked⟩ := checkedReadBlock_eq s counting length
    obtain ⟨file, transfer⟩ := s.readBlock_transfer s.transfer.nextBlock
    have link := s.readBlock_link s.transfer.nextBlock
    unfold checkedSendBlocks sendBlocks
    dsimp only
    rw [checked, ok_bind]
    generalize s.readBlock s.transfer.nextBlock = read at link transfer ⊢
    rcases read with ⟨e | content, s₁⟩
    · exact checkedFail_eq sound (link ▸ good) _ _
    · have good₁ : Good s₁.link := link ▸ good
      let p : TftpPacket := .data (wireBlock s.transfer.nextBlock s₁.transfer.rollover) content
      have sent : Good (s₁.send up.toUplink p).2.link :=
        moves_send sound.keeps.toMoves s₁ p good₁
      have kept : (s₁.send up.toUplink p).2.transfer = s₁.transfer := send_transfer up.toUplink s₁ p
      dsimp only
      rw [checkedWireBlock_eq, ok_bind, checkedSend_eq sound good₁, ok_bind]
      generalize s₁.send up.toUplink p = answered at sent kept ⊢
      rcases answered with ⟨e | ⟨⟩, s₂⟩
      · rfl
      · apply ih
        · exact sent
        · exact Nat.le_add_left 1 _
        · show buffer'.length = s₂.transfer.blockSize.toNat
          rw [same, length, show s₂.transfer = s₁.transfer from kept,
            show s₁.transfer = _ from transfer]

/-- A window is sent without a fault. -/
theorem checkedSendWindow_eq (good : Good s.link) (counting : s.transfer.Counting) :
    s.checkedSendWindow up = .ok (s.sendWindow up.toUplink) :=
  checkedSendBlocks_eq sound good counting List.length_replicate _

/-- A window is sent again without a fault. -/
theorem checkedResendWindow_eq (good : Good s.link) :
    s.checkedResendWindow up = .ok (s.resendWindow up.toUplink) := by
  apply checkedSendWindow_eq sound
  · exact good
  · exact Nat.le_add_left 1 _

/-- An acknowledgement is handled without a fault. -/
theorem checkedReceiveAck_eq (good : Good s.link) (counting : s.transfer.Counting)
    (number : UInt16) :
    s.checkedReceiveAck up number = .ok (s.receiveAck up.toUplink number) := by
  unfold checkedReceiveAck receiveAck
  rw [checkedAcknowledged?_eq, ok_bind]
  cases s.transfer.acknowledged? number with
  | none => exact checkedFail_eq sound (sound.keeps.tell _ s.link good) _ _
  | some block =>
    have progressed : Good ((s.withAck block).progress up.toUplink).link :=
      moves_progress sound.keeps.toMoves (s.withAck block) good
    have still : ((s.withAck block).progress up.toUplink).transfer.Counting :=
      counting.of_eq (progress_nextBlock up.toUplink (s.withAck block))
    refine ite_ok (fun _ => ?_) fun _ => ite_ok (fun _ => ?_) fun _ => ?_
    · exact checkedResendWindow_eq sound (sound.keeps.tell _ s.link good)
    · rw [checkedFinish_eq]
      rfl
    · exact checkedSendWindow_eq sound progressed still

/-! ### Packets -/

/-- Options of a fair size are handled without a fault. -/
theorem checkedReceiveOptions_eq (good : Good s.link) (counting : s.transfer.Counting)
    {o : TftpOptions} (sized : o.Sized) :
    s.checkedReceiveOptions up o = .ok (s.receiveOptions up.toUplink o) := by
  unfold checkedReceiveOptions receiveOptions
  rw [checkedAcceptOptions_eq _ sized, ok_bind]
  cases agreed : s.transfer.acceptOptions o with
  | error e => exact checkedFail_eq sound good _ _
  | ok t =>
    have begun : Good (s.begun up.toUplink t).link := moves_begun sound.keeps.toMoves s t good
    have same : t.nextBlock = s.transfer.nextBlock := acceptOptions_nextBlock agreed
    have still : (s.begun up.toUplink t).transfer.Counting :=
      counting.of_eq ((progress_nextBlock up.toUplink _).trans same)
    show (match (s.begun up.toUplink t).transfer.direction with
      | .get => (s.begun up.toUplink t).checkedSendAck up 0
      | .put => (s.begun up.toUplink t).checkedSendWindow up) =
      .ok (match (s.begun up.toUplink t).transfer.direction with
      | .get => (s.begun up.toUplink t).sendAck up.toUplink 0
      | .put => (s.begun up.toUplink t).sendWindow up.toUplink)
    cases (s.begun up.toUplink t).transfer.direction with
    | get => exact checkedSendAck_eq sound begun 0
    | put => exact checkedSendWindow_eq sound begun still

/-- A packet that can be read is handled without a fault. -/
theorem checkedReceivePacket_eq (good : Good s.link) (counting : s.transfer.Counting)
    {p : TftpPacket} {payload : Bytes} (read : TftpPacket.parse payload = .ok p) :
    s.checkedReceivePacket up p payload = .ok (s.receivePacket up.toUplink p) := by
  have told (e : TftpEvent) : Good (s.tell up.toUplink e).link := sound.keeps.tell _ s.link good
  -- the last case, for any reason to acknowledge the options again
  have others {again : Prop} [Decidable again] :
      (if again then s.checkedSendAck up 0
        else (s.tell up.toUplink (.unexpected p)).checkedFail up .protocol
          Tftp.errorIllegalOperation) =
      .ok (if again then s.sendAck up.toUplink 0
        else (s.tell up.toUplink (.unexpected p)).fail up.toUplink .protocol
          Tftp.errorIllegalOperation) :=
    ite_ok (fun _ => checkedSendAck_eq sound good 0) fun _ => checkedFail_eq sound (told _) _ _
  have ignored := checkedFail_eq sound (told (.optionsIgnored s.transfer.server)) .noOptionAck
    Tftp.errorOptionRefused
  unfold checkedReceivePacket receivePacket
  generalize s.transfer.phase = phase, s.transfer.direction = direction
  cases p with
  | readRequest => cases phase <;> exact others
  | writeRequest => cases phase <;> exact others
  | error code text =>
    cases phase <;> exact bind_of_ok (checkedFinish_eq up _ (.error (.server code text))) _
  | optionAck options =>
    cases phase with
    | negotiating =>
      exact checkedReceiveOptions_eq sound good counting (TftpPacket.sized_of_parse read)
    | transferring | done => exact others
  | data number content =>
    cases phase with
    | negotiating => exact ignored
    | transferring =>
      cases direction with
      | get =>
        obtain ⟨whole, rfl⟩ := TftpPacket.data_of_parse read
        exact checkedReceiveData_eq sound good _ whole
      | put => exact others
    | done => exact others
  | ack number =>
    cases phase with
    | negotiating => exact ignored
    | transferring =>
      cases direction with
      | get => exact others
      | put => exact checkedReceiveAck_eq sound good counting _
    | done => exact others

/-- **Whatever a transfer receives.** -/
theorem checkedReceive_eq (good : Good s.link) (counting : s.transfer.Counting)
    (sourcePort : UInt16) (payload : Bytes) :
    s.checkedReceive up sourcePort payload = .ok (s.receive up.toUplink sourcePort payload) := by
  have content {s : Session η σ φ} (good : Good s.link) (counting : s.transfer.Counting) :
      s.checkedReceiveContent up payload = .ok (s.receiveContent up.toUplink payload) := by
    unfold checkedReceiveContent receiveContent
    rw [TftpPacket.checkedParse_eq, ok_bind]
    cases read : TftpPacket.parse payload with
    | error e => rfl
    | ok p => exact checkedReceivePacket_eq sound good counting read
  unfold checkedReceive receive
  refine ite_ok (fun _ => rfl) fun _ => ?_
  cases s.transfer.serverPort with
  | none =>
    apply content
    · exact good
    · exact counting
  | some port =>
    exact ite_ok (fun _ => content good counting) fun _ =>
      checkedSendTo_eq sound (sound.keeps.tell _ s.link good) _ _

/-! ### Expiry -/

/-- **Whenever the timer expires.** -/
theorem checkedExpire_eq (good : Good s.link) (counting : s.transfer.Counting) :
    s.checkedExpire up = .ok (s.expire up.toUplink) := by
  have told (e : TftpEvent) : Good ((s.counted).tell up.toUplink e).link :=
    sound.keeps.tell _ s.link good
  unfold checkedExpire expire
  refine ite_ok (fun _ => rfl) fun _ => ite_ok (fun _ => ?_) fun _ => ?_
  · exact checkedFail_eq sound (told _) _ _
  · have retrying : Good (s.retrying up.toUplink).link := told _
    show (s.retrying up.toUplink).checkedRetry up = .ok ((s.retrying up.toUplink).retry up.toUplink)
    unfold checkedRetry retry
    generalize (s.retrying up.toUplink).transfer.phase = phase,
      (s.retrying up.toUplink).transfer.direction = direction
    cases phase <;> cases direction
    all_goals
      first
      | exact checkedSendRequest_eq sound retrying
      | exact checkedAcknowledgeAndFlush_eq sound retrying counting
      | exact checkedResendWindow_eq sound retrying

end Reading

end NoFaults

end Session

end Transfer

end PolledNet
