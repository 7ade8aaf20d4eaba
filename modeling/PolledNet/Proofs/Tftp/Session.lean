import PolledNet.Tftp.Transfer

/-!
# What the steps of a transfer leave alone

Each handler of a transfer changes a few fields of its session. The equations here say which, for
an interface of any kind, so that later proofs need not look into the handlers again.

* Talking to the interface (`tell`, `sendTo`, `send`, `sendRequest`) changes the interface only.
* `progress` changes the timer and two counters, `sendAck` the last acknowledged block.
* `finish` and `fail` close the file and fix the outcome; what is done stays done
  (`finish_of_done`).
-/

namespace PolledNet

namespace Transfer

variable {η σ φ : Type}

/-! ## Agreeing on options -/

/-- What a receiver adopts of the options that the server acknowledged. -/
theorem acceptOptions_get {t t' : Transfer η} {o : TftpOptions} (get : t.direction = .get)
    (agreed : t.acceptOptions o = .ok t') :
    t' =
      { t with
        blockSize := o.blockSize.getD Tftp.defaultBlockSize
        windowSize := o.windowSize.getD 1
        rollover := o.rollover.getD .zero
        size := o.transferSize } := by
  unfold acceptOptions at agreed
  dsimp only at agreed
  split at agreed
  · cases agreed
  · cases agreed
    rw [get]

/-- What a sender adopts of them, and the last block that follows from the size of a block. -/
theorem acceptOptions_put {t t' : Transfer η} {o : TftpOptions} (put : t.direction = .put)
    (agreed : t.acceptOptions o = .ok t') :
    t' =
      { t with
        blockSize := o.blockSize.getD Tftp.defaultBlockSize
        windowSize := o.windowSize.getD 1
        rollover := o.rollover.getD .zero
        finalBlock :=
          t.sizeOrZero / (o.blockSize.getD Tftp.defaultBlockSize).toNat + 1 } := by
  unfold acceptOptions at agreed
  dsimp only at agreed
  split at agreed
  · cases agreed
  · cases agreed
    rw [put]
    rfl

namespace Session

variable (up : Uplink σ) (s : Session η σ φ)

/-! ## Talking to the interface -/

/-- Telling the operator does not touch the transfer. -/
@[simp] theorem tell_transfer (e : TftpEvent) : (s.tell up e).transfer = s.transfer := rfl

/-- Sending does not touch the transfer. -/
@[simp] theorem send_transfer (p : TftpPacket) : (s.send up p).2.transfer = s.transfer := rfl

/-- Sending does not touch the timer. -/
@[simp] theorem send_timer (p : TftpPacket) : (s.send up p).2.timer = s.timer := rfl

/-- Sending does not touch the volume. -/
@[simp] theorem send_volume (p : TftpPacket) : (s.send up p).2.volume = s.volume := rfl

/-- Sending the request does not touch the timer. -/
@[simp] theorem sendRequest_timer : (s.sendRequest up).2.timer = s.timer := rfl

/-- Starting does not touch the transfer. -/
@[simp] theorem start_transfer : (s.start up).2.transfer = s.transfer := rfl

/-- Starting does not touch the volume. -/
@[simp] theorem start_volume : (s.start up).2.volume = s.volume := rfl

/-! ## Progress and acknowledgements -/

/-- When progress was last reported, after progress has been made. -/
def progressMark : Tick :=
  if up.now s.link - s.transfer.lastReport ≥ s.transfer.requested.progressInterval then
    up.now s.link
  else s.transfer.lastReport

/-- Progress clears the count of retries, and notes when it was last reported. -/
@[simp] theorem progress_transfer :
    (s.progress up).transfer =
      { s.transfer with retries := 0, lastReport := s.progressMark up } := by
  unfold progress progressMark
  dsimp only [arm]
  split <;> rfl

/-- Progress arms the timer anew. -/
@[simp] theorem progress_timer :
    (s.progress up).timer = Timer.arm (up.now s.link) s.transfer.requested.retryTimeout := by
  unfold progress
  dsimp only
  split <;> rfl

/-- Progress does not touch the volume. -/
@[simp] theorem progress_volume : (s.progress up).volume = s.volume := by
  unfold progress
  dsimp only
  split <;> rfl

/-- Sending an acknowledgement notes which block it is for. -/
@[simp] theorem sendAck_transfer (block : Nat) :
    (s.sendAck up block).2.transfer = { s.transfer with acked := block } := rfl

/-- Sending an acknowledgement does not touch the timer. -/
@[simp] theorem sendAck_timer (block : Nat) : (s.sendAck up block).2.timer = s.timer := rfl

/-- Sending an acknowledgement does not touch the volume. -/
@[simp] theorem sendAck_volume (block : Nat) : (s.sendAck up block).2.volume = s.volume := rfl

/-! ## Ending -/

variable [FileHandle η φ]

/-- How a transfer ends that is asked to end with `result`. -/
def ending (result : Except TransferError Unit) : Except TransferError TransferReport :=
  match result, s.closeFile.1 with
  | .error e, _ => .error e
  | .ok (), .error e => .error (.file e)
  | .ok (), .ok () => .ok (s.transfer.report (up.now s.link))

/-- A transfer that is done does not finish again. -/
theorem finish_of_done (done : s.transfer.phase = .done) (result : Except TransferError Unit) :
    s.finish up result = s := if_pos done

/-- Closing the file leaves the transfer without one. -/
@[simp] theorem closeFile_transfer :
    s.closeFile.2.transfer = { s.transfer with file := none } := by
  rcases s with ⟨⟨_, _, _, _, _, _, _ | file⟩, _, _, _⟩ <;> rfl

/-- Closing the file does not touch the link. -/
@[simp] theorem closeFile_link : s.closeFile.2.link = s.link := by
  rcases s with ⟨⟨_, _, _, _, _, _, _ | file⟩, _, _, _⟩ <;> rfl

/-- A file that is open is closed on its volume. -/
theorem closeFile_volume_of_open {file : η} (opened : s.transfer.file = some file) :
    s.closeFile.2.volume = (FileHandle.close file s.volume).2 := by
  obtain ⟨transfer, timer, link, volume⟩ := s
  dsimp only at opened
  simp only [closeFile, opened]

/-- Closing a file that is open answers what the volume answers. -/
theorem closeFile_answer_of_open {file : η} (opened : s.transfer.file = some file) :
    s.closeFile.1 = (FileHandle.close file s.volume).1 := by
  obtain ⟨transfer, timer, link, volume⟩ := s
  dsimp only at opened
  simp only [closeFile, opened]

/-- **The end of a transfer**: the file is closed, nothing is pending, and the outcome is known. -/
theorem finish_transfer (running : s.transfer.phase ≠ .done)
    (result : Except TransferError Unit) :
    (s.finish up result).transfer =
      { s.transfer with
        file := none, phase := .done, pending := []
        outcome := some (s.ending up result) } := by
  unfold finish ending
  rw [if_neg running]
  have transfer := s.closeFile_transfer
  have link := s.closeFile_link
  generalize s.closeFile = closed at transfer link ⊢
  obtain ⟨answer, transfer', timer', link', volume'⟩ := closed
  dsimp only at transfer link
  subst transfer link
  rcases result with e | ⟨⟩ <;> rcases answer with e' | ⟨⟩ <;> rfl

/-- Finishing touches the volume only to close the file. -/
theorem finish_volume (running : s.transfer.phase ≠ .done) (result : Except TransferError Unit) :
    (s.finish up result).volume = s.closeFile.2.volume := by
  unfold finish
  rw [if_neg running]
  rfl

/-- An end is final, whatever was before. -/
theorem finish_phase (result : Except TransferError Unit) :
    (s.finish up result).transfer.phase = .done := by
  by_cases done : s.transfer.phase = .done
  · rw [finish_of_done up s done, done]
  · rw [finish_transfer up s done]

/-- Finishing disarms the timer. -/
theorem finish_timer (running : s.transfer.phase ≠ .done) (result : Except TransferError Unit) :
    (s.finish up result).timer = Timer.idle := by
  unfold finish
  rw [if_neg running]
  rfl

/-- A transfer that ended well was asked to, its file closed, and the report is its own. -/
theorem ending_eq_ok {result : Except TransferError Unit} {report : TransferReport}
    (ok : s.ending up result = .ok report) :
    result = .ok () ∧ s.closeFile.1 = .ok () ∧ report = s.transfer.report (up.now s.link) := by
  unfold ending at ok
  split at ok
  · cases ok
  · cases ok
  · rename_i closed
    cases ok
    exact ⟨rfl, closed, rfl⟩

/-- A transfer whose file could be closed ends well. -/
theorem ending_ok_of_closed (closed : s.closeFile.1 = .ok ()) :
    s.ending up (.ok ()) = .ok (s.transfer.report (up.now s.link)) := by
  simp only [ending, closed]

/-- A transfer that is done may say so again, but nothing of it changes. -/
theorem fail_transfer_of_done (done : s.transfer.phase = .done) (cause : TransferError)
    (code : UInt16) : (s.fail up cause code).2.transfer = s.transfer := by
  unfold fail
  rw [finish_of_done up s done]
  dsimp only
  split <;> rfl

/-- A transfer whose file could not be closed does not end well. -/
theorem ending_of_not_closed {e : FileError} (failed : s.closeFile.1 = .error e) :
    s.ending up (.ok ()) = .error (.file e) := by
  simp only [ending, failed]

/-- **A failure is an end**, with its cause as the outcome. -/
theorem fail_transfer (running : s.transfer.phase ≠ .done) (cause : TransferError)
    (code : UInt16) :
    (s.fail up cause code).2.transfer =
      { s.transfer with
        file := none, phase := .done, pending := [], outcome := some (.error cause) } := by
  unfold fail
  dsimp only
  split <;> simp only [send_transfer, finish_transfer up s running, ending]

/-- A failure is final, whatever was before. -/
theorem fail_phase (cause : TransferError) (code : UInt16) :
    (s.fail up cause code).2.transfer.phase = .done := by
  by_cases done : s.transfer.phase = .done
  · rw [fail_transfer_of_done up s done, done]
  · rw [fail_transfer up s done]

/-- Failing touches the volume only to close the file. -/
theorem fail_volume (running : s.transfer.phase ≠ .done) (cause : TransferError) (code : UInt16) :
    (s.fail up cause code).2.volume = s.closeFile.2.volume := by
  unfold fail
  dsimp only
  split <;> simp only [send_volume, finish_volume up s running]

/-- To give up is to fail. -/
theorem cancel_transfer :
    (s.cancel up).transfer = (s.fail up .cancelled Tftp.errorNotDefined).2.transfer := by
  unfold cancel
  split
  · rename_i failed
    rw [failed]
  · rename_i failed
    rw [failed]
    rfl

/-- Cancelling touches the volume as a failure does. -/
theorem cancel_volume :
    (s.cancel up).volume = (s.fail up .cancelled Tftp.errorNotDefined).2.volume := by
  unfold cancel
  split
  · rename_i failed
    rw [failed]
  · rename_i failed
    rw [failed]
    rfl

/-! ## Beginning -/

/-- The session once the options of `t` are agreed on. -/
def begun (t : Transfer η) : Session η σ φ :=
  ({ s with transfer := { t with phase := .transferring } }.tell up
    (.agreed t.blockSize t.windowSize t.rollover t.size)).progress up

/-- A receiver then acknowledges the options, and a sender sends its first window. -/
theorem receiveOptions_of_ok {o : TftpOptions} {t : Transfer η}
    (agreed : s.transfer.acceptOptions o = .ok t) :
    s.receiveOptions up o =
      match t.direction with
      | .get => (s.begun up t).sendAck up 0
      | .put => (s.begun up t).sendWindow up := by
  unfold receiveOptions
  rw [agreed]
  have direction : (s.begun up t).transfer.direction = t.direction := by
    rw [begun, progress_transfer]
    rfl
  rw [← direction]
  rfl

/-! ## Receiving -/

/-- The session with one more block pending. -/
def withBlock (content : Bytes) : Session η σ φ :=
  { s with
    transfer :=
      { s.transfer with
        pending := s.transfer.pending ++ [content]
        bytes := s.transfer.bytes + content.length
        nextBlock := s.transfer.nextBlock + 1 } }

/-- A short block, or one that fills the window, is acknowledged and written with all that is
pending; a short block ends the transfer after that. -/
theorem receiveBlock_eq (content : Bytes) :
    s.receiveBlock up content =
      if content.length < s.transfer.blockSize.toNat ∨
          s.transfer.windowSize.toNat ≤ s.transfer.pending.length + 1 then
        match ((s.withBlock content).progress up).acknowledgeAndFlush up with
        | (.error e, s') => (.error e, s')
        | (.ok (), s') =>
          (.ok (),
            if content.length < s.transfer.blockSize.toNat then s'.finish up (.ok ()) else s')
      else (.ok (), (s.withBlock content).progress up) := by
  unfold receiveBlock
  extract_lets last src transfer s'
  have pending : s'.transfer.pending.length = s.transfer.pending.length + 1 := by
    simp [s', transfer, src]
  have window : s'.transfer.windowSize = s.transfer.windowSize := by
    simp [s', transfer, src]
  rw [pending, window]
  simp only [last, Bool.or_eq_true, decide_eq_true_eq, ge_iff_le]
  rfl

/-! ## Acknowledgements -/

/-- The session whose blocks up to one are acknowledged. -/
def withAck (block : Nat) : Session η σ φ :=
  { s with
    transfer :=
      { s.transfer with
        acked := block
        bytes := min (block * s.transfer.blockSize.toNat) s.transfer.sizeOrZero } }

/-- An acknowledgement that is not understood ends the transfer, a repeated one has the window sent
again, and a fresh one moves it, or ends the transfer if it was for the last block. -/
theorem receiveAck_eq (number : UInt16) :
    s.receiveAck up number =
      match s.transfer.acknowledged? number with
      | none => (s.tell up (.strayAck number)).fail up .protocol Tftp.errorIllegalOperation
      | some block =>
        if block = s.transfer.acked then (s.tell up (.repeatedAck number)).resendWindow up
        else if block = s.transfer.finalBlock then
          (.ok (), ((s.withAck block).progress up).finish up (.ok ()))
        else ((s.withAck block).progress up).sendWindow up := by
  have final (block : Nat) :
      ((s.withAck block).progress up).transfer.finalBlock = s.transfer.finalBlock := by
    rw [progress_transfer]
    rfl
  unfold receiveAck
  cases s.transfer.acknowledged? number with
  | none => rfl
  | some block =>
    show (if block = s.transfer.acked then (s.tell up (.repeatedAck number)).resendWindow up
      else if block = ((s.withAck block).progress up).transfer.finalBlock then
        (.ok (), ((s.withAck block).progress up).finish up (.ok ()))
      else ((s.withAck block).progress up).sendWindow up) = _
    rw [final]

/-! ## Writing -/

/-- Writing what is pending does not touch the link. -/
@[simp] theorem flush_link : s.flush.2.link = s.link := by
  rcases s with ⟨⟨_, _, _, _, _, _, _ | file⟩, _, _, _⟩ <;> rfl

/-- Writing what is pending does not touch the timer. -/
@[simp] theorem flush_timer : s.flush.2.timer = s.timer := by
  rcases s with ⟨⟨_, _, _, _, _, _, _ | file⟩, _, _, _⟩ <;> rfl

/-- Nothing is left pending. -/
theorem flush_transfer :
    ∃ file, s.flush.2.transfer = { s.transfer with file, pending := [] } := by
  obtain ⟨transfer, timer, link, volume⟩ := s
  unfold flush
  dsimp only
  split <;> exact ⟨_, rfl⟩

/-- An acknowledgement and the write after it change little, unless the write fails. -/
theorem acknowledgeAndFlush_transfer (running : s.transfer.phase ≠ .done) :
    (∃ block file pending,
      (s.acknowledgeAndFlush up).2.transfer =
        { s.transfer with acked := block, file, pending }) ∨
    (s.acknowledgeAndFlush up).2.transfer.phase = .done ∧
      ∃ e, (s.acknowledgeAndFlush up).2.transfer.outcome = some (.error e) := by
  have acked := sendAck_transfer up s (s.transfer.nextBlock - 1)
  unfold acknowledgeAndFlush
  split
  · rename_i sent
    rw [sent] at acked
    exact .inl ⟨_, s.transfer.file, s.transfer.pending, acked⟩
  · rename_i s₁ sent
    rw [sent] at acked
    dsimp only at acked
    obtain ⟨file, flushed⟩ := s₁.flush_transfer
    split <;> rename_i eq <;> rw [eq] at flushed <;> dsimp only at flushed
    · exact .inl ⟨_, file, [], by rw [flushed, acked]⟩
    · refine .inr ⟨fail_phase up _ _ _, ?_⟩
      rw [fail_transfer up _ (by rw [flushed, acked]; exact running)]
      exact ⟨_, rfl⟩

/-! ## Expiry -/

/-- The session with one more step that went unanswered. -/
def counted : Session η σ φ :=
  { s with
    transfer :=
      { s.transfer with
        timeouts := s.transfer.timeouts + 1, retries := s.transfer.retries + 1 } }

/-- The session that is about to repeat the outstanding step. -/
def retrying : Session η σ φ :=
  (s.counted.arm up).tell up (.timeout (s.transfer.timeouts + 1) (s.transfer.retries + 1))

/-- A step is repeated as often as allowed, and then the transfer fails. -/
theorem expire_eq (running : s.transfer.phase ≠ .done) :
    s.expire up =
      if s.transfer.retries + 1 > s.transfer.requested.maxRetries then
        (s.counted.tell up (.givingUp s.transfer.requested.maxRetries)).fail up .timeout
          Tftp.errorNotDefined
      else (s.retrying up).retry up := by
  unfold expire
  rw [if_neg running]
  rfl

end Session

end Transfer

end PolledNet
