import PolledNet.Proofs.File.Watch
import PolledNet.Proofs.Tftp.Reaction
import PolledNet.Proofs.Tftp.Window

/-!
# The course of a transfer

Most handlers of a transfer make no progress: they leave its timer and its retries alone, or they
end it (`Proceeds`). Three inputs make progress (`Advances`), the agreement on options, the block
that is next and a fresh acknowledgement, and the expiry of the timer counts a retry. So every input
takes a running transfer one of five ways (`Course`), and `course` says that there are no others.

What is done with the file on the way is followed as a relation between the volumes
(`FileHandle.Moves`): an end is the only thing that closes it.
-/

namespace PolledNet

namespace Transfer

namespace Session

variable {η σ φ : Type}

/-! ## Running transfers -/

/-- The window of a sender is neither exhausted nor overrun. -/
structure Room (t : Transfer η) : Prop where
  /-- There are no blocks while the file is offered. -/
  offering : t.phase = .negotiating → t.acked = 0 ∧ t.nextBlock ≤ 1 ∧ t.finalBlock = 0
  /-- After that a block is outstanding, and the next is at most one past the last. -/
  sending : t.phase = .transferring → t.acked < t.windowEnd ∧ t.nextBlock ≤ t.finalBlock + 1

/-- A running transfer. -/
structure Live (s : Session η σ φ) : Prop where
  /-- There is no outcome yet. -/
  outcome : s.transfer.outcome = none
  /-- It is not done. -/
  running : s.transfer.phase ≠ .done
  /-- The file is open. -/
  opened : ∃ file, s.transfer.file = some file
  /-- The timer is armed. -/
  armed : s.timer.isArmed = true
  /-- A sender has room. -/
  room : s.transfer.direction = .put → Room s.transfer

/-- Whether a transfer is live does not depend on the port of its server. -/
theorem Live.known {s : Session η σ φ} (live : s.Live) (serverPort : Option UInt16) :
    Live { s with transfer := { s.transfer with serverPort } } :=
  ⟨live.outcome, live.running, live.opened, live.armed,
    fun put => ⟨(live.room put).offering, (live.room put).sending⟩⟩

/-- A transfer that is live stays so when it hears the server. -/
theorem Live.heard {s : Session η σ φ} (live : s.Live) (port : UInt16) : (s.heard port).Live :=
  live.known (some port)

/-- A transfer that repeats its outstanding step has armed its timer anew. -/
theorem Live.retrying {s : Session η σ φ} (live : s.Live) (up : Uplink σ) :
    ({ s with timer := Timer.idle }.retrying up).Live :=
  ⟨live.outcome, live.running, live.opened, rfl,
    fun put => ⟨(live.room put).offering, (live.room put).sending⟩⟩

/-- The input is progress. -/
inductive Advances (s : Session η σ φ) : Input σ φ → Prop where
  /-- The server agrees to options that were asked for. -/
  | options {port : UInt16} {payload : Bytes} {o : TftpOptions} {t : Transfer η}
      (hears : s.Hears port) (read : TftpPacket.parse payload = .ok (.optionAck o))
      (negotiating : s.transfer.phase = .negotiating)
      (agreed : (s.heard port).transfer.acceptOptions o = .ok t) :
      Advances s (.datagram port payload)
  /-- The block that is next comes to a receiver, and it is not too long. -/
  | block {port : UInt16} {payload octets : Bytes} (hears : s.Hears port)
      (read : TftpPacket.parse payload =
        .ok (.data (wireBlock s.transfer.nextBlock s.transfer.rollover) octets))
      (on : s.transfer.phase = .transferring) (get : s.transfer.direction = .get)
      (fits : octets.length ≤ s.transfer.blockSize.toNat) :
      Advances s (.datagram port payload)
  /-- An acknowledgement of an outstanding block comes to a sender. -/
  | ack {port : UInt16} {payload : Bytes} {number : UInt16} {block : Nat} (hears : s.Hears port)
      (read : TftpPacket.parse payload = .ok (.ack number))
      (on : s.transfer.phase = .transferring) (put : s.transfer.direction = .put)
      (acknowledged : s.transfer.acknowledged? number = some block)
      (fresh : block ≠ s.transfer.acked) : Advances s (.datagram port payload)

/-! ## What a handler makes of a transfer -/

section Proceeds

variable [FileHandle η φ] (R : φ → φ → Prop)

/-- A transfer has ended since its volume was another: its file was closed, nothing is pending, and
its timer is disarmed. -/
structure Ends (volume : φ) (s' : Session η σ φ) : Prop where
  /-- There is an outcome. -/
  outcome : s'.transfer.outcome ≠ none
  /-- It is done. -/
  done : s'.transfer.phase = .done
  /-- The file is no longer open. -/
  released : s'.transfer.file = none
  /-- Nothing is pending. -/
  pending : s'.transfer.pending = []
  /-- The timer is disarmed. -/
  disarmed : s'.timer = Timer.idle
  /-- Closing the file was the last that was done with it. -/
  closed : ∃ (file : η) (volume' : φ), R volume volume' ∧
    s'.volume = (FileHandle.close file volume').2

/-- A transfer goes on without progress. -/
structure Onward (s s' : Session η σ φ) : Prop where
  /-- The file is open. Little else changes, and neither the retries nor what was agreed on do. -/
  transfer : ∃ (file : η) (acked nextBlock : Nat) (pending : List Bytes),
    s'.transfer = { s.transfer with file := some file, acked, nextBlock, pending }
  /-- The timer stays. -/
  timer : s'.timer = s.timer
  /-- The file may be read and written. -/
  volume : R s.volume s'.volume
  /-- A sender has nothing more acknowledged, and it is not past its window. -/
  sender : s.transfer.direction = .put → s'.transfer.acked = s.transfer.acked ∧
    s'.transfer.nextBlock ≤ max s.transfer.nextBlock (s.transfer.windowEnd + 1)

/-- A transfer goes on without progress, or it has ended. -/
def Proceeds (s s' : Session η σ φ) : Prop := Onward R s s' ∨ Ends R s.volume s'

variable {R} (files : FileHandle.Moves η R) {s s' s'' : Session η σ φ}

include files in

/-- An end may be preceded by moves of the volume. -/
theorem Ends.after {volume volume' : φ} (moved : R volume volume') (h : Ends R volume' s') :
    Ends R volume s' := by
  obtain ⟨file, closing, moved', eq⟩ := h.closed
  exact ⟨h.outcome, h.done, h.released, h.pending, h.disarmed, file, closing,
    files.trans moved moved', eq⟩

include files in
/-- Nothing happens to the transfer itself. -/
theorem Onward.of_eq {file : η} (opened : s.transfer.file = some file)
    (transfer : s'.transfer = s.transfer) (timer : s'.timer = s.timer)
    (volume : s'.volume = s.volume) : Onward R s s' :=
  ⟨⟨file, s.transfer.acked, s.transfer.nextBlock, s.transfer.pending, by rw [transfer, ← opened]⟩,
    timer, volume ▸ files.refl _,
    fun _ => by rw [transfer]; exact ⟨rfl, Nat.le_max_left _ _⟩⟩

omit [FileHandle η φ] in
/-- Only the file and the next block are others, and that is not past the window. -/
theorem Onward.of_next {file : η} {next : Nat}
    (transfer : s'.transfer = { s.transfer with file := some file, nextBlock := next })
    (timer : s'.timer = s.timer) (volume : R s.volume s'.volume)
    (within : next ≤ max s.transfer.nextBlock (s.transfer.windowEnd + 1)) : Onward R s s' :=
  ⟨⟨file, s.transfer.acked, next, s.transfer.pending, transfer⟩, timer, volume,
    fun _ => by rw [transfer]; exact ⟨rfl, within⟩⟩

omit [FileHandle η φ] in
/-- A sender that goes on keeps the end of its window. -/
theorem Onward.windowEnd (h : Onward R s s') (put : s.transfer.direction = .put) :
    s'.transfer.windowEnd = s.transfer.windowEnd := by
  obtain ⟨file, acked, nextBlock, pending, transfer⟩ := h.transfer
  rw [Transfer.windowEnd, Transfer.windowEnd, (h.sender put).1, transfer]

include files in

/-- Going on twice is going on. -/
theorem Onward.trans (first : Onward R s s') (second : Onward R s' s'') : Onward R s s'' := by
  obtain ⟨file, acked, nextBlock, pending, transfer⟩ := first.transfer
  obtain ⟨file', acked', nextBlock', pending', transfer'⟩ := second.transfer
  refine ⟨⟨file', acked', nextBlock', pending', ?_⟩, second.timer.trans first.timer,
    files.trans first.volume second.volume, ?_⟩
  · rw [transfer', transfer]
  · intro put
    obtain ⟨same, before⟩ := first.sender put
    obtain ⟨same', before'⟩ := second.sender (by rw [transfer]; exact put)
    rw [first.windowEnd put] at before'
    exact ⟨same'.trans same,
      Nat.le_trans before' (Nat.max_le.mpr ⟨before, Nat.le_max_right _ _⟩)⟩

include files in

/-- A transfer may go on before it proceeds. -/
theorem Onward.proceeds (first : Onward R s s') (second : Proceeds R s' s'') :
    Proceeds R s s'' :=
  second.imp (first.trans files) (Ends.after files first.volume)

omit [FileHandle η φ] in
/-- What goes on is still running. -/
theorem Onward.live (h : Onward R s s') (live : s.Live) : s'.Live := by
  obtain ⟨file, acked, nextBlock, pending, transfer⟩ := h.transfer
  refine ⟨?_, ?_, ⟨file, ?_⟩, ?_, ?_⟩
  · rw [transfer]
    exact live.outcome
  · rw [transfer]
    exact live.running
  · rw [transfer]
  · rw [h.timer]
    exact live.armed
  · intro put
    have put' : s.transfer.direction = .put := by rw [← put, transfer]
    have phase : s'.transfer.phase = s.transfer.phase := by rw [transfer]
    have final : s'.transfer.finalBlock = s.transfer.finalBlock := by rw [transfer]
    have bound : s.transfer.windowEnd ≤ s.transfer.finalBlock := Nat.min_le_right _ _
    obtain ⟨acked', next⟩ := h.sender put'
    refine ⟨?_, ?_⟩
    · rw [phase, acked', final]
      intro negotiating
      obtain ⟨first, before, none⟩ := (live.room put').offering negotiating
      exact ⟨first, by omega, none⟩
    · rw [phase, acked', final, h.windowEnd put']
      intro on
      obtain ⟨outstanding, before⟩ := (live.room put').sending on
      exact ⟨outstanding, by omega⟩

variable (up : Uplink σ) {file : η}

/-! ## Ends -/

include files in

/-- A running transfer that finishes ends. -/
theorem ends_finish (running : s.transfer.phase ≠ .done) (opened : s.transfer.file = some file)
    (result : Except TransferError Unit) : Ends R s.volume (s.finish up result) := by
  have transfer := finish_transfer up s running result
  refine ⟨?_, ?_, ?_, ?_, finish_timer up s running result, file, s.volume, files.refl _, ?_⟩
  · rw [transfer]
    exact Option.some_ne_none _
  · rw [transfer]
  · rw [transfer]
  · rw [transfer]
  · rw [finish_volume up s running, closeFile_volume_of_open s opened]

include files in

/-- A running transfer that fails ends. -/
theorem ends_fail (running : s.transfer.phase ≠ .done) (opened : s.transfer.file = some file)
    (cause : TransferError) (code : UInt16) : Ends R s.volume (s.fail up cause code).2 := by
  have finished := ends_finish files up running opened (.error cause)
  unfold fail
  dsimp only
  split
  · exact ⟨finished.outcome, finished.done, finished.released, finished.pending,
      finished.disarmed, finished.closed⟩
  · exact finished

include files in

/-- A running transfer that is cancelled ends. -/
theorem ends_cancel (running : s.transfer.phase ≠ .done) (opened : s.transfer.file = some file) :
    Ends R s.volume (s.cancel up) := by
  have failed := ends_fail files up running opened .cancelled Tftp.errorNotDefined
  unfold cancel
  split <;> rename_i eq <;> rw [eq] at failed
  · exact failed
  · exact ⟨failed.outcome, failed.done, failed.released, failed.pending, failed.disarmed,
      failed.closed⟩

/-! ## Receiving a file -/

include files in

/-- Writing blocks moves the volume. -/
theorem writeBlocks_moves (file : η) (volume : φ) (blocks : List Bytes) :
    R volume (writeBlocks file volume blocks).2.2 := by
  induction blocks generalizing file volume with
  | nil => exact files.refl _
  | cons block rest ih =>
    have written := files.writeAll file block volume
    rw [writeBlocks]
    split <;> rename_i eq <;> rw [eq] at written
    · exact files.trans written (ih _ _)
    · exact written

include files in
/-- Writing leaves the file open and nothing pending. -/
theorem flush_of_open (opened : s.transfer.file = some file) :
    (∃ file' : η, s.flush.2.transfer = { s.transfer with file := some file', pending := [] }) ∧
      R s.volume s.flush.2.volume := by
  have written := writeBlocks_moves files file s.volume s.transfer.pending
  obtain ⟨transfer, timer, link, volume⟩ := s
  dsimp only at opened written
  unfold flush
  dsimp only
  rw [opened]
  exact ⟨⟨_, rfl⟩, written⟩

include files in

/-- A receiver goes on when it sends an acknowledgement. -/
theorem onward_sendAck (opened : s.transfer.file = some file)
    (get : s.transfer.direction = .get) (block : Nat) : Onward R s (s.sendAck up block).2 := by
  refine ⟨⟨file, block, s.transfer.nextBlock, s.transfer.pending, ?_⟩, rfl, files.refl _,
    fun put => nomatch get.symm.trans put⟩
  rw [sendAck_transfer, ← opened]

include files in

/-- A receiver proceeds when it acknowledges and writes a window. -/
theorem proceeds_acknowledgeAndFlush (running : s.transfer.phase ≠ .done)
    (opened : s.transfer.file = some file) (get : s.transfer.direction = .get) :
    Proceeds R s (s.acknowledgeAndFlush up).2 := by
  have acknowledged := onward_sendAck files up opened get (s.transfer.nextBlock - 1)
  have transfer := sendAck_transfer up s (s.transfer.nextBlock - 1)
  have timer := sendAck_timer up s (s.transfer.nextBlock - 1)
  have volume := sendAck_volume up s (s.transfer.nextBlock - 1)
  unfold acknowledgeAndFlush
  split <;> rename_i s₁ eq <;> rw [eq] at acknowledged transfer timer volume
  · exact .inl acknowledged
  · dsimp only at transfer timer volume
    have opened₁ : s₁.transfer.file = some file := by rw [transfer, ← opened]
    obtain ⟨⟨file', written⟩, moved⟩ := flush_of_open files opened₁
    have still := s₁.flush_timer
    rw [transfer] at written
    rw [volume] at moved
    rw [timer] at still
    split <;> rename_i s₂ eq <;> rw [eq] at written moved still <;>
      dsimp only at written moved still
    · exact .inl ⟨⟨_, _, _, _, written⟩, still, moved, fun put => nomatch get.symm.trans put⟩
    · have running₂ : s₂.transfer.phase ≠ .done := by
        rw [written]
        exact running
      have opened₂ : s₂.transfer.file = some file' := by rw [written]
      exact .inr ((ends_fail files up running₂ opened₂ _ _).after files moved)

include files in

/-- A receiver proceeds from the block it has taken. -/
theorem proceeds_receiveBlock (running : s.transfer.phase ≠ .done)
    (opened : s.transfer.file = some file) (get : s.transfer.direction = .get) (octets : Bytes) :
    Proceeds R ((s.withBlock octets).progress up) (s.receiveBlock up octets).2 := by
  have transfer := progress_transfer up (s.withBlock octets)
  have running' : ((s.withBlock octets).progress up).transfer.phase ≠ .done := by
    rw [transfer]
    exact running
  have opened' : ((s.withBlock octets).progress up).transfer.file = some file := by
    rw [transfer]
    exact opened
  have get' : ((s.withBlock octets).progress up).transfer.direction = .get := by
    rw [transfer]
    exact get
  rw [receiveBlock_eq]
  split
  · have acknowledged := proceeds_acknowledgeAndFlush files up running' opened' get'
    split <;> rename_i s₁ eq <;> rw [eq] at acknowledged
    · exact acknowledged
    · dsimp only at acknowledged ⊢
      split
      · -- the last block: the transfer ends here, unless the file has ended it already
        rcases acknowledged with onward | ends
        · obtain ⟨file₁, _, _, _, transfer₁⟩ := onward.transfer
          have running₁ : s₁.transfer.phase ≠ .done := by
            rw [transfer₁]
            exact running'
          have opened₁ : s₁.transfer.file = some file₁ := by rw [transfer₁]
          exact .inr ((ends_finish files up running₁ opened₁ _).after files onward.volume)
        · rw [finish_of_done up s₁ ends.done]
          exact .inr ends
      · exact acknowledged
  · exact .inl (.of_eq files opened' rfl rfl rfl)

/-! ## Sending a file -/

include files in
/-- Reading leaves the file open. -/
theorem readBlock_of_open (opened : s.transfer.file = some file) (block : Nat) :
    ∃ (file' : η) (volume : φ), R s.volume volume ∧
      (s.readBlock block).2 = s.withFile file' volume := by
  unfold readBlock
  rw [opened]
  dsimp only
  have sought := files.seek file ((block - 1) * s.transfer.blockSize.toNat) s.volume
  split
  · exact ⟨_, _, sought, rfl⟩
  · have read := files.readFull
      (FileHandle.seek file ((block - 1) * s.transfer.blockSize.toNat) s.volume).2.1
      s.transfer.blockSize.toNat
      (FileHandle.seek file ((block - 1) * s.transfer.blockSize.toNat) s.volume).2.2
    split <;> exact ⟨_, _, files.trans sought read, rfl⟩

include files in

/-- A sender proceeds when it sends blocks, as long as they lie in its window. -/
theorem proceeds_sendBlocks (running : s.transfer.phase ≠ .done)
    (opened : s.transfer.file = some file) {count : Nat}
    (left : s.transfer.nextBlock + count ≤ max s.transfer.nextBlock (s.transfer.windowEnd + 1)) :
    Proceeds R s (s.sendBlocks up count).2 := by
  -- each block that is sent moves the next block by one, and there are no more than are left
  induction count generalizing s file with
  | zero => exact .inl (.of_eq files opened rfl rfl rfl)
  | succ count ih =>
    obtain ⟨file', volume', moved, read⟩ :=
      readBlock_of_open files opened s.transfer.nextBlock
    rw [sendBlocks]
    dsimp only
    split <;> rename_i s₁ eq <;> rw [eq] at read <;> dsimp only at read
    · have running₁ : s₁.transfer.phase ≠ .done := by
        rw [read]
        exact running
      have opened₁ : s₁.transfer.file = some file' := by rw [read]; rfl
      exact .inr ((ends_fail files up running₁ opened₁ _ _).after files (read ▸ moved))
    · rename_i octets
      have transfer := send_transfer up s₁
        (.data (wireBlock s.transfer.nextBlock s₁.transfer.rollover) octets)
      have timer := send_timer up s₁
        (.data (wireBlock s.transfer.nextBlock s₁.transfer.rollover) octets)
      have volume := send_volume up s₁
        (.data (wireBlock s.transfer.nextBlock s₁.transfer.rollover) octets)
      split <;> rename_i s₂ sent <;> rw [sent] at transfer timer volume <;>
        dsimp only at transfer timer volume <;> subst read
      · exact .inl (.of_next transfer timer (volume ▸ moved) (Nat.le_max_left _ _))
      · have next : Onward R s
            { s₂ with transfer := { s₂.transfer with nextBlock := s.transfer.nextBlock + 1 } } :=
          .of_next (by rw [transfer]; rfl) timer (volume ▸ moved) (by omega)
        have window : ({ s₂ with transfer := { s₂.transfer with
            nextBlock := s.transfer.nextBlock + 1 } } : Session η σ φ).transfer.windowEnd =
              s.transfer.windowEnd := by
          rw [windowEnd, transfer]
          rfl
        have opened₂ : s₂.transfer.file = some file' := by rw [transfer]; rfl
        refine next.proceeds files (ih ?_ opened₂ ?_)
        · rw [transfer]
          exact running
        · rw [window]
          dsimp only
          omega

include files in

/-- A sender proceeds when it sends its window. -/
theorem proceeds_sendWindow (running : s.transfer.phase ≠ .done)
    (opened : s.transfer.file = some file) : Proceeds R s (s.sendWindow up).2 :=
  proceeds_sendBlocks files up running opened (by omega)

include files in
/-- The window is sent from its beginning, which is not past its end. -/
theorem proceeds_resendWindow (running : s.transfer.phase ≠ .done)
    (opened : s.transfer.file = some file) (room : s.transfer.acked ≤ s.transfer.windowEnd) :
    Proceeds R s (s.resendWindow up).2 := by
  have back : Onward R s
      { s with transfer := { s.transfer with nextBlock := s.transfer.acked + 1 } } :=
    .of_next (by rw [← opened]) rfl (files.refl _) (by omega)
  exact back.proceeds files (proceeds_sendWindow files up running opened)

end Proceeds

/-! ## The course of one input -/

section Course

variable [FileHandle η φ] (R : φ → φ → Prop) (up : Uplink σ) (s : Session η σ φ)

/-- What an input makes of a running transfer. -/
inductive Course : Input σ φ → Session η σ φ → Prop where
  /-- Time passes. -/
  | elapsed (link : σ) (volume : φ) : Course (.elapse link volume) { s with link, volume }
  /-- It goes on without progress; the server's port may be known now. -/
  | idle {input : Input σ φ} {s' : Session η σ φ} {serverPort : Option UInt16}
      (useless : ¬ s.Advances input) (packet : input ≠ .expiry)
      (onward : Onward R { s with transfer := { s.transfer with serverPort } } s') :
      Course input s'
  /-- Its progress is noted, and it goes on from there. -/
  | advanced {input : Input σ φ} {s₁ s' : Session η σ φ} (advances : s.Advances input)
      (live : s₁.Live) (retries : s₁.transfer.retries = 0)
      (requested : s₁.transfer.requested = s.transfer.requested) (volume : s₁.volume = s.volume)
      (onward : Onward R s₁ s') : Course input s'
  /-- The outstanding step is repeated. -/
  | repeated {s' : Session η σ φ}
      (within : ¬ s.transfer.retries + 1 > s.transfer.requested.maxRetries)
      (onward : Onward R ({ s with timer := Timer.idle }.retrying up) s') : Course .expiry s'
  /-- It has ended. -/
  | ended {input : Input σ φ} {s' : Session η σ φ} (ends : Ends R s.volume s') : Course input s'

variable {R} {s} (files : FileHandle.Moves η R)

/-- What proceeds from a progress is a course. -/
theorem Course.of_advanced {input : Input σ φ} {s₁ s' : Session η σ φ}
    (advances : s.Advances input) (live : s₁.Live) (retries : s₁.transfer.retries = 0)
    (requested : s₁.transfer.requested = s.transfer.requested) (volume : s₁.volume = s.volume)
    (proceeds : Proceeds R s₁ s') : Course R up s input s' := by
  rcases proceeds with onward | ends
  · exact .advanced advances live retries requested volume onward
  · exact .ended (volume ▸ ends)

omit [FileHandle η φ] in
/-- A transfer that has just made progress is running. -/
theorem live_progress {file : η} (outcome : s.transfer.outcome = none)
    (running : s.transfer.phase ≠ .done) (opened : s.transfer.file = some file)
    (room : s.transfer.direction = .put → Room s.transfer) : (s.progress up).Live := by
  have transfer := progress_transfer up s
  refine ⟨?_, ?_, ⟨file, ?_⟩, ?_, ?_⟩
  · rw [transfer]
    exact outcome
  · rw [transfer]
    exact running
  · rw [transfer]
    exact opened
  · rw [progress_timer]
    rfl
  · rw [transfer]
    intro put
    exact ⟨(room put).offering, (room put).sending⟩

omit [FileHandle η φ] in
/-- What stays when options are adopted. -/
theorem acceptOptions_keeps {t t' : Transfer η} {o : TftpOptions}
    (agreed : t.acceptOptions o = .ok t') :
    t'.outcome = t.outcome ∧ t'.file = t.file ∧ t'.requested = t.requested ∧
      t'.direction = t.direction := by
  cases direction : t.direction with
  | get =>
    rw [acceptOptions_get direction agreed]
    exact ⟨rfl, rfl, rfl, direction⟩
  | put =>
    rw [acceptOptions_put direction agreed]
    exact ⟨rfl, rfl, rfl, direction⟩

omit [FileHandle η φ] in
/-- A sender that has agreed to options that can be read has room for a block. -/
theorem Room.adopt {t t' : Transfer η} {o : TftpOptions} (room : Room t)
    (negotiating : t.phase = .negotiating) (put : t.direction = .put) (range : o.InRange)
    (agreed : t.acceptOptions o = .ok t') : Room { t' with phase := .transferring } := by
  obtain ⟨acked, next, -⟩ := room.offering negotiating
  have window := range.window_pos
  rw [acceptOptions_put put agreed]
  refine ⟨nofun, fun _ => ?_⟩
  dsimp only [Transfer.windowEnd]
  generalize t.sizeOrZero / (o.blockSize.getD Tftp.defaultBlockSize).toNat = full
  omega

omit [FileHandle η φ] in
/-- A transfer whose options have just been agreed on is running. -/
theorem live_begun (live : s.Live) {o : TftpOptions} {t : Transfer η} (range : o.InRange)
    (negotiating : s.transfer.phase = .negotiating)
    (agreed : s.transfer.acceptOptions o = .ok t) : (s.begun up t).Live := by
  obtain ⟨file, opened⟩ := live.opened
  obtain ⟨outcome, files, -, direction⟩ := acceptOptions_keeps agreed
  refine live_progress up (outcome.trans live.outcome) nofun (files.trans opened) ?_
  intro put
  have put' : s.transfer.direction = .put := direction.symm.trans put
  exact (live.room put').adopt negotiating put' range agreed

include files in

/-- Options that come while a transfer negotiates make one of its courses. -/
theorem course_options (live : s.Live) {port : UInt16} {payload : Bytes} {o : TftpOptions}
    (hears : s.Hears port) (read : TftpPacket.parse payload = .ok (.optionAck o))
    (negotiating : s.transfer.phase = .negotiating) :
    Course R up s (.datagram port payload) ((s.heard port).receiveOptions up o).2 := by
  have live' : (s.heard port).Live := live.heard port
  obtain ⟨file, opened⟩ := live.opened
  cases agreed : (s.heard port).transfer.acceptOptions o with
  | error e =>
    rw [receiveOptions, agreed]
    exact .ended (ends_fail files up live'.running opened _ _)
  | ok t =>
    obtain ⟨-, -, requested, direction⟩ := acceptOptions_keeps agreed
    have begins := live_begun up live' (TftpPacket.inRange_of_parse read) negotiating agreed
    obtain ⟨file', opened'⟩ := begins.opened
    have transfer : ((s.heard port).begun up t).transfer =
        { t with
          phase := .transferring, retries := 0
          lastReport := ((s.heard port).begun up t).transfer.lastReport } := by
      rw [begun, progress_transfer]
      rfl
    refine .of_advanced up (.options hears read negotiating agreed) begins ?_ ?_ ?_ ?_
    · rw [transfer]
    · rw [transfer]
      exact requested
    · rw [begun, progress_volume]
      rfl
    · rw [receiveOptions_of_ok up _ agreed]
      cases heading : t.direction with
      | get =>
        have get : ((s.heard port).begun up t).transfer.direction = .get := by
          rw [transfer]
          exact heading
        exact .inl (onward_sendAck files up opened' get 0)
      | put => exact proceeds_sendWindow files up begins.running opened'

include files in

/-- A block that comes to a receiver makes one of its courses. -/
theorem course_block (live : s.Live) {port number : UInt16} {payload octets : Bytes}
    (hears : s.Hears port) (read : TftpPacket.parse payload = .ok (.data number octets))
    (on : s.transfer.phase = .transferring) (get : s.transfer.direction = .get) :
    Course R up s (.datagram port payload) ((s.heard port).receiveData up number octets).2 := by
  have live' : (s.heard port).Live := live.heard port
  obtain ⟨file, opened⟩ := live'.opened
  by_cases fits : (s.heard port).transfer.blockSize.toNat < octets.length
  · unfold receiveData
    rw [if_pos fits]
    exact .ended (ends_fail files up live'.running opened _ _)
  by_cases next :
    number = wireBlock (s.heard port).transfer.nextBlock (s.heard port).transfer.rollover
  · subst next
    have taking : (((s.heard port).withBlock octets).progress up).Live :=
      live_progress up live.outcome live.running opened fun put => nomatch get.symm.trans put
    unfold receiveData
    rw [if_neg fits, if_neg (fun ne => ne rfl)]
    refine .of_advanced up (.block hears read on get (Nat.not_lt.mp fits)) taking ?_ ?_ ?_
      (proceeds_receiveBlock files up live'.running opened get octets)
    · rw [progress_transfer]
    · rw [progress_transfer]
      rfl
    · rw [progress_volume]
      rfl
  · unfold receiveData
    rw [if_neg fits, if_pos next]
    have useless : ¬ s.Advances (.datagram port payload) := by
      intro advances
      cases advances with
      | options _ read' => cases read.symm.trans read'
      | block _ read' =>
        cases read.symm.trans read'
        exact next rfl
      | ack _ read' => cases read.symm.trans read'
    have onward : Onward R (s.heard port) ((s.heard port).tell up (.discarding number)) :=
      .of_eq files opened rfl rfl rfl
    exact .idle useless nofun onward

omit [FileHandle η φ] in
/-- A sender that has a fresh block acknowledged, and not its last, has room for another. -/
theorem live_withAck (live : s.Live) (on : s.transfer.phase = .transferring)
    (put : s.transfer.direction = .put) {number : UInt16} {block : Nat}
    (acknowledged : s.transfer.acknowledged? number = some block)
    (last : block ≠ s.transfer.finalBlock) : ((s.withAck block).progress up).Live := by
  obtain ⟨file, opened⟩ := live.opened
  obtain ⟨outstanding, next⟩ := (live.room put).sending on
  obtain ⟨-, sent, -⟩ := acknowledged?_eq_some acknowledged
  have room : Room (s.withAck block).transfer := by
    refine ⟨fun negotiating => (nomatch on.symm.trans negotiating), fun _ => ?_⟩
    unfold Transfer.windowEnd at *
    dsimp only [withAck]
    omega
  exact live_progress up live.outcome live.running opened fun _ => room

include files in

/-- An acknowledgement that comes to a sender makes one of its courses. -/
theorem course_ack (live : s.Live) {port number : UInt16} {payload : Bytes}
    (hears : s.Hears port) (read : TftpPacket.parse payload = .ok (.ack number))
    (on : s.transfer.phase = .transferring) (put : s.transfer.direction = .put) :
    Course R up s (.datagram port payload) ((s.heard port).receiveAck up number).2 := by
  have live' : (s.heard port).Live := live.heard port
  obtain ⟨file, opened⟩ := live'.opened
  rw [receiveAck_eq]
  split
  · exact .ended (ends_fail files up (s := (s.heard port).tell up _) live'.running opened _ _)
  · rename_i block acknowledged
    split
    · rename_i repetition
      have useless : ¬ s.Advances (.datagram port payload) := by
        intro advances
        cases advances with
        | options _ read' => cases read.symm.trans read'
        | block _ read' => cases read.symm.trans read'
        | ack _ read' _ _ acknowledged' fresh =>
          cases read.symm.trans read'
          exact fresh (Option.some.inj (acknowledged'.symm.trans acknowledged) ▸ repetition)
      have told : Onward R (s.heard port) ((s.heard port).tell up (.repeatedAck number)) :=
        .of_eq files opened rfl rfl rfl
      obtain ⟨outstanding, -⟩ := (live'.room put).sending on
      rcases told.proceeds files (proceeds_resendWindow files up live'.running opened
        (Nat.le_of_lt outstanding)) with onward | ends
      · exact .idle useless nofun onward
      · exact .ended ends
    · rename_i fresh
      split
      · have transfer := progress_transfer up ((s.heard port).withAck block)
        have ends := ends_finish files up (s := ((s.heard port).withAck block).progress up)
          (by rw [transfer]; exact live'.running) (by rw [transfer]; exact opened) (.ok ())
        rw [progress_volume] at ends
        exact .ended ends
      · rename_i last
        have moving := live_withAck up live' on put acknowledged last
        obtain ⟨file', opened'⟩ := moving.opened
        refine .of_advanced up (.ack hears read on put acknowledged fresh) moving ?_ ?_ ?_
          (proceeds_sendWindow files up moving.running opened')
        · rw [progress_transfer]
        · rw [progress_transfer]
          rfl
        · rw [progress_volume]
          rfl

/-- A retry within the limit repeats the outstanding step. -/
theorem course_retry {s' : Session η σ φ}
    (within : ¬ s.transfer.retries + 1 > s.transfer.requested.maxRetries)
    (proceeds : Proceeds R ({ s with timer := Timer.idle }.retrying up) s') :
    Course R up s .expiry s' := by
  rcases proceeds with onward | ends
  · exact .repeated within onward
  · exact .ended ends

include files in
/-- **There are no other courses.** -/
theorem course (live : s.Live) (input : Input σ φ) :
    Course R up s input (s.step up input) := by
  obtain ⟨file, opened⟩ := live.opened
  have reaction := reaction up live.running live.outcome input
  generalize s.step up input = s' at reaction ⊢
  cases reaction with
  | elapsed link volume => exact .elapsed link volume
  | @foreign port payload other =>
    have useless : ¬ s.Advances (.datagram port payload) := by
      intro advances
      cases advances with
      | options hears => exact other hears
      | block hears => exact other hears
      | ack hears => exact other hears
    have onward : Onward R s ((s.tell up (.foreign port)).sendTo up port
        (.error Tftp.errorUnknownTransfer "Unknown transfer ID")).2 :=
      .of_eq files opened rfl rfl rfl
    exact .idle useless nofun onward
  | @malformed port payload e hears read =>
    have useless : ¬ s.Advances (.datagram port payload) := by
      intro advances
      cases advances with
      | options _ read' => cases read.symm.trans read'
      | block _ read' => cases read.symm.trans read'
      | ack _ read' => cases read.symm.trans read'
    have onward : Onward R (s.heard port)
        { (s.heard port).tell up (.malformed e) with
          link := up.countMalformed ((s.heard port).tell up (.malformed e)).link } :=
      .of_eq files opened rfl rfl rfl
    exact .idle useless nofun onward
  | @refused port payload code text =>
    exact .ended (ends_finish files up (s := (s.heard port).tell up (.serverError code text))
      live.running opened _)
  | options hears read negotiating =>
    exact course_options up files live hears read negotiating
  | @optionsAgain port payload o hears read on get =>
    have useless : ¬ s.Advances (.datagram port payload) := by
      intro advances
      cases advances with
      | options _ _ negotiating => cases on.symm.trans negotiating
      | block _ read' => cases read.symm.trans read'
      | ack _ read' => cases read.symm.trans read'
    exact .idle useless nofun (onward_sendAck files up (s := s.heard port) opened get 0)
  | block hears read on get => exact course_block up files live hears read on get
  | ack hears read on put => exact course_ack up files live hears read on put
  | @misplaced port payload p _ _ event cause code =>
    exact .ended (ends_fail files up (s := (s.heard port).tell up event) live.running opened _ _)
  | gaveUp =>
    exact .ended (ends_fail files up
      (s := ({ s with timer := Timer.idle }.counted).tell up
        (.givingUp s.transfer.requested.maxRetries)) live.running opened _ _)
  | requestedAgain within =>
    exact course_retry up within (.inl (.of_eq files opened rfl rfl rfl))
  | acknowledgedAgain within on get =>
    exact course_retry up within
      (proceeds_acknowledgeAndFlush files up live.running opened get)
  | resent within on put =>
    obtain ⟨outstanding, -⟩ := (live.room put).sending on
    exact course_retry up within
      (proceeds_resendWindow files up live.running opened (Nat.le_of_lt outstanding))
  | cancelled => exact .ended (ends_cancel files up live.running opened)

end Course

/-! ## Runs -/

section Run

variable [FileHandle η φ] {up : Uplink σ} {s : Session η σ φ}

/-- A transfer begins running. -/
theorem live_opened (up : Uplink σ) (job : TransferJob) (file : η) (port : UInt16)
    (requested : TransferConfig) (link : σ) (volume : φ) :
    (opened up job file port requested link volume).Live := by
  have transfer : (opened up job file port requested link volume).transfer =
      job.transfer file volume port requested (up.now link) := start_transfer up _
  refine ⟨?_, ?_, ⟨file, ?_⟩, ?_, ?_⟩
  · rw [transfer]
    rfl
  · rw [transfer]
    exact nofun
  · rw [transfer]
    rfl
  · rw [opened, start, sendRequest_timer]
    rfl
  · rw [transfer]
    exact fun _ => ⟨fun _ => ⟨rfl, Nat.le_refl _, rfl⟩, nofun⟩

/-- A step leaves a running transfer running, or it ends it. -/
theorem Live.step (live : s.Live) (input : Input σ φ) :
    (s.step up input).Live ∨
      (s.step up input).transfer.phase = .done ∧ (s.step up input).transfer.outcome ≠ none := by
  have course := course up FileHandle.moves_any live input
  generalize s.step up input = s' at course ⊢
  cases course with
  | elapsed => exact .inl ⟨live.outcome, live.running, live.opened, live.armed, live.room⟩
  | idle _ _ onward => exact .inl (onward.live (live.known _))
  | advanced _ live' _ _ _ onward => exact .inl (onward.live live')
  | repeated _ onward => exact .inl (onward.live (live.retrying up))
  | ended ends => exact .inr ⟨ends.done, ends.outcome⟩

/-- What has no outcome after a step had none before, and is running. -/
theorem Live.step_of_run (live : s.Live) {input : Input σ φ} {rest : List (Input σ φ)}
    (unfinished : ((s.step up input).run up rest).transfer.outcome = none) :
    (s.step up input).Live := by
  refine (live.step input).resolve_right ?_
  rintro ⟨done, outcome⟩
  rw [run_transfer_of_done up done] at unfinished
  exact outcome unfinished

/-- **What begins running is running or done after any run.** -/
theorem Live.run_cases (live : s.Live) (inputs : List (Input σ φ)) :
    (s.run up inputs).Live ∨
      (s.run up inputs).transfer.phase = .done ∧ (s.run up inputs).transfer.outcome ≠ none := by
  induction inputs generalizing s with
  | nil => exact .inl live
  | cons input rest ih =>
    rcases live.step input with live' | ⟨done, outcome⟩
    · exact ih live'
    · rw [run_cons, run_transfer_of_done up done]
      exact .inr ⟨done, outcome⟩

/-- What was asked for stays. -/
theorem Live.step_requested (live : s.Live) {input : Input σ φ}
    (unfinished : (s.step up input).transfer.outcome = none) :
    (s.step up input).transfer.requested = s.transfer.requested := by
  have course := course up FileHandle.moves_any live input
  generalize s.step up input = s' at course unfinished ⊢
  cases course with
  | elapsed => rfl
  | idle _ _ onward =>
    obtain ⟨file, acked, nextBlock, pending, transfer⟩ := onward.transfer
    rw [transfer]
  | repeated _ onward =>
    obtain ⟨file, acked, nextBlock, pending, transfer⟩ := onward.transfer
    rw [transfer]
    rfl
  | advanced _ _ _ requested _ onward =>
    obtain ⟨file, acked, nextBlock, pending, transfer⟩ := onward.transfer
    rw [transfer]
    exact requested
  | ended ends => exact absurd unfinished ends.outcome

/-- **A transfer that has no outcome in the end has been running throughout**, with what was asked
for. -/
theorem Live.run (live : s.Live) {inputs rest : List (Input σ φ)}
    (unfinished : ((s.run up inputs).run up rest).transfer.outcome = none) :
    (s.run up inputs).Live ∧ (s.run up inputs).transfer.requested = s.transfer.requested := by
  induction inputs generalizing s with
  | nil => exact ⟨live, rfl⟩
  | cons input inputs ih =>
    rw [run_cons, ← run_append] at unfinished
    have live' := live.step_of_run unfinished
    rw [run_append] at unfinished
    obtain ⟨running, requested⟩ := ih live' unfinished
    exact ⟨running, requested.trans (live.step_requested live'.outcome)⟩

end Run

end Session

end Transfer

end PolledNet
