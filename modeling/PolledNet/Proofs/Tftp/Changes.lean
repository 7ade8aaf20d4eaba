import PolledNet.Proofs.File.Numbered
import PolledNet.Proofs.Tftp.Reaction

/-!
# What a transfer does to itself

Whatever reaches a transfer, three things can come of it: it notes something about its progress, it
reads or writes its file, or it ends and closes the file (`Change`). None of them changes what the
transfer was asked to do (`SameJob`), and what each of them keeps is kept by every handler
(`Changes.keeps`, `Session.becomes_receive`, `Session.becomes_expire`, `Session.becomes_cancel`).

Unlike the course of a running transfer, this holds of any state of it, so that it can be said of
all transfers of a stack at once.
-/

namespace PolledNet

namespace Transfer

variable {η σ φ : Type}

/-- Two states of one transfer: what it was asked to do is the same. -/
structure SameJob (t t' : Transfer η) : Prop where
  direction : t'.direction = t.direction
  server : t'.server = t.server
  localPort : t'.localPort = t.localPort
  remote : t'.remote = t.remote
  requested : t'.requested = t.requested
  started : t'.started = t.started

/-- A transfer that does not change has the same job. -/
theorem SameJob.refl (t : Transfer η) : SameJob t t := ⟨rfl, rfl, rfl, rfl, rfl, rfl⟩

/-- A job that stays the same twice is the same. -/
theorem SameJob.trans {t t' t'' : Transfer η} (first : SameJob t t') (second : SameJob t' t'') :
    SameJob t t'' :=
  ⟨second.direction.trans first.direction, second.server.trans first.server,
    second.localPort.trans first.localPort, second.remote.trans first.remote,
    second.requested.trans first.requested, second.started.trans first.started⟩

/-- Two states of one transfer of which neither its file nor its end tells them apart. -/
structure Notes (t t' : Transfer η) : Prop where
  job : SameJob t t'
  file : t'.file = t.file
  outcome : t'.outcome = t.outcome
  done : t'.phase = .done ↔ t.phase = .done

/-- A transfer has an outcome exactly if it is done, and then it holds no file. -/
structure Tidy (t : Transfer η) : Prop where
  outcome : t.outcome.isSome = true ↔ t.phase = .done
  released : t.phase = .done → t.file = none

section Changes

variable [FileHandle η φ]

/-- The volume once a transfer has closed its file, if it has one. -/
def release (t : Transfer η) (volume : φ) : φ :=
  match t.file with
  | none => volume
  | some file => (FileHandle.close file volume).2

/-- One thing that a transfer does to itself, and to the volume of its file. -/
inductive Change : Transfer η × φ → Transfer η × φ → Prop where
  /-- It notes something. -/
  | notes {t t' : Transfer η} {volume : φ} (notes : Notes t t') : Change (t, volume) (t', volume)
  /-- Its file is read or written. -/
  | uses {t : Transfer η} {file file' : η} {volume volume' : φ} (opened : t.file = some file)
      (uses : FileHandle.Uses (file, volume) (file', volume')) :
      Change (t, volume) ({ t with file := some file' }, volume')
  /-- It ends, and its file is closed if it is open. -/
  | ends {t t' : Transfer η} {volume : φ} (running : t.phase ≠ .done) (job : SameJob t t')
      (released : t'.file = none) (done : t'.phase = .done) (outcome : t'.outcome.isSome = true) :
      Change (t, volume) (t', t.release volume)

/-- Any number of such things. -/
def Changes : Transfer η × φ → Transfer η × φ → Prop := Relation.ReflTransGen Change

variable {x y z : Transfer η × φ}

/-- Nothing may happen. -/
theorem Changes.refl (x : Transfer η × φ) : Changes x x := Relation.ReflTransGen.refl

/-- Changes may follow changes. -/
theorem Changes.trans (first : Changes x y) (second : Changes y z) : Changes x z :=
  Relation.ReflTransGen.trans first second

/-- One change makes up changes. -/
theorem Changes.one (change : Change x y) : Changes x y := Relation.ReflTransGen.single change

/-- **What every change keeps is kept by all of them.** -/
theorem Changes.keeps (changes : Changes x y) (Holds : Transfer η × φ → Prop)
    (kept : ∀ x y, Change x y → Holds x → Holds y) (start : Holds x) : Holds y := by
  induction changes with
  | refl => exact start
  | tail _ change ih => exact kept _ _ change ih

/-- **The job stays the same.** -/
theorem Changes.sameJob (changes : Changes x y) : SameJob x.1 y.1 := by
  apply changes.keeps (fun y => SameJob x.1 y.1)
  · intro y z change same
    cases change with
    | notes notes => exact same.trans notes.job
    | uses => exact same.trans ⟨rfl, rfl, rfl, rfl, rfl, rfl⟩
    | ends _ job => exact same.trans job
  · exact .refl _

/-- A transfer stays tidy, whatever happens to it. -/
theorem Changes.tidy (changes : Changes x y) (tidy : Tidy x.1) : Tidy y.1 := by
  apply changes.keeps (fun x => Tidy x.1) _ tidy
  intro x y change tidy
  cases change with
  | notes notes =>
    constructor
    · rw [notes.outcome, notes.done]
      exact tidy.outcome
    · rw [notes.done, notes.file]
      exact tidy.released
  | uses opened =>
    refine ⟨tidy.outcome, fun done => ?_⟩
    rw [tidy.released done] at opened
    cases opened
  | ends _ _ released done outcome => exact ⟨iff_of_true outcome done, fun _ => released⟩

end Changes

namespace Session

/-! ## Single steps -/

section Notes

variable (up : Uplink σ) (s : Session η σ φ)

/-- Progress is a note. -/
theorem notes_progress : Notes s.transfer (s.progress up).transfer := by
  rw [progress_transfer]
  exact ⟨⟨rfl, rfl, rfl, rfl, rfl, rfl⟩, rfl, rfl, Iff.rfl⟩

/-- The number of an acknowledgement is a note. -/
theorem notes_sendAck (block : Nat) : Notes s.transfer (s.sendAck up block).2.transfer :=
  ⟨⟨rfl, rfl, rfl, rfl, rfl, rfl⟩, rfl, rfl, Iff.rfl⟩

/-- The server's port is a note. -/
theorem notes_heard (port : UInt16) : Notes s.transfer (s.heard port).transfer :=
  ⟨⟨rfl, rfl, rfl, rfl, rfl, rfl⟩, rfl, rfl, Iff.rfl⟩

/-- The count of bad packets is a note. -/
theorem notes_counted : Notes s.transfer s.counted.transfer :=
  ⟨⟨rfl, rfl, rfl, rfl, rfl, rfl⟩, rfl, rfl, Iff.rfl⟩

/-- A block that is pending is a note. -/
theorem notes_withBlock (content : Bytes) : Notes s.transfer (s.withBlock content).transfer :=
  ⟨⟨rfl, rfl, rfl, rfl, rfl, rfl⟩, rfl, rfl, Iff.rfl⟩

/-- A block that is acknowledged is a note. -/
theorem notes_withAck (block : Nat) : Notes s.transfer (s.withAck block).transfer :=
  ⟨⟨rfl, rfl, rfl, rfl, rfl, rfl⟩, rfl, rfl, Iff.rfl⟩

/-- The number of the next block is a note. -/
theorem notes_next (t : Transfer η) (nextBlock : Nat) : Notes t { t with nextBlock } :=
  ⟨⟨rfl, rfl, rfl, rfl, rfl, rfl⟩, rfl, rfl, Iff.rfl⟩

/-- Options that are agreed on are a note. -/
theorem notes_begun {o : TftpOptions} {t : Transfer η}
    (negotiating : s.transfer.phase = .negotiating) (agreed : s.transfer.acceptOptions o = .ok t) :
    Notes s.transfer (s.begun up t).transfer := by
  have adopted : SameJob s.transfer t ∧ t.file = s.transfer.file ∧
      t.outcome = s.transfer.outcome := by
    cases direction : s.transfer.direction with
    | get =>
      rw [acceptOptions_get direction agreed]
      exact ⟨⟨rfl, rfl, rfl, rfl, rfl, rfl⟩, rfl, rfl⟩
    | put =>
      rw [acceptOptions_put direction agreed]
      exact ⟨⟨rfl, rfl, rfl, rfl, rfl, rfl⟩, rfl, rfl⟩
  obtain ⟨job, file, outcome⟩ := adopted
  rw [begun, progress_transfer]
  refine ⟨⟨job.direction, job.server, job.localPort, job.remote, job.requested, job.started⟩,
    file, outcome, ?_⟩
  rw [negotiating]
  constructor <;> intro done <;> cases done

end Notes

variable [FileHandle η φ]

/-- A handler makes this of a transfer and the volume of its file. -/
def Becomes (s s' : Session η σ φ) : Prop :=
  Changes (s.transfer, s.volume) (s'.transfer, s'.volume)

variable {s s' s'' : Session η σ φ}

/-- A session that does nothing changes nothing. -/
theorem Becomes.refl (s : Session η σ φ) : Becomes s s := Changes.refl _

/-- A session may change, and change again. -/
theorem Becomes.trans (first : Becomes s s') (second : Becomes s' s'') : Becomes s s'' :=
  Changes.trans first second

/-- The transfer notes something, and the volume stays as it is. -/
theorem becomes_of_notes (notes : Notes s.transfer s'.transfer) (volume : s'.volume = s.volume) :
    Becomes s s' := by
  rw [Becomes, volume]
  exact .one (.notes notes)

/-- Neither the transfer nor the volume is another. -/
theorem becomes_of_eq (transfer : s'.transfer = s.transfer) (volume : s'.volume = s.volume) :
    Becomes s s' := by
  rw [Becomes, transfer, volume]
  exact .refl _

variable (up : Uplink σ) (s)

/-- Telling the operator changes nothing. -/
theorem becomes_tell (e : TftpEvent) : Becomes s (s.tell up e) := becomes_of_eq rfl rfl

/-- A datagram that is sent to a port changes nothing. -/
theorem becomes_sendTo (port : UInt16) (p : TftpPacket) : Becomes s (s.sendTo up port p).2 :=
  becomes_of_eq rfl rfl

/-- A packet that is sent changes nothing. -/
theorem becomes_send (p : TftpPacket) : Becomes s (s.send up p).2 := becomes_of_eq rfl rfl

/-- Progress only makes notes. -/
theorem becomes_progress : Becomes s (s.progress up) :=
  becomes_of_notes (s.notes_progress up) (s.progress_volume up)

/-- Sending an acknowledgement only makes notes. -/
theorem becomes_sendAck (block : Nat) : Becomes s (s.sendAck up block).2 :=
  becomes_of_notes (s.notes_sendAck up block) rfl

/-- Locking the server's port only makes notes. -/
theorem becomes_heard (port : UInt16) : Becomes s (s.heard port) :=
  becomes_of_notes (s.notes_heard port) rfl

/-- The volume is what releasing the file makes of it. -/
theorem closeFile_volume : s.closeFile.2.volume = s.transfer.release s.volume := by
  obtain ⟨transfer, timer, link, volume⟩ := s
  unfold closeFile release
  dsimp only
  cases transfer.file <;> rfl

/-- Finishing ends the transfer, and closes its file. -/
theorem becomes_finish (result : Except TransferError Unit) : Becomes s (s.finish up result) := by
  by_cases done : s.transfer.phase = .done
  · rw [finish_of_done up s done]
    exact .refl s
  · have volume := (s.finish_volume up done result).trans s.closeFile_volume
    have transfer := s.finish_transfer up done result
    rw [Becomes, volume, transfer]
    exact .one (.ends done ⟨rfl, rfl, rfl, rfl, rfl, rfl⟩ rfl rfl rfl)

/-- Failing ends the transfer, and closes its file. -/
theorem becomes_fail (cause : TransferError) (code : UInt16) :
    Becomes s (s.fail up cause code).2 := by
  have finished := s.becomes_finish up (.error cause)
  unfold fail
  dsimp only
  split
  · exact finished.trans (becomes_send _ up _)
  · exact finished

/-- Cancelling ends the transfer, if it is running, and closes its file. -/
theorem becomes_cancel : Becomes s (s.cancel up) := by
  have failed := s.becomes_fail up .cancelled Tftp.errorNotDefined
  unfold cancel
  split <;> rename_i eq <;> rw [eq] at failed
  · exact failed
  · exact failed.trans (becomes_tell _ up _)

/-! ## Receiving a file -/

/-- Blocks are written one after the other. -/
theorem uses_writeBlocks (file : η) (volume : φ) (blocks : List Bytes) :
    FileHandle.Uses (file, volume) (writeBlocks file volume blocks).2 := by
  induction blocks generalizing file volume with
  | nil => exact .refl _
  | cons block rest ih =>
    have wrote := FileHandle.uses_writeAll file block volume
    unfold writeBlocks
    split <;> rename_i eq <;> rw [eq] at wrote
    · exact wrote.trans (ih _ _)
    · exact wrote

/-- What is pending is written to the file. -/
theorem becomes_flush : Becomes s s.flush.2 := by
  obtain ⟨transfer, timer, link, volume⟩ := s
  unfold flush
  dsimp only
  split
  · exact becomes_of_notes ⟨⟨rfl, rfl, rfl, rfl, rfl, rfl⟩, rfl, rfl, Iff.rfl⟩ rfl
  · rename_i file opened
    have wrote := uses_writeBlocks file volume transfer.pending
    refine Changes.trans (.one (.uses opened wrote)) (.one (.notes ?_))
    exact ⟨⟨rfl, rfl, rfl, rfl, rfl, rfl⟩, rfl, rfl, Iff.rfl⟩

/-- After an acknowledgement the file is written, and the transfer may end. -/
theorem becomes_acknowledgeAndFlush : Becomes s (s.acknowledgeAndFlush up).2 := by
  have acknowledged := s.becomes_sendAck up (s.transfer.nextBlock - 1)
  unfold acknowledgeAndFlush
  split <;> rename_i s₁ eq <;> rw [eq] at acknowledged
  · exact acknowledged
  · have flushed := acknowledged.trans s₁.becomes_flush
    split <;> rename_i s₂ eq' <;> rw [eq'] at flushed
    · exact flushed
    · exact flushed.trans (becomes_fail _ up _ _)

/-- A block is noted, and the file may be written. -/
theorem becomes_receiveBlock (content : Bytes) : Becomes s (s.receiveBlock up content).2 := by
  have noted : Becomes s (s.withBlock content) := becomes_of_notes (s.notes_withBlock content) rfl
  have progressed := noted.trans ((s.withBlock content).becomes_progress up)
  rw [receiveBlock_eq]
  split
  · have acknowledged :=
      progressed.trans (becomes_acknowledgeAndFlush ((s.withBlock content).progress up) up)
    split <;> rename_i eq <;> rw [eq] at acknowledged
    · exact acknowledged
    · split
      · exact acknowledged.trans (becomes_finish _ up _)
      · exact acknowledged
  · exact progressed

/-- Data are noted or dropped, and the file may be written. -/
theorem becomes_receiveData (number : UInt16) (content : Bytes) :
    Becomes s (s.receiveData up number content).2 := by
  unfold receiveData
  split
  · exact s.becomes_fail up _ _
  · split
    · exact s.becomes_tell up _
    · exact s.becomes_receiveBlock up content

/-! ## Sending a file -/

/-- A block is read from the file. -/
theorem becomes_readBlock (block : Nat) : Becomes s (s.readBlock block).2 := by
  unfold readBlock
  dsimp only
  split
  · exact .refl s
  · rename_i file opened
    have sought : FileHandle.Uses (file, s.volume) _ :=
      .one (.seek file ((block - 1) * s.transfer.blockSize.toNat) s.volume)
    split
    · exact Changes.one (.uses opened sought)
    · have read := sought.trans (FileHandle.uses_readFull _ s.transfer.blockSize.toNat _)
      split <;> exact Changes.one (.uses opened read)

/-- Sending blocks reads the file. -/
theorem becomes_sendBlocks (count : Nat) : Becomes s (s.sendBlocks up count).2 := by
  induction count generalizing s with
  | zero => exact .refl s
  | succ count ih =>
    have read := s.becomes_readBlock s.transfer.nextBlock
    unfold sendBlocks
    dsimp only
    split <;> rename_i s₁ eq <;> rw [eq] at read
    · exact read.trans (s₁.becomes_fail up _ _)
    · rename_i content
      have sent := read.trans (s₁.becomes_send up
        (.data (wireBlock s.transfer.nextBlock s₁.transfer.rollover) content))
      split <;> rename_i s₂ eq' <;> rw [eq'] at sent
      · exact sent
      · have next : Becomes s₂
            { s₂ with transfer := { s₂.transfer with nextBlock := s.transfer.nextBlock + 1 } } :=
          becomes_of_notes (notes_next _ _) rfl
        exact (sent.trans next).trans (ih _)

/-- Sending a window reads the file. -/
theorem becomes_sendWindow : Becomes s (s.sendWindow up).2 := s.becomes_sendBlocks up _

/-- Sending a window again reads the file. -/
theorem becomes_resendWindow : Becomes s (s.resendWindow up).2 := by
  have back : Becomes s
      { s with transfer := { s.transfer with nextBlock := s.transfer.acked + 1 } } :=
    becomes_of_notes (notes_next _ _) rfl
  exact back.trans (becomes_sendWindow _ up)

/-- An acknowledgement is noted, and more of the file is read, or the transfer ends. -/
theorem becomes_receiveAck (number : UInt16) : Becomes s (s.receiveAck up number).2 := by
  rw [receiveAck_eq]
  split
  · exact (s.becomes_tell up _).trans (becomes_fail _ up _ _)
  · rename_i block _
    have noted : Becomes s (s.withAck block) := becomes_of_notes (s.notes_withAck block) rfl
    have progressed := noted.trans ((s.withAck block).becomes_progress up)
    split
    · exact (s.becomes_tell up _).trans (becomes_resendWindow _ up)
    · split
      · exact progressed.trans (becomes_finish _ up _)
      · exact progressed.trans (becomes_sendWindow _ up)

/-! ## Whole handlers -/

/-- The options of the server are noted, or the transfer ends. -/
theorem becomes_receiveOptions (negotiating : s.transfer.phase = .negotiating) (o : TftpOptions) :
    Becomes s (s.receiveOptions up o).2 := by
  cases agreed : s.transfer.acceptOptions o with
  | error e =>
    unfold receiveOptions
    rw [agreed]
    exact s.becomes_fail up _ _
  | ok t =>
    have begun : Becomes s (s.begun up t) :=
      becomes_of_notes (s.notes_begun up negotiating agreed) (progress_volume up _)
    rw [receiveOptions_of_ok up s agreed]
    split
    · exact begun.trans (becomes_sendAck _ up _)
    · exact begun.trans (becomes_sendWindow _ up)

/-- A packet of the server makes changes only. -/
theorem becomes_receivePacket {port : UInt16} (hears : s.Hears port) {payload : Bytes}
    {p : TftpPacket} (read : TftpPacket.parse payload = .ok p) :
    Becomes s ((s.heard port).receivePacket up p).2 := by
  refine (s.becomes_heard port).trans ?_
  have reacted := reaction_packet up hears read
  generalize ((s.heard port).receivePacket up p).2 = s' at reacted
  cases reacted with
  | foreign other => exact absurd hears other
  | malformed => exact becomes_of_eq rfl rfl
  | refused => exact (becomes_tell _ up _).trans (becomes_finish _ up _)
  | options _ _ negotiating => exact (s.heard port).becomes_receiveOptions up negotiating _
  | optionsAgain => exact becomes_sendAck _ up _
  | block => exact becomes_receiveData _ up _ _
  | ack => exact becomes_receiveAck _ up _
  | misplaced => exact (becomes_tell _ up _).trans (becomes_fail _ up _ _)

/-- **Whatever a transfer receives.** -/
theorem becomes_receive (port : UInt16) (payload : Bytes) :
    Becomes s (s.receive up port payload).2 := by
  by_cases done : s.transfer.phase = .done
  · rw [receive, if_pos done]
    exact .refl s
  · by_cases hears : s.Hears port
    · rw [receive_of_hears up done hears]
      unfold receiveContent
      split
      · exact (s.becomes_heard port).trans (becomes_of_eq rfl rfl)
      · rename_i read
        exact s.becomes_receivePacket up hears read
    · rw [receive_of_not_hears up done hears]
      exact (s.becomes_tell up _).trans (becomes_sendTo _ up _ _)

/-- **Whatever expires.** -/
theorem becomes_expire : Becomes s (s.expire up).2 := by
  by_cases done : s.transfer.phase = .done
  · rw [expire, if_pos done]
    exact .refl s
  · rw [expire_eq up s done]
    split
    · have counted : Becomes s (s.counted.tell up (.givingUp s.transfer.requested.maxRetries)) :=
        becomes_of_notes s.notes_counted rfl
      exact counted.trans (becomes_fail _ up _ _)
    · have retrying : Becomes s (s.retrying up) := becomes_of_notes s.notes_counted rfl
      refine retrying.trans ?_
      unfold retry
      split
      · exact becomes_of_eq rfl rfl
      · exact becomes_acknowledgeAndFlush _ up
      · exact becomes_resendWindow _ up

end Session

end Transfer

end PolledNet
