import PolledNet.Proofs.Core.Uplink
import PolledNet.Proofs.File.Volume
import PolledNet.Proofs.Tftp.Content
import PolledNet.Proofs.Tftp.Numbering
import PolledNet.Proofs.Tftp.Octets
import PolledNet.Proofs.Tftp.Reaction

/-!
# A received file is the file that was sent

A transfer that receives a file takes blocks in order, keeps them pending until a window is full or
the timer expires, and acknowledges them before it writes them. The server is only trusted to send
blocks of one content under their own numbers, not too far from the next one (`Truthful`); they may
come late, twice, in any order or not at all, every datagram of ours may be refused, and every write
may fail.

The invariant has two cases (`GetState`). While the transfer runs, what is stored and what is
pending are together the blocks before the next one (`Receiving`). Once it has ended, a leading part
of the content is stored, and all of it when it ended well (`Ended`). Each input keeps it
(`GetState.step`), and the main statement, `get_integrity`, reads it off a whole run.
-/

namespace PolledNet

namespace Transfer

open Content

namespace Session

variable {η σ φ : Type} [FileHandle η φ] (up : Uplink σ) (view : WriteView η φ)

/-! ## What is trusted -/

/-- The server is truthful about a content: while the transfer is on, a block from the server's port
is one of the content under its own number, fewer than 65535 blocks from the next. -/
def Truthful (content : Bytes) (s : Session η σ φ) : Input σ φ → Prop
  | .datagram sourcePort payload =>
    s.transfer.phase = .transferring → s.transfer.serverPort = some sourcePort →
      ∀ number octets, TftpPacket.parse payload = .ok (.data number octets) →
        ∃ n, 1 ≤ n ∧ n ≤ blockCount content s.transfer.blockSize.toNat ∧
          n < s.transfer.nextBlock + 65535 ∧ s.transfer.nextBlock < n + 65535 ∧
          number = wireBlock n s.transfer.rollover ∧
          octets = blockAt content s.transfer.blockSize.toNat n
  | _ => True

omit [FileHandle η φ] in
/-- A near block of the content under its own number is the truth. -/
theorem truthful_data {content : Bytes} {s : Session η σ φ} {port number : UInt16}
    {octets : Bytes} (n : Nat)
    (own : 1 ≤ n ∧ n ≤ blockCount content s.transfer.blockSize.toNat ∧
      n < s.transfer.nextBlock + 65535 ∧ s.transfer.nextBlock < n + 65535 ∧
      number = wireBlock n s.transfer.rollover ∧
      octets = blockAt content s.transfer.blockSize.toNat n) :
    s.Truthful content
      (.datagram (σ := σ) (φ := φ) port (TftpPacket.data number octets).octets) := by
  intro _ _ number' octets' read
  rw [TftpPacket.parse_octets_data] at read
  cases read
  exact ⟨n, own⟩

/-- Nobody else touches the file that is being written. -/
def LeavesFile (s : Session η σ φ) : Input σ φ → Prop
  | .elapse _ volume =>
    view.stored volume = view.stored s.volume ∧
      ∀ file, view.Appends file s.volume → view.Appends file volume
  | _ => True

end Session

/-! ## The invariant -/

variable {η σ φ : Type} [FileHandle η φ] (view : WriteView η φ) (content : Bytes)

/-- A running transfer whose file holds a leading part of the content. -/
structure Storing (t : Transfer η) (volume : φ) : Prop where
  /-- It is not done. -/
  running : t.phase ≠ .done
  /-- The file is open and written at its end. -/
  opened : ∃ file, t.file = some file ∧ view.Appends file volume
  /-- What is stored is how the content begins. -/
  stored : view.stored volume <+: content

/-- A running transfer that has received the blocks before the next one. -/
structure Receiving (t : Transfer η) (volume : φ) : Prop where
  /-- The file comes to us. -/
  direction : t.direction = .get
  /-- It is not done. -/
  running : t.phase ≠ .done
  /-- There is no outcome yet. -/
  outcome : t.outcome = none
  /-- The file is open and written at its end. -/
  opened : ∃ file, t.file = some file ∧ view.Appends file volume
  /-- Blocks count from one. -/
  positive : 1 ≤ t.nextBlock
  /-- The server has a port before the options are agreed on. -/
  unlocked : t.serverPort = none → t.phase = .negotiating
  /-- Nothing is received before they are. -/
  first : t.phase = .negotiating → t.nextBlock = 1
  /-- What is stored and what is pending are the blocks before the next one. -/
  received : view.stored volume ++ t.pending.flatten =
    content.take ((t.nextBlock - 1) * t.blockSize.toNat)
  /-- All of it is counted. -/
  bytes : t.bytes = (view.stored volume).length + t.pending.flatten.length

/-- A transfer that is over. -/
structure Ended (t : Transfer η) (volume : φ) : Prop where
  /-- It is done. -/
  done : t.phase = .done
  /-- There is an outcome. -/
  finished : t.outcome ≠ none
  /-- What is stored is how the content begins. -/
  stored : view.stored volume <+: content
  /-- If it ended well, the whole content is stored and reported. -/
  whole : ∀ report, t.outcome = some (.ok report) →
    view.stored volume = content ∧ report.bytes = content.length

/-- A transfer that receives a file, at any time. -/
inductive GetState (t : Transfer η) (volume : φ) : Prop where
  | receiving (h : Receiving view content t volume)
  | ended (h : Ended view content t volume)

variable {view content}

/-- A receiver stores the content. -/
theorem Receiving.storing {t : Transfer η} {volume : φ} (h : Receiving view content t volume) :
    Storing view content t volume where
  running := h.running
  opened := h.opened
  stored := (List.prefix_append _ _).trans (h.received ▸ List.take_prefix _ _)

open Session

variable (up : Uplink σ) {s : Session η σ φ}

/-! ## Ending -/

/-- A failure ends the transfer with what is stored so far. -/
theorem Storing.fail (h : Storing view content s.transfer s.volume) (cause : TransferError)
    (code : UInt16) :
    Ended view content (s.fail up cause code).2.transfer (s.fail up cause code).2.volume := by
  obtain ⟨file, opened, appends⟩ := h.opened
  rw [fail_transfer up s h.running, fail_volume up s h.running,
    closeFile_volume_of_open s opened]
  refine ⟨rfl, nofun, ?_, nofun⟩
  rw [view.close appends]
  exact h.stored

/-- The server may end the transfer as well. -/
theorem Storing.finish_error (h : Storing view content s.transfer s.volume)
    (cause : TransferError) :
    Ended view content (s.finish up (.error cause)).transfer
      (s.finish up (.error cause)).volume := by
  obtain ⟨file, opened, appends⟩ := h.opened
  rw [finish_transfer up s h.running, finish_volume up s h.running,
    closeFile_volume_of_open s opened]
  refine ⟨rfl, nofun, ?_, nofun⟩
  rw [view.close appends]
  exact h.stored

/-- A transfer that has stored all of the content may end well. -/
theorem Receiving.finish (h : Receiving view content s.transfer s.volume)
    (whole : view.stored s.volume = content) (nothing : s.transfer.pending = []) :
    Ended view content (s.finish up (.ok ())).transfer (s.finish up (.ok ())).volume := by
  obtain ⟨file, opened, appends⟩ := h.opened
  have counted : s.transfer.bytes = content.length := by
    rw [h.bytes, whole, nothing]
    rfl
  rw [finish_transfer up s h.running, finish_volume up s h.running,
    closeFile_volume_of_open s opened]
  have closed := (view.close appends).trans whole
  refine ⟨rfl, nofun, ?_, ?_⟩
  · exact closed ▸ List.prefix_refl _
  · intro report ok
    obtain ⟨-, -, rfl⟩ := ending_eq_ok up s (Option.some.inj ok)
    exact ⟨closed, counted⟩

/-! ## Blocks -/

/-- Progress does not disturb a receiver. -/
theorem Receiving.progress (h : Receiving view content s.transfer s.volume) :
    Receiving view content (s.progress up).transfer (s.progress up).volume := by
  rw [progress_transfer, progress_volume]
  exact ⟨h.direction, h.running, h.outcome, h.opened, h.positive, h.unlocked, h.first, h.received,
    h.bytes⟩

/-- An acknowledgement does not disturb a receiver. -/
theorem Receiving.sendAck (h : Receiving view content s.transfer s.volume) (block : Nat) :
    Receiving view content (s.sendAck up block).2.transfer (s.sendAck up block).2.volume :=
  ⟨h.direction, h.running, h.outcome, h.opened, h.positive, h.unlocked, h.first, h.received,
    h.bytes⟩

/-- Blocks are written in turn, up to the first that cannot be written whole. -/
theorem writeBlocks_stored (view : WriteView η φ) {file file' : η} {volume volume' : φ}
    {blocks : List Bytes} {answer : Except FileError Unit} (appends : view.Appends file volume)
    (written : writeBlocks file volume blocks = (answer, file', volume')) :
    view.Appends file' volume' ∧
      ∃ kept, kept <+: blocks.flatten ∧ view.stored volume' = view.stored volume ++ kept ∧
        (answer = .ok () → kept = blocks.flatten) := by
  induction blocks generalizing file volume with
  | nil =>
    cases written
    exact ⟨appends, [], List.nil_prefix, (List.append_nil _).symm, fun _ => rfl⟩
  | cons block rest ih =>
    rw [writeBlocks] at written
    split at written
    · rename_i file₁ volume₁ first
      obtain ⟨appends, kept, -, stored, whole⟩ := view.writeAll appends first
      obtain ⟨appends, more, part, stored', whole'⟩ := ih appends written
      have kept_eq := whole rfl
      subst kept_eq
      refine ⟨appends, kept ++ more, ?_, ?_, ?_⟩
      · exact (List.prefix_append_right_inj kept).mpr part
      · rw [stored', stored, List.append_assoc]
      · intro ok
        rw [whole' ok, List.flatten_cons]
    · rename_i e file₁ volume₁ first
      cases written
      obtain ⟨appends, kept, part, stored, -⟩ := view.writeAll appends first
      refine ⟨appends, kept, ?_, stored, nofun⟩
      exact part.trans (List.prefix_append _ _)

/-- Writing what is pending leaves nothing pending, or breaks off with a leading part stored. -/
theorem Receiving.flush (h : Receiving view content s.transfer s.volume) :
    (∃ s' file, s.flush = (.ok (), s') ∧ Receiving view content s'.transfer s'.volume ∧
        s'.transfer = { s.transfer with file := some file, pending := [] }) ∨
      ∃ e s', s.flush = (.error e, s') ∧ Storing view content s'.transfer s'.volume := by
  obtain ⟨file, opened, appends⟩ := h.opened
  obtain ⟨transfer, timer, link, volume⟩ := s
  dsimp only at opened appends
  cases written : writeBlocks file volume transfer.pending with
  | mk answer rest =>
    obtain ⟨file', volume'⟩ := rest
    obtain ⟨appends', kept, part, stored, whole⟩ := writeBlocks_stored view appends written
    cases answer with
    | ok =>
      refine .inl ⟨_, file', by simp only [Session.flush, opened, written]; rfl, ?_, rfl⟩
      have all : view.stored volume' = view.stored volume ++ transfer.pending.flatten := by
        rw [stored, whole rfl]
      refine ⟨h.direction, h.running, h.outcome, ⟨file', rfl, appends'⟩, h.positive, h.unlocked,
        h.first, ?_, ?_⟩
      · exact (List.append_nil _).trans (all.trans h.received)
      · have counted := h.bytes
        rw [← List.length_append, ← all] at counted
        exact counted
    | error e =>
      refine .inr ⟨.file e, _, by simp only [Session.flush, opened, written]; rfl, ?_⟩
      refine ⟨h.running, ⟨file', rfl, appends'⟩, ?_⟩
      have begins : view.stored volume ++ kept <+: view.stored volume ++ transfer.pending.flatten :=
        (List.prefix_append_right_inj _).mpr part
      rw [← stored] at begins
      exact begins.trans (h.received ▸ List.take_prefix _ _)

/-- What an acknowledgement followed by the write of what is pending comes to. Unless it fails, the
transfer goes on with nothing pending. -/
theorem Receiving.acknowledgeAndFlush (h : Receiving view content s.transfer s.volume) :
    ∃ answer s', s.acknowledgeAndFlush up = (answer, s') ∧
      (Ended view content s'.transfer s'.volume ∨
        Receiving view content s'.transfer s'.volume ∧
          (answer = .ok () → s'.transfer.pending = [] ∧
            s'.transfer.nextBlock = s.transfer.nextBlock ∧
            s'.transfer.blockSize = s.transfer.blockSize)) := by
  have acked := h.sendAck up (s.transfer.nextBlock - 1)
  unfold Session.acknowledgeAndFlush
  split
  · rename_i e s₁ sent
    rw [sent] at acked
    exact ⟨_, _, rfl, .inr ⟨acked, nofun⟩⟩
  · rename_i s₁ sent
    have same := sendAck_transfer up s (s.transfer.nextBlock - 1)
    rw [sent] at acked same
    dsimp only at same
    rcases acked.flush with ⟨s₂, file, flushed, received, emptied⟩ | ⟨e, s₂, flushed, storing⟩
    · rw [flushed]
      refine ⟨_, _, rfl, .inr ⟨received, ?_⟩⟩
      intro _
      rw [emptied, same]
      exact ⟨rfl, rfl, rfl⟩
    · rw [flushed]
      exact ⟨_, _, rfl, .inl (storing.fail up e _)⟩

/-- **A block of the content that is next is taken**, and the invariant holds again. -/
theorem Receiving.receiveBlock (h : Receiving view content s.transfer s.volume)
    (on : s.transfer.phase = .transferring) {octets : Bytes}
    (next : octets = blockAt content s.transfer.blockSize.toNat s.transfer.nextBlock) :
    GetState view content (s.receiveBlock up octets).2.transfer
      (s.receiveBlock up octets).2.volume := by
  have taken :
      Receiving view content (s.withBlock octets).transfer (s.withBlock octets).volume := by
    refine ⟨h.direction, h.running, h.outcome, h.opened, Nat.le_add_left 1 _, h.unlocked,
      ?_, ?_, ?_⟩
    · intro negotiating
      cases on.symm.trans negotiating
    · simp only [withBlock, List.flatten_append, List.flatten_singleton, Nat.add_sub_cancel]
      rw [← List.append_assoc, h.received, next]
      exact take_append_blockAt content _ h.positive
    · simp only [withBlock, List.flatten_append, List.flatten_singleton, List.length_append]
      rw [h.bytes, Nat.add_assoc]
  have progressed := taken.progress up
  -- the acknowledgement may be refused and the write may fail, but the block is pending by now
  rw [receiveBlock_eq]
  split
  · obtain ⟨answer, s', done, state⟩ := progressed.acknowledgeAndFlush up
    rw [done]
    rcases answer with e | ⟨⟩
    · rcases state with ended | ⟨received, -⟩
      · exact .ended ended
      · exact .receiving received
    · dsimp only
      split
      · rename_i short
        rcases state with ended | ⟨received, emptied⟩
        · rw [finish_of_done up s' ended.done]
          exact .ended ended
        · obtain ⟨nothing, nextBlock, blockSize⟩ := emptied rfl
          refine .ended (received.finish up ?_ nothing)
          have stored := received.received
          rw [nothing, nextBlock, blockSize, progress_transfer] at stored
          simp only [withBlock, List.flatten_nil, List.append_nil, Nat.add_sub_cancel] at stored
          rw [stored]
          exact take_eq_self_of_short h.positive (next ▸ short)
      · rcases state with ended | ⟨received, -⟩
        · exact .ended ended
        · exact .receiving received
  · exact .receiving progressed

/-! ## Packets -/

/-- A receiver takes the options, or fails. -/
theorem Receiving.receiveOptions (h : Receiving view content s.transfer s.volume)
    (locked : s.transfer.serverPort ≠ none) (negotiating : s.transfer.phase = .negotiating)
    (o : TftpOptions) :
    GetState view content (s.receiveOptions up o).2.transfer (s.receiveOptions up o).2.volume := by
  cases agreed : s.transfer.acceptOptions o with
  | error e =>
    unfold Session.receiveOptions
    rw [agreed]
    exact .ended (h.storing.fail up _ _)
  | ok t =>
    have adopted := acceptOptions_get h.direction agreed
    have nothing : view.stored s.volume ++ s.transfer.pending.flatten = [] := by
      have received := h.received
      rwa [h.first negotiating, Nat.sub_self, Nat.zero_mul, List.take_zero] at received
    have begins : Receiving view content { t with phase := .transferring } s.volume := by
      rw [adopted]
      refine ⟨h.direction, nofun, h.outcome, h.opened, h.positive,
        fun unlocked => absurd unlocked locked, nofun, ?_, h.bytes⟩
      simp only [h.first negotiating, Nat.sub_self, Nat.zero_mul, List.take_zero]
      exact nothing
    have get : t.direction = .get := begins.direction
    rw [receiveOptions_of_ok up s agreed, get]
    have begun : Receiving view content (s.begun up t).transfer (s.begun up t).volume :=
      Receiving.progress up (s := Session.tell up _ _) begins
    exact .receiving (begun.sendAck up 0)

/-- A receiver takes the block it waits for, if that is the right one, and passes over all others.
-/
theorem Receiving.receiveData (h : Receiving view content s.transfer s.volume)
    (on : s.transfer.phase = .transferring) {number : UInt16} {octets : Bytes}
    (next : number = wireBlock s.transfer.nextBlock s.transfer.rollover →
      octets = blockAt content s.transfer.blockSize.toNat s.transfer.nextBlock) :
    GetState view content (s.receiveData up number octets).2.transfer
      (s.receiveData up number octets).2.volume := by
  unfold Session.receiveData
  split
  · exact .ended (h.storing.fail up _ _)
  · split
    · exact .receiving h
    · rename_i number_eq
      exact h.receiveBlock up on (next (Decidable.of_not_not number_eq))

/-- The server's port may become known at any time. -/
theorem Receiving.heard (h : Receiving view content s.transfer s.volume) (port : UInt16) :
    Receiving view content (s.heard port).transfer (s.heard port).volume :=
  ⟨h.direction, h.running, h.outcome, h.opened, h.positive, nofun, h.first, h.received, h.bytes⟩

/-- A block under the number of the next one is the next one, since it is too near to be
another. -/
theorem Receiving.next_of_truthful (h : Receiving view content s.transfer s.volume) {port : UInt16}
    {payload : Bytes} (truthful : s.Truthful content (.datagram (σ := σ) (φ := φ) port payload))
    (hears : s.Hears port) (on : s.transfer.phase = .transferring) {number : UInt16}
    {octets : Bytes} (read : TftpPacket.parse payload = .ok (.data number octets))
    (named : number = wireBlock s.transfer.nextBlock s.transfer.rollover) :
    octets = blockAt content s.transfer.blockSize.toNat s.transfer.nextBlock := by
  have known : s.transfer.serverPort ≠ none := by
    intro unlocked
    cases (h.unlocked unlocked).symm.trans on
  obtain ⟨n, -, -, above, below, number_eq, octets_eq⟩ :=
    truthful on (hears.locked known) number octets read
  have n_eq : n = s.transfer.nextBlock :=
    eq_of_wireBlock_eq above below (number_eq.symm.trans named)
  rwa [n_eq] at octets_eq

/-! ## Runs -/

/-- An expiry repeats a step, whatever becomes of it. -/
theorem Receiving.retrying (h : Receiving view content s.transfer s.volume) :
    Receiving view content (s.retrying up).transfer (s.retrying up).volume :=
  ⟨h.direction, h.running, h.outcome, h.opened, h.positive, h.unlocked, h.first, h.received,
    h.bytes⟩

/-- **Every input keeps the invariant**, if the server is truthful. -/
theorem Receiving.step (h : Receiving view content s.transfer s.volume) {input : Input σ φ}
    (truthful : s.Truthful content input) (leaves : s.LeavesFile view input) :
    GetState view content (s.step up input).transfer (s.step up input).volume := by
  have reaction := reaction up h.running h.outcome input
  generalize s.step up input = s' at reaction ⊢
  cases reaction with
  | elapsed link volume =>
    obtain ⟨same, kept⟩ := leaves
    obtain ⟨file, opened, appends⟩ := h.opened
    exact .receiving ⟨h.direction, h.running, h.outcome, ⟨file, opened, kept file appends⟩,
      h.positive, h.unlocked, h.first, same ▸ h.received, same ▸ h.bytes⟩
  | foreign => exact .receiving h
  | malformed => exact .receiving (h.heard _)
  | refused => exact .ended ((h.heard _).storing.finish_error up (s := Session.tell up _ _) _)
  | options _ _ negotiating => exact (h.heard _).receiveOptions up nofun negotiating _
  | optionsAgain => exact .receiving ((h.heard _).sendAck up 0)
  | block hears read on =>
    exact (h.heard _).receiveData up on fun named => h.next_of_truthful truthful hears on read named
  | ack _ _ _ put => cases h.direction.symm.trans put
  | misplaced => exact .ended ((h.heard _).storing.fail up (s := Session.tell up _ _) _ _)
  | gaveUp =>
    have storing : Storing view content s.counted.transfer s.counted.volume :=
      ⟨h.running, h.opened, h.storing.stored⟩
    exact .ended (Storing.fail up (s := Session.tell up _ _) storing _ _)
  | requestedAgain =>
    exact .receiving (Receiving.retrying up (s := { s with timer := Timer.idle }) h)
  | acknowledgedAgain =>
    obtain ⟨answer, s', done, state⟩ :=
      (Receiving.retrying up (s := { s with timer := Timer.idle }) h).acknowledgeAndFlush up
    rw [done]
    rcases state with ended | ⟨received, -⟩
    · exact .ended ended
    · exact .receiving received
  | resent _ _ put => cases h.direction.symm.trans put
  | cancelled =>
    rw [cancel_transfer, cancel_volume]
    exact .ended (h.storing.fail up _ _)

/-- What is done stays as it is, as long as nobody touches the file. -/
theorem Ended.step (h : Ended view content s.transfer s.volume) {input : Input σ φ}
    (leaves : s.LeavesFile view input) :
    Ended view content (s.step up input).transfer (s.step up input).volume := by
  rw [step_transfer_of_done up h.done]
  have same : view.stored (s.step up input).volume = view.stored s.volume := by
    cases input with
    | elapse link volume => exact leaves.1
    | _ => exact congrArg view.stored (step_of_done up h.done h.finished (by simp)).2
  exact ⟨h.done, h.finished, same ▸ h.stored, same ▸ h.whole⟩

/-- A transfer begins with nothing received. -/
theorem GetState.opened {job : TransferJob} (get : job.direction = .get) {file : η} {volume : φ}
    (appends : view.Appends file volume) (empty : view.stored volume = []) (port : UInt16)
    (requested : TransferConfig) (link : σ) :
    GetState view content (Session.opened up job file port requested link volume).transfer
      (Session.opened up job file port requested link volume).volume := by
  unfold Session.opened
  rw [start_transfer, start_volume]
  refine .receiving ⟨get, nofun, rfl, ⟨file, rfl, appends⟩, Nat.le_refl 1, fun _ => rfl,
    fun _ => rfl, ?_, ?_⟩
  · simp [TransferJob.transfer, empty]
  · simp [TransferJob.transfer, empty]

/-- The state of every run is one of the invariant's. -/
theorem GetState.run (h : GetState view content s.transfer s.volume) {inputs : List (Input σ φ)}
    (admitted : s.Along up (fun s input => s.Truthful content input ∧ s.LeavesFile view input)
      inputs) :
    GetState view content (s.run up inputs).transfer (s.run up inputs).volume := by
  refine run_induction up (motive := fun s => GetState view content s.transfer s.volume) ?_ h
    admitted
  rintro s input (receiving | ended) ⟨truthful, leaves⟩
  · exact receiving.step up truthful leaves
  · exact .ended (ended.step up leaves)

/-- **A received file is the file that was sent.** While the transfer runs, what is stored and what
is pending are the blocks before the next one. At any time a leading part of the content is stored,
and all of it when the transfer has ended well; then its length is reported. -/
theorem get_integrity (up : Uplink σ) (view : WriteView η φ) (job : TransferJob)
    (get : job.direction = .get) (file : η) (volume : φ) (appends : view.Appends file volume)
    (empty : view.stored volume = []) (port : UInt16) (requested : TransferConfig) (link : σ)
    (content : Bytes) (inputs : List (Input σ φ))
    (admitted : (Session.opened up job file port requested link volume).Along up
      (fun s input => s.Truthful content input ∧ s.LeavesFile view input) inputs) :
    let s := (Session.opened up job file port requested link volume).run up inputs
    (s.transfer.phase ≠ .done →
      view.stored s.volume ++ s.transfer.pending.flatten =
        blocksBefore content s.transfer.blockSize.toNat s.transfer.nextBlock) ∧
    view.stored s.volume <+: content ∧
    ∀ report, s.transfer.outcome = some (.ok report) →
      view.stored s.volume = content ∧ report.bytes = content.length := by
  intro s
  have state : GetState view content s.transfer s.volume :=
    (GetState.opened up get appends empty port requested link).run up admitted
  rcases state with receiving | ended
  · refine ⟨?_, receiving.storing.stored, ?_⟩
    · intro _
      rw [receiving.received, blocksBefore_eq_take]
    · intro report ok
      cases receiving.outcome.symm.trans ok
  · exact ⟨fun running => absurd ended.done running, ended.stored, ended.whole⟩

/-- A transfer of twelve octets in blocks of eight. The acknowledgement of the first block will be
refused. -/
def refusedAck : Session RamFile (List (Except NetError Unit)) RamVolume :=
  Session.opened Uplink.scripted ⟨.get, ⟨10, 0, 0, 2⟩, "boot", "boot"⟩ ⟨"boot", .create, 0⟩ 50000
    {} [.ok (), .ok (), .error (.transmit .hardwareError)] ⟨[⟨"boot", #[]⟩], none⟩

/-- The second block comes too early, and again after the timer has expired. -/
def refusedAckInputs : List (Input (List (Except NetError Unit)) RamVolume) :=
  [.datagram 69 (TftpPacket.optionAck { blockSize := some 8 }).octets,
    .datagram 69 (TftpPacket.data 2 [9, 10, 11, 12]).octets,
    .datagram 69 (TftpPacket.data 1 [1, 2, 3, 4, 5, 6, 7, 8]).octets,
    .expiry,
    .datagram 69 (TftpPacket.data 2 [9, 10, 11, 12]).octets]

/-- A receiver whose acknowledgement is refused still stores the file. -/
theorem get_integrity_refusedAck :
    (refusedAck.run Uplink.scripted refusedAckInputs).transfer.outcome =
        some (.ok ⟨12, 0, 1, 1200⟩) ∧
      RamVolume.octetsOf "boot" (refusedAck.run Uplink.scripted refusedAckInputs).volume =
        [1, 2, 3, 4, 5, 6, 7, 8, 9, 10, 11, 12] := by
  have well : (refusedAck.run Uplink.scripted refusedAckInputs).transfer.outcome =
      some (.ok ⟨12, 0, 1, 1200⟩) := by decide +kernel
  have integrity := get_integrity Uplink.scripted (RamVolume.writeView "boot")
    ⟨.get, ⟨10, 0, 0, 2⟩, "boot", "boot"⟩ rfl ⟨"boot", .create, 0⟩ ⟨[⟨"boot", #[]⟩], none⟩
    ⟨rfl, rfl, #[], rfl, rfl⟩ rfl 50000 {} [.ok (), .ok (), .error (.transmit .hardwareError)]
    [1, 2, 3, 4, 5, 6, 7, 8, 9, 10, 11, 12] refusedAckInputs ?_
  · exact ⟨well, (integrity.2.2 _ well).1⟩
  · refine ⟨⟨nofun, trivial⟩, ⟨truthful_data 2 ?_, trivial⟩,
      ⟨truthful_data 1 ?_, trivial⟩, ⟨trivial, trivial⟩, ⟨truthful_data 2 ?_, trivial⟩, trivial⟩
    all_goals decide +kernel

end Transfer

end PolledNet
