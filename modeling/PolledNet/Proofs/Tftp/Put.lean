import PolledNet.Proofs.File.Volume
import PolledNet.Proofs.Tftp.Numbering
import PolledNet.Proofs.Tftp.Reaction
import PolledNet.Proofs.Tftp.Window

/-!
# A sent file is the file that was read

A sender first offers its file and then sends it in windows. Whatever it is answered, every block it
hands over is one of the window, under its own number and with its own octets, and it ends well only
by the acknowledgement of its last block (`put_integrity`). An acknowledgement of a block that was
sent earlier is taken amiss only after a window has been cut short (`put_ack_protocol_iff`).

The invariant has four cases (`PutState`): the file is offered, it is being sent, the transfer has
failed or it is complete.
-/

namespace PolledNet

open Content

namespace Transfer

open Session

variable {η σ φ : Type} [FileHandle η φ]

/-! ## The invariant -/

/-- Nobody else writes to the record. -/
def Session.KeepsRecord (s : Session η (Recorded σ) φ) : Input (Recorded σ) φ → Prop
  | .elapse link _ => link.handed = s.link.handed
  | _ => True

/-- A running sender whose options are not agreed on. -/
structure Offering (src : BlockSource η φ) (s : Session η (Recorded σ) φ) : Prop where
  /-- The file goes to the server. -/
  direction : s.transfer.direction = .put
  /-- The request is out. -/
  negotiating : s.transfer.phase = .negotiating
  /-- There is no outcome yet. -/
  outcome : s.transfer.outcome = none
  /-- The file is open. -/
  opened : ∃ file, s.transfer.file = some file ∧ src.Open file s.volume
  /-- Nothing is acknowledged. -/
  acked : s.transfer.acked = 0
  /-- Nothing is sent. -/
  next : s.transfer.nextBlock = 1
  /-- There are no blocks yet. -/
  final : s.transfer.finalBlock = 0

/-- A transfer that sends a file, at any time. -/
inductive PutState (src : BlockSource η φ) (s : Session η (Recorded σ) φ) : Prop where
  | offering (h : Offering src s)
  | sending (h : Sending src s) (settled : Settled src s)
  | failed (h : Failed s.transfer)
  | completed (h : Completed s.transfer)

variable {src : BlockSource η φ} (up : Uplink σ) {s s' : Session η (Recorded σ) φ}

/-! ## Steps of a sender -/

/-- A sender whose transfer is left alone goes on. -/
theorem Sending.undisturbed (h : Sending src s) (settled : Settled src s)
    (transfer : s'.transfer = s.transfer)
    (opened : ∃ file, s.transfer.file = some file ∧ src.Open file s'.volume)
    (hands : Hands (fun d => d.block? = none) s s') {other : Prop} :
    Sends src s s' ∧ (Sending src s' ∧ Settled src s' ∨ other) := by
  refine ⟨.of_none (by rw [transfer]) (Nat.le_of_eq (by rw [transfer])) hands,
    .inl ⟨?_, settled.of_none (by rw [transfer]) (by rw [transfer]) (by rw [transfer]) hands⟩⟩
  exact h.of_eq transfer opened fun _ => hands.mem

/-- A sender that is cancelled hands over an error at most. -/
theorem Sends.of_cancel (s : Session η (Recorded σ) φ)
    (running : s.transfer.phase ≠ .done) : Sends src s (s.cancel up.recording) := by
  have same := cancel_transfer up.recording s
  have failed : Sends src s (s.fail up.recording .cancelled Tftp.errorNotDefined).2 :=
    .of_fail up s running _ _
  refine .of_none ?_ ?_ (hands_cancel up s)
  · rw [same]
    exact failed.terms
  · rw [same]
    exact failed.acked

/-- The input is the acknowledgement of the last block, and that block has been taken by the
interface. -/
def FinalAck (src : BlockSource η φ) (s : Session η (Recorded σ) φ)
    (input : Input (Recorded σ) φ) : Prop :=
  ∃ port payload, input = .datagram port payload ∧ s.transfer.serverPort = some port ∧
    TftpPacket.parse payload =
      .ok (.ack (wireBlock s.transfer.finalBlock s.transfer.rollover)) ∧
    ∃ d ∈ s.link.handed, d.answer = .ok () ∧ Carries src s.transfer s.transfer.finalBlock d

/-- **A step of a sender** hands over only blocks of the window. The sender goes on, has failed or
is complete, the last only by the acknowledgement of the last block. -/
theorem Sending.step (h : Sending src s) (settled : Settled src s) {input : Input (Recorded σ) φ}
    (own : s.KeepsRecord input) (spares : s.Spares src.Open input) :
    Sends src s (s.step up.recording input) ∧
      (Sending src (s.step up.recording input) ∧ Settled src (s.step up.recording input) ∨
        Failed (s.step up.recording input).transfer ∨
        Completed (s.step up.recording input).transfer ∧ FinalAck src s input) := by
  have reaction := reaction up.recording h.running h.outcome input
  generalize s.step up.recording input = s' at reaction ⊢
  cases reaction with
  | elapsed link volume =>
    obtain ⟨file, opened, isOpen⟩ := h.opened
    refine h.undisturbed settled ?_ ?_ ?_
    · rfl
    · exact ⟨file, opened, spares file isOpen⟩
    · exact .of_eq own
  | @foreign port payload other =>
    refine h.undisturbed settled ?_ ?_ ?_
    · rfl
    · exact h.opened
    · exact hands_sendTo up (s.tell up.recording (.foreign port)) port
        (TftpPacket.blockOf?_octets _)
  | malformed hears =>
    rw [heard_of_locked (hears.locked h.locked)]
    refine h.undisturbed settled ?_ ?_ ?_
    · rfl
    · exact h.opened
    · exact .of_eq rfl
  | refused hears =>
    rw [heard_of_locked (hears.locked h.locked)]
    exact ⟨(Sends.of_finish up _ (by exact h.running) _).of_tell,
      .inr (.inl (failed_of_finish _ (by exact h.running) _))⟩
  | options _ _ negotiating => cases h.on.symm.trans negotiating
  | optionsAgain _ _ _ get => cases h.direction.symm.trans get
  | block _ _ _ get => cases h.direction.symm.trans get
  | @ack port payload number hears read =>
    have locked := hears.locked h.locked
    rw [heard_of_locked locked]
    cases found : s.transfer.acknowledged? number with
    | none =>
      obtain ⟨sends, done, outcome⟩ := h.receiveAck_none up found
      exact ⟨sends, .inr (.inl ⟨done, .protocol, outcome⟩)⟩
    | some block =>
      obtain ⟨sends, sending | spoiled | ⟨completed, last, sent⟩⟩ := h.receiveAck up found
      · exact ⟨sends, .inl sending⟩
      · exact ⟨sends, .inr (.inl spoiled.failed)⟩
      · exact ⟨sends, .inr (.inr ⟨completed, port, payload, rfl, locked, last ▸ read, sent⟩)⟩
  | misplaced hears =>
    rw [heard_of_locked (hears.locked h.locked)]
    exact ⟨(Sends.of_fail up _ (by exact h.running) _ _).of_tell,
      .inr (.inl (failed_of_fail _ (by exact h.running) _ _))⟩
  | gaveUp =>
    have sends : Sends src _ _ := .of_fail up
      (({ s with timer := Timer.idle }.counted).tell up.recording
        (.givingUp s.transfer.requested.maxRetries)) h.running .timeout Tftp.errorNotDefined
    exact ⟨⟨sends.terms, sends.acked, sends.hands⟩,
      .inr (.inl (failed_of_fail _ (by exact h.running) _ _))⟩
  | requestedAgain _ negotiating => cases h.on.symm.trans negotiating
  | acknowledgedAgain _ _ get => cases h.direction.symm.trans get
  | resent =>
    have retrying : Sending src ({ s with timer := Timer.idle }.retrying up.recording) :=
      h.of_eq rfl h.opened fun _ mem => mem
    obtain ⟨sends, state⟩ := retrying.resendWindow up
    exact ⟨⟨sends.terms, sends.acked, sends.hands⟩, state.imp_right fun spoiled =>
      .inl spoiled.failed⟩
  | cancelled =>
    refine ⟨.of_cancel up s h.running, .inr (.inl ?_)⟩
    rw [cancel_transfer]
    exact failed_of_fail _ h.running _ _

/-! ## Steps before there is a sender -/

/-- A transfer that offers its file is not done. -/
theorem Offering.running (h : Offering src s) : s.transfer.phase ≠ .done := by
  rw [h.negotiating]
  nofun

/-- An offer whose transfer is left alone still stands. -/
theorem Offering.undisturbed (h : Offering src s)
    (transfer : ∃ serverPort timeouts retries,
      s'.transfer = { s.transfer with serverPort, timeouts, retries })
    (opened : ∃ file, s.transfer.file = some file ∧ src.Open file s'.volume)
    (hands : Hands (fun d => d.block? = none) s s') {other : Prop} :
    Hands (InWindow src s'.transfer) s s' ∧ s'.transfer.size = s.transfer.size ∧
      (Offering src s' ∨ other) := by
  obtain ⟨t, timer, link, volume⟩ := s'
  obtain ⟨serverPort, timeouts, retries, eq⟩ := transfer
  dsimp only at eq
  subst eq
  exact ⟨hands.mono fun _ => inWindow_of_none, rfl, .inl ⟨h.direction, h.negotiating, h.outcome,
    opened, h.acked, h.next, h.final⟩⟩

/-- Once options are agreed on, the first window is sent. -/
theorem Offering.receiveOptions (h : Offering src s) (locked : s.transfer.serverPort ≠ none)
    {o : TftpOptions} (range : o.InRange) :
    Hands (InWindow src (s.receiveOptions up.recording o).2.transfer) s
        (s.receiveOptions up.recording o).2 ∧
      (s.receiveOptions up.recording o).2.transfer.size = s.transfer.size ∧
      (Sending src (s.receiveOptions up.recording o).2 ∧
          Settled src (s.receiveOptions up.recording o).2 ∨
        Failed (s.receiveOptions up.recording o).2.transfer) := by
  cases agreed : s.transfer.acceptOptions o with
  | error e =>
    have sends : Sends src s (s.fail up.recording e Tftp.errorOptionRefused).2 :=
      .of_fail up s h.running _ _
    unfold Session.receiveOptions
    rw [agreed]
    exact ⟨sends.hands, congrArg Terms.size sends.terms,
      .inr (failed_of_fail _ h.running _ _)⟩
  | ok t =>
    have adopted := acceptOptions_put h.direction agreed
    have put : t.direction = .put := by rw [adopted]; exact h.direction
    have positive : 0 < (o.blockSize.getD Tftp.defaultBlockSize).toNat := by
      cases chosen : o.blockSize with
      | none => decide
      | some size => exact Nat.lt_of_lt_of_le (by decide) (range.blockSize size chosen).1
    have begins : Sending src { s with transfer := { t with phase := .transferring } } := by
      rw [adopted]
      refine ⟨h.direction, rfl, h.outcome, locked, h.opened, positive, rfl, ?_, ?_, ?_⟩
      · dsimp only
        rw [h.acked, h.next]
        exact Nat.one_pos
      · dsimp only
        rw [h.next]
        exact Nat.le_add_left 1 _
      · intro n after before
        dsimp only at after before
        rw [h.acked] at after
        rw [h.next] at before
        omega
    have sending : Sending src (s.begun up.recording t) := (begins.tell up _).progress up
    obtain ⟨sends, -, state⟩ := sending.sendWindow up
    have handed : (s.begun up.recording t).link.handed = s.link.handed := progress_handed up _
    have size : (s.begun up.recording t).transfer.size = s.transfer.size := by
      rw [begun, progress_transfer, adopted]
      rfl
    rw [receiveOptions_of_ok up.recording s agreed, put]
    refine ⟨(Hands.of_eq handed).trans sends.hands, ?_, state.imp_right Spoiled.failed⟩
    exact (congrArg Terms.size sends.terms).trans size

/-- **A step of an offer** hands over no block unless the server agrees to it. -/
theorem Offering.step (h : Offering src s) {input : Input (Recorded σ) φ}
    (own : s.KeepsRecord input) (spares : s.Spares src.Open input) :
    Hands (InWindow src (s.step up.recording input).transfer) s (s.step up.recording input) ∧
      (s.step up.recording input).transfer.size = s.transfer.size ∧
      (Offering src (s.step up.recording input) ∨
        Sending src (s.step up.recording input) ∧ Settled src (s.step up.recording input) ∨
        Failed (s.step up.recording input).transfer) := by
  have reaction := reaction up.recording h.running h.outcome input
  generalize s.step up.recording input = s' at reaction ⊢
  cases reaction with
  | elapsed link volume =>
    obtain ⟨file, opened, isOpen⟩ := h.opened
    refine h.undisturbed ?_ ?_ ?_
    · exact ⟨_, _, _, rfl⟩
    · exact ⟨file, opened, spares file isOpen⟩
    · exact .of_eq own
  | @foreign port payload other =>
    refine h.undisturbed ?_ ?_ ?_
    · exact ⟨_, _, _, rfl⟩
    · exact h.opened
    · exact hands_sendTo up (s.tell up.recording (.foreign port)) port
        (TftpPacket.blockOf?_octets _)
  | malformed hears =>
    refine h.undisturbed ?_ ?_ ?_
    · exact ⟨_, _, _, rfl⟩
    · exact h.opened
    · exact .of_eq rfl
  | @refused port _ code text =>
    have sends : Sends src _ _ := .of_finish up
      ((s.heard port).tell up.recording (.serverError code text)) h.running
      (.error (.server code text))
    exact ⟨sends.hands, congrArg Terms.size sends.terms,
      .inr (.inr (failed_of_finish _ (by exact h.running) _))⟩
  | @options port _ _ hears read =>
    have heard : Offering src (s.heard port) :=
      ⟨h.direction, h.negotiating, h.outcome, h.opened, h.acked, h.next, h.final⟩
    obtain ⟨hands, size, state⟩ :=
      heard.receiveOptions up nofun (TftpPacket.inRange_of_parse read)
    exact ⟨hands, size, .inr state⟩
  | optionsAgain _ _ on => cases h.negotiating.symm.trans on
  | block _ _ on => cases h.negotiating.symm.trans on
  | ack _ _ on => cases h.negotiating.symm.trans on
  | @misplaced port _ _ _ _ event cause code =>
    have sends : Sends src _ _ := .of_fail up ((s.heard port).tell up.recording event)
      h.running cause code
    exact ⟨sends.hands, congrArg Terms.size sends.terms,
      .inr (.inr (failed_of_fail _ (by exact h.running) _ _))⟩
  | gaveUp =>
    have sends : Sends src _ _ := .of_fail up
      (({ s with timer := Timer.idle }.counted).tell up.recording
        (.givingUp s.transfer.requested.maxRetries)) h.running .timeout Tftp.errorNotDefined
    exact ⟨sends.hands, congrArg Terms.size sends.terms,
      .inr (.inr (failed_of_fail _ (by exact h.running) _ _))⟩
  | requestedAgain =>
    refine h.undisturbed ?_ ?_ ?_
    · exact ⟨_, _, _, rfl⟩
    · exact h.opened
    · exact hands_sendRequest up ({ s with timer := Timer.idle }.retrying up.recording)
  | acknowledgedAgain _ on => cases h.negotiating.symm.trans on
  | resent _ on => cases h.negotiating.symm.trans on
  | cancelled =>
    have sends : Sends src _ _ := .of_cancel up s h.running
    refine ⟨sends.hands, congrArg Terms.size sends.terms, .inr (.inr ?_)⟩
    rw [cancel_transfer]
    exact failed_of_fail _ h.running _ _

/-! ## Runs -/

/-- What is done hands over nothing. -/
theorem handed_of_done (done : s.transfer.phase = .done) (finished : s.transfer.outcome ≠ none)
    {input : Input (Recorded σ) φ} (own : s.KeepsRecord input) :
    (s.step up.recording input).link.handed = s.link.handed := by
  cases input with
  | elapse link volume => exact own
  | _ => exact congrArg Recorded.handed (step_of_done up.recording done finished (by simp)).1

/-- What every step of a transfer that sends a file comes to. -/
structure PutStep (src : BlockSource η φ) (s s' : Session η (Recorded σ) φ) : Prop where
  /-- No acknowledgement is taken back. -/
  acked : s.transfer.acked ≤ s'.transfer.acked
  /-- The file has the size it had. -/
  size : s'.transfer.size = s.transfer.size
  /-- Blocks are of the window. -/
  hands : Hands (InWindow src s'.transfer) s s'
  /-- The invariant holds again. -/
  state : PutState src s'

/-- **Every input keeps the invariant.** -/
theorem PutState.step (h : PutState src s) {input : Input (Recorded σ) φ}
    (own : s.KeepsRecord input) (spares : s.Spares src.Open input) :
    PutStep src s (s.step up.recording input) := by
  cases h with
  | offering h =>
    obtain ⟨hands, size, state⟩ := h.step up own spares
    refine ⟨h.acked ▸ Nat.zero_le _, size, hands, ?_⟩
    rcases state with offering | ⟨sending, settled⟩ | failed
    · exact .offering offering
    · exact .sending sending settled
    · exact .failed failed
  | sending h settled =>
    obtain ⟨sends, state⟩ := h.step up settled own spares
    refine ⟨sends.acked, congrArg Terms.size sends.terms, sends.hands, ?_⟩
    rcases state with ⟨sending, settled⟩ | failed | ⟨completed, -⟩
    · exact .sending sending settled
    · exact .failed failed
    · exact .completed completed
  | failed h =>
    obtain ⟨done, e, outcome⟩ := id h
    have same := step_transfer_of_done up.recording done input
    exact ⟨same ▸ Nat.le_refl _, by rw [same],
      .of_eq (handed_of_done up done (by rw [outcome]; nofun) own), .failed (same ▸ h)⟩
  | completed h =>
    obtain ⟨done, report, outcome, -⟩ := id h
    have same := step_transfer_of_done up.recording done input
    exact ⟨same ▸ Nat.le_refl _, by rw [same],
      .of_eq (handed_of_done up done (by rw [outcome]; nofun) own), .completed (same ▸ h)⟩

/-- The inputs of a transfer whose file and record are its own. -/
def Undisturbed (src : BlockSource η φ) (s : Session η (Recorded σ) φ)
    (input : Input (Recorded σ) φ) : Prop :=
  s.KeepsRecord input ∧ s.Spares src.Open input

/-- A file of which nothing is known has nothing to be spared. -/
theorem spares_any (s : Session η (Recorded σ) φ) (input : Input (Recorded σ) φ) :
    s.Spares (BlockSource.any : BlockSource η φ).Open input := by
  cases input with
  | elapse link volume => exact fun _ _ => trivial
  | _ => trivial

/-- The invariant of a sender, and the size it has announced, are kept by every run. -/
theorem PutState.run (h : PutState src s) {inputs : List (Input (Recorded σ) φ)}
    (admitted : s.Along up.recording (Undisturbed src) inputs) :
    PutState src (s.run up.recording inputs) ∧
      (s.run up.recording inputs).transfer.size = s.transfer.size := by
  refine run_induction up.recording
    (motive := fun s' => PutState src s' ∧ s'.transfer.size = s.transfer.size) ?_ ⟨h, rfl⟩ admitted
  rintro s' input ⟨state, size⟩ ⟨own, spares⟩
  have step := state.step up own spares
  exact ⟨step.state, step.size.trans size⟩

/-- **A transfer that ended well did so by the acknowledgement of its last block.** -/
theorem PutState.completes (h : PutState src s) (unfinished : s.transfer.outcome = none)
    {inputs : List (Input (Recorded σ) φ)}
    (admitted : s.Along up.recording (Undisturbed src) inputs) {report : TransferReport}
    (well : (s.run up.recording inputs).transfer.outcome = some (.ok report)) :
    ∃ before input after, inputs = before ++ input :: after ∧
      Sending src (s.run up.recording before) ∧ FinalAck src (s.run up.recording before) input ∧
      report.bytes = s.transfer.sizeOrZero := by
  -- on the inputs: the outcome is still open after the first one, or that was the one
  induction inputs generalizing s with
  | nil => cases unfinished.symm.trans well
  | cons input rest ih =>
    obtain ⟨⟨own, spares⟩, admitted⟩ := admitted
    have step := h.step up own spares
    have size : (s.step up.recording input).transfer.sizeOrZero = s.transfer.sizeOrZero := by
      rw [sizeOrZero, sizeOrZero, step.size]
    rw [run_cons] at well
    by_cases still : (s.step up.recording input).transfer.outcome = none
    · obtain ⟨before, input', after, rfl, sending, final, bytes⟩ :=
        ih step.state still admitted well
      exact ⟨input :: before, input', after, rfl, sending, final, bytes.trans size⟩
    · cases h with
      | offering h =>
        obtain ⟨-, -, offering | ⟨sending, -⟩ | failed⟩ := h.step up own spares
        · exact absurd offering.outcome still
        · exact absurd sending.outcome still
        · exact absurd well (run_of_failed _ failed rest report)
      | sending h settled =>
        obtain ⟨-, ⟨sending, -⟩ | failed | ⟨⟨done, report', outcome, bytes⟩, final⟩⟩ :=
          h.step up settled own spares
        · exact absurd sending.outcome still
        · exact absurd well (run_of_failed _ failed rest report)
        · rw [run_transfer_of_done _ done, outcome] at well
          cases well
          exact ⟨[], input, rest, rfl, h, final, bytes.trans size⟩
      | failed h => cases unfinished.symm.trans h.2.choose_spec
      | completed h => cases unfinished.symm.trans h.2.choose_spec.1

/-- A transfer that sends a file begins with an offer, which is no block. -/
theorem offering_opened {job : TransferJob} (put : job.direction = .put) (file : η) (volume : φ)
    (isOpen : src.Open file volume) (port : UInt16) (requested : TransferConfig) (link : σ) :
    let s := Session.opened up.recording job file port requested ⟨link, []⟩ volume
    Offering src s ∧ s.transfer.size = some (UInt64.ofNat (FileHandle.size file volume)) ∧
      ∀ d ∈ s.link.handed, d.block? = none := by
  intro s
  have transfer : s.transfer = job.transfer file volume port requested (up.now link) :=
    start_transfer up.recording _
  have still : s.volume = volume := start_volume up.recording _
  obtain ⟨more, handed, none⟩ := hands_sendRequest up
    (arm up.recording ⟨job.transfer file volume port requested (up.now link), Timer.idle,
      ⟨link, []⟩, volume⟩)
  refine ⟨⟨?_, ?_, ?_, ?_, ?_, ?_, ?_⟩, ?_, fun d mem => none d ?_⟩
  · rw [transfer]
    exact put
  · rw [transfer]
    rfl
  · rw [transfer]
    rfl
  · rw [transfer, still]
    exact ⟨file, rfl, isOpen⟩
  · rw [transfer]
    rfl
  · rw [transfer]
    rfl
  · rw [transfer]
    rfl
  · rw [transfer, TransferJob.transfer, put]
  · rw [← List.nil_append more]
    exact handed ▸ mem

/-- **A sent file is the file that was read.** Every block that is handed over is one of the window
past the last acknowledged block, under its own number and with its own octets; no acknowledgement
is taken back. The transfer ends well only by the acknowledgement of its last block, after the
interface had taken that block, and then it reports the length of the file. -/
theorem put_integrity (up : Uplink σ) (view : ReadView η φ) (job : TransferJob)
    (put : job.direction = .put) (file : η) (volume : φ) (position : Nat)
    (reads : view.ReadsAt file volume position) (port : UInt16) (requested : TransferConfig)
    (link : σ) (inputs : List (Input (Recorded σ) φ))
    (admitted : (Session.opened up.recording job file port requested ⟨link, []⟩ volume).Along
      up.recording (Undisturbed (.ofView view)) inputs) :
    let start := Session.opened up.recording job file port requested ⟨link, []⟩ volume
    (∀ d ∈ start.link.handed, d.block? = none) ∧
    (∀ before input after, inputs = before ++ input :: after →
      let s := start.run up.recording before
      let s' := s.step up.recording input
      let t := s'.transfer
      s.transfer.acked ≤ t.acked ∧
      ∀ d ∈ s.handedIn s', ∀ number octets, d.block? = some (number, octets) →
        ∃ n, t.acked < n ∧
          n ≤ min (t.acked + t.windowSize.toNat) (view.content.length / t.blockSize.toNat + 1) ∧
          number = wireBlock n t.rollover ∧
          octets = blockAt view.content t.blockSize.toNat n) ∧
    ∀ report, (start.run up.recording inputs).transfer.outcome = some (.ok report) →
      report.bytes = view.content.length ∧
      ∃ before server payload after, inputs = before ++ .datagram server payload :: after ∧
        let s := start.run up.recording before
        let last := view.content.length / s.transfer.blockSize.toNat + 1
        s.transfer.serverPort = some server ∧
        TftpPacket.parse payload = .ok (.ack (wireBlock last s.transfer.rollover)) ∧
        ∃ d ∈ s.link.handed, d.answer = .ok () ∧
          d.block? = some (wireBlock last s.transfer.rollover,
            blockAt view.content s.transfer.blockSize.toNat last) := by
  intro start
  have isOpen : (BlockSource.ofView view).Open file volume := ⟨position, reads⟩
  obtain ⟨offering, size, request⟩ := offering_opened up put file volume isOpen port requested link
  have length (s : Session η (Recorded σ) φ) (same : s.transfer.size = start.transfer.size) :
      s.transfer.sizeOrZero = view.content.length := by
    rw [sizeOrZero, same, size, view.size reads]
    exact Nat.mod_eq_of_lt view.length_lt
  refine ⟨request, ?_, ?_⟩
  · rintro before input after rfl s s' t
    obtain ⟨first, ⟨own, spares⟩, -⟩ := (along_append up.recording).mp admitted
    obtain ⟨state, size⟩ := (PutState.offering offering).run up first
    have step := state.step up own spares
    refine ⟨step.acked, ?_⟩
    intro d mem number octets block
    obtain ⟨n, after, before, octets', block', gives⟩ :=
      step.hands.handedIn mem (by rw [block]; exact Option.some_ne_none _)
    cases block.symm.trans block'
    rw [length _ (step.size.trans size)] at before
    exact ⟨n, after, before, rfl, gives⟩
  · intro report well
    obtain ⟨before, input, after, rfl, sending, final, bytes⟩ :=
      (PutState.offering offering).completes up offering.outcome admitted well
    obtain ⟨server, payload, rfl, locked, read, d, mem, taken, octets, block, gives⟩ := final
    obtain ⟨first, -⟩ := (along_append up.recording).mp admitted
    obtain ⟨-, size⟩ := (PutState.offering offering).run up first
    have last := sending.final
    rw [length _ size] at last
    rw [last] at read block gives
    refine ⟨bytes.trans (length start rfl), before, server, payload, after, rfl, locked, read, d,
      mem, taken, ?_⟩
    rw [block, gives]

/-- The content of a file of two full blocks. -/
def twoBlocks : Bytes := [1, 2, 3, 4, 5, 6, 7, 8, 9, 10, 11, 12, 13, 14, 15, 16]

/-- A transfer of it whose second block will be refused at first. -/
def blockRefused : Session RamFile (Recorded (List (Except NetError Unit))) RamVolume :=
  Session.opened Uplink.scripted.recording ⟨.put, ⟨10, 0, 0, 2⟩, "log", "log"⟩
    ⟨"log", .read, 0⟩ 50000 {} ⟨[.ok (), .ok (), .error (.transmit .hardwareError)], []⟩
    ⟨[⟨"log", twoBlocks.toArray⟩], none⟩

/-- The window is sent again, and the empty block after it. -/
def blockRefusedInputs : List (Input (Recorded (List (Except NetError Unit))) RamVolume) :=
  [.datagram 69 (TftpPacket.optionAck { blockSize := some 8, windowSize := some 2 }).octets,
    .datagram 70 (TftpPacket.ack 3).octets, .expiry, .datagram 69 (TftpPacket.ack 2).octets,
    .datagram 69 (TftpPacket.ack 3).octets]

/-- A sender whose block is refused still sends the whole file. -/
theorem put_integrity_blockRefused :
    (blockRefused.run Uplink.scripted.recording blockRefusedInputs).transfer.outcome =
        some (.ok ⟨16, 0, 1, 1600⟩) ∧
      ∃ before server payload after,
        blockRefusedInputs = before ++ .datagram server payload :: after ∧
          (blockRefused.run Uplink.scripted.recording before).transfer.serverPort =
            some server := by
  have well : (blockRefused.run Uplink.scripted.recording blockRefusedInputs).transfer.outcome =
      some (.ok ⟨16, 0, 1, 1600⟩) := by decide +kernel
  obtain ⟨-, -, ended⟩ := put_integrity Uplink.scripted
    (RamVolume.readView "log" twoBlocks (by decide))
    ⟨.put, ⟨10, 0, 0, 2⟩, "log", "log"⟩ rfl ⟨"log", .read, 0⟩
    ⟨[⟨"log", twoBlocks.toArray⟩], none⟩ 0 ⟨rfl, rfl, rfl, rfl⟩ 50000 {}
    [.ok (), .ok (), .error (.transmit .hardwareError)] blockRefusedInputs
    ⟨⟨trivial, trivial⟩, ⟨trivial, trivial⟩, ⟨trivial, trivial⟩, ⟨trivial, trivial⟩,
      ⟨trivial, trivial⟩, trivial⟩
  obtain ⟨-, before, server, payload, after, inputs, locked, -⟩ := ended _ well
  exact ⟨well, before, server, payload, after, inputs, locked⟩

/-! ## Acknowledgements of earlier blocks -/

/-- A sender that is not done after a run has been one throughout. Its terms stay and its window
only moves on. -/
theorem Sending.run (h : Sending src s) (settled : Settled src s)
    {inputs : List (Input (Recorded σ) φ)}
    (admitted : s.Along up.recording (Undisturbed src) inputs)
    (running : (s.run up.recording inputs).transfer.phase ≠ .done) :
    Sending src (s.run up.recording inputs) ∧ Settled src (s.run up.recording inputs) ∧
      (s.run up.recording inputs).transfer.terms = s.transfer.terms ∧
      s.transfer.acked ≤ (s.run up.recording inputs).transfer.acked := by
  refine run_induction up.recording (motive := fun s' => s'.transfer.phase ≠ .done →
    Sending src s' ∧ Settled src s' ∧ s'.transfer.terms = s.transfer.terms ∧
      s.transfer.acked ≤ s'.transfer.acked) ?_ (fun _ => ⟨h, settled, rfl, Nat.le_refl _⟩)
    admitted running
  rintro s' input kept ⟨own, spares⟩ running
  have before : s'.transfer.phase ≠ .done := by
    intro done
    rw [step_transfer_of_done up.recording done] at running
    exact running done
  obtain ⟨sending, settled, terms, acked⟩ := kept before
  obtain ⟨sends, ⟨sending', settled'⟩ | failed | ⟨completed, -⟩⟩ :=
    sending.step up settled own spares
  · exact ⟨sending', settled', sends.terms.trans terms, Nat.le_trans acked sends.acked⟩
  · exact absurd failed.1 running
  · exact absurd completed.1 running

/-- The interface takes a block of the window. -/
def Takes (s s' : Session η (Recorded σ) φ) (n : Nat) : Prop :=
  s'.transfer.acked < n ∧ n ≤ s'.transfer.windowEnd ∧
    ∃ d ∈ s.handedIn s', d.answer = .ok () ∧
      ∃ octets, d.block? = some (wireBlock n s'.transfer.rollover, octets)

/-- A sender does not know the block of an acknowledgement iff the next block comes no later, and
the last one has another number. -/
theorem Sending.acknowledged?_eq_none_iff (h : Sending src s) {n : Nat}
    (fresh : s.transfer.acked ≤ n) (within : n ≤ s.transfer.windowEnd) :
    s.transfer.acknowledged? (wireBlock n s.transfer.rollover) = none ↔
      s.transfer.nextBlock ≤ n ∧
        wireBlock s.transfer.acked s.transfer.rollover ≠ wireBlock n s.transfer.rollover := by
  rw [Transfer.acknowledged?_eq_none_iff]
  constructor
  · intro none
    refine ⟨?_, none _ (Nat.le_refl _) h.ahead⟩
    rcases Nat.lt_or_ge n s.transfer.nextBlock with before | past
    · exact absurd rfl (none n fresh before)
    · exact past
  · rintro ⟨past, other⟩ block from_acked before same
    have small := s.transfer.windowSize.toNat_lt
    have near : n ≤ s.transfer.acked + s.transfer.windowSize.toNat :=
      Nat.le_trans within (Nat.min_le_left _ _)
    have later : block ≠ s.transfer.acked := fun eq => other (eq ▸ same)
    have eq : block = n := eq_of_wireBlock_eq (by omega) (by omega) same
    omega

/-- **When the acknowledgement of an earlier block is taken amiss.** It names a block that the
interface has taken in some earlier step and that is not behind the last acknowledged one. The
transfer takes it for a mistake exactly if that block is not before the next block any more, which
takes a window that was cut short by the interface. -/
theorem put_ack_protocol_iff (up : Uplink σ) (job : TransferJob) (put : job.direction = .put)
    (file : η) (volume : φ) (port : UInt16) (requested : TransferConfig) (link : σ)
    (before : List (Input (Recorded σ) φ)) (input : Input (Recorded σ) φ)
    (after : List (Input (Recorded σ) φ))
    (own : (Session.opened up.recording job file port requested ⟨link, []⟩ volume).Along
      up.recording KeepsRecord (before ++ input :: after)) (n : Nat) (server : UInt16)
    (payload : Bytes) :
    let s₀ := (Session.opened up.recording job file port requested ⟨link, []⟩ volume).run
      up.recording before
    let s₁ := s₀.step up.recording input
    let s := s₁.run up.recording after
    let t := s.transfer
    Takes s₀ s₁ n → t.phase = .transferring → t.serverPort = some server → t.acked ≤ n →
    TftpPacket.parse payload = .ok (.ack (wireBlock n t.rollover)) →
    ((s.step up.recording (.datagram server payload)).transfer.outcome = some (.error .protocol) ↔
      t.nextBlock ≤ n ∧ wireBlock t.acked t.rollover ≠ wireBlock n t.rollover) ∧
    (t.nextBlock ≤ n → ∃ d, lastBlock? s.link.handed = some d ∧ d.answer ≠ .ok () ∧
      ∃ octets, d.block? = some (wireBlock t.nextBlock t.rollover, octets)) := by
  rintro s₀ s₁ s t ⟨after_acked, inside, -⟩ on locked fresh read
  have all := own.mono up.recording fun s input keeps =>
    (⟨keeps, spares_any s input⟩ : Undisturbed .any s input)
  obtain ⟨first, ⟨keeps, spares⟩, rest⟩ := (along_append up.recording).mp all
  have running : t.phase ≠ .done := by
    rw [on]
    nofun
  have isOpen : (BlockSource.any : BlockSource η φ).Open file volume := trivial
  obtain ⟨offering, -⟩ := offering_opened up put file volume isOpen port requested link
  obtain ⟨state, -⟩ := (PutState.offering offering).run up first
  have on_going : s₁.transfer.phase ≠ .done := by
    intro done
    have same := run_transfer_of_done up.recording done after
    exact running ((congrArg Transfer.phase same).trans done)
  obtain ⟨sending, settled⟩ : Sending .any s₁ ∧ Settled .any s₁ := by
    cases (state.step up keeps spares).state with
    | offering h =>
      -- an offer has no window, but the block was in one
      have nothing : s₁.transfer.windowEnd = 0 := by rw [windowEnd, h.final, Nat.min_zero]
      omega
    | sending h settled => exact ⟨h, settled⟩
    | failed h => exact absurd h.1 on_going
    | completed h => exact absurd h.1 on_going
  obtain ⟨sending, settled, terms, acked⟩ := sending.run up settled rest running
  have within : n ≤ t.windowEnd := Nat.le_trans inside (windowEnd_mono terms acked)
  constructor
  · rw [step_ack up.recording on sending.direction locked read,
      ← sending.acknowledged?_eq_none_iff fresh within]
    cases found : t.acknowledged? (wireBlock n t.rollover) with
    | none =>
      obtain ⟨-, -, outcome⟩ := sending.receiveAck_none up found
      exact iff_of_true outcome rfl
    | some block =>
      apply iff_of_false _ (Option.some_ne_none block)
      intro outcome
      obtain ⟨-, ⟨on, -⟩ | ⟨-, e, spoiled⟩ | ⟨⟨-, report, completed, -⟩, -⟩⟩ :=
        sending.receiveAck up found
      · cases on.outcome.symm.trans outcome
      · cases spoiled.symm.trans outcome
      · cases completed.symm.trans outcome
  · intro past
    obtain ⟨d, last, refused, octets, block, -⟩ := settled (Nat.le_trans past within)
    exact ⟨d, last, refused, octets, block⟩

/-- A transfer of two octets whose only block will be taken twice and refused the third time. -/
def repeatRefused : Session RamFile (Recorded (List (Except NetError Unit))) RamVolume :=
  Session.opened Uplink.scripted.recording ⟨.put, ⟨10, 0, 0, 2⟩, "log", "log"⟩
    ⟨"log", .read, 0⟩ 50000 {} ⟨[.ok (), .ok (), .ok (), .error (.transmit .hardwareError)], []⟩
    ⟨[⟨"log", #[1, 2]⟩], none⟩

/-- The server agrees to the defaults. -/
def agreed : List (Input (Recorded (List (Except NetError Unit))) RamVolume) :=
  [.datagram 69 (TftpPacket.optionAck {}).octets]

/-- The interface takes block 1 once more when the timer expires. -/
theorem takes_repeatRefused :
    Takes (repeatRefused.run Uplink.scripted.recording agreed)
      ((repeatRefused.run Uplink.scripted.recording agreed).step Uplink.scripted.recording .expiry)
      1 := by
  refine ⟨by decide +kernel, by decide +kernel,
    ⟨50000, ⟨10, 0, 0, 2⟩, 69, (TftpPacket.data 1 [1, 2]).octets, .ok ()⟩, by decide +kernel, rfl,
    [1, 2], ?_⟩
  decide +kernel

/-- The acknowledgement of a block that was sent before ends a transfer with a protocol error. -/
theorem put_ack_protocol_repeatRefused :
    ((((repeatRefused.run Uplink.scripted.recording agreed).step Uplink.scripted.recording
        .expiry).run Uplink.scripted.recording [.expiry]).step Uplink.scripted.recording
          (.datagram 69 (TftpPacket.ack 1).octets)).transfer.outcome =
      some (.error .protocol) := by
  have known := put_ack_protocol_iff Uplink.scripted
    ⟨.put, ⟨10, 0, 0, 2⟩, "log", "log"⟩ rfl (⟨"log", .read, 0⟩ : RamFile)
    ⟨[⟨"log", #[1, 2]⟩], none⟩ 50000 {}
    [.ok (), .ok (), .ok (), .error (.transmit .hardwareError)] agreed .expiry [.expiry]
    ⟨trivial, trivial, trivial, trivial⟩ 1 69 (TftpPacket.ack 1).octets
  dsimp only at known
  obtain ⟨amiss, -⟩ := known takes_repeatRefused (by decide +kernel) (by decide +kernel)
    (by decide +kernel) (by decide +kernel)
  unfold repeatRefused
  exact amiss.mpr (by decide +kernel)

/-- **An acknowledgement of a block that was sent may end a transfer.** The block was taken by the
interface, only its repetition was refused, and then the server acknowledges it. -/
theorem not_put_ack_accepted :
    let s := (repeatRefused.run Uplink.scripted.recording agreed).step Uplink.scripted.recording
      .expiry
    let s' := s.run Uplink.scripted.recording [.expiry]
    Takes (repeatRefused.run Uplink.scripted.recording agreed) s 1 ∧
      s'.transfer.phase = .transferring ∧ s'.transfer.acked ≤ 1 ∧
      (s'.step Uplink.scripted.recording
          (.datagram 69 (TftpPacket.ack 1).octets)).transfer.outcome =
        some (.error .protocol) :=
  ⟨takes_repeatRefused, by decide +kernel, by decide +kernel, by decide +kernel⟩

end Transfer

end PolledNet
