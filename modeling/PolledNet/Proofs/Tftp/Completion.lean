import PolledNet.Proofs.File.Volume
import PolledNet.Proofs.Tftp.Reaction
import PolledNet.Proofs.Tftp.Recording

/-!
# When a received file completes a transfer

A receiver whose file takes everything still needs one thing to end well: the acknowledgement of the
last block has to be taken by the interface at the moment that block arrives (`get_completion`). If
it is refused, the transfer repeats it and writes the file, but only a block could end the transfer,
and none will come. It runs out of retries.

The receiver is `Willing` while its file takes everything. It is `Stranded` once it waits for a
block that the server does not have.
-/

namespace PolledNet

namespace Transfer

variable {η σ φ : Type}

/-! ## A willing receiver -/

/-- A running transfer that receives into a usable file. -/
structure Willing (Usable : η → φ → Prop) (t : Transfer η) (volume : φ) : Prop where
  /-- The file comes to us. -/
  direction : t.direction = .get
  /-- It is not done. -/
  running : t.phase ≠ .done
  /-- There is no outcome yet. -/
  outcome : t.outcome = none
  /-- The file is open and usable. -/
  opened : ∃ file, t.file = some file ∧ Usable file volume

open Session

variable (up : Uplink σ) {Usable : η → φ → Prop} {s : Session η σ φ}

/-- A willing receiver stays willing while it runs and keeps its file. -/
theorem Willing.of_eq {t t' : Transfer η} {volume : φ} (h : Willing Usable t volume)
    (direction : t'.direction = t.direction) (phase : t'.phase ≠ .done)
    (outcome : t'.outcome = t.outcome) (file : t'.file = t.file) : Willing Usable t' volume :=
  ⟨direction ▸ h.direction, phase, outcome ▸ h.outcome, file ▸ h.opened⟩

/-- A willing receiver stays willing when it sends an acknowledgement. -/
theorem Willing.sendAck (h : Willing Usable s.transfer s.volume) (block : Nat) :
    Willing Usable (s.sendAck up block).2.transfer (s.sendAck up block).2.volume :=
  h.of_eq rfl h.running rfl rfl

/-- A willing receiver stays willing when it takes a block. -/
theorem Willing.taking (h : Willing Usable s.transfer s.volume) (octets : Bytes) :
    Willing Usable ((s.withBlock octets).progress up).transfer
      ((s.withBlock octets).progress up).volume := by
  rw [progress_transfer, progress_volume]
  exact h.of_eq rfl h.running rfl rfl

/-- A willing receiver stays willing when it hears the server. -/
theorem Willing.heard (h : Willing Usable s.transfer s.volume) (port : UInt16) :
    Willing Usable (s.heard port).transfer (s.heard port).volume :=
  h.of_eq rfl h.running rfl rfl

/-- A willing receiver stays willing when it tries again. -/
theorem Willing.retrying (h : Willing Usable s.transfer s.volume) :
    Willing Usable ({ s with timer := Timer.idle }.retrying up).transfer
      ({ s with timer := Timer.idle }.retrying up).volume :=
  h.of_eq rfl h.running rfl rfl

variable [FileHandle η φ]

/-- A file that obliges takes any blocks, and can be used after that. -/
theorem writeBlocks_of_obliging (obliging : Obliging Usable) {file : η} {volume : φ}
    (blocks : List Bytes) (usable : Usable file volume) :
    ∃ file' volume', writeBlocks file volume blocks = (.ok (), file', volume') ∧
      Usable file' volume' := by
  induction blocks generalizing file volume with
  | nil => exact ⟨file, volume, rfl, usable⟩
  | cons block rest ih =>
    obtain ⟨file₁, volume₁, written, usable₁⟩ := obliging.writeAll block usable
    obtain ⟨file₂, volume₂, more, usable₂⟩ := ih usable₁
    exact ⟨file₂, volume₂, by rw [writeBlocks, written]; exact more, usable₂⟩

/-- What is pending can be written. -/
theorem Willing.flush (obliging : Obliging Usable)
    (h : Willing Usable s.transfer s.volume) :
    s.flush.1 = .ok () ∧ Willing Usable s.flush.2.transfer s.flush.2.volume := by
  obtain ⟨file, opened, usable⟩ := h.opened
  obtain ⟨transfer, timer, link, volume⟩ := s
  obtain ⟨file', volume', written, usable'⟩ :=
    writeBlocks_of_obliging obliging transfer.pending usable
  dsimp only at opened
  simp only [Session.flush, opened, written]
  exact ⟨rfl, h.direction, h.running, h.outcome, file', rfl, usable'⟩

/-- Once the interface has taken the acknowledgement, what is pending is written. -/
theorem Willing.acknowledgeAndFlush_of_taken (obliging : Obliging Usable)
    (h : Willing Usable s.transfer s.volume)
    (taken : (s.sendAck up (s.transfer.nextBlock - 1)).1 = .ok ()) :
    s.acknowledgeAndFlush up =
      (.ok (), (s.sendAck up (s.transfer.nextBlock - 1)).2.flush.2) := by
  obtain ⟨flushed, -⟩ := (h.sendAck up (s.transfer.nextBlock - 1)).flush obliging
  unfold Session.acknowledgeAndFlush
  generalize s.sendAck up (s.transfer.nextBlock - 1) = sent at taken flushed ⊢
  obtain ⟨answer, s'⟩ := sent
  dsimp only at taken flushed ⊢
  subst taken
  cases eq : s'.flush with
  | mk answer s'' =>
    rw [eq] at flushed
    cases flushed
    simp only [eq]

/-- If the interface refuses the acknowledgement, nothing more happens. -/
theorem acknowledgeAndFlush_of_refused {e : NetError}
    (refused : (s.sendAck up (s.transfer.nextBlock - 1)).1 = .error e) :
    s.acknowledgeAndFlush up = s.sendAck up (s.transfer.nextBlock - 1) := by
  unfold Session.acknowledgeAndFlush
  generalize s.sendAck up (s.transfer.nextBlock - 1) = sent at refused ⊢
  obtain ⟨answer, s'⟩ := sent
  dsimp only at refused
  subst refused
  rfl

/-- A willing receiver writes what is pending, and stays willing. -/
theorem Willing.acknowledgeAndFlush (obliging : Obliging Usable)
    (h : Willing Usable s.transfer s.volume) :
    Willing Usable (s.acknowledgeAndFlush up).2.transfer (s.acknowledgeAndFlush up).2.volume := by
  have acked := h.sendAck up (s.transfer.nextBlock - 1)
  cases answer : (s.sendAck up (s.transfer.nextBlock - 1)).1 with
  | error e =>
    rw [acknowledgeAndFlush_of_refused up answer]
    exact acked
  | ok =>
    rw [h.acknowledgeAndFlush_of_taken up obliging answer]
    exact (acked.flush obliging).2

/-- A block leaves a receiver willing that it does not end. -/
theorem Willing.receiveBlock (obliging : Obliging Usable)
    (h : Willing Usable s.transfer s.volume) (octets : Bytes)
    (running : (s.receiveBlock up octets).2.transfer.phase ≠ .done) :
    Willing Usable (s.receiveBlock up octets).2.transfer (s.receiveBlock up octets).2.volume := by
  have taking := h.taking up octets
  have written := taking.acknowledgeAndFlush up obliging
  rw [receiveBlock_eq] at running ⊢
  generalize ((s.withBlock octets).progress up).acknowledgeAndFlush up = result
    at written running ⊢
  obtain ⟨answer | ⟨⟩, s'⟩ := result
  · split
    · exact written
    · exact taking
  · split
    · rename_i full
      rw [if_pos full] at running
      dsimp only at running ⊢
      split
      · rename_i short
        rw [if_pos short] at running
        exact absurd (finish_phase up _ _) running
      · exact written
    · exact taking

/-- A willing receiver that data do not end stays willing. -/
theorem Willing.receiveData (obliging : Obliging Usable)
    (h : Willing Usable s.transfer s.volume) (number : UInt16) (octets : Bytes)
    (running : (s.receiveData up number octets).2.transfer.phase ≠ .done) :
    Willing Usable (s.receiveData up number octets).2.transfer
      (s.receiveData up number octets).2.volume := by
  unfold Session.receiveData at running ⊢
  split
  · rename_i long
    rw [if_pos long] at running
    exact absurd (fail_phase up _ _ _) running
  · rename_i fits
    rw [if_neg fits] at running
    split
    · exact h
    · rename_i next
      rw [if_neg next] at running
      exact h.receiveBlock up obliging octets running

/-- A willing receiver that options do not end stays willing. -/
theorem Willing.receiveOptions (h : Willing Usable s.transfer s.volume) (o : TftpOptions)
    (running : (s.receiveOptions up o).2.transfer.phase ≠ .done) :
    Willing Usable (s.receiveOptions up o).2.transfer (s.receiveOptions up o).2.volume := by
  cases agreed : s.transfer.acceptOptions o with
  | error e =>
    unfold Session.receiveOptions at running
    rw [agreed] at running
    exact absurd (fail_phase up _ _ _) running
  | ok t =>
    have adopted := acceptOptions_get h.direction agreed
    have get : t.direction = .get := by rw [adopted]; exact h.direction
    rw [receiveOptions_of_ok up s agreed, get]
    refine Willing.sendAck up ?_ 0
    rw [begun, progress_transfer, progress_volume, adopted]
    exact h.of_eq rfl (by intro done; cases done) rfl rfl

/-- **A receiver stays willing until it is done**, if nobody takes its file away. -/
theorem Willing.step (obliging : Obliging Usable) (h : Willing Usable s.transfer s.volume)
    {input : Input σ φ} (spares : s.Spares Usable input)
    (running : (s.step up input).transfer.phase ≠ .done) :
    Willing Usable (s.step up input).transfer (s.step up input).volume := by
  have reaction := reaction up h.running h.outcome input
  generalize s.step up input = s' at reaction running ⊢
  cases reaction with
  | elapsed link volume =>
    obtain ⟨file, opened, usable⟩ := h.opened
    exact ⟨h.direction, h.running, h.outcome, file, opened, spares file usable⟩
  | foreign => exact h
  | malformed => exact h.of_eq rfl h.running rfl rfl
  | refused => exact absurd (finish_phase up _ _) running
  | options => exact (h.heard _).receiveOptions up _ running
  | optionsAgain => exact h.of_eq rfl h.running rfl rfl
  | block => exact (h.heard _).receiveData up obliging _ _ running
  | ack _ _ _ put => cases h.direction.symm.trans put
  | misplaced => exact absurd (fail_phase up _ _ _) running
  | gaveUp => exact absurd (fail_phase up _ _ _) running
  | requestedAgain => exact h.of_eq rfl h.running rfl rfl
  | acknowledgedAgain => exact (h.retrying up).acknowledgeAndFlush up obliging
  | resent _ _ put => cases h.direction.symm.trans put
  | cancelled =>
    rw [cancel_transfer] at running
    exact absurd (fail_phase up _ _ _) running

/-- A transfer that is not done after a run has been willing throughout. -/
theorem Willing.run (obliging : Obliging Usable) (h : Willing Usable s.transfer s.volume)
    {inputs : List (Input σ φ)} (spares : s.Along up (Spares Usable) inputs)
    (running : (s.run up inputs).transfer.phase ≠ .done) :
    Willing Usable (s.run up inputs).transfer (s.run up inputs).volume := by
  refine run_induction up (motive := fun s => s.transfer.phase ≠ .done →
    Willing Usable s.transfer s.volume) ?_ (fun _ => h) spares running
  intro s input willing spares running
  by_cases done : s.transfer.phase = .done
  · rw [step_transfer_of_done up done] at running
    exact absurd done running
  · exact (willing done).step up obliging spares running

/-- A transfer that receives into a usable file starts as a willing receiver. -/
theorem willing_opened {job : TransferJob} (get : job.direction = .get) {file : η} {volume : φ}
    (usable : Usable file volume) (port : UInt16) (requested : TransferConfig) (link : σ) :
    Willing Usable (Session.opened up job file port requested link volume).transfer
      (Session.opened up job file port requested link volume).volume := by
  unfold Session.opened
  rw [start_transfer, start_volume]
  exact ⟨get, nofun, rfl, file, rfl, usable⟩

/-! ## The last block -/

/-- **The last block ends the transfer well if its acknowledgement is taken**, and otherwise does
nothing more than to have been counted. -/
theorem Willing.receiveBlock_last (obliging : Obliging Usable)
    (h : Willing Usable s.transfer s.volume) {octets : Bytes}
    (short : octets.length < s.transfer.blockSize.toNat) :
    (((((s.withBlock octets).progress up).sendAck up s.transfer.nextBlock).1 = .ok ()) →
      (s.receiveBlock up octets).2 =
          (((s.withBlock octets).progress up).sendAck up s.transfer.nextBlock).2.flush.2.finish up
            (.ok ()) ∧
        ∃ report, (s.receiveBlock up octets).2.transfer.outcome = some (.ok report)) ∧
    ∀ e, (((s.withBlock octets).progress up).sendAck up s.transfer.nextBlock).1 = .error e →
      (s.receiveBlock up octets).2 =
        (((s.withBlock octets).progress up).sendAck up s.transfer.nextBlock).2 := by
  have taking := h.taking up octets
  have count :
      ((s.withBlock octets).progress up).transfer.nextBlock - 1 = s.transfer.nextBlock := by
    rw [progress_transfer]
    exact Nat.add_sub_cancel _ 1
  rw [← count, receiveBlock_eq, if_pos (.inl short)]
  constructor
  · intro taken
    obtain ⟨-, written⟩ := (taking.sendAck up _).flush obliging
    rw [taking.acknowledgeAndFlush_of_taken up obliging taken]
    dsimp only
    rw [if_pos short]
    refine ⟨rfl, ?_⟩
    obtain ⟨file, opened, usable⟩ := written.opened
    rw [finish_transfer up _ written.running, ending_ok_of_closed]
    · exact ⟨_, rfl⟩
    · rw [closeFile_answer_of_open _ opened, obliging.close usable]
  · intro e refused
    rw [acknowledgeAndFlush_of_refused up refused]
    generalize ((s.withBlock octets).progress up).sendAck up _ = sent at refused ⊢
    obtain ⟨answer, s'⟩ := sent
    dsimp only at refused
    subst refused
    rfl

/-! ## A stranded receiver -/

/-- A running receiver that waits for a block of one number. -/
structure Stranded (server number : UInt16) (t : Transfer η) : Prop where
  /-- The file comes to us. -/
  direction : t.direction = .get
  /-- The options are agreed on. -/
  on : t.phase = .transferring
  /-- There is no outcome yet. -/
  outcome : t.outcome = none
  /-- The server's port is known. -/
  locked : t.serverPort = some server
  /-- The number that it waits for. -/
  next : wireBlock t.nextBlock t.rollover = number

section Stranded

variable {server number : UInt16}

/-- A stranded receiver is not done. -/
theorem Stranded.running {t : Transfer η} (h : Stranded server number t) : t.phase ≠ .done := by
  rw [h.on]
  nofun

omit [FileHandle η φ] in
/-- A stranded receiver hears its server only, and learns nothing from that. -/
theorem Stranded.heard (h : Stranded server number s.transfer) {port : UInt16}
    (hears : s.Hears port) : port = server ∧ s.heard port = s := by
  have same := hears server h.locked
  exact ⟨same.symm, heard_of_locked (same ▸ h.locked)⟩

/-- A stranded receiver that acknowledges once more stays stranded, or fails. -/
theorem Stranded.acknowledgeAndFlush (h : Stranded server number s.transfer) :
    Stranded server number (s.acknowledgeAndFlush up).2.transfer ∨
      Failed (s.acknowledgeAndFlush up).2.transfer := by
  rcases acknowledgeAndFlush_transfer up s h.running with ⟨block, file, pending, eq⟩ | failed
  · rw [eq]
    exact .inl ⟨h.direction, h.on, h.outcome, h.locked, h.next⟩
  · exact .inr failed

/-- **Only the block it waits for helps a stranded receiver.** -/
theorem Stranded.step (h : Stranded server number s.transfer) {input : Input σ φ}
    (silent : input.Silent server number) :
    Stranded server number (s.step up input).transfer ∨ Failed (s.step up input).transfer := by
  have reaction := reaction up h.running h.outcome input
  generalize s.step up input = s' at reaction ⊢
  cases reaction with
  | elapsed => exact .inl h
  | foreign => exact .inl h
  | malformed hears => rw [(h.heard hears).2]; exact .inl h
  | refused hears => exact .inr (failed_of_finish up (by exact h.running) _)
  | options _ _ negotiating => cases h.on.symm.trans negotiating
  | optionsAgain hears =>
    rw [(h.heard hears).2]
    exact .inl ⟨h.direction, h.on, h.outcome, h.locked, h.next⟩
  | block hears read =>
    obtain ⟨here, same⟩ := h.heard hears
    rw [same]
    unfold Session.receiveData
    split
    · exact .inr (failed_of_fail up h.running _ _)
    · rw [if_pos]
      · exact .inl h
      · rintro rfl
        rw [h.next] at read
        exact silent here _ read
  | ack _ _ _ put => cases h.direction.symm.trans put
  | misplaced => exact .inr (failed_of_fail up (by exact h.running) _ _)
  | gaveUp => exact .inr (failed_of_fail up (by exact h.running) _ _)
  | requestedAgain _ negotiating => cases h.on.symm.trans negotiating
  | acknowledgedAgain =>
    refine Stranded.acknowledgeAndFlush up ?_
    exact ⟨h.direction, h.on, h.outcome, h.locked, h.next⟩
  | resent _ _ put => cases h.direction.symm.trans put
  | cancelled =>
    rw [cancel_transfer]
    exact .inr (failed_of_fail up h.running _ _)

/-- A stranded receiver does not end well. -/
theorem Stranded.run (h : Stranded server number s.transfer) {inputs : List (Input σ φ)}
    (silent : ∀ input ∈ inputs, input.Silent server number) (report : TransferReport) :
    (s.run up inputs).transfer.outcome ≠ some (.ok report) := by
  induction inputs generalizing s with
  | nil =>
    rw [run_nil, h.outcome]
    nofun
  | cons input rest ih =>
    rw [run_cons]
    rcases h.step up (silent input List.mem_cons_self) with stranded | failed
    · exact ih stranded fun input mem => silent input (List.mem_cons_of_mem _ mem)
    · exact run_of_failed up failed rest report

/-- A receiver that has been waiting for so many expiries. -/
structure Waiting (Usable : η → φ → Prop) (server number : UInt16) (count : Nat)
    (s : Session η σ φ) : Prop where
  /-- It is stranded. -/
  stranded : Stranded server number s.transfer
  /-- Its file takes everything. -/
  willing : Willing Usable s.transfer s.volume
  /-- The expiries are counted. -/
  retries : s.transfer.retries.toNat = count

omit [FileHandle η φ] in
/-- A receiver that has counted a block and acknowledged it, whatever became of that, waits for the
one after it. -/
theorem Willing.waiting (h : Willing Usable s.transfer s.volume)
    (on : s.transfer.phase = .transferring) (locked : s.transfer.serverPort = some server)
    (octets : Bytes) :
    Waiting Usable server (wireBlock (s.transfer.nextBlock + 1) s.transfer.rollover) 0
      (((s.withBlock octets).progress up).sendAck up s.transfer.nextBlock).2 := by
  have acked := sendAck_transfer up ((s.withBlock octets).progress up) s.transfer.nextBlock
  rw [progress_transfer] at acked
  refine ⟨?_, (h.taking up octets).sendAck up s.transfer.nextBlock, ?_⟩
  · rw [acked]
    exact ⟨h.direction, on, h.outcome, locked, rfl⟩
  · rw [acked]
    rfl

/-- As long as retries are left, an expiry is only counted. -/
theorem Waiting.expiry (obliging : Obliging Usable) {count : Nat}
    (h : Waiting Usable server number count s)
    (within : count < s.transfer.requested.maxRetries.toNat) :
    Waiting Usable server number (count + 1) (s.step up .expiry) ∧
      (s.step up .expiry).transfer.requested = s.transfer.requested := by
  have small := s.transfer.requested.maxRetries.toNat_lt
  have more : (s.transfer.retries + 1).toNat = count + 1 := by
    rw [UInt32.toNat_add, h.retries]
    exact Nat.mod_eq_of_lt (show count + 1 < 2 ^ 32 by omega)
  have reaction := reaction up h.willing.running h.willing.outcome .expiry
  generalize s.step up .expiry = s' at reaction ⊢
  cases reaction with
  | gaveUp exhausted =>
    rw [gt_iff_lt, UInt32.lt_iff_toNat_lt, more] at exhausted
    omega
  | requestedAgain _ negotiating => cases h.stranded.on.symm.trans negotiating
  | acknowledgedAgain =>
    have willing := (h.willing.retrying up).acknowledgeAndFlush up obliging
    rcases acknowledgeAndFlush_transfer up _ (h.willing.retrying up).running with
      ⟨block, file, pending, eq⟩ | ⟨done, -⟩
    · refine ⟨⟨?_, willing, ?_⟩, ?_⟩
      · rw [eq]
        exact ⟨h.stranded.direction, h.stranded.on, h.stranded.outcome, h.stranded.locked,
          h.stranded.next⟩
      · rw [eq]
        exact more
      · rw [eq]
        rfl
    · exact absurd done willing.running
  | resent _ _ put => cases h.stranded.direction.symm.trans put

/-- When none are left, it is over. -/
theorem Waiting.expiry_last {count : Nat} (h : Waiting Usable server number count s)
    (last : count = s.transfer.requested.maxRetries.toNat)
    (bounded : s.transfer.requested.maxRetries.toNat < UInt32.size - 1) :
    (s.step up .expiry).transfer.outcome = some (.error .timeout) := by
  have exhausted : s.transfer.retries + 1 > s.transfer.requested.maxRetries := by
    have one : (1 : UInt32).toNat = 1 := rfl
    have fits : s.transfer.requested.maxRetries.toNat + 1 < 2 ^ 32 := Nat.add_lt_of_lt_sub bounded
    rw [gt_iff_lt, UInt32.lt_iff_toNat_lt, UInt32.toNat_add, h.retries, last,
      Nat.mod_eq_of_lt (by omega)]
    omega
  have reaction := reaction up h.willing.running h.willing.outcome .expiry
  generalize s.step up .expiry = s' at reaction ⊢
  cases reaction with
  | gaveUp => rw [fail_transfer up _ (by exact h.willing.running)]
  | requestedAgain within => exact absurd exhausted within
  | acknowledgedAgain within => exact absurd exhausted within
  | resent within => exact absurd exhausted within

/-- **Without an answer it runs out of retries.** -/
theorem Waiting.run (obliging : Obliging Usable) {count more : Nat}
    (h : Waiting Usable server number count s)
    (all : count + more = s.transfer.requested.maxRetries.toNat)
    (bounded : s.transfer.requested.maxRetries.toNat < UInt32.size - 1) :
    (s.run up (List.replicate (more + 1) .expiry)).transfer.outcome =
      some (.error .timeout) := by
  -- on the expiries that are still allowed
  induction more generalizing s count with
  | zero => exact h.expiry_last up all bounded
  | succ more ih =>
    obtain ⟨waiting, same⟩ := h.expiry up obliging (by omega)
    rw [List.replicate_succ, run_cons]
    exact ih waiting (by rw [same]; omega) (same ▸ bounded)

end Stranded

/-! ## Completion -/

/-- **A received file completes the transfer exactly if its last acknowledgement is taken.** The
last block of a file that takes everything is acknowledged once, when it arrives. If the interface
takes the acknowledgement, the transfer has ended well. If not, it never will unless the server
sends a block past the last, and left alone it ends for want of an answer. -/
theorem get_completion (up : Uplink σ) {Usable : η → φ → Prop} (obliging : Obliging Usable)
    (job : TransferJob) (get : job.direction = .get) (file : η) (volume : φ)
    (usable : Usable file volume) (port : UInt16) (requested : TransferConfig)
    (link : Recorded σ) (before : List (Input (Recorded σ) φ)) (server : UInt16)
    (payload octets : Bytes)
    (spares : (Session.opened up.recording job file port requested link volume).Along up.recording
      (Spares Usable) before) :
    let s := (Session.opened up.recording job file port requested link volume).run up.recording
      before
    let s' := s.step up.recording (.datagram server payload)
    s.transfer.phase = .transferring → s.transfer.serverPort = some server →
    TftpPacket.parse payload =
      .ok (.data (wireBlock s.transfer.nextBlock s.transfer.rollover) octets) →
    octets.length < s.transfer.blockSize.toNat →
    ∃ answer,
      s.handedIn s' =
        [⟨s.transfer.localPort, s.transfer.server, server,
          (TftpPacket.ack (wireBlock s.transfer.nextBlock s.transfer.rollover)).octets, answer⟩] ∧
      (answer = .ok () → ∃ report, s'.transfer.outcome = some (.ok report)) ∧
      ∀ e, answer = .error e →
        (∀ later : List (Input (Recorded σ) φ),
          (∀ input ∈ later,
            input.Silent server (wireBlock (s.transfer.nextBlock + 1) s.transfer.rollover)) →
          ∀ report, (s'.run up.recording later).transfer.outcome ≠ some (.ok report)) ∧
        (s.transfer.requested.maxRetries.toNat < UInt32.size - 1 →
          (s'.run up.recording
              (List.replicate (s.transfer.requested.maxRetries.toNat + 1)
                .expiry)).transfer.outcome =
            some (.error .timeout)) := by
  intro s s' on locked read short
  have willing : Willing Usable s.transfer s.volume :=
    (willing_opened up.recording get usable port requested link).run up.recording obliging spares
      (by rw [on]; nofun)
  have taken : s' = (s.receiveBlock up.recording octets).2 :=
    step_next_block up.recording on willing.direction locked read (Nat.le_of_lt short)
  obtain ⟨accepted, refused⟩ := willing.receiveBlock_last up.recording obliging short
  have waiting := willing.waiting up.recording on locked octets
  have here : ((s.withBlock octets).progress up.recording).transfer.serverPort = some server := by
    rw [progress_transfer]
    exact locked
  have handed := sendAck_handed up ((s.withBlock octets).progress up.recording) here
    s.transfer.nextBlock
  have requested : (((s.withBlock octets).progress up.recording).sendAck up.recording
      s.transfer.nextBlock).2.transfer.requested = s.transfer.requested := by
    rw [sendAck_transfer, progress_transfer]
    rfl
  rw [progress_transfer, progress_handed] at handed
  rw [← taken] at accepted refused
  generalize
    ((s.withBlock octets).progress up.recording).sendAck up.recording s.transfer.nextBlock = ack
    at accepted refused waiting handed requested
  obtain ⟨answer, s₁⟩ := ack
  dsimp only at accepted refused waiting handed requested
  have recorded : s'.link.handed = s₁.link.handed := by
    cases answer with
    | ok => rw [(accepted rfl).1, finish_handed, flush_link]
    | error e => rw [refused e rfl]
  refine ⟨answer, ?_, fun ok => (accepted ok).2, ?_⟩
  · rw [handedIn, recorded, handed]
    exact List.drop_left
  · intro e error
    rw [refused e error, ← requested]
    refine ⟨fun later silent => waiting.stranded.run up.recording silent, ?_⟩
    intro bounded
    exact waiting.run up.recording obliging (Nat.zero_add _) bounded

/-- A transfer of two octets whose last acknowledgement will be refused. It retries twice. -/
def lastAckRefused : Session RamFile (Recorded (List (Except NetError Unit))) RamVolume :=
  Session.opened Uplink.scripted.recording ⟨.get, ⟨10, 0, 0, 2⟩, "boot", "boot"⟩
    ⟨"boot", .create, 0⟩ 50000 { maxRetries := 2 }
    ⟨[.ok (), .ok (), .error (.transmit .hardwareError)], []⟩ ⟨[⟨"boot", #[]⟩], none⟩

/-- The server agrees to the defaults. -/
def agreement : List (Input (Recorded (List (Except NetError Unit))) RamVolume) :=
  [.datagram 69 (TftpPacket.optionAck {}).octets]

/-- The only block. -/
def onlyBlock : Bytes := (TftpPacket.data 1 [1, 2]).octets

/-- A receiver that has its only block, but could not acknowledge it, times out. -/
theorem get_completion_lastAckRefused :
    (((lastAckRefused.run Uplink.scripted.recording agreement).step Uplink.scripted.recording
        (.datagram 69 onlyBlock)).run Uplink.scripted.recording
          (List.replicate 3 .expiry)).transfer.outcome = some (.error .timeout) := by
  obtain ⟨answer, handed, -, refused⟩ := get_completion Uplink.scripted (RamVolume.obliging "boot")
    ⟨.get, ⟨10, 0, 0, 2⟩, "boot", "boot"⟩ rfl ⟨"boot", .create, 0⟩ ⟨[⟨"boot", #[]⟩], none⟩
    ⟨⟨rfl, rfl, #[], rfl, rfl⟩, rfl⟩ 50000 { maxRetries := 2 }
    ⟨[.ok (), .ok (), .error (.transmit .hardwareError)], []⟩ agreement 69 onlyBlock [1, 2]
    ⟨trivial, trivial⟩ (by decide +kernel) (by decide +kernel) (by decide +kernel)
    (by decide +kernel)
  have answered : (lastAckRefused.run Uplink.scripted.recording agreement).handedIn
      ((lastAckRefused.run Uplink.scripted.recording agreement).step Uplink.scripted.recording
        (.datagram 69 onlyBlock)) =
      [⟨50000, ⟨10, 0, 0, 2⟩, 69, (TftpPacket.ack 1).octets,
        .error (.transmit .hardwareError)⟩] := by
    decide +kernel
  have error := congrArg (List.map Handed.answer) (handed.symm.trans answered)
  have most : (lastAckRefused.run Uplink.scripted.recording
      agreement).transfer.requested.maxRetries.toNat = 2 := by decide +kernel
  have ended : (((lastAckRefused.run Uplink.scripted.recording agreement).step
      Uplink.scripted.recording (.datagram 69 onlyBlock)).run Uplink.scripted.recording
        (List.replicate ((lastAckRefused.run Uplink.scripted.recording
          agreement).transfer.requested.maxRetries.toNat + 1) .expiry)).transfer.outcome =
      some (.error .timeout) := (refused _ (List.cons.inj error).1).2 (by decide +kernel)
  rwa [most] at ended

/-- **A received file may time out.** The file takes all that is written and holds it in the end,
the server is silent only because it has sent everything, and the second acknowledgement is
taken. -/
theorem not_get_completes :
    let s := lastAckRefused.run Uplink.scripted.recording
      (agreement ++ .datagram 69 onlyBlock :: List.replicate 3 .expiry)
    s.transfer.outcome = some (.error .timeout) ∧
      RamVolume.octetsOf "boot" s.volume = [1, 2] ∧
      s.link.handed.map (·.answer) =
        [.ok (), .ok (), .error (.transmit .hardwareError), .ok (), .ok (), .ok ()] := by
  decide +kernel

end Transfer

end PolledNet
