import PolledNet.File.RamVolume
import PolledNet.Proofs.Tftp.Conduct
import PolledNet.Proofs.Tftp.Course

/-!
# How long a transfer waits

A transfer that makes no progress is bounded by its timer alone. From its beginning, or from any
progress, the expiries count up: as long as there were no more than allowed, each of them hands the
outstanding packet over once more and arms the timer anew, and the one after them ends the transfer
for want of an answer. Nothing that is delivered in between resets the count or postpones the timer,
unless it is progress (`retry_budget`).

The outstanding packet is the request, the acknowledgement of what has been received, or the block
after what is acknowledged (`Outstanding`).
-/

namespace PolledNet

namespace Transfer

/-- The timer has expired. -/
def Input.isExpiry {σ φ : Type} : Input σ φ → Bool
  | .expiry => true
  | _ => false

/-- What a transfer waits to have answered, and the port it goes to. -/
inductive Outstanding {η : Type} (t : Transfer η) : UInt16 → TftpPacket → Prop where
  /-- The request, to the well-known port. -/
  | request (negotiating : t.phase = .negotiating) : Outstanding t Tftp.serverPort t.requestPacket
  /-- The acknowledgement of all that a receiver has. -/
  | ack (on : t.phase = .transferring) (get : t.direction = .get) :
      Outstanding t (t.serverPort.getD Tftp.serverPort)
        (.ack (wireBlock (t.nextBlock - 1) t.rollover))
  /-- The first block that a sender has not had acknowledged. -/
  | block (on : t.phase = .transferring) (put : t.direction = .put) (octets : Bytes) :
      Outstanding t (t.serverPort.getD Tftp.serverPort)
        (.data (wireBlock (t.acked + 1) t.rollover) octets)

namespace Session

variable {η σ φ : Type}

/-- The outstanding packet is handed over before anything else. -/
def Repeats (s s' : Session η (Recorded σ) φ) : Prop :=
  ∃ port p answer, Outstanding s.transfer port p ∧
    s.link.handed ++ [⟨s.transfer.localPort, s.transfer.server, port, p.octets, answer⟩] <+:
      s'.link.handed

/-- A record only grows. -/
theorem moves_recording (up : Uplink σ) :
    up.recording.Moves fun r r' => r.handed <+: r'.handed where
  refl _ := List.prefix_refl _
  trans := List.IsPrefix.trans
  tell _ _ := List.prefix_refl _
  send _ _ _ _ _ := List.prefix_append _ _
  countMalformed _ := List.prefix_refl _

variable [FileHandle η φ] (up : Uplink σ)

/-! ## What an expiry repeats -/

section Repeating

variable (s : Session η (Recorded σ) φ)

/-- An acknowledgement and the write after it hand over the acknowledgement first. -/
theorem sendAck_repeats :
    (s.sendAck up.recording (s.transfer.nextBlock - 1)).2.link.handed <+:
      (s.acknowledgeAndFlush up.recording).2.link.handed := by
  unfold acknowledgeAndFlush
  split <;> rename_i s₁ eq <;> rewrite [eq]
  · exact List.prefix_refl _
  · have still := s₁.flush_link
    split <;> rename_i s₂ eq' <;> rw [eq'] at still <;> dsimp only at still ⊢ <;>
      rewrite [← still]
    · exact List.prefix_refl _
    · exact moves_fail (moves_recording up) s₂ _ _

/-- A receiver that acknowledges once more repeats itself. -/
theorem repeats_acknowledgeAndFlush (on : s.transfer.phase = .transferring)
    (get : s.transfer.direction = .get) : s.Repeats (s.acknowledgeAndFlush up.recording).2 :=
  ⟨_, _, (s.sendAck up.recording (s.transfer.nextBlock - 1)).1, .ack on get, sendAck_repeats up s⟩

/-- The next block is handed over before the others, unless it cannot be read. -/
theorem sendBlocks_repeats {file : η} (opened : s.transfer.file = some file)
    (running : s.transfer.phase ≠ .done) (count : Nat) :
    (∃ octets answer, s.link.handed ++ [⟨s.transfer.localPort, s.transfer.server,
        s.transfer.serverPort.getD Tftp.serverPort,
        (TftpPacket.data (wireBlock s.transfer.nextBlock s.transfer.rollover) octets).octets,
        answer⟩] <+: (s.sendBlocks up.recording (count + 1)).2.link.handed) ∨
      ∃ e, (s.sendBlocks up.recording (count + 1)).2.transfer.outcome =
        some (.error (.file e)) := by
  rw [sendBlocks]
  dsimp only
  rcases readBlock_cases .any s.transfer.nextBlock ⟨file, opened, trivial⟩ with
    ⟨octets, file', volume, eq, -⟩ | ⟨e, file', volume, eq⟩
  · rw [eq]
    have handed := send_handed up (s.withFile file' volume)
      (.data (wireBlock s.transfer.nextBlock (s.withFile file' volume).transfer.rollover) octets)
    dsimp only
    split <;> rename_i s₂ sent <;> rw [sent] at handed <;>
      have first : _ <+: s₂.link.handed := ⟨[], (List.append_nil _).trans handed.symm⟩
    · exact .inl ⟨octets, _, first⟩
    · exact .inl ⟨octets, _, first.trans (moves_sendBlocks (moves_recording up)
        { s₂ with transfer := { s₂.transfer with nextBlock := s.transfer.nextBlock + 1 } } count)⟩
  · rw [eq]
    refine .inr ⟨e, ?_⟩
    rw [fail_transfer]
    exact running

/-- A sender that sends its window again repeats itself, unless its file fails. -/
theorem repeats_resendWindow {file : η} (opened : s.transfer.file = some file)
    (on : s.transfer.phase = .transferring) (put : s.transfer.direction = .put)
    (room : s.transfer.acked < s.transfer.windowEnd) :
    s.Repeats (s.resendWindow up.recording).2 ∨
      ∃ e, (s.resendWindow up.recording).2.transfer.outcome = some (.error (.file e)) := by
  obtain ⟨count, left⟩ : ∃ count, s.transfer.windowEnd + 1 - (s.transfer.acked + 1) = count + 1 :=
    ⟨s.transfer.windowEnd - s.transfer.acked - 1, by omega⟩
  have window : s.resendWindow up.recording =
      { s with transfer := { s.transfer with nextBlock := s.transfer.acked + 1 } }.sendBlocks
        up.recording (count + 1) := by
    rw [← left]
    rfl
  rw [window]
  refine (sendBlocks_repeats up
    { s with transfer := { s.transfer with nextBlock := s.transfer.acked + 1 } } opened
    (by rw [on]; nofun) count).imp_left ?_
  rintro ⟨octets, answer, first⟩
  exact ⟨_, _, answer, .block on put octets, first⟩

omit [FileHandle η φ] in
/-- What is outstanding does not depend on how often it was repeated. -/
theorem Repeats.of_retrying {up : Uplink σ} {s s' : Session η (Recorded σ) φ}
    (h : ({ s with timer := Timer.idle }.retrying up.recording).Repeats s') : s.Repeats s' := by
  obtain ⟨port, p, answer, outstanding, first⟩ := h
  refine ⟨port, p, answer, ?_, first⟩
  cases outstanding with
  | request negotiating => exact .request negotiating
  | ack on get => exact .ack on get
  | block on put octets => exact Outstanding.block (t := s.transfer) on put octets

end Repeating

/-! ## Counting -/

variable {up} {s : Session η σ φ}

/-- A count that is not at its limit does not wrap. -/
theorem toNat_succ {n : UInt32} (small : n.toNat < UInt32.size - 1) :
    (n + 1).toNat = n.toNat + 1 := by
  rw [UInt32.toNat_add]
  exact Nat.mod_eq_of_lt (Nat.add_lt_of_lt_sub small)

/-- **A step without progress** counts exactly the expiry of the timer, as long as the transfer is
running after it. -/
theorem Live.step_stalled (live : s.Live) {input : Input σ φ} (stalled : ¬ s.Advances input)
    (running : (s.step up input).transfer.outcome = none)
    (bounded : s.transfer.requested.maxRetries.toNat < UInt32.size - 1)
    (within : s.transfer.retries.toNat ≤ s.transfer.requested.maxRetries.toNat) :
    (s.step up input).transfer.retries.toNat =
        s.transfer.retries.toNat + [input].countP Input.isExpiry ∧
      (s.step up input).transfer.retries.toNat ≤ s.transfer.requested.maxRetries.toNat := by
  have course := course up FileHandle.moves_any live input
  generalize s.step up input = s' at course running ⊢
  cases course with
  | elapsed link volume => exact ⟨rfl, within⟩
  | idle _ packet onward =>
    obtain ⟨file, acked, nextBlock, pending, transfer⟩ := onward.transfer
    have none : [input].countP Input.isExpiry = 0 := by
      cases input with
      | expiry => exact absurd rfl packet
      | _ => rfl
    refine ⟨?_, ?_⟩ <;> rw [transfer]
    · rw [none]
      rfl
    · exact within
  | advanced advances => exact absurd advances stalled
  | repeated allowed onward =>
    obtain ⟨file, acked, nextBlock, pending, transfer⟩ := onward.transfer
    have next : (s.transfer.retries + 1).toNat = s.transfer.retries.toNat + 1 :=
      toNat_succ (Nat.lt_of_le_of_lt within bounded)
    have most := UInt32.le_iff_toNat_le.mp (UInt32.not_lt.mp allowed)
    refine ⟨?_, ?_⟩ <;> rw [transfer]
    · exact next
    · exact most
  | ended ends => exact absurd running ends.outcome

/-- **A run without progress** counts its expiries, and there were no more than allowed. -/
theorem Live.run_stalled (live : s.Live) {stall : List (Input σ φ)}
    (stalled : s.Along up (fun s input => ¬ s.Advances input) stall)
    (running : (s.run up stall).transfer.outcome = none)
    (bounded : s.transfer.requested.maxRetries.toNat < UInt32.size - 1)
    (within : s.transfer.retries.toNat ≤ s.transfer.requested.maxRetries.toNat) :
    (s.run up stall).transfer.retries.toNat =
        s.transfer.retries.toNat + stall.countP Input.isExpiry ∧
      (s.run up stall).transfer.retries.toNat ≤ s.transfer.requested.maxRetries.toNat := by
  induction stall generalizing s with
  | nil => exact ⟨rfl, within⟩
  | cons input rest ih =>
    have live' : (s.step up input).Live := live.step_of_run running
    have requested := live.step_requested live'.outcome
    obtain ⟨counted, within'⟩ := live.step_stalled stalled.1 live'.outcome bounded within
    obtain ⟨counted', within''⟩ :=
      ih live' stalled.2 running (requested ▸ bounded) (requested ▸ within')
    have split : (input :: rest).countP Input.isExpiry =
        [input].countP Input.isExpiry + rest.countP Input.isExpiry := by
      rw [← List.countP_append, List.singleton_append]
    refine ⟨?_, requested ▸ within''⟩
    rw [run_cons, counted', counted, split, Nat.add_assoc]

/-- Progress starts the count anew. -/
theorem Live.retries_of_advances (live : s.Live) {input : Input σ φ} (advances : s.Advances input)
    (running : (s.step up input).transfer.outcome = none) :
    (s.step up input).transfer.retries = 0 := by
  have course := course up FileHandle.moves_any live input
  generalize s.step up input = s' at course running ⊢
  cases course with
  | elapsed => cases advances
  | idle stalled => exact absurd advances stalled
  | advanced _ _ retries _ _ onward =>
    obtain ⟨file, acked, nextBlock, pending, transfer⟩ := onward.transfer
    rw [transfer]
    exact retries
  | repeated => cases advances
  | ended ends => exact absurd running ends.outcome

/-- The transfer has made its last progress with the last of the inputs, or it has just begun. -/
def Refreshed (up : Uplink σ) (s : Session η σ φ) (before : List (Input σ φ)) : Prop :=
  before = [] ∨
    ∃ earlier input, before = earlier ++ [input] ∧ (s.run up earlier).Advances input

/-- A running transfer has counted the expiries since its last progress. -/
theorem Live.run_refreshed (live : s.Live) (none : s.transfer.retries = 0)
    (bounded : s.transfer.requested.maxRetries.toNat < UInt32.size - 1)
    {before stall : List (Input σ φ)} (refreshed : s.Refreshed up before)
    (stalled : (s.run up before).Along up (fun s input => ¬ s.Advances input) stall)
    (running : (s.run up (before ++ stall)).transfer.outcome = .none) :
    (s.run up (before ++ stall)).Live ∧
      (s.run up (before ++ stall)).transfer.requested = s.transfer.requested ∧
      (s.run up (before ++ stall)).transfer.retries.toNat = stall.countP Input.isExpiry ∧
      stall.countP Input.isExpiry ≤ s.transfer.requested.maxRetries.toNat := by
  rw [run_append] at running ⊢
  obtain ⟨live₀, requested₀⟩ := live.run running
  have zero : (s.run up before).transfer.retries = 0 := by
    rcases refreshed with rfl | ⟨earlier, input, rfl, advances⟩
    · exact none
    · rw [run_append] at running live₀ ⊢
      have stepped : ((s.run up earlier).run up [input]).transfer.outcome = .none := live₀.outcome
      exact (live.run stepped).1.retries_of_advances advances stepped
  obtain ⟨counted, within⟩ :=
    live₀.run_stalled stalled running (requested₀ ▸ bounded) (zero ▸ Nat.zero_le _)
  rw [zero, UInt32.toNat_zero, Nat.zero_add] at counted
  rw [requested₀, counted] at within
  have whole : (((s.run up before).run up stall).run up []).transfer.outcome = .none := running
  obtain ⟨live₁, requested₁⟩ := live₀.run whole
  exact ⟨live₁, requested₁.trans requested₀, counted, within⟩

/-! ## What an input without progress does -/

/-- A packet without progress leaves the timer and the count alone, unless it ends the transfer. -/
theorem Live.packet_stalled (live : s.Live) {input : Input σ φ} (stalled : ¬ s.Advances input)
    (packet : input.isExpiry = false) (running : (s.step up input).transfer.outcome = none) :
    (s.step up input).timer = s.timer ∧
      (s.step up input).transfer.retries = s.transfer.retries := by
  have course := course up FileHandle.moves_any live input
  generalize s.step up input = s' at course running ⊢
  cases course with
  | elapsed => exact ⟨rfl, rfl⟩
  | idle _ _ onward =>
    obtain ⟨file, acked, nextBlock, pending, transfer⟩ := onward.transfer
    refine ⟨onward.timer, ?_⟩
    rw [transfer]
  | advanced advances => exact absurd advances stalled
  | repeated => cases packet
  | ended ends => exact absurd running ends.outcome

/-- The expiry after as many as are allowed ends the transfer. -/
theorem Live.expiry_last (live : s.Live)
    (bounded : s.transfer.requested.maxRetries.toNat < UInt32.size - 1)
    (last : s.transfer.retries.toNat = s.transfer.requested.maxRetries.toNat) :
    (s.step up .expiry).transfer.outcome = some (.error .timeout) := by
  have exhausted : s.transfer.retries + 1 > s.transfer.requested.maxRetries := by
    rw [gt_iff_lt, UInt32.lt_iff_toNat_lt, toNat_succ (last ▸ bounded), last]
    exact Nat.lt_succ_self _
  simp only [Session.step]
  rw [expire_eq up { s with timer := Timer.idle } live.running, if_pos exhausted,
    fail_transfer up _ (by exact live.running)]

/-- **An expiry within the limit** hands the outstanding packet over once more, unless the file
fails, and arms the timer for another wait. -/
theorem Live.expiry_within {s : Session η (Recorded σ) φ} {up : Uplink σ} (live : s.Live)
    (bounded : s.transfer.requested.maxRetries.toNat < UInt32.size - 1)
    (within : s.transfer.retries.toNat < s.transfer.requested.maxRetries.toNat) :
    (s.Repeats (s.step up.recording .expiry) ∨
        ∃ e, (s.step up.recording .expiry).transfer.outcome = some (.error (.file e))) ∧
      ((s.step up.recording .expiry).transfer.outcome = none →
        (s.step up.recording .expiry).timer =
          Timer.arm (up.now s.link.link) s.transfer.requested.retryTimeout) := by
  have allowed : ¬ s.transfer.retries + 1 > s.transfer.requested.maxRetries := by
    rw [gt_iff_lt, UInt32.lt_iff_toNat_lt, toNat_succ (Nat.lt_trans within bounded)]
    exact Nat.not_lt.mpr within
  refine ⟨?_, ?_⟩
  · obtain ⟨file, opened⟩ := live.opened
    have reaction := reaction up.recording live.running live.outcome .expiry
    generalize s.step up.recording .expiry = s' at reaction ⊢
    cases reaction with
    | gaveUp exhausted => exact absurd exhausted allowed
    | requestedAgain _ negotiating =>
      exact .inl ⟨_, _, _, .request negotiating, List.prefix_refl _⟩
    | acknowledgedAgain _ on get =>
      exact .inl (repeats_acknowledgeAndFlush up
        ({ s with timer := Timer.idle }.retrying up.recording) on get).of_retrying
    | resent _ on put =>
      obtain ⟨room, -⟩ := (live.room put).sending on
      exact (repeats_resendWindow up ({ s with timer := Timer.idle }.retrying up.recording) opened
        on put room).imp_left Repeats.of_retrying
  · intro running
    have course := course up.recording FileHandle.moves_any live .expiry
    generalize s.step up.recording .expiry = s' at course running ⊢
    cases course with
    | idle _ packet => exact absurd rfl packet
    | advanced advances => cases advances
    | repeated _ onward => rw [onward.timer]; rfl
    | ended ends => exact absurd running ends.outcome

end Session

/-! ## The budget -/

open Session

variable {η σ φ : Type} [FileHandle η φ]

/-- **The retry budget.** Since its beginning or its last progress a running transfer has had at
most as many expiries as it may retry. The next one hands the outstanding packet over once more, if
there is one left, and the one after them ends the transfer. Any packet that is no progress leaves
the timer and the count as they are. -/
theorem retry_budget (up : Uplink σ) (job : TransferJob) (file : η) (port : UInt16)
    (requested : TransferConfig) (bounded : requested.maxRetries.toNat < UInt32.size - 1)
    (link : Recorded σ) (volume : φ) (before stall : List (Input (Recorded σ) φ))
    (refreshed : (Session.opened up.recording job file port requested link volume).Refreshed
      up.recording before)
    (stalled : ((Session.opened up.recording job file port requested link volume).run up.recording
      before).Along up.recording (fun s input => ¬ s.Advances input) stall) :
    let s := (Session.opened up.recording job file port requested link volume).run up.recording
      (before ++ stall)
    let expiries := stall.countP Input.isExpiry
    s.transfer.outcome = none →
      expiries ≤ requested.maxRetries.toNat ∧
      (expiries < requested.maxRetries.toNat →
        (s.Repeats (s.step up.recording .expiry) ∨
          ∃ e, (s.step up.recording .expiry).transfer.outcome = some (.error (.file e))) ∧
        ((s.step up.recording .expiry).transfer.outcome = none →
          (s.step up.recording .expiry).timer =
            Timer.arm (up.now s.link.link) requested.retryTimeout)) ∧
      (expiries = requested.maxRetries.toNat →
        (s.step up.recording .expiry).transfer.outcome = some (.error .timeout)) ∧
      ∀ input, ¬ s.Advances input → input.isExpiry = false →
        (s.step up.recording input).transfer.outcome = none →
        (s.step up.recording input).timer = s.timer ∧
          (s.step up.recording input).transfer.retries = s.transfer.retries := by
  intro s expiries unfinished
  have transfer := start_transfer up.recording
    ⟨job.transfer file volume port requested (up.recording.now link), Timer.idle, link, volume⟩
  have asked : (Session.opened up.recording job file port requested link
      volume).transfer.requested = requested := congrArg Transfer.requested transfer
  obtain ⟨live, same, counted, within⟩ :=
    (live_opened up.recording job file port requested link volume).run_refreshed
      (congrArg Transfer.retries transfer) (asked ▸ bounded) refreshed stalled unfinished
  rw [asked] at same within
  have bounded' : s.transfer.requested.maxRetries.toNat < UInt32.size - 1 := same ▸ bounded
  refine ⟨within, fun fewer => ?_, fun last => ?_, fun input useless packet running => ?_⟩
  · obtain ⟨repeated, armed⟩ := live.expiry_within bounded' (by rw [counted, same]; exact fewer)
    rw [same] at armed
    exact ⟨repeated, armed⟩
  · exact live.expiry_last bounded' (by rw [counted, same]; exact last)
  · exact live.packet_stalled useless packet running

/-- A transfer that retries twice. -/
def unanswered : Session RamFile (Recorded (List (Except NetError Unit))) RamVolume :=
  Session.opened Uplink.scripted.recording ⟨.get, ⟨10, 0, 0, 2⟩, "boot", "boot"⟩
    ⟨"boot", .create, 0⟩ 50000 { maxRetries := 2 } ⟨[], []⟩ ⟨[⟨"boot", #[]⟩], none⟩

/-- The server agrees to the defaults, and is then heard no more. -/
def lastHeard : List (Input (Recorded (List (Except NetError Unit))) RamVolume) :=
  [.datagram 69 (TftpPacket.optionAck {}).octets]

/-- Two retries, and a block from a foreign port between them. -/
def unheard : List (Input (Recorded (List (Except NetError Unit))) RamVolume) :=
  [.expiry, .datagram 70 (TftpPacket.data 1 [1, 2]).octets, .expiry]

/-- A receiver that nobody answers times out after its budget, and a useless packet would not give
it another try. -/
theorem retry_budget_unanswered :
    ((unanswered.run Uplink.scripted.recording (lastHeard ++ unheard)).step
        Uplink.scripted.recording .expiry).transfer.outcome = some (.error .timeout) ∧
      ((unanswered.run Uplink.scripted.recording (lastHeard ++ unheard)).step
        Uplink.scripted.recording
          (.datagram 69 (TftpPacket.optionAck {}).octets)).transfer.retries = 2 := by
  have refreshed : unanswered.Refreshed Uplink.scripted.recording lastHeard := by
    refine .inr ⟨[], _, rfl, .options (o := {}) ?_ (by decide +kernel) (by decide +kernel) rfl⟩
    intro known mem
    have unlocked : unanswered.transfer.serverPort = none := by decide +kernel
    cases unlocked.symm.trans mem
  have stalled : (unanswered.run Uplink.scripted.recording lastHeard).Along
      Uplink.scripted.recording (fun s input => ¬ s.Advances input) unheard := by
    refine ⟨nofun, fun advances => ?_, nofun, trivial⟩
    have locked : ((unanswered.run Uplink.scripted.recording lastHeard).step
        Uplink.scripted.recording .expiry).transfer.serverPort = some 69 := by decide +kernel
    cases advances with
    | options hears | block hears | ack hears => exact absurd (hears 69 locked) (by decide)
  obtain ⟨-, -, last, packet⟩ := retry_budget Uplink.scripted
    ⟨.get, ⟨10, 0, 0, 2⟩, "boot", "boot"⟩ (⟨"boot", .create, 0⟩ : RamFile) 50000
    { maxRetries := 2 } (by decide) ⟨[], []⟩ (⟨[⟨"boot", #[]⟩], none⟩ : RamVolume) lastHeard
    unheard refreshed stalled (by decide +kernel)
  have useless : ¬ (unanswered.run Uplink.scripted.recording (lastHeard ++ unheard)).Advances
      (.datagram 69 (TftpPacket.optionAck {}).octets) := by
    have on : (unanswered.run Uplink.scripted.recording
        (lastHeard ++ unheard)).transfer.phase = .transferring := by decide +kernel
    have read : TftpPacket.parse (TftpPacket.optionAck {}).octets = .ok (.optionAck {}) := by
      decide +kernel
    intro advances
    cases advances with
    | options _ _ negotiating => cases on.symm.trans negotiating
    | block _ read' => cases read.symm.trans read'
    | ack _ read' => cases read.symm.trans read'
  have counted : (unanswered.run Uplink.scripted.recording
      (lastHeard ++ unheard)).transfer.retries = 2 := by decide +kernel
  exact ⟨last rfl, (packet _ useless rfl (by decide +kernel)).2.trans counted⟩

end Transfer

end PolledNet
