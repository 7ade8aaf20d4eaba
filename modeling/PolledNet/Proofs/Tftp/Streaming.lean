import PolledNet.Proofs.Tftp.Acknowledging
import PolledNet.Proofs.Tftp.Patience

/-!
# A file that comes in windows

Of a file that comes in order, a receiver acknowledges each block that ends a window, and the last
one (`get_acknowledges`). The blocks may come at any pace and from any server that agreed to options
(`Streams`). What carries the induction is how many blocks are counted and how many are pending
(`Streamed`): after each full window nothing is, so the next window is counted from its beginning.
-/

namespace PolledNet

namespace Transfer

namespace Session

variable {η σ φ : Type}

/-! ## The ends of windows -/

/-- A remainder counts up and starts again. -/
theorem succ_mod (count : Nat) {window : Nat} (pos : 0 < window) :
    (count + 1) % window = if window ≤ count % window + 1 then 0 else count % window + 1 := by
  have below := Nat.mod_lt count pos
  rw [← Nat.mod_add_mod]
  split
  · have full : count % window + 1 = window := by omega
    rw [full, Nat.mod_self]
  · exact Nat.mod_eq_of_lt (by omega)

/-- A window ends after one more block iff that block fills it. -/
theorem dvd_succ_iff (count : Nat) {window : Nat} (pos : 0 < window) :
    window ∣ count + 1 ↔ window ≤ count % window + 1 := by
  rw [Nat.dvd_iff_mod_eq_zero, succ_mod count pos]
  split
  · exact iff_of_true rfl ‹_›
  · exact iff_of_false (Nat.succ_ne_zero _) ‹_›

/-- The numbers of every block that ends a window, up to a count. -/
def windowAcks (window : Nat) (r : Rollover) (count : Nat) : List UInt16 :=
  (List.range (count / window)).map fun k => wireBlock ((k + 1) * window) r

/-- One more block brings one more acknowledgement, if it fills a window. -/
theorem windowAcks_succ {window : Nat} (r : Rollover) (count : Nat) :
    windowAcks window r (count + 1) =
      windowAcks window r count ++
        if window ∣ count + 1 then [wireBlock (count + 1) r] else [] := by
  unfold windowAcks
  rw [Nat.succ_div]
  split
  · rename_i ends
    have last : (count / window + 1) * window = count + 1 := by
      have quotient := Nat.succ_div (a := count) (b := window)
      rw [if_pos ends] at quotient
      rw [← quotient]
      exact Nat.div_mul_cancel ends
    rw [List.range_succ, List.map_append, List.map_singleton, last]
  · rw [Nat.add_zero, List.append_nil]

/-- With the last block there is one number for every window, full or not. -/
theorem windowAcks_append_last {window : Nat} (pos : 0 < window) (r : Rollover) (count : Nat) :
    windowAcks window r count ++ [wireBlock (count + 1) r] =
      (List.range ((count + 1 + window - 1) / window)).map fun k =>
        wireBlock (min ((k + 1) * window) (count + 1)) r := by
  have windows : (count + 1 + window - 1) / window = count / window + 1 := by
    rw [Nat.add_right_comm, Nat.add_sub_cancel]
    exact Nat.add_div_right count pos
  have last : min ((count / window + 1) * window) (count + 1) = count + 1 := by
    apply Nat.min_eq_right
    rw [Nat.mul_comm]
    exact Nat.lt_mul_div_succ count pos
  rw [windows, List.range_succ, List.map_append, List.map_singleton, last]
  congr 1
  apply List.map_congr_left
  intro k mem
  have within : (k + 1) * window ≤ count :=
    Nat.le_trans (Nat.mul_le_mul_right window (List.mem_range.mp mem))
      (Nat.div_mul_le_self count window)
  rw [Nat.min_eq_left (Nat.le_succ_of_le within)]

/-! ## Blocks that come in order -/

variable [FileHandle η φ]

section Streams

variable (up : Uplink σ)

/-- The server sends blocks in order from the first on, and the interface takes all that is handed
to it meanwhile. Others may use the interface and the volume in between. -/
inductive Streams (server : UInt16) (s : Session η (Recorded σ) φ) :
    List Bytes → Session η (Recorded σ) φ → Prop where
  /-- Nothing has come. -/
  | start : Streams server s [] s
  /-- Time passes. -/
  | pause {blocks : List Bytes} {s' : Session η (Recorded σ) φ} (sent : Streams server s blocks s')
      (link : Recorded σ) (volume : φ) (own : s'.KeepsRecord (.elapse link volume)) :
      Streams server s blocks (s'.step up.recording (.elapse link volume))
  /-- Another block comes. -/
  | block {blocks : List Bytes} {s' : Session η (Recorded σ) φ} (sent : Streams server s blocks s')
      {payload octets : Bytes}
      (read : TftpPacket.parse payload =
        .ok (.data (wireBlock (blocks.length + 1) s.transfer.rollover) octets))
      (taken : ∀ d ∈ s'.handedIn (s'.step up.recording (.datagram server payload)),
        d.answer = .ok ()) :
      Streams server s (blocks ++ [octets]) (s'.step up.recording (.datagram server payload))

end Streams

/-! ## What is acknowledged is written -/

/-- The acknowledgement is among what is handed over, so it was taken if everything was. -/
theorem sent_of_taken {up : Uplink σ} {s : Session η (Recorded σ) φ}
    (taken : ∀ d ∈ s.handedIn (s.acknowledgeAndFlush up.recording).2, d.answer = .ok ()) :
    (s.sendAck up.recording (s.transfer.nextBlock - 1)).1 = .ok () := by
  obtain ⟨more, after⟩ := sendAck_repeats up s
  obtain ⟨d, handed, answer⟩ : ∃ d : Handed,
      (s.sendAck up.recording (s.transfer.nextBlock - 1)).2.link.handed = s.link.handed ++ [d] ∧
        d.answer = (s.sendAck up.recording (s.transfer.nextBlock - 1)).1 := ⟨_, rfl, rfl⟩
  rw [← answer]
  apply taken
  rw [handedIn, ← after, handed, List.append_assoc, List.drop_left]
  exact List.mem_cons_self

/-- Only the file can be at fault when a write fails. -/
theorem flush_error {s : Session η σ φ} {e : TransferError} (failed : s.flush.1 = .error e) :
    ∃ e', e = .file e' := by
  obtain ⟨transfer, timer, link, volume⟩ := s
  unfold flush at failed
  dsimp only at failed
  split at failed
  · cases failed
  · rename_i file _
    generalize writeBlocks file volume transfer.pending = written at failed
    obtain ⟨e' | ⟨⟩, file, volume⟩ := written
    · cases failed
      exact ⟨e', rfl⟩
    · cases failed

/-- What was acknowledged is written, or the transfer fails. -/
theorem acknowledgeAndFlush_of_sent (up : Uplink σ) (s : Session η σ φ)
    (running : s.transfer.phase ≠ .done)
    (sent : (s.sendAck up (s.transfer.nextBlock - 1)).1 = .ok ()) :
    (∃ acked file, (s.acknowledgeAndFlush up).2.transfer =
        { s.transfer with acked, file, pending := [] }) ∨
      Spoiled (s.acknowledgeAndFlush up).2.transfer := by
  have acked := sendAck_transfer up s (s.transfer.nextBlock - 1)
  unfold acknowledgeAndFlush
  split <;> rename_i s₁ eq <;> rw [eq] at acked sent
  · cases sent
  · dsimp only at acked
    obtain ⟨file, flushed⟩ := s₁.flush_transfer
    split <;> rename_i eq
    · rw [eq] at flushed
      exact .inl ⟨_, file, by rw [flushed, acked]⟩
    · obtain ⟨e', rfl⟩ := flush_error (congrArg Prod.fst eq)
      rw [eq] at flushed
      right
      rw [Spoiled, fail_transfer up _ (by rw [flushed, acked]; exact running)]
      exact ⟨rfl, e', rfl⟩

/-- A full block that fills is acknowledged and written, and nothing more. -/
theorem receiveBlock_of_full (up : Uplink σ) (s : Session η σ φ) {octets : Bytes}
    (fills : s.Fills octets) (full : s.transfer.blockSize.toNat ≤ octets.length) :
    (s.receiveBlock up octets).2 =
      (((s.withBlock octets).progress up).acknowledgeAndFlush up).2 := by
  rw [receiveBlock_of_fills up s fills]
  split <;> rename_i eq <;> rw [eq]
  exact if_neg (Nat.not_lt.mpr full)

/-! ## Full blocks in turn -/

/-- After so many full blocks that came in order, a receiver has taken them all, and has written
those of full windows. -/
structure Streamed (server : UInt16) (t : Transfer η) (count : Nat) (t' : Transfer η) : Prop where
  /-- The file comes to us. -/
  direction : t'.direction = .get
  /-- The options are agreed on. -/
  on : t'.phase = .transferring
  /-- The server's port is known. -/
  locked : t'.serverPort = some server
  /-- The size of a block stays. -/
  blockSize : t'.blockSize = t.blockSize
  /-- The size of a window stays. -/
  windowSize : t'.windowSize = t.windowSize
  /-- The rollover rule stays. -/
  rollover : t'.rollover = t.rollover
  /-- The next block is the one after them. -/
  nextBlock : t'.nextBlock = count + 1
  /-- What is pending does not fill a window. -/
  pending : t'.pending.length = count % t.windowSize.toNat

section Step

variable {up : Uplink σ} {server : UInt16} {t : Transfer η} {count : Nat}
  {s : Session η (Recorded σ) φ}

/-- The next block of a stream is taken. -/
theorem Streamed.step (h : Streamed server t count s.transfer) {payload octets : Bytes}
    (read : TftpPacket.parse payload =
      .ok (.data (wireBlock (count + 1) t.rollover) octets))
    (fits : octets.length ≤ t.blockSize.toNat) :
    s.step up.recording (.datagram server payload) = (s.receiveBlock up.recording octets).2 := by
  refine step_next_block up.recording h.on h.direction h.locked ?_ (by rw [h.blockSize]; exact fits)
  rw [read, h.nextBlock, h.rollover]

omit [FileHandle η φ] in
/-- A full block fills just if it is the last of a window. -/
theorem Streamed.fills_iff (h : Streamed server t count s.transfer) {octets : Bytes}
    (full : octets.length = t.blockSize.toNat) :
    s.Fills octets ↔ t.windowSize.toNat ≤ count % t.windowSize.toNat + 1 := by
  have notShort : ¬octets.length < s.transfer.blockSize.toNat := by
    rw [h.blockSize, full]
    exact Nat.lt_irrefl _
  rw [Fills, h.windowSize, h.pending, or_iff_right notShort]

/-- A full block leaves a receiver with one more, unless a write fails. -/
theorem Streamed.receiveBlock (h : Streamed server t count s.transfer)
    (window : 0 < t.windowSize.toNat) {octets : Bytes} (full : octets.length = t.blockSize.toNat)
    (taken : ∀ d ∈ s.handedIn (s.receiveBlock up.recording octets).2, d.answer = .ok ()) :
    Streamed server t (count + 1) (s.receiveBlock up.recording octets).2.transfer ∨
      Spoiled (s.receiveBlock up.recording octets).2.transfer := by
  have transfer := progress_transfer up.recording (s.withBlock octets)
  have handed : ((s.withBlock octets).progress up.recording).link.handed = s.link.handed :=
    progress_handed up (s.withBlock octets)
  have pending := succ_mod count window
  by_cases fills : s.Fills octets
  · rw [if_pos ((h.fills_iff full).mp fills)] at pending
    have whole : s.transfer.blockSize.toNat ≤ octets.length := by
      rw [h.blockSize]
      exact Nat.le_of_eq full.symm
    have ends := receiveBlock_of_full up.recording s fills whole
    rw [ends] at taken ⊢
    generalize (s.withBlock octets).progress up.recording = s₁ at transfer handed taken ⊢
    have running : s₁.transfer.phase ≠ .done := by
      rw [transfer]
      exact fun done => nomatch done.symm.trans h.on
    have sent : (s₁.sendAck up.recording (s₁.transfer.nextBlock - 1)).1 = .ok () := by
      apply sent_of_taken
      rw [handedIn, handed]
      exact taken
    refine (acknowledgeAndFlush_of_sent up.recording s₁ running sent).imp_left ?_
    rintro ⟨acked, file, eq⟩
    rw [eq, transfer]
    exact ⟨h.direction, h.on, h.locked, h.blockSize, h.windowSize, h.rollover,
      congrArg Nat.succ h.nextBlock, pending.symm⟩
  · rw [if_neg fun ends => fills ((h.fills_iff full).mpr ends), ← h.pending] at pending
    rw [receiveBlock_of_not_fills up.recording s fills, transfer]
    exact .inl ⟨h.direction, h.on, h.locked, h.blockSize, h.windowSize, h.rollover,
      congrArg Nat.succ h.nextBlock, (List.length_append).trans pending.symm⟩

/-- What a full block is acknowledged with. -/
theorem Streamed.acknowledges_receiveBlock (h : Streamed server t count s.transfer)
    (window : 0 < t.windowSize.toNat) {octets : Bytes}
    (full : octets.length = t.blockSize.toNat) :
    Acknowledges
      (if t.windowSize.toNat ∣ count + 1 then [wireBlock (count + 1) t.rollover] else []) s
      (s.receiveBlock up.recording octets).2 := by
  have acks := Session.acknowledges_receiveBlock up s octets
  rwa [h.nextBlock, h.rollover,
    if_congr ((h.fills_iff full).trans (dvd_succ_iff count window).symm) rfl rfl] at acks

/-- **Of a stream the blocks that end a window are acknowledged**, as long as no write fails. -/
theorem Streamed.of_streams {s s' : Session η (Recorded σ) φ}
    (window : 0 < s.transfer.windowSize.toNat) (start : Streamed server s.transfer 0 s.transfer)
    {blocks : List Bytes} (sent : Streams up server s blocks s')
    (full : ∀ octets ∈ blocks, octets.length = s.transfer.blockSize.toNat) :
    Streamed server s.transfer blocks.length s'.transfer ∧
        Acknowledges (windowAcks s.transfer.windowSize.toNat s.transfer.rollover blocks.length)
          s s' ∨
      Spoiled s'.transfer := by
  induction sent with
  | start =>
    refine .inl ⟨start, ?_⟩
    rw [windowAcks, List.length_nil, Nat.zero_div]
    exact acknowledges_of_eq rfl
  | @pause blocks s₁ sent link volume own ih =>
    have quiet : Acknowledges [] s₁ (s₁.step up.recording (.elapse link volume)) :=
      acknowledges_of_eq own
    refine (ih full).imp_left ?_
    rintro ⟨streamed, acks⟩
    have same := acks.trans quiet
    rw [List.append_nil] at same
    exact ⟨streamed, same⟩
  | @block blocks s₁ sent payload octets read taken ih =>
    obtain ⟨before, last⟩ := List.forall_mem_append.mp full
    have whole : octets.length = s.transfer.blockSize.toNat := last octets List.mem_cons_self
    rcases ih before with ⟨streamed, acks⟩ | failed
    · rw [streamed.step read (Nat.le_of_eq whole)] at taken ⊢
      refine (streamed.receiveBlock window whole taken).imp_left fun streamed' => ?_
      rw [List.length_append, List.length_singleton, windowAcks_succ]
      exact ⟨streamed', acks.trans (streamed.acknowledges_receiveBlock window whole)⟩
    · right
      rw [Spoiled, step_transfer_of_done up.recording failed.1]
      exact failed

/-- **A stream begins once options are agreed on**, and they are acknowledged as block 0. -/
theorem Fetcher.agreed (h : Fetcher s) (negotiating : s.transfer.phase = .negotiating)
    {payload : Bytes}
    (on : (s.step up.recording (.datagram server payload)).transfer.phase = .transferring) :
    Streamed server (s.step up.recording (.datagram server payload)).transfer 0
        (s.step up.recording (.datagram server payload)).transfer ∧
      Acknowledges [0] s (s.step up.recording (.datagram server payload)) ∧
      0 < (s.step up.recording (.datagram server payload)).transfer.windowSize.toNat := by
  have own : s.KeepsRecord (.datagram server payload) := trivial
  have window : 0 <
      (s.step up.recording (.datagram server payload)).transfer.windowSize.toNat :=
    (h.step own).fetches.window on
  obtain ⟨next, nothing⟩ := h.fetches.fresh negotiating
  have live : s.Live := h.state.resolve_right fun ended => nomatch negotiating.symm.trans ended.1
  have receipt := receipt up live h.fetches.direction own
  generalize s.step up.recording (.datagram server payload) = s' at receipt on window ⊢
  cases receipt with
  | quiet steady =>
    rcases steady.phase with same | done
    · cases on.symm.trans (same.trans negotiating)
    · cases on.symm.trans done
  | optionsAgain _ on' => cases negotiating.symm.trans on'
  | block _ expected => cases negotiating.symm.trans expected.on
  | @options _ _ _ t _ _ _ agreed locked steady acks =>
    have adopted := acceptOptions_get (t := (s.heard server).transfer) h.fetches.direction agreed
    have count : t.nextBlock = 1 := by
      rw [adopted]
      exact next
    have kept : t.pending = [] := by
      rw [adopted]
      exact nothing
    have get : t.direction = .get := by
      rw [adopted]
      exact h.fetches.direction
    have empty : s'.transfer.pending = [] := steady.pending.elim (·.trans kept) id
    refine ⟨⟨steady.direction.trans get, on, locked, rfl, rfl, rfl, steady.nextBlock.trans count,
      ?_⟩, acks, window⟩
    rw [empty, Nat.zero_mod, List.length_nil]

end Step

/-- **Which blocks are acknowledged**, in every run of a transfer that receives a file.

The request acknowledges nothing. An input counts a block if it brings the next one, and no other
does. All that is ever acknowledged is the last block that was counted, except that an agreement on
options is acknowledged as block 0 as long as no block is. A block that arrives is acknowledged just
if it is the next one and is short or fills a window. So of a file that comes in order in `N`
blocks, in windows of `W`, the blocks `W`, `2W` and so on are acknowledged and at last `N`, after
the options, unless a write has failed before the last block. -/
theorem get_acknowledges (up : Uplink σ) (job : TransferJob) (get : job.direction = .get) (file : η)
    (volume : φ) (port : UInt16) (requested : TransferConfig) (link : σ)
    (inputs : List (Input (Recorded σ) φ))
    (own : (opened up.recording job file port requested ⟨link, []⟩ volume).Along up.recording
      KeepsRecord inputs) :
    let s₀ := opened up.recording job file port requested ⟨link, []⟩ volume
    let s := s₀.run up.recording inputs
    s₀.link.handed.filterMap Handed.ack? = [] ∧
    (∀ input, s.KeepsRecord input →
      let s' := s.step up.recording input
      (s.Takes input → s'.transfer.nextBlock = s.transfer.nextBlock + 1) ∧
      (¬s.Takes input → s'.transfer.nextBlock = s.transfer.nextBlock) ∧
      ∀ number ∈ s.acksIn s',
        number = wireBlock (s'.transfer.nextBlock - 1) s'.transfer.rollover ∨
          number = 0 ∧ s.AgreesFirst input) ∧
    (∀ server payload number octets, TftpPacket.parse payload = .ok (.data number octets) →
      let s' := s.step up.recording (.datagram server payload)
      (s.Expects server number octets ∧ s.Fills octets → s.acksIn s' = [number]) ∧
      (¬(s.Expects server number octets ∧ s.Fills octets) → s.acksIn s' = [])) ∧
    ∀ server payload, s.transfer.phase = .negotiating →
      let s₁ := s.step up.recording (.datagram server payload)
      s₁.transfer.phase = .transferring →
      ∀ blocks s₂ payload' octets, Streams up server s₁ blocks s₂ →
        (∀ block ∈ blocks, block.length = s₁.transfer.blockSize.toNat) →
        octets.length < s₁.transfer.blockSize.toNat →
        TftpPacket.parse payload' =
          .ok (.data (wireBlock (blocks.length + 1) s₁.transfer.rollover) octets) →
        Spoiled s₂.transfer ∨
          s.acksIn (s₂.step up.recording (.datagram server payload')) =
            0 :: (List.range ((blocks.length + 1 + s₁.transfer.windowSize.toNat - 1) /
                s₁.transfer.windowSize.toNat)).map fun k =>
              wireBlock (min ((k + 1) * s₁.transfer.windowSize.toNat) (blocks.length + 1))
                s₁.transfer.rollover := by
  intro s₀ s
  have fetcher : Fetcher s := (Fetcher.opened up get file port requested ⟨link, []⟩ volume).run own
  refine ⟨?_, ?_, ?_, ?_⟩
  · obtain ⟨more, handed, none⟩ := acknowledges_sendRequest up ((⟨job.transfer file volume port
      requested (up.now link), Timer.idle, ⟨link, []⟩, volume⟩ : Session η (Recorded σ) φ).arm
        up.recording)
    show s₀.link.handed.filterMap Handed.ack? = []
    rw [← none]
    exact congrArg (List.filterMap Handed.ack?) handed
  · intro input own s'
    refine ⟨?_, fun other => (fetcher.step_of_not_takes own other).1, fun _ => fetcher.acksIn own⟩
    intro takes
    cases input with
    | datagram server payload =>
      obtain ⟨number, octets, read, expected⟩ := takes
      exact (fetcher.step_of_expects read expected).1.nextBlock
    | expiry => cases takes
    | cancel => cases takes
    | elapse => cases takes
  · intro server payload number octets read s'
    by_cases expected : s.Expects server number octets
    · have acks : s.acksIn s' = if s.Fills octets then [number] else [] :=
        (fetcher.step_of_expects read expected).2
      constructor
      · rintro ⟨-, fills⟩
        rwa [if_pos fills] at acks
      · intro not
        rwa [if_neg fun fills => not ⟨expected, fills⟩] at acks
    · have other : ¬s.Takes (.datagram server payload) := by
        rintro ⟨number', octets', read', expected'⟩
        cases read.symm.trans read'
        exact expected expected'
      refine ⟨fun both => absurd both.1 expected, fun _ => ?_⟩
      have own : s.KeepsRecord (.datagram server payload) := trivial
      exact (fetcher.step_of_not_takes own other).2 server payload number octets rfl read
  · intro server payload negotiating s₁ on blocks s₂ payload' octets sent full short read
    obtain ⟨start, agreed, window⟩ := fetcher.agreed negotiating on
    refine (Streamed.of_streams window start sent full).symm.imp_right ?_
    rintro ⟨streamed, acks⟩
    have last := acknowledges_receiveBlock up s₂ octets
    have fills : s₂.Fills octets := .inl (by rw [streamed.blockSize]; exact short)
    rw [if_pos fills, streamed.nextBlock, streamed.rollover] at last
    rw [streamed.step read (Nat.le_of_lt short), ← windowAcks_append_last window]
    exact ((agreed.trans acks).trans last).acksIn

/-! ## Three blocks in windows of two -/

/-- A transfer of seventeen octets in blocks of eight, whose interface takes everything. -/
def inWindows : Session RamFile (Recorded (List (Except NetError Unit))) RamVolume :=
  opened Uplink.scripted.recording ⟨.get, ⟨10, 0, 0, 2⟩, "boot", "boot"⟩ ⟨"boot", .create, 0⟩ 50000
    { blockSize := 8, windowSize := 2 } ⟨[], []⟩ ⟨[⟨"boot", #[]⟩], none⟩

/-- The server agrees. -/
def inWindowsAgreement : Bytes :=
  (TftpPacket.optionAck { blockSize := some 8, windowSize := some 2 }).octets

/-- A block of the transfer in windows, which come in order. -/
def inWindowsBlock (number : UInt16) (octets : Bytes) :
    Input (Recorded (List (Except NetError Unit))) RamVolume :=
  .datagram 69 (TftpPacket.data number octets).octets

/-- All blocks but the last come in order. -/
theorem streams_inWindows :
    Streams Uplink.scripted 69
      (inWindows.step Uplink.scripted.recording (.datagram 69 inWindowsAgreement))
      [[1, 2, 3, 4, 5, 6, 7, 8], [9, 10, 11, 12, 13, 14, 15, 16]]
      (inWindows.run Uplink.scripted.recording
        [.datagram 69 inWindowsAgreement, inWindowsBlock 1 [1, 2, 3, 4, 5, 6, 7, 8],
          inWindowsBlock 2 [9, 10, 11, 12, 13, 14, 15, 16]]) := by
  have one : Streams Uplink.scripted 69
      (inWindows.step Uplink.scripted.recording (.datagram 69 inWindowsAgreement))
      [[1, 2, 3, 4, 5, 6, 7, 8]]
      (inWindows.run Uplink.scripted.recording
        [.datagram 69 inWindowsAgreement, inWindowsBlock 1 [1, 2, 3, 4, 5, 6, 7, 8]]) :=
    Streams.start.block (by decide +kernel) (by decide +kernel)
  exact one.block (by decide +kernel) (by decide +kernel)

/-- Of three blocks in windows of two, the second and the third are acknowledged. -/
theorem get_acknowledges_inWindows :
    inWindows.acksIn (inWindows.run Uplink.scripted.recording
      [.datagram 69 inWindowsAgreement, inWindowsBlock 1 [1, 2, 3, 4, 5, 6, 7, 8],
        inWindowsBlock 2 [9, 10, 11, 12, 13, 14, 15, 16], inWindowsBlock 3 [17]]) = [0, 2, 3] := by
  have acknowledges := get_acknowledges Uplink.scripted ⟨.get, ⟨10, 0, 0, 2⟩, "boot", "boot"⟩ rfl
    (⟨"boot", .create, 0⟩ : RamFile) ⟨[⟨"boot", #[]⟩], none⟩ 50000
    { blockSize := 8, windowSize := 2 } [] [] trivial
  rw [← inWindows] at acknowledges
  dsimp only [run_nil] at acknowledges
  have inOrder := acknowledges.2.2.2 69 inWindowsAgreement rfl (by decide +kernel) _ _
    (TftpPacket.data 3 [17]).octets [17] streams_inWindows (by decide +kernel) (by decide +kernel)
    (by decide +kernel)
  have acks := inOrder.resolve_left fun failed => absurd failed.1 (by decide +kernel)
  exact acks.trans (by decide +kernel)

end Session

end Transfer

end PolledNet
