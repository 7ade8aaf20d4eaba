import PolledNet.Proofs.File.Contract
import PolledNet.Proofs.Tftp.Content
import PolledNet.Proofs.Tftp.Recording
import PolledNet.Proofs.Tftp.Run

/-!
# The window of a sender

A sender keeps a window of blocks in front of the last acknowledged one. A fresh acknowledgement, a
repeated one and an expiry all fill it up, from the next block or from its beginning, and filling
may be cut short by the file or by the interface.

The invariant of a sender (`Sending`) says where the next block stands and that every block between
the last acknowledged and the next has been taken by the interface. A sender is `Settled` when its
window is full or the last block it handed over was refused. Filling the window keeps the invariant,
hands over only blocks of the window and leaves the sender settled (`Sending.sendWindow`).

What a block holds is up to a `BlockSource`, so that the same invariant serves a file of known
content and a file of which nothing is known.
-/

namespace PolledNet

open Content

/-! ## Where blocks come from -/

/-- What is known of the blocks that are read from an open file. -/
structure BlockSource (η φ : Type) [FileHandle η φ] where
  /-- The file is open. -/
  Open : η → φ → Prop
  /-- What a block of a size may be. -/
  Gives : (size n : Nat) → Bytes → Prop
  /-- A block that was read is one of these, and the file is still open. -/
  read : ∀ {file file' file'' : η} {volume volume' volume'' : φ} {size n : Nat} {octets : Bytes},
    Open file volume →
      FileHandle.seek file ((n - 1) * size) volume = (.ok (), file', volume') →
      FileHandle.readFull file' size volume' = (.ok (), octets, file'', volume'') →
        Gives size n octets ∧ Open file'' volume''

namespace BlockSource

variable {η φ : Type} [FileHandle η φ]

/-- A file of which nothing is known. -/
def any : BlockSource η φ where
  Open _ _ := True
  Gives _ _ _ := True
  read _ _ _ := ⟨trivial, trivial⟩

/-- A file that does not change gives the blocks of its content. -/
def ofView (view : ReadView η φ) : BlockSource η φ where
  Open file volume := ∃ position, view.ReadsAt file volume position
  Gives size n octets := octets = blockAt view.content size n
  read := by
    rintro file file' file'' volume volume' volume'' size n octets ⟨position, reads⟩ sought done
    obtain ⟨octets_eq, reads'⟩ := view.readFull (view.seek reads sought) done
    exact ⟨octets_eq, _, reads'⟩

end BlockSource

namespace Transfer

variable {η σ φ : Type}

/-! ## What was agreed on -/

/-- What a transfer has agreed on, and what follows from it. -/
structure Terms where
  /-- Octets of a block. -/
  blockSize : UInt16
  /-- Blocks of a window. -/
  windowSize : UInt16
  /-- The block number after 65535. -/
  rollover : Rollover
  /-- Octets of the file. -/
  size : Option UInt64
  /-- The last block. -/
  finalBlock : Nat

/-- The terms of a transfer. -/
def terms (t : Transfer η) : Terms :=
  ⟨t.blockSize, t.windowSize, t.rollover, t.size, t.finalBlock⟩

/-- The end of the window depends on the terms and on the acknowledged block only. -/
theorem windowEnd_congr {t t' : Transfer η} (terms : t'.terms = t.terms)
    (acked : t'.acked = t.acked) : t'.windowEnd = t.windowEnd := by
  have window := congrArg Terms.windowSize terms
  have final := congrArg Terms.finalBlock terms
  dsimp only [Transfer.terms] at window final
  rw [windowEnd, windowEnd, acked, window, final]

/-- The window moves on with the acknowledgements. -/
theorem windowEnd_mono {t t' : Transfer η} (terms : t'.terms = t.terms)
    (acked : t.acked ≤ t'.acked) : t.windowEnd ≤ t'.windowEnd := by
  have window := congrArg Terms.windowSize terms
  have final := congrArg Terms.finalBlock terms
  dsimp only [Transfer.terms] at window final
  rw [windowEnd, windowEnd, window, final]
  omega

/-! ## Which block an acknowledgement names -/

/-- The block that an acknowledgement names is the one acknowledged last or one that was sent since,
and has that number. -/
theorem acknowledged?_eq_some {t : Transfer η} {number : UInt16} {block : Nat}
    (found : t.acknowledged? number = some block) :
    t.acked ≤ block ∧ block < t.nextBlock ∧ wireBlock block t.rollover = number := by
  have named := List.find?_some found
  have mem := List.mem_of_find?_eq_some found
  rw [List.mem_range'_1] at mem
  exact ⟨mem.1, by omega, of_decide_eq_true named⟩

/-- An acknowledgement names no block iff its number is neither that of the one acknowledged last
nor that of one sent since. -/
theorem acknowledged?_eq_none_iff {t : Transfer η} {number : UInt16} :
    t.acknowledged? number = none ↔
      ∀ block, t.acked ≤ block → block < t.nextBlock → wireBlock block t.rollover ≠ number := by
  rw [acknowledged?, List.find?_eq_none]
  constructor
  · intro none block from_acked before
    have mem : block ∈ List.range' t.acked (t.nextBlock - t.acked) := by
      rw [List.mem_range'_1]
      omega
    exact fun same => none block mem (decide_eq_true same)
  · intro none block mem
    rw [List.mem_range'_1] at mem
    exact fun same => none block mem.1 (by omega) (of_decide_eq_true same)

/-! ## Reading a block -/

namespace Session

variable [FileHandle η φ] {s : Session η σ φ}

omit [FileHandle η φ] in
/-- The session whose file was read. -/
def withFile (s : Session η σ φ) (file : η) (volume : φ) : Session η σ φ :=
  { s with transfer := { s.transfer with file := some file }, volume }

/-- A block is read, or the file fails; nothing else changes. -/
theorem readBlock_cases (src : BlockSource η φ) (block : Nat)
    (opened : ∃ file, s.transfer.file = some file ∧ src.Open file s.volume) :
    (∃ octets file volume,
      s.readBlock block = (.ok octets, s.withFile file volume) ∧
        src.Open file volume ∧ src.Gives s.transfer.blockSize.toNat block octets) ∨
    ∃ e file volume, s.readBlock block = (.error (.file e), s.withFile file volume) := by
  obtain ⟨file, eq, isOpen⟩ := opened
  unfold readBlock
  rw [eq]
  dsimp only
  cases sought :
    FileHandle.seek file ((block - 1) * s.transfer.blockSize.toNat) s.volume with
  | mk answer rest =>
    obtain ⟨file', volume'⟩ := rest
    rcases answer with e | ⟨⟩
    · exact .inr ⟨e, file', volume', rfl⟩
    · dsimp only
      cases done : FileHandle.readFull file' s.transfer.blockSize.toNat volume' with
      | mk answer rest =>
        obtain ⟨octets, file'', volume''⟩ := rest
        rcases answer with e | ⟨⟩
        · exact .inr ⟨e, file'', volume'', rfl⟩
        · obtain ⟨gives, isOpen'⟩ := src.read isOpen sought done
          exact .inl ⟨octets, file'', volume'', rfl, isOpen', gives⟩

end Session

/-! ## The invariant -/

section Window

variable [FileHandle η φ] (src : BlockSource η φ)

/-- The datagram carries a block under its number. -/
def Carries (t : Transfer η) (n : Nat) (d : Handed) : Prop :=
  ∃ octets, d.block? = some (wireBlock n t.rollover, octets) ∧
    src.Gives t.blockSize.toNat n octets

/-- If the datagram carries a block at all, it carries one of the window. -/
def InWindow (t : Transfer η) (d : Handed) : Prop :=
  d.block? ≠ none → ∃ n, t.acked < n ∧
    n ≤ min (t.acked + t.windowSize.toNat) (t.sizeOrZero / t.blockSize.toNat + 1) ∧
    Carries src t n d

/-- A running sender. -/
structure Sending (s : Session η (Recorded σ) φ) : Prop where
  /-- The file goes to the server. -/
  direction : s.transfer.direction = .put
  /-- The options are agreed on. -/
  on : s.transfer.phase = .transferring
  /-- There is no outcome yet. -/
  outcome : s.transfer.outcome = none
  /-- The server's port is known. -/
  locked : s.transfer.serverPort ≠ none
  /-- The file is open. -/
  opened : ∃ file, s.transfer.file = some file ∧ src.Open file s.volume
  /-- A block has octets. -/
  positive : 0 < s.transfer.blockSize.toNat
  /-- The last block is the first that the file does not fill. -/
  final : s.transfer.finalBlock = s.transfer.sizeOrZero / s.transfer.blockSize.toNat + 1
  /-- The next block is past the last acknowledged. -/
  ahead : s.transfer.acked < s.transfer.nextBlock
  /-- It is at most one past the window. -/
  within : s.transfer.nextBlock ≤ s.transfer.windowEnd + 1
  /-- The blocks before it have been taken by the interface. -/
  sent : ∀ n, s.transfer.acked < n → n < s.transfer.nextBlock →
    ∃ d ∈ s.link.handed, d.answer = .ok () ∧ Carries src s.transfer n d

/-- The last block that was handed over. -/
def lastBlock? (handed : List Handed) : Option Handed :=
  handed.reverse.find? fun d => d.block?.isSome

/-- The window is full, or the last block handed over was the next one, and it was refused. -/
def Settled (s : Session η (Recorded σ) φ) : Prop :=
  s.transfer.nextBlock ≤ s.transfer.windowEnd →
    ∃ d, lastBlock? s.link.handed = some d ∧ d.answer ≠ .ok () ∧
      Carries src s.transfer s.transfer.nextBlock d

/-- A transfer that ended with a failure of its file. -/
def Spoiled (t : Transfer η) : Prop :=
  t.phase = .done ∧ ∃ e, t.outcome = some (.error (.file e))

/-- A transfer that is spoiled has failed. -/
theorem Spoiled.failed {t : Transfer η} (spoiled : Spoiled t) : Failed t := by
  obtain ⟨done, e, outcome⟩ := spoiled
  exact ⟨done, .file e, outcome⟩

/-- From one moment to another only blocks of the window are handed over. -/
structure Sends (s s' : Session η (Recorded σ) φ) : Prop where
  /-- The terms stay. -/
  terms : s'.transfer.terms = s.transfer.terms
  /-- No acknowledgement is taken back. -/
  acked : s.transfer.acked ≤ s'.transfer.acked
  /-- Blocks are of the window that there is in the end. -/
  hands : Session.Hands (InWindow src s'.transfer) s s'

variable {src}

/-- What a datagram carries depends on the terms only. -/
theorem Carries.congr {t t' : Transfer η} {n : Nat} {d : Handed} (terms : t'.terms = t.terms)
    (carries : Carries src t n d) : Carries src t' n d := by
  have blockSize := congrArg Terms.blockSize terms
  have rollover := congrArg Terms.rollover terms
  dsimp only [Transfer.terms] at blockSize rollover
  rw [Carries, blockSize, rollover]
  exact carries

/-- Whether a datagram lies in the window depends on the terms and on the acknowledged block only.
-/
theorem InWindow.congr {t t' : Transfer η} {d : Handed} (terms : t'.terms = t.terms)
    (acked : t'.acked = t.acked) (inside : InWindow src t d) : InWindow src t' d := by
  intro block
  obtain ⟨n, after, before, carries⟩ := inside block
  have blockSize := congrArg Terms.blockSize terms
  have windowSize := congrArg Terms.windowSize terms
  have size := congrArg Terms.size terms
  dsimp only [Transfer.terms] at blockSize windowSize size
  refine ⟨n, acked ▸ after, ?_, carries.congr terms⟩
  rwa [acked, windowSize, sizeOrZero, size, blockSize]

/-- A datagram without a block lies in every window. -/
theorem inWindow_of_none {t : Transfer η} {d : Handed} (none : d.block? = none) :
    InWindow src t d := fun block => absurd none block

/-- Datagrams without blocks do not change which block was the last. -/
theorem lastBlock?_append {handed more : List Handed} (none : ∀ d ∈ more, d.block? = none) :
    lastBlock? (handed ++ more) = lastBlock? handed := by
  have nothing : more.reverse.find? (fun d => d.block?.isSome) = .none := by
    rw [List.find?_eq_none]
    intro d mem
    rw [none d (List.mem_reverse.mp mem)]
    nofun
  rw [lastBlock?, List.reverse_append, List.find?_append, nothing, Option.none_or, lastBlock?]

/-- A block that is handed over is the last. -/
theorem lastBlock?_concat {handed : List Handed} {d : Handed} (block : d.block?.isSome = true) :
    lastBlock? (handed ++ [d]) = some d := by
  rw [lastBlock?, List.reverse_append, List.reverse_singleton, List.singleton_append]
  exact List.find?_cons_of_pos block

/-! ## Filling the window -/

variable {s s' s'' : Session η (Recorded σ) φ}

/-- A sender may send twice, if nothing is acknowledged by the second time. -/
theorem Sends.trans (first : Sends src s s') (second : Sends src s' s'')
    (same : s''.transfer.acked = s'.transfer.acked) : Sends src s s'' where
  terms := second.terms.trans first.terms
  acked := same ▸ first.acked
  hands := (first.hands.mono fun _ inside => inside.congr second.terms same).trans second.hands

/-- What a sender sends after telling the operator it sends. -/
theorem Sends.of_tell {up : Uplink σ} {e : TftpEvent}
    (sends : Sends src (s.tell up.recording e) s') : Sends src s s' :=
  ⟨sends.terms, sends.acked, sends.hands⟩

/-- What is no block is of every window. -/
theorem Sends.of_none (terms : s'.transfer.terms = s.transfer.terms)
    (acked : s.transfer.acked ≤ s'.transfer.acked)
    (hands : Session.Hands (fun d => d.block? = none) s s') : Sends src s s' :=
  ⟨terms, acked, hands.mono fun _ => inWindow_of_none⟩

/-- A sender that fails hands over an error at most. -/
theorem Sends.of_fail (up : Uplink σ) (s : Session η (Recorded σ) φ)
    (running : s.transfer.phase ≠ .done) (cause : TransferError) (code : UInt16) :
    Sends src s (s.fail up.recording cause code).2 := by
  have failed := Session.fail_transfer up.recording s running cause code
  refine .of_none ?_ ?_ (Session.hands_fail up s cause code)
  · rw [failed]
    rfl
  · exact Nat.le_of_eq (by rw [failed])

/-- A transfer whose file fails is spoiled. -/
theorem spoiled_of_fail (up : Uplink σ) {s : Session η σ φ} (running : s.transfer.phase ≠ .done)
    (e : FileError) (code : UInt16) : Spoiled (s.fail up (.file e) code).2.transfer := by
  rw [Session.fail_transfer up s running]
  exact ⟨rfl, e, rfl⟩

/-- A sender stays settled while no block is handed over, and none acknowledged. -/
theorem Settled.of_none (settled : Settled src s)
    (next : s'.transfer.nextBlock = s.transfer.nextBlock)
    (terms : s'.transfer.terms = s.transfer.terms) (acked : s'.transfer.acked = s.transfer.acked)
    (hands : Session.Hands (fun d => d.block? = none) s s') : Settled src s' := by
  intro short
  obtain ⟨more, eq, none⟩ := hands
  rw [next, windowEnd_congr terms acked] at short
  obtain ⟨d, last, refused, carries⟩ := settled short
  rw [eq, lastBlock?_append none, next]
  exact ⟨d, last, refused, carries.congr terms⟩

variable (up : Uplink σ)

/-- A window ends after its size, or with the last block of the file. -/
theorem Sending.windowEnd_eq (h : Sending src s) :
    s.transfer.windowEnd = min (s.transfer.acked + s.transfer.windowSize.toNat)
      (s.transfer.sizeOrZero / s.transfer.blockSize.toNat + 1) := by
  rw [windowEnd, h.final]

/-- A sender is not done. -/
theorem Sending.running (h : Sending src s) : s.transfer.phase ≠ .done := by
  rw [h.on]
  nofun

/-- What a sender was, it is with another state of its file, other counters and a longer record. -/
theorem Sending.of_eq (h : Sending src s) {file : Option η} {bytes : Nat}
    {timeouts retries : UInt32} {lastReport : Tick}
    (transfer : s'.transfer =
      { s.transfer with file, bytes, timeouts, retries, lastReport })
    (opened : ∃ file', file = some file' ∧ src.Open file' s'.volume)
    (hands : ∀ d ∈ s.link.handed, d ∈ s'.link.handed) : Sending src s' := by
  obtain ⟨t, timer, link, volume⟩ := s'
  dsimp only at transfer
  subst transfer
  refine ⟨h.direction, h.on, h.outcome, h.locked, opened, h.positive, h.final, h.ahead, h.within,
    ?_⟩
  intro n after before
  obtain ⟨d, mem, taken, carries⟩ := h.sent n after before
  exact ⟨d, hands d mem, taken, carries⟩

/-- Telling the operator does not disturb a sender. -/
theorem Sending.tell (h : Sending src s) (e : TftpEvent) : Sending src (s.tell up.recording e) :=
  h.of_eq rfl h.opened fun _ mem => mem

/-- Progress does not disturb a sender. -/
theorem Sending.progress (h : Sending src s) : Sending src (s.progress up.recording) :=
  h.of_eq (Session.progress_transfer up.recording s)
    (by rw [Session.progress_volume]; exact h.opened) fun _ mem => by
      rwa [Session.progress_handed]

/-- The next block has been taken. -/
theorem Sending.advance (h : Sending src s) (fits : s.transfer.nextBlock ≤ s.transfer.windowEnd)
    (taken : ∃ d ∈ s.link.handed, d.answer = .ok () ∧
      Carries src s.transfer s.transfer.nextBlock d) :
    Sending src
      { s with transfer := { s.transfer with nextBlock := s.transfer.nextBlock + 1 } } := by
  refine ⟨h.direction, h.on, h.outcome, h.locked, h.opened, h.positive, h.final,
    Nat.lt_succ_of_lt h.ahead, Nat.succ_le_succ fits, ?_⟩
  intro n after before
  rcases Nat.lt_succ_iff_lt_or_eq.mp before with earlier | rfl
  · exact h.sent n after earlier
  · exact taken

/-- A block that is sent goes on record under its number. -/
theorem send_block (s : Session η (Recorded σ) φ) {n : Nat} {octets : Bytes}
    (gives : src.Gives s.transfer.blockSize.toNat n octets) :
    ∃ d,
      (s.send up.recording (.data (wireBlock n s.transfer.rollover) octets)).2.link.handed =
          s.link.handed ++ [d] ∧
        d.answer = (s.send up.recording (.data (wireBlock n s.transfer.rollover) octets)).1 ∧
        d.block?.isSome = true ∧ Carries src s.transfer n d := by
  refine ⟨_, Session.send_handed up s _, rfl, ?_, octets, ?_, gives⟩
  · rw [Handed.block?, TftpPacket.blockOf?_octets]
    rfl
  · rw [Handed.block?, TftpPacket.blockOf?_octets]

/-- A block of the window is sent. The sender stays one, whatever the interface answers. -/
theorem Sending.sendBlock (h : Sending src s) (fits : s.transfer.nextBlock ≤ s.transfer.windowEnd)
    {octets : Bytes} (gives : src.Gives s.transfer.blockSize.toNat s.transfer.nextBlock octets)
    {answer : Except NetError Unit}
    (sent :
      s.send up.recording (.data (wireBlock s.transfer.nextBlock s.transfer.rollover) octets) =
        (answer, s')) :
    s'.transfer = s.transfer ∧ Sending src s' ∧ Sends src s s' ∧
      ∃ d, s'.link.handed = s.link.handed ++ [d] ∧ d.answer = answer ∧ d.block?.isSome = true ∧
        Carries src s.transfer s.transfer.nextBlock d := by
  obtain ⟨d, handed, answered, block, carries⟩ := send_block up s gives
  have same := Session.send_transfer up.recording s
    (.data (wireBlock s.transfer.nextBlock s.transfer.rollover) octets)
  have still := Session.send_volume up.recording s
    (.data (wireBlock s.transfer.nextBlock s.transfer.rollover) octets)
  rw [sent] at handed answered same still
  dsimp only at handed answered same still
  obtain ⟨file, opened, isOpen⟩ := h.opened
  have after : Sending src s' := by
    apply h.of_eq same ⟨file, opened, still ▸ isOpen⟩
    intro d' mem
    rw [handed]
    exact List.mem_append_left _ mem
  have inside : InWindow src s'.transfer d := by
    intro _
    rw [same]
    exact ⟨_, h.ahead, h.windowEnd_eq ▸ fits, carries⟩
  refine ⟨same, after, ⟨by rw [same], Nat.le_of_eq (by rw [same]), [d], handed, ?_⟩, d, handed,
    answered, block, carries⟩
  intro d' mem
  rwa [List.mem_singleton.mp mem]

/-- **Filling the window.** The blocks up to its end are handed over in order, as far as the file
and the interface go. -/
theorem Sending.sendBlocks (h : Sending src s) {count : Nat}
    (left : s.transfer.nextBlock + count = s.transfer.windowEnd + 1) :
    Sends src s (s.sendBlocks up.recording count).2 ∧
      (s.sendBlocks up.recording count).2.transfer.acked = s.transfer.acked ∧
      (Sending src (s.sendBlocks up.recording count).2 ∧
          Settled src (s.sendBlocks up.recording count).2 ∨
        Spoiled (s.sendBlocks up.recording count).2.transfer) := by
  -- on what is left of the window: a block that was taken shortens it, any other ends the filling
  induction count generalizing s with
  | zero =>
    refine ⟨.of_none rfl (Nat.le_refl _) (.of_eq rfl), rfl, .inl ⟨h, ?_⟩⟩
    intro short
    simp only [Session.sendBlocks] at short
    omega
  | succ count ih =>
    have fits : s.transfer.nextBlock ≤ s.transfer.windowEnd := by omega
    have quiet (file : η) (volume : φ) : Sends src s (s.withFile file volume) :=
      .of_none rfl (Nat.le_refl _) (.of_eq rfl)
    rw [Session.sendBlocks]
    rcases Session.readBlock_cases src s.transfer.nextBlock h.opened with
      ⟨octets, file, volume, eq, isOpen, gives⟩ | ⟨e, file, volume, eq⟩
    · rw [eq]
      have read : Sending src (s.withFile file volume) :=
        h.of_eq rfl ⟨file, rfl, isOpen⟩ fun _ mem => mem
      dsimp only
      cases sent : (s.withFile file volume).send up.recording
        (.data (wireBlock s.transfer.nextBlock (s.withFile file volume).transfer.rollover) octets)
        with
      | mk answer s₁ =>
        obtain ⟨same, after, sends, d, handed, answered, block, carries⟩ :=
          read.sendBlock up fits gives sent
        have one : Sends src s s₁ := (quiet file volume).trans sends (by rw [same])
        have acked : s₁.transfer.acked = s.transfer.acked := by rw [same]; rfl
        rw [← same] at carries
        cases answer with
        | error e =>
          -- the block was refused, and it is the next one
          refine ⟨one, acked, .inl ⟨after, ?_⟩⟩
          intro _
          refine ⟨d, ?_, ?_, carries⟩
          · rw [handed]
            exact lastBlock?_concat block
          · rw [answered]
            nofun
        | ok =>
          have mem : d ∈ s₁.link.handed := by
            rw [handed]
            exact List.mem_append_right _ List.mem_cons_self
          have next : s.transfer.nextBlock = s₁.transfer.nextBlock := by rw [same]; rfl
          have stays : s₁.transfer.windowEnd = s.transfer.windowEnd :=
            windowEnd_congr one.terms acked
          have advanced := after.advance (by rw [← next, stays]; exact fits)
            ⟨d, mem, answered, carries⟩
          dsimp only
          rw [next]
          obtain ⟨sends, acked', state⟩ := ih advanced (by
            show s₁.transfer.nextBlock + 1 + count = s₁.transfer.windowEnd + 1
            omega)
          have two : Sends src s
              { s₁ with transfer := { s₁.transfer with nextBlock := s₁.transfer.nextBlock + 1 } } :=
            ⟨one.terms, one.acked, one.hands⟩
          exact ⟨two.trans sends acked', acked'.trans acked, state⟩
    · rw [eq]
      have running : (s.withFile file volume).transfer.phase ≠ .done := h.running
      have failed := Session.fail_transfer up.recording (s.withFile file volume) running (.file e)
        Tftp.errorAccessViolation
      refine ⟨(quiet file volume).trans (.of_fail up _ running _ _) (by rw [failed]), ?_, .inr ?_⟩
      · rw [failed]
        rfl
      · exact spoiled_of_fail up.recording running e _

/-- A sender fills its window and is settled, or its file fails. -/
theorem Sending.sendWindow (h : Sending src s) :
    Sends src s (s.sendWindow up.recording).2 ∧
      (s.sendWindow up.recording).2.transfer.acked = s.transfer.acked ∧
      (Sending src (s.sendWindow up.recording).2 ∧ Settled src (s.sendWindow up.recording).2 ∨
        Spoiled (s.sendWindow up.recording).2.transfer) := by
  have within := h.within
  exact h.sendBlocks up (by omega)

/-- A sender may go back to the beginning of its window. -/
theorem Sending.rewound (h : Sending src s) : Sending src
    { s with transfer := { s.transfer with nextBlock := s.transfer.acked + 1 } } :=
  ⟨h.direction, h.on, h.outcome, h.locked, h.opened, h.positive, h.final, Nat.lt_succ_self _,
    Nat.succ_le_succ (Nat.lt_succ_iff.mp (Nat.lt_of_lt_of_le h.ahead h.within)),
    fun _ after before => absurd after (Nat.not_lt.mpr (Nat.lt_succ_iff.mp before))⟩

/-- The window may be filled once more from its beginning. -/
theorem Sending.resendWindow (h : Sending src s) :
    Sends src s (s.resendWindow up.recording).2 ∧
      (Sending src (s.resendWindow up.recording).2 ∧ Settled src (s.resendWindow up.recording).2 ∨
        Spoiled (s.resendWindow up.recording).2.transfer) := by
  have back : Sends src s
      { s with transfer := { s.transfer with nextBlock := s.transfer.acked + 1 } } :=
    .of_none rfl (Nat.le_refl _) (.of_eq rfl)
  obtain ⟨sends, acked, state⟩ := h.rewound.sendWindow up
  exact ⟨back.trans sends acked, state⟩

/-! ## Acknowledgements -/

/-- A transfer that ended well and reports the size of its file. -/
def Completed (t : Transfer η) : Prop :=
  t.phase = .done ∧ ∃ report, t.outcome = some (.ok report) ∧ report.bytes = t.sizeOrZero

/-- The last block reaches the end of the file. -/
theorem Sending.size_le (h : Sending src s) :
    s.transfer.sizeOrZero ≤ s.transfer.finalBlock * s.transfer.blockSize.toNat := by
  rw [h.final, Nat.add_one_mul]
  exact Nat.le_of_lt (Nat.lt_div_mul_add h.positive)

/-- A fresh acknowledgement moves the window. -/
theorem Sending.withAck (h : Sending src s) {block : Nat} (fresh : s.transfer.acked ≤ block)
    (known : block < s.transfer.nextBlock) : Sending src (s.withAck block) := by
  have later : s.transfer.windowEnd ≤ (s.withAck block).transfer.windowEnd :=
    windowEnd_mono rfl fresh
  exact ⟨h.direction, h.on, h.outcome, h.locked, h.opened, h.positive, h.final, known,
    Nat.le_trans h.within (Nat.succ_le_succ later),
    fun n after before => h.sent n (Nat.lt_of_le_of_lt fresh after) before⟩

/-- A sender that finishes hands nothing over. -/
theorem Sends.of_finish (up : Uplink σ) (s : Session η (Recorded σ) φ)
    (running : s.transfer.phase ≠ .done) (result : Except TransferError Unit) :
    Sends src s (s.finish up.recording result) := by
  have ended := Session.finish_transfer up.recording s running result
  refine .of_none ?_ ?_ (.of_eq (Session.finish_handed up s result))
  · rw [ended]
    rfl
  · exact Nat.le_of_eq (by rw [ended])

/-- A sender that has counted all its octets ends well if its file closes. -/
theorem Sending.finish (h : Sending src s) (all : s.transfer.bytes = s.transfer.sizeOrZero) :
    Spoiled (s.finish up.recording (.ok ())).transfer ∨
      Completed (s.finish up.recording (.ok ())).transfer := by
  rw [Session.finish_transfer up.recording s h.running (.ok ())]
  cases closed : s.closeFile.1 with
  | error e =>
    rw [Session.ending_of_not_closed _ _ closed]
    exact .inl ⟨rfl, e, rfl⟩
  | ok =>
    rw [Session.ending_ok_of_closed _ _ closed]
    exact .inr ⟨rfl, _, rfl, all⟩

/-- **An acknowledgement that is understood.** The sender goes on with a settled window unless its
file fails or all is sent. All is sent only with the acknowledgement of the last block, after that
block has been taken by the interface. -/
theorem Sending.receiveAck (h : Sending src s) {number : UInt16} {block : Nat}
    (found : s.transfer.acknowledged? number = some block) :
    Sends src s (s.receiveAck up.recording number).2 ∧
      (Sending src (s.receiveAck up.recording number).2 ∧
          Settled src (s.receiveAck up.recording number).2 ∨
        Spoiled (s.receiveAck up.recording number).2.transfer ∨
        Completed (s.receiveAck up.recording number).2.transfer ∧
          number = wireBlock s.transfer.finalBlock s.transfer.rollover ∧
          ∃ d ∈ s.link.handed, d.answer = .ok () ∧
            Carries src s.transfer s.transfer.finalBlock d) := by
  obtain ⟨fresh, known, named⟩ := acknowledged?_eq_some found
  have moved := (h.withAck fresh known).progress up
  have transfer := Session.progress_transfer up.recording (s.withAck block)
  have quiet : Sends src s ((s.withAck block).progress up.recording) := by
    refine .of_none ?_ ?_ (.of_eq (Session.progress_handed up _))
    · rw [transfer]
      rfl
    · rw [transfer]
      exact fresh
  rw [Session.receiveAck_eq, found]
  dsimp only
  split
  · obtain ⟨sends, state⟩ := (h.tell up (.repeatedAck number)).resendWindow up
    exact ⟨sends.of_tell, state.imp_right .inl⟩
  · rename_i new
    split
    · rename_i last
      have sent := h.sent block (Nat.lt_of_le_of_ne fresh (Ne.symm new)) known
      have ended := moved.finish up (by
        rw [transfer]
        exact Nat.min_eq_right (last ▸ h.size_le))
      refine ⟨quiet.trans (.of_finish up _ moved.running _) ?_, .inr (ended.imp_right ?_)⟩
      · rw [Session.finish_transfer up.recording _ moved.running]
      · intro completed
        refine ⟨completed, ?_, last ▸ sent⟩
        rw [← named, last]
    · obtain ⟨sends, acked, state⟩ := moved.sendWindow up
      exact ⟨quiet.trans sends acked, state.imp_right .inl⟩

/-- An acknowledgement that is not understood ends the transfer. -/
theorem Sending.receiveAck_none (h : Sending src s) {number : UInt16}
    (none : s.transfer.acknowledged? number = none) :
    Sends src s (s.receiveAck up.recording number).2 ∧
      (s.receiveAck up.recording number).2.transfer.phase = .done ∧
      (s.receiveAck up.recording number).2.transfer.outcome = some (.error .protocol) := by
  rw [Session.receiveAck_eq, none]
  refine ⟨(Sends.of_fail up _ (by exact h.running) _ _).of_tell, Session.fail_phase _ _ _ _, ?_⟩
  rw [Session.fail_transfer up.recording _ (by exact h.running)]

end Window

end Transfer

end PolledNet
