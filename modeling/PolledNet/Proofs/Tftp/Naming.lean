import PolledNet.Proofs.Tftp.Observed

/-!
# The block that an acknowledgement names

An acknowledgement carries sixteen bits of a block's count, and the sender looks for the first
outstanding block that they fit. A window is never longer than the counter, so they fit one
outstanding block only. But the search begins with the block acknowledged last, whose number a
window of 65535 blocks comes back to if the counter leaves out 0. Then the acknowledgement of the
whole window is taken for a repetition of the last one, and the window is sent again
(`put_ack_names_block`). That is the only case.
-/

namespace PolledNet

namespace Transfer

open Session

variable {η σ φ : Type}

/-! ## Which block is found -/

/-- A block a whole turn of the counter past the last acknowledged one, with the same number. -/
def Aliased (t : Transfer η) (n : Nat) : Prop :=
  t.rollover = .one ∧ 0 < t.acked ∧ n = t.acked + 65535

/-- It is computed whether a block shares its number with another. -/
instance (t : Transfer η) (n : Nat) : Decidable (t.Aliased n) :=
  inferInstanceAs (Decidable (_ ∧ _ ∧ _))

/-- The search begins with the last acknowledged block. -/
theorem acknowledged?_acked {t : Transfer η} (ahead : t.acked < t.nextBlock) :
    t.acknowledged? (wireBlock t.acked t.rollover) = some t.acked := by
  obtain ⟨more, count⟩ : ∃ more, t.nextBlock - t.acked = more + 1 :=
    ⟨t.nextBlock - t.acked - 1, by omega⟩
  rw [acknowledged?, count, List.range'_succ]
  exact List.find?_cons_of_pos (decide_eq_true rfl)

/-- **Outstanding blocks are found by their number**, except for one that is aliased. -/
theorem acknowledged?_of_outstanding {t : Transfer η} {n : Nat} (after : t.acked < n)
    (before : n < t.nextBlock) (near : t.nextBlock ≤ t.acked + 65536) :
    t.acknowledged? (wireBlock n t.rollover) = some (if t.Aliased n then t.acked else n) := by
  by_cases aliased : t.Aliased n
  · obtain ⟨one, pos, rfl⟩ := id aliased
    rw [if_pos aliased, (wireBlock_add_iff _ _).mpr ⟨one, pos⟩]
    exact acknowledged?_acked (Nat.lt_trans after before)
  rw [if_neg aliased]
  cases found : t.acknowledged? (wireBlock n t.rollover) with
  | none => exact absurd rfl (acknowledged?_eq_none_iff.mp found n (Nat.le_of_lt after) before)
  | some block =>
    obtain ⟨from_acked, known, same⟩ := acknowledged?_eq_some found
    by_cases turn : n = block + 65535
    · -- a whole turn apart, so the block found is the last acknowledged one
      have first : block = t.acked := by omega
      rw [turn, first, eq_comm, wireBlock_add_iff] at same
      exact absurd ⟨same.1, same.2, by omega⟩ aliased
    · exact congrArg some (eq_of_wireBlock_eq (by omega) (by omega) same)

section Sending

variable [FileHandle η φ] {src : BlockSource η φ} {s : Session η (Recorded σ) φ}

/-- No window is longer than the counter. -/
theorem Sending.near (h : Sending src s) :
    s.transfer.nextBlock ≤ s.transfer.acked + s.transfer.windowSize.toNat + 1 :=
  Nat.le_trans h.within (Nat.succ_le_succ (Nat.min_le_left _ _))

/-- **An acknowledgement that is understood acknowledges the block that it was found to name.** -/
theorem Sending.receiveAck_acked (h : Sending src s) (up : Uplink σ) {number : UInt16} {block : Nat}
    (found : s.transfer.acknowledged? number = some block) :
    (s.receiveAck up.recording number).2.transfer.acked = block := by
  obtain ⟨fresh, known, -⟩ := acknowledged?_eq_some found
  have moved := (h.withAck fresh known).progress up
  have acked : ((s.withAck block).progress up.recording).transfer.acked = block := by
    rw [progress_transfer]
    rfl
  rw [receiveAck_eq, found]
  dsimp only
  split
  · rename_i again
    exact ((h.tell up (.repeatedAck number)).rewound.sendWindow up).2.1.trans again.symm
  · split
    · rw [finish_transfer up.recording _ moved.running]
      exact acked
    · exact (moved.sendWindow up).2.1.trans acked

end Sending

/-! ## Every run -/

variable [FileHandle η φ]

/-- A transfer that sends a file and is in its midst is a sender. -/
theorem sending_of_run (up : Uplink σ) {job : TransferJob} (put : job.direction = .put) (file : η)
    (volume : φ) (port : UInt16) (requested : TransferConfig) (link : σ)
    {inputs : List (Input (Recorded σ) φ)}
    (own : (Session.opened up.recording job file port requested ⟨link, []⟩ volume).Along
      up.recording KeepsRecord inputs)
    (on : ((Session.opened up.recording job file port requested ⟨link, []⟩ volume).run up.recording
      inputs).transfer.phase = .transferring) :
    Sending .any
      ((Session.opened up.recording job file port requested ⟨link, []⟩ volume).run up.recording
        inputs) := by
  have isOpen : (BlockSource.any : BlockSource η φ).Open file volume := trivial
  obtain ⟨offering, -⟩ := offering_opened up put file volume isOpen port requested link
  have all := own.mono up.recording fun s input keeps =>
    (⟨keeps, spares_any s input⟩ : Undisturbed .any s input)
  obtain ⟨state, -⟩ := (PutState.offering offering).run up all
  cases state with
  | offering h => cases h.negotiating.symm.trans on
  | sending h => exact h
  | failed h => cases h.1.symm.trans on
  | completed h => cases h.1.symm.trans on

/-- **What the acknowledgement of an outstanding block does**, in every run of a transfer that sends
a file. Unless the block is aliased, it is the one acknowledged. An aliased block takes a window of
65535 blocks, all of it sent, under the rule that leaves out 0; its acknowledgement is taken for the
last one again, acknowledges nothing, and has the window sent once more. -/
theorem put_ack_names_block (up : Uplink σ) (job : TransferJob) (put : job.direction = .put)
    (file : η) (volume : φ) (port : UInt16) (requested : TransferConfig) (link : σ)
    (inputs : List (Input σ φ)) (n : Nat) (server : UInt16) (payload : Bytes) :
    let s := (Session.opened up job file port requested link volume).run up inputs
    let t := s.transfer
    let s' := s.step up (.datagram server payload)
    t.phase = .transferring → t.serverPort = some server → t.acked < n → n < t.nextBlock →
    TftpPacket.parse payload = .ok (.ack (wireBlock n t.rollover)) →
    (¬ t.Aliased n →
      t.acknowledged? (wireBlock n t.rollover) = some n ∧ s'.transfer.acked = n) ∧
    (t.Aliased n →
      t.windowSize = 65535 ∧ n = t.acked + t.windowSize.toNat ∧
      t.acknowledged? (wireBlock n t.rollover) = some t.acked ∧
      s' = ((s.tell up (.repeatedAck (wireBlock n t.rollover))).resendWindow up).2 ∧
      s'.transfer.acked = t.acked) := by
  intro s t s' on locked after before read
  obtain ⟨inputs', own, same⟩ := exists_recorded_run up job file port requested link volume inputs
  generalize observed : (Session.opened up.recording job file port requested ⟨link, []⟩ volume).run
    up.recording inputs' = r at same
  have transfer : r.transfer = t := congrArg Session.transfer same
  have sending : Sending .any r := by
    subst observed
    exact sending_of_run up put file volume port requested link own (by rw [transfer]; exact on)
  have stepped : (r.step up.recording (.datagram server payload)).onto Recorded.link = s' := by
    rw [← onto_step (projects_recording up), same]
    rfl
  have within : t.nextBlock ≤ t.acked + t.windowSize.toNat + 1 := transfer ▸ sending.near
  have direction : t.direction = .put := transfer ▸ sending.direction
  have small := t.windowSize.toNat_lt
  have found := acknowledged?_of_outstanding after before (by omega)
  have acked : s'.transfer.acked = if t.Aliased n then t.acked else n := by
    rw [← stepped, onto_transfer, step_ack up.recording (by rw [transfer]; exact on)
      sending.direction (by rw [transfer]; exact locked) read]
    exact sending.receiveAck_acked up (by rw [transfer]; exact found)
  constructor
  · intro distinct
    rw [if_neg distinct] at found acked
    exact ⟨found, acked⟩
  · intro aliased
    rw [if_pos aliased] at found acked
    obtain ⟨-, -, turn⟩ := aliased
    have full : t.windowSize.toNat = 65535 := by omega
    refine ⟨UInt16.toNat_inj.mp full, by rw [full, turn], found, ?_, acked⟩
    show s.step up (.datagram server payload) = _
    rw [step_ack up on direction locked read, receiveAck_eq, found]
    exact congrArg Prod.snd (if_pos rfl)

/-! ## A window of 65535 blocks -/

omit [FileHandle η φ] in
/-- A sender agrees to less than it asked for. -/
theorem acceptOptions_of_put {t : Transfer η} {o : TftpOptions} (put : t.direction = .put)
    (blockSize : o.blockSize.getD Tftp.defaultBlockSize ≤ t.requested.blockSize)
    (windowSize : o.windowSize.getD 1 ≤ t.requested.windowSize) :
    t.acceptOptions o =
      .ok { t with
        blockSize := o.blockSize.getD Tftp.defaultBlockSize
        windowSize := o.windowSize.getD 1
        rollover := o.rollover.getD .zero
        finalBlock := t.sizeOrZero / (o.blockSize.getD Tftp.defaultBlockSize).toNat + 1 } := by
  have agreeable : ¬(o.blockSize.getD Tftp.defaultBlockSize > t.requested.blockSize ∨
      o.windowSize.getD 1 > t.requested.windowSize) := by
    rintro (more | more)
    · exact absurd blockSize (UInt16.not_le.mpr more)
    · exact absurd windowSize (UInt16.not_le.mpr more)
  unfold acceptOptions
  dsimp only
  rw [if_neg agreeable, put]
  rfl

namespace Session

omit [FileHandle η φ] in
/-- The session whose file was read up to a block. -/
def atBlock (s : Session η σ φ) (file : η) (volume : φ) (next : Nat) : Session η σ φ :=
  { s with transfer := { s.transfer with file := some file, nextBlock := next }, volume }

variable {Usable : η → φ → Prop} (lending : Lending Usable)

include lending

/-- A block of a lending file is read. -/
theorem readBlock_of_lending (s : Session η σ φ) (block : Nat) {file : η}
    (opened : s.transfer.file = some file) (usable : Usable file s.volume) :
    ∃ octets file' volume', s.readBlock block = (.ok octets, s.withFile file' volume') ∧
      Usable file' volume' := by
  obtain ⟨file₁, volume₁, sought, usable⟩ :=
    lending.seek ((block - 1) * s.transfer.blockSize.toNat) usable
  obtain ⟨octets, file₂, volume₂, done, usable⟩ :=
    lending.readFull s.transfer.blockSize.toNat usable
  refine ⟨octets, file₂, volume₂, ?_, usable⟩
  unfold readBlock
  rw [opened]
  dsimp only
  rw [sought]
  dsimp only
  rw [done]
  rfl

/-- **Where nothing is refused, all blocks are sent.** -/
theorem sendBlocks_of_lending (s : Session η (List (Except NetError Unit)) φ) (free : s.link = [])
    {file : η} (opened : s.transfer.file = some file) (usable : Usable file s.volume)
    (count : Nat) :
    ∃ file' volume', s.sendBlocks Uplink.scripted count =
      (.ok (), s.atBlock file' volume' (s.transfer.nextBlock + count)) ∧ Usable file' volume' := by
  induction count generalizing s file with
  | zero =>
    refine ⟨file, s.volume, ?_, usable⟩
    obtain ⟨transfer, timer, link, volume⟩ := s
    dsimp only at opened
    cases transfer
    cases opened
    rfl
  | succ count ih =>
    obtain ⟨octets, file₁, volume₁, read, usable⟩ :=
      readBlock_of_lending lending s s.transfer.nextBlock opened usable
    have sent : (s.withFile file₁ volume₁).send Uplink.scripted
        (.data (wireBlock s.transfer.nextBlock (s.withFile file₁ volume₁).transfer.rollover)
          octets) = (.ok (), s.withFile file₁ volume₁) := by
      obtain ⟨transfer, timer, link, volume⟩ := s
      cases free
      rfl
    obtain ⟨file', volume', rest, usable⟩ :=
      ih (s.atBlock file₁ volume₁ (s.transfer.nextBlock + 1)) free rfl usable
    refine ⟨file', volume', ?_, usable⟩
    rw [sendBlocks, read]
    dsimp only
    rw [sent]
    refine rest.trans ?_
    rw [Nat.add_comm count 1, ← Nat.add_assoc]
    rfl

/-- From a file that lends its blocks a window is sent up to its end. -/
theorem sendWindow_of_lending (s : Session η (List (Except NetError Unit)) φ) (free : s.link = [])
    {file : η} (opened : s.transfer.file = some file) (usable : Usable file s.volume)
    (within : s.transfer.nextBlock ≤ s.transfer.windowEnd + 1) :
    ∃ file' volume', s.sendWindow Uplink.scripted =
      (.ok (), s.atBlock file' volume' (s.transfer.windowEnd + 1)) ∧ Usable file' volume' := by
  obtain ⟨file', volume', sent, usable⟩ := sendBlocks_of_lending lending s free opened usable
    (s.transfer.windowEnd + 1 - s.transfer.nextBlock)
  rw [Nat.add_sub_cancel' within] at sent
  exact ⟨file', volume', sent, usable⟩

/-- After progress, too, the window is sent up to its end. -/
theorem progress_sendWindow_of_lending (s : Session η (List (Except NetError Unit)) φ)
    (free : s.link = []) {file : η} (opened : s.transfer.file = some file)
    (usable : Usable file s.volume) (within : s.transfer.nextBlock ≤ s.transfer.windowEnd + 1) :
    ∃ file' volume' timer mark, Usable file' volume' ∧
      ((s.progress Uplink.scripted).sendWindow Uplink.scripted).2 =
        ⟨{ s.transfer with
            file := some file', nextBlock := s.transfer.windowEnd + 1, retries := 0
            lastReport := mark },
          timer, [], volume'⟩ := by
  have progress := progress_transfer Uplink.scripted s
  have link : (s.progress Uplink.scripted).link = [] := by
    unfold Session.progress
    dsimp only
    split <;> exact free
  obtain ⟨file', volume', sent, usable⟩ := sendWindow_of_lending lending _ link
    (by rw [progress]; exact opened) (by rw [progress_volume]; exact usable)
    (by rw [progress]; exact within)
  refine ⟨file', volume', (s.progress Uplink.scripted).timer, s.progressMark Uplink.scripted,
    usable, ?_⟩
  rw [sent, Session.atBlock, link, progress]
  rfl

/-- A sender that is agreed with sends its first window. -/
theorem step_options_of_lending (s : Session η (List (Except NetError Unit)) φ) (free : s.link = [])
    (negotiating : s.transfer.phase = .negotiating) (put : s.transfer.direction = .put)
    {file : η} (opened : s.transfer.file = some file) (usable : Usable file s.volume)
    {port : UInt16} (hears : s.Hears port) {payload : Bytes} {o : TftpOptions} {t : Transfer η}
    (read : TftpPacket.parse payload = .ok (.optionAck o))
    (agreed : (s.heard port).transfer.acceptOptions o = .ok t)
    (within : t.nextBlock ≤ t.windowEnd + 1) :
    ∃ file' volume' timer mark, Usable file' volume' ∧
      s.step Uplink.scripted (.datagram port payload) =
        ⟨{ t with
            phase := .transferring, file := some file', nextBlock := t.windowEnd + 1
            retries := 0, lastReport := mark },
          timer, [], volume'⟩ := by
  have adopted := acceptOptions_put (t := (s.heard port).transfer) put agreed
  have direction : t.direction = .put := by
    rw [adopted]
    exact put
  have kept : t.file = some file := by
    rw [adopted]
    exact opened
  have sent := progress_sendWindow_of_lending lending
    { s with transfer := { t with phase := .transferring } } free kept usable within
  rw [step_options Uplink.scripted negotiating hears read, receiveOptions_of_ok _ _ agreed]
  split
  · rename_i get
    cases get.symm.trans direction
  · exact sent

/-- A sender that gets a fresh acknowledgement moves its window. -/
theorem step_ack_of_lending (s : Session η (List (Except NetError Unit)) φ) (free : s.link = [])
    (on : s.transfer.phase = .transferring) (put : s.transfer.direction = .put)
    {port : UInt16} (locked : s.transfer.serverPort = some port)
    {file : η} (opened : s.transfer.file = some file) (usable : Usable file s.volume)
    {payload : Bytes} {number : UInt16} {block : Nat}
    (read : TftpPacket.parse payload = .ok (.ack number))
    (found : s.transfer.acknowledged? number = some block) (fresh : block ≠ s.transfer.acked)
    (notLast : block ≠ s.transfer.finalBlock)
    (within : s.transfer.nextBlock ≤ (s.withAck block).transfer.windowEnd + 1) :
    ∃ file' volume' timer mark, Usable file' volume' ∧
      s.step Uplink.scripted (.datagram port payload) =
        ⟨{ (s.withAck block).transfer with
            file := some file', nextBlock := (s.withAck block).transfer.windowEnd + 1
            retries := 0, lastReport := mark },
          timer, [], volume'⟩ := by
  have sent := progress_sendWindow_of_lending lending (s.withAck block) free opened usable within
  rw [step_ack Uplink.scripted on put locked read, receiveAck_eq, found]
  dsimp only
  rw [if_neg fresh, if_neg notLast]
  exact sent

end Session

/-- What a sender finds its size to be. -/
theorem sizeOrZero_opened (up : Uplink σ) {job : TransferJob} (put : job.direction = .put)
    (file : η) (port : UInt16) (requested : TransferConfig) (link : σ) (volume : φ) :
    (opened up job file port requested link volume).transfer.sizeOrZero =
      (UInt64.ofNat (FileHandle.size file volume)).toNat := by
  obtain ⟨direction, server, localName, remote⟩ := job
  cases put
  rfl

/-- A file that fills 65535 blocks of eight octets. -/
def longFile : Bytes := List.replicate 524280 0

/-- A transfer of it whose interface takes everything. -/
def wholeTurn : Session RamFile (List (Except NetError Unit)) RamVolume :=
  Session.opened Uplink.scripted ⟨.put, ⟨10, 0, 0, 2⟩, "log", "log"⟩ ⟨"log", .read, 0⟩ 50000
    { blockSize := 8, windowSize := 65535, rollover := .one } [] ⟨[⟨"log", longFile.toArray⟩], none⟩

/-- What the server agrees to. -/
def wholeTurnOptions : TftpOptions :=
  { blockSize := some 8, windowSize := some 65535, rollover := some .one }

/-- The server agrees, and takes the first block. -/
def wholeTurnInputs : List (Input (List (Except NetError Unit)) RamVolume) :=
  [.datagram 69 (TftpPacket.optionAck wholeTurnOptions).octets,
    .datagram 69 (TftpPacket.ack 1).octets]

/-- The sender of the long file reads it from the start. -/
theorem reads_wholeTurn :
    RamVolume.ReadsFrom "log" longFile ⟨"log", .read, 0⟩ wholeTurn.volume 0 := ⟨rfl, rfl, rfl, rfl⟩

/-- The size of the long file is known. -/
theorem sizeOrZero_wholeTurn : wholeTurn.transfer.sizeOrZero = 524280 := by
  have length : longFile.length = 524280 := List.length_replicate
  have size : FileHandle.size (⟨"log", .read, 0⟩ : RamFile) wholeTurn.volume = longFile.length :=
    (RamVolume.readView "log" longFile (by rw [length]; decide)).size reads_wholeTurn
  rw [wholeTurn, sizeOrZero_opened _ rfl]
  refine (congrArg (fun n => (UInt64.ofNat n).toNat) (size.trans length)).trans ?_
  decide

/-- The server agrees, and the first window is on its way. -/
theorem wholeTurn_agreed : ∃ s, wholeTurn.step Uplink.scripted
      (.datagram 69 (TftpPacket.optionAck wholeTurnOptions).octets) = s ∧
    s.link = [] ∧ s.transfer.phase = .transferring ∧ s.transfer.direction = .put ∧
    s.transfer.serverPort = some 69 ∧ s.transfer.windowSize = 65535 ∧
    s.transfer.rollover = .one ∧ s.transfer.acked = 0 ∧ s.transfer.nextBlock = 65536 ∧
    s.transfer.finalBlock = 65536 ∧ ∃ file position, s.transfer.file = some file ∧
      RamVolume.ReadsFrom "log" longFile file s.volume position := by
  have read : TftpPacket.parse (TftpPacket.optionAck wholeTurnOptions).octets =
      .ok (.optionAck wholeTurnOptions) := by decide +kernel
  have hears : wholeTurn.Hears 69 := nofun
  have size : (wholeTurn.heard 69).transfer.sizeOrZero = 524280 := sizeOrZero_wholeTurn
  have agreed := acceptOptions_of_put (t := (wholeTurn.heard 69).transfer) (o := wholeTurnOptions)
    rfl (show (8 : UInt16) ≤ 8 by decide) (show (65535 : UInt16) ≤ 65535 by decide)
  rw [size] at agreed
  obtain ⟨file, volume, timer, mark, ⟨position, reads⟩, agreed⟩ :=
    step_options_of_lending (RamVolume.lending "log" longFile) wholeTurn rfl rfl rfl rfl
      ⟨0, reads_wholeTurn⟩ hears read agreed (Nat.le_add_left _ _)
  exact ⟨_, agreed, rfl, rfl, rfl, rfl, rfl, rfl, rfl, rfl, rfl, file, position, rfl, reads⟩

/-- After the first acknowledgement the whole window is on its way. -/
theorem wholeTurn_run :
    let t := (wholeTurn.run Uplink.scripted wholeTurnInputs).transfer
    t.phase = .transferring ∧ t.serverPort = some 69 ∧ t.windowSize = 65535 ∧ t.rollover = .one ∧
      t.acked = 1 ∧ t.nextBlock = 65537 := by
  obtain ⟨s, agreed, free, on, put, locked, window, rollover, acked, next, final, file, position,
    opened, reads⟩ := wholeTurn_agreed
  have read : TftpPacket.parse (TftpPacket.ack 1).octets = .ok (.ack 1) := by decide +kernel
  have number : wireBlock 1 s.transfer.rollover = 1 := by
    rw [rollover]
    rfl
  have found : s.transfer.acknowledged? 1 = some 1 := by
    have found := acknowledged?_of_outstanding (t := s.transfer) (n := 1) (by omega) (by omega)
      (by omega)
    rwa [number, if_neg fun aliased => absurd aliased.2.1 (by omega)] at found
  have moves : (s.withAck 1).transfer.windowEnd = 65536 := by
    show min (1 + s.transfer.windowSize.toNat) s.transfer.finalBlock = 65536
    rw [window, final]
    rfl
  obtain ⟨file', volume, timer, mark, -, moved⟩ :=
    step_ack_of_lending (RamVolume.lending "log" longFile) s free on put locked opened
      ⟨position, reads⟩ read found (by omega) (by omega) (by omega)
  rw [wholeTurnInputs, run_cons, run_cons, run_nil, agreed, moved, moves]
  exact ⟨on, locked, window, rollover, rfl, rfl⟩

/-- The acknowledgement of the last block but one is understood, and that of the last one is not. -/
theorem put_ack_names_block_wholeTurn :
    ((wholeTurn.run Uplink.scripted wholeTurnInputs).step Uplink.scripted
      (.datagram 69 (TftpPacket.ack 65535).octets)).transfer.acked = 65535 ∧
    ((wholeTurn.run Uplink.scripted wholeTurnInputs).step Uplink.scripted
      (.datagram 69 (TftpPacket.ack 1).octets)).transfer.acked = 1 := by
  have run := wholeTurn_run
  have names := put_ack_names_block Uplink.scripted ⟨.put, ⟨10, 0, 0, 2⟩, "log", "log"⟩ rfl
    (⟨"log", .read, 0⟩ : RamFile) ⟨[⟨"log", longFile.toArray⟩], none⟩ 50000
    { blockSize := 8, windowSize := 65535, rollover := .one } [] wholeTurnInputs
  unfold wholeTurn at run ⊢
  generalize (opened Uplink.scripted _ (⟨"log", .read, 0⟩ : RamFile) _ _ _ _).run Uplink.scripted
    wholeTurnInputs = s at run names ⊢
  obtain ⟨on, locked, window, rollover, acked, next⟩ := run
  dsimp only at names
  have named := names 65535 69 (TftpPacket.ack 65535).octets on locked (by omega) (by omega)
    (by rw [rollover]; decide +kernel)
  have aliased := names 65536 69 (TftpPacket.ack 1).octets on locked (by omega) (by omega)
    (by rw [rollover]; decide +kernel)
  refine ⟨(named.1 fun aliased => ?_).2, ?_⟩
  · exact absurd aliased.2.2 (by omega)
  · exact (aliased.2 ⟨rollover, by omega, by omega⟩).2.2.2.2.trans acked

/-- **An acknowledgement of an outstanding block may pass for a repeated one**: block 65536, the
last one of the file, is out, and its acknowledgement is found to name block 1, which is
acknowledged already. So the window is sent once more. -/
theorem not_put_ack_names_outstanding :
    let s := wholeTurn.run Uplink.scripted wholeTurnInputs
    s.transfer.phase = .transferring ∧ s.transfer.acked < 65536 ∧ 65536 < s.transfer.nextBlock ∧
      s.transfer.acknowledged? (wireBlock 65536 s.transfer.rollover) = some s.transfer.acked ∧
      s.receiveAck Uplink.scripted (wireBlock 65536 s.transfer.rollover) =
        (s.tell Uplink.scripted (.repeatedAck 1)).resendWindow Uplink.scripted := by
  have run := wholeTurn_run
  generalize wholeTurn.run Uplink.scripted wholeTurnInputs = s at run ⊢
  obtain ⟨on, -, window, rollover, acked, next⟩ := run
  have found := acknowledged?_of_outstanding (t := s.transfer) (n := 65536) (by omega) (by omega)
    (by omega)
  rw [if_pos ⟨rollover, by omega, by omega⟩] at found
  refine ⟨on, by omega, by omega, found, ?_⟩
  rw [receiveAck_eq, found, rollover]
  exact if_pos rfl

end Transfer

end PolledNet
