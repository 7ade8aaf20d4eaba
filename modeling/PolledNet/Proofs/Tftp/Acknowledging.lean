import PolledNet.Proofs.Tftp.Course
import PolledNet.Proofs.Tftp.Put

/-!
# When a receiver acknowledges, and what

A receiver acknowledges the last block of a window and the short block at the end, each at the
moment it takes that block (`Session.Fills`), and on the expiry of its timer the last block it has
taken. Apart from that it acknowledges the options, as block 0.

`Acknowledges` lists the acknowledgements among the datagrams that are handed over. What blocks are
counted and measured by stays (`Steady`), except where options are agreed on and where a block is
taken. `Receipt` puts the two together, with a constructor for each thing that an input can come to,
and `receipt` says that there are no others.
-/

namespace PolledNet

/-- The number that a datagram acknowledges, if it acknowledges any. -/
def Handed.ack? (d : Handed) : Option UInt16 := TftpPacket.ackOf? d.content

namespace Transfer

namespace Session

variable {η σ φ : Type}

/-! ## Acknowledgements handed over -/

section Acknowledges

variable {s s' s'' : Session η (Recorded σ) φ} {numbers numbers' : List UInt16}

/-- The numbers acknowledged between two moments, in order. -/
def acksIn (s s' : Session η (Recorded σ) φ) : List UInt16 := (s.handedIn s').filterMap Handed.ack?

/-- The record only grows, and these numbers are acknowledged. -/
def Acknowledges (numbers : List UInt16) (s s' : Session η (Recorded σ) φ) : Prop :=
  ∃ more, s'.link.handed = s.link.handed ++ more ∧ more.filterMap Handed.ack? = numbers

/-- The numbers acknowledged are those found in the record. -/
theorem Acknowledges.acksIn (h : Acknowledges numbers s s') : s.acksIn s' = numbers := by
  obtain ⟨more, eq, acks⟩ := h
  rw [Session.acksIn, handedIn, eq, List.drop_left, acks]

/-- What is acknowledged first comes before what is acknowledged then. -/
theorem Acknowledges.trans (first : Acknowledges numbers s s')
    (second : Acknowledges numbers' s' s'') : Acknowledges (numbers ++ numbers') s s'' := by
  obtain ⟨more, eq, acks⟩ := first
  obtain ⟨more', eq', acks'⟩ := second
  exact ⟨more ++ more', by rw [eq', eq, List.append_assoc], by
    rw [List.filterMap_append, acks, acks']⟩

/-- Datagrams that are no acknowledgements acknowledge nothing. -/
theorem Hands.acknowledges {Kind : Handed → Prop} (hands : Hands Kind s s')
    (none : ∀ d, Kind d → d.ack? = none) : Acknowledges [] s s' := by
  obtain ⟨more, eq, kind⟩ := hands
  exact ⟨more, eq, List.filterMap_eq_nil_iff.mpr fun d mem => none d (kind d mem)⟩

/-- If nothing is handed over, nothing is acknowledged. -/
theorem acknowledges_of_eq (same : s'.link.handed = s.link.handed) : Acknowledges [] s s' :=
  ⟨[], by rw [same, List.append_nil], rfl⟩

/-- Packets of another kind acknowledge nothing. -/
theorem Hands.acknowledges_packet {p : TftpPacket}
    (hands : Hands (fun d => d.content = p.octets) s s')
    (other : p.opcode ≠ Tftp.opAck) : Acknowledges [] s s' :=
  hands.acknowledges fun _ same =>
    (congrArg TftpPacket.ackOf? same).trans (TftpPacket.ackOf?_octets_of_ne other)

end Acknowledges

/-! ## What stays -/

/-- What blocks are counted and measured by stays. A transfer may end, and what is pending may be
done with. -/
structure Steady (t t' : Transfer η) : Prop where
  /-- The way the file goes. -/
  direction : t'.direction = t.direction
  /-- The size of a block. -/
  blockSize : t'.blockSize = t.blockSize
  /-- The size of a window. -/
  windowSize : t'.windowSize = t.windowSize
  /-- The rollover rule. -/
  rollover : t'.rollover = t.rollover
  /-- The next block. -/
  nextBlock : t'.nextBlock = t.nextBlock
  /-- The phase, short of an end. -/
  phase : t'.phase = t.phase ∨ t'.phase = .done
  /-- The blocks not yet written. -/
  pending : t'.pending = t.pending ∨ t'.pending = []

/-- A transfer that does not change is steady. -/
theorem Steady.refl (t : Transfer η) : Steady t t := ⟨rfl, rfl, rfl, rfl, rfl, .inl rfl, .inl rfl⟩

/-- A transfer that is steady twice is steady. -/
theorem Steady.trans {t t' t'' : Transfer η} (first : Steady t t') (second : Steady t' t'') :
    Steady t t'' where
  direction := second.direction.trans first.direction
  blockSize := second.blockSize.trans first.blockSize
  windowSize := second.windowSize.trans first.windowSize
  rollover := second.rollover.trans first.rollover
  nextBlock := second.nextBlock.trans first.nextBlock
  phase := by
    rcases second.phase with same | done
    · rw [same]
      exact first.phase
    · exact .inr done
  pending := by
    rcases second.pending with same | nothing
    · rw [same]
      exact first.pending
    · exact .inr nothing

section Steady

variable (up : Uplink σ) (s : Session η σ φ)

/-- Locking the server's port leaves the count and the measures alone. -/
theorem steady_heard (port : UInt16) : Steady s.transfer (s.heard port).transfer :=
  ⟨rfl, rfl, rfl, rfl, rfl, .inl rfl, .inl rfl⟩

/-- Counting a bad packet leaves the count and the measures alone. -/
theorem steady_counted : Steady s.transfer s.counted.transfer :=
  ⟨rfl, rfl, rfl, rfl, rfl, .inl rfl, .inl rfl⟩

/-- Progress leaves the count and the measures alone. -/
theorem steady_progress : Steady s.transfer (s.progress up).transfer := by
  rw [progress_transfer]
  exact ⟨rfl, rfl, rfl, rfl, rfl, .inl rfl, .inl rfl⟩

/-- A transfer that begins is steady from the state it begins in. -/
theorem steady_begun (t : Transfer η) :
    Steady { t with phase := .transferring } (s.begun up t).transfer :=
  steady_progress up ({ s with transfer := { t with phase := .transferring } }.tell up
    (.agreed t.blockSize t.windowSize t.rollover t.size))

/-- An acknowledgement that is sent leaves the count and the measures alone. -/
theorem steady_sendAck (block : Nat) : Steady s.transfer (s.sendAck up block).2.transfer :=
  ⟨rfl, rfl, rfl, rfl, rfl, .inl rfl, .inl rfl⟩

variable [FileHandle η φ]

/-- A transfer that finishes leaves the count and the measures alone. -/
theorem steady_finish (result : Except TransferError Unit) :
    Steady s.transfer (s.finish up result).transfer := by
  by_cases done : s.transfer.phase = .done
  · rw [finish_of_done up s done]
    exact .refl _
  · rw [finish_transfer up s done]
    exact ⟨rfl, rfl, rfl, rfl, rfl, .inr rfl, .inr rfl⟩

/-- A transfer that fails leaves the count and the measures alone. -/
theorem steady_fail (cause : TransferError) (code : UInt16) :
    Steady s.transfer (s.fail up cause code).2.transfer := by
  have finished := steady_finish up s (.error cause)
  unfold fail
  dsimp only
  split <;> exact finished

/-- A transfer that is cancelled leaves the count and the measures alone. -/
theorem steady_cancel : Steady s.transfer (s.cancel up).transfer := by
  rw [cancel_transfer]
  exact steady_fail up s _ _

/-- Writing what is pending leaves the count and the measures alone. -/
theorem steady_flush : Steady s.transfer s.flush.2.transfer := by
  obtain ⟨file, flushed⟩ := s.flush_transfer
  rw [flushed]
  exact ⟨rfl, rfl, rfl, rfl, rfl, .inl rfl, .inr rfl⟩

/-- Acknowledging and writing a window leaves the count and the measures alone. -/
theorem steady_acknowledgeAndFlush :
    Steady s.transfer (s.acknowledgeAndFlush up).2.transfer := by
  have acked := steady_sendAck up s (s.transfer.nextBlock - 1)
  unfold acknowledgeAndFlush
  split <;> rename_i s₁ eq <;> rw [eq] at acked
  · exact acked
  · have flushed := acked.trans s₁.steady_flush
    split <;> rename_i eq <;> rw [eq] at flushed
    · exact flushed
    · exact flushed.trans (steady_fail up _ _ _)

/-- Once a block is counted, receiving it leaves the count and the measures alone. -/
theorem steady_receiveBlock (content : Bytes) :
    Steady (s.withBlock content).transfer (s.receiveBlock up content).2.transfer := by
  have taken := steady_progress up (s.withBlock content)
  rw [receiveBlock_eq]
  split
  · have acknowledged :=
      taken.trans (steady_acknowledgeAndFlush up ((s.withBlock content).progress up))
    split <;> rename_i eq <;> rw [eq] at acknowledged
    · exact acknowledged
    · dsimp only
      split
      · exact acknowledged.trans (steady_finish up _ _)
      · exact acknowledged
  · exact taken

/-- The server's port may be known at the same time. -/
theorem steady_receiveBlock_heard (port : UInt16) (content : Bytes) :
    Steady (s.withBlock content).transfer
      ((s.heard port).receiveBlock up content).2.transfer := by
  have heard : Steady (s.withBlock content).transfer
      ((s.heard port).withBlock content).transfer :=
    ⟨rfl, rfl, rfl, rfl, rfl, .inl rfl, .inl rfl⟩
  exact heard.trans (steady_receiveBlock up (s.heard port) content)

end Steady

/-! ## What is acknowledged -/

/-- A block is acknowledged when it is taken: it is short, or it fills the window. -/
def Fills (s : Session η σ φ) (octets : Bytes) : Prop :=
  octets.length < s.transfer.blockSize.toNat ∨
    s.transfer.windowSize.toNat ≤ s.transfer.pending.length + 1

/-- It is computed whether a block is acknowledged. -/
instance (s : Session η σ φ) (octets : Bytes) : Decidable (s.Fills octets) :=
  inferInstanceAs (Decidable (_ ∨ _))

/-- A block that fills is acknowledged, and written with all that is pending. A short one ends the
transfer after that. -/
theorem receiveBlock_of_fills [FileHandle η φ] (up : Uplink σ) (s : Session η σ φ) {octets : Bytes}
    (fills : s.Fills octets) :
    s.receiveBlock up octets =
      match ((s.withBlock octets).progress up).acknowledgeAndFlush up with
      | (.error e, s') => (.error e, s')
      | (.ok (), s') =>
        (.ok (), if octets.length < s.transfer.blockSize.toNat then s'.finish up (.ok ())
          else s') :=
  (receiveBlock_eq up s octets).trans (if_pos fills)

/-- A block that does not fill is kept. -/
theorem receiveBlock_of_not_fills [FileHandle η φ] (up : Uplink σ) (s : Session η σ φ)
    {octets : Bytes} (more : ¬s.Fills octets) :
    s.receiveBlock up octets = (.ok (), (s.withBlock octets).progress up) :=
  (receiveBlock_eq up s octets).trans (if_neg more)

section Handlers

variable (up : Uplink σ) (s : Session η (Recorded σ) φ)

/-- The number that goes out is that of the block on the wire. -/
theorem acknowledges_sendAck (block : Nat) :
    Acknowledges [wireBlock block s.transfer.rollover] s (s.sendAck up.recording block).2 :=
  ⟨_, rfl, List.filterMap_cons_some (f := Handed.ack?) (TftpPacket.ackOf?_octets_ack _)⟩

/-- A request acknowledges nothing. -/
theorem acknowledges_sendRequest : Acknowledges [] s (s.sendRequest up.recording).2 := by
  refine Hands.acknowledges_packet (hands_packet up (s.tell up.recording _) _ _) ?_
  rw [requestPacket]
  split <;> rw [TftpPacket.opcode] <;> decide

variable [FileHandle η φ]

/-- An error acknowledges nothing. -/
theorem acknowledges_fail (cause : TransferError) (code : UInt16) :
    Acknowledges [] s (s.fail up.recording cause code).2 :=
  (hands_error up s cause code).acknowledges_packet (TftpPacket.opcode_error_ne _ _)

/-- Cancelling acknowledges nothing. -/
theorem acknowledges_cancel : Acknowledges [] s (s.cancel up.recording) :=
  (hands_error_cancel up s).acknowledges_packet (TftpPacket.opcode_error_ne _ _)

/-- Finishing acknowledges nothing. -/
theorem acknowledges_finish (result : Except TransferError Unit) :
    Acknowledges [] s (s.finish up.recording result) :=
  acknowledges_of_eq (finish_handed up s result)

/-- The last block that was taken is acknowledged once, whatever comes of it. -/
theorem acknowledges_acknowledgeAndFlush :
    Acknowledges [wireBlock (s.transfer.nextBlock - 1) s.transfer.rollover] s
      (s.acknowledgeAndFlush up.recording).2 := by
  have acked := acknowledges_sendAck up s (s.transfer.nextBlock - 1)
  unfold acknowledgeAndFlush
  split <;> rename_i s₁ eq <;> rw [eq] at acked
  · exact acked
  · have flushed := acked.trans (acknowledges_of_eq (congrArg Recorded.handed s₁.flush_link))
    split <;> rename_i eq <;> rw [eq] at flushed
    · exact flushed
    · exact flushed.trans (acknowledges_fail up _ _ _)

/-- **A block that is taken is acknowledged just if it is short or fills the window.** -/
theorem acknowledges_receiveBlock (octets : Bytes) :
    Acknowledges
      (if s.Fills octets then [wireBlock s.transfer.nextBlock s.transfer.rollover] else []) s
      (s.receiveBlock up.recording octets).2 := by
  have taken : Acknowledges [] s ((s.withBlock octets).progress up.recording) :=
    acknowledges_of_eq (progress_handed up (s.withBlock octets))
  have count : wireBlock (((s.withBlock octets).progress up.recording).transfer.nextBlock - 1)
      ((s.withBlock octets).progress up.recording).transfer.rollover =
        wireBlock s.transfer.nextBlock s.transfer.rollover := by
    rw [progress_transfer]
    rfl
  have acked := acknowledges_acknowledgeAndFlush up ((s.withBlock octets).progress up.recording)
  rw [count] at acked
  by_cases fills : s.Fills octets
  · rw [if_pos fills, receiveBlock_of_fills _ _ fills]
    have acknowledged := taken.trans acked
    split <;> rename_i eq <;> rw [eq] at acknowledged
    · exact acknowledged
    · dsimp only
      split
      · exact acknowledged.trans (acknowledges_finish up _ _)
      · exact acknowledged
  · rw [if_neg fills, receiveBlock_of_not_fills _ _ fills]
    exact taken

end Handlers

/-! ## Steps -/

/-- The block that is next comes from the server, and it is not too long. -/
structure Expects (s : Session η σ φ) (port number : UInt16) (octets : Bytes) : Prop where
  /-- The options are agreed on. -/
  on : s.transfer.phase = .transferring
  /-- It counts as the server's. -/
  hears : s.Hears port
  /-- It has the number of the next block. -/
  next : number = wireBlock s.transfer.nextBlock s.transfer.rollover
  /-- It is no longer than a block. -/
  fits : octets.length ≤ s.transfer.blockSize.toNat

/-- What a running receiver makes of an input. -/
inductive Receipt (s : Session η (Recorded σ) φ) :
    Input (Recorded σ) φ → Session η (Recorded σ) φ → Prop where
  /-- Nothing is acknowledged. -/
  | quiet {input : Input (Recorded σ) φ} {s' : Session η (Recorded σ) φ}
      (steady : Steady s.transfer s'.transfer) (acks : Acknowledges [] s s') : Receipt s input s'
  /-- The last block is acknowledged once more. -/
  | again {s' : Session η (Recorded σ) φ} (steady : Steady s.transfer s'.transfer)
      (acks : Acknowledges [wireBlock (s.transfer.nextBlock - 1) s.transfer.rollover] s s') :
      Receipt s .expiry s'
  /-- Options are agreed on. -/
  | options {port : UInt16} {payload : Bytes} {o : TftpOptions} {t : Transfer η}
      {s' : Session η (Recorded σ) φ} (read : TftpPacket.parse payload = .ok (.optionAck o))
      (negotiating : s.transfer.phase = .negotiating)
      (agreed : (s.heard port).transfer.acceptOptions o = .ok t)
      (locked : s'.transfer.serverPort = some port)
      (steady : Steady { t with phase := .transferring } s'.transfer)
      (acks : Acknowledges [0] s s') : Receipt s (.datagram port payload) s'
  /-- They are acknowledged once more. -/
  | optionsAgain {port : UInt16} {payload : Bytes} {o : TftpOptions}
      {s' : Session η (Recorded σ) φ} (read : TftpPacket.parse payload = .ok (.optionAck o))
      (on : s.transfer.phase = .transferring) (first : s.transfer.acked = 0)
      (steady : Steady s.transfer s'.transfer) (acks : Acknowledges [0] s s') :
      Receipt s (.datagram port payload) s'
  /-- The next block is taken. -/
  | block {port number : UInt16} {payload octets : Bytes} {s' : Session η (Recorded σ) φ}
      (read : TftpPacket.parse payload = .ok (.data number octets))
      (expected : s.Expects port number octets)
      (steady : Steady (s.withBlock octets).transfer s'.transfer)
      (acks : Acknowledges (if s.Fills octets then [number] else []) s s') :
      Receipt s (.datagram port payload) s'

section Receipt

variable (up : Uplink σ) {s : Session η (Recorded σ) φ}

/-- The options of the server are acknowledged by the number zero. -/
theorem acknowledges_sendAck_options : Acknowledges [0] s (s.sendAck up.recording 0).2 := by
  have acked := acknowledges_sendAck up s 0
  rwa [wireBlock_zero] at acked

variable [FileHandle η φ]

/-- What fails is quiet, also if the server's port was learned or the timer counted before. -/
theorem Receipt.of_fail (s₁ : Session η (Recorded σ) φ) {input : Input (Recorded σ) φ}
    (steady : Steady s.transfer s₁.transfer) (same : s₁.link.handed = s.link.handed)
    (cause : TransferError) (code : UInt16) : Receipt s input (s₁.fail up.recording cause code).2 :=
  .quiet (steady.trans (steady_fail up.recording s₁ cause code))
    ((acknowledges_of_eq same).trans (acknowledges_fail up s₁ cause code))

/-- A receiver that negotiates acknowledges the options, or ends without an acknowledgement. -/
theorem receipt_options (get : s.transfer.direction = .get) {port : UInt16} {payload : Bytes}
    {o : TftpOptions} (read : TftpPacket.parse payload = .ok (.optionAck o))
    (negotiating : s.transfer.phase = .negotiating) :
    Receipt s (.datagram port payload) ((s.heard port).receiveOptions up.recording o).2 := by
  cases agreed : (s.heard port).transfer.acceptOptions o with
  | error e =>
    unfold receiveOptions
    rw [agreed]
    exact .of_fail up (s.heard port) (steady_heard s port) rfl _ _
  | ok t =>
    have adopted := acceptOptions_get (t := (s.heard port).transfer) get agreed
    have get' : t.direction = .get := by
      rw [adopted]
      exact get
    have locked : ((s.heard port).begun up.recording t).transfer.serverPort = some port := by
      rw [begun, progress_transfer, tell_transfer, adopted]
      rfl
    have quiet : Acknowledges [] s ((s.heard port).begun up.recording t) :=
      acknowledges_of_eq (progress_handed up _)
    rw [receiveOptions_of_ok _ _ agreed, get']
    have begun := steady_begun up.recording (s.heard port) t
    exact .options read negotiating agreed locked (begun.trans (steady_sendAck up.recording _ 0))
      (quiet.trans (acknowledges_sendAck_options up))

/-- A receiver makes of a block what it may make of an input. -/
theorem receipt_block (on : s.transfer.phase = .transferring) {port number : UInt16}
    {payload octets : Bytes} (hears : s.Hears port)
    (read : TftpPacket.parse payload = .ok (.data number octets)) :
    Receipt s (.datagram port payload)
      ((s.heard port).receiveData up.recording number octets).2 := by
  unfold receiveData
  split
  · exact .of_fail up (s.heard port) (steady_heard s port) rfl _ _
  · rename_i fits
    split
    · exact .quiet (steady_heard s port) (acknowledges_of_eq rfl)
    · rename_i next
      have expected : s.Expects port number octets :=
        ⟨on, hears, Decidable.not_not.mp next, Nat.not_lt.mp fits⟩
      refine .block read expected (steady_receiveBlock_heard up.recording s port octets) ?_
      rw [expected.next]
      exact acknowledges_receiveBlock up (s.heard port) octets

/-- **There are no other receipts.** -/
theorem receipt (live : s.Live) (get : s.transfer.direction = .get) {input : Input (Recorded σ) φ}
    (own : s.KeepsRecord input) : Receipt s input (s.step up.recording input) := by
  have reaction := reaction up.recording live.running live.outcome input
  generalize s.step up.recording input = s' at reaction ⊢
  cases reaction with
  | elapsed => exact .quiet (.refl _) (acknowledges_of_eq own)
  | foreign =>
    exact .quiet (.refl _) ((hands_packet up (s.tell up.recording _) _ _).acknowledges_packet
      (TftpPacket.opcode_error_ne _ _))
  | @malformed port => exact .quiet (steady_heard s port) (acknowledges_of_eq rfl)
  | @refused port _ code text =>
    exact .quiet ((steady_heard s port).trans (steady_finish up.recording
        ((s.heard port).tell up.recording (.serverError code text)) _))
      (acknowledges_finish up ((s.heard port).tell up.recording (.serverError code text)) _)
  | options _ read negotiating => exact receipt_options up get read negotiating
  | @optionsAgain port _ _ _ read on _ first =>
    exact .optionsAgain read on first
      ((steady_heard s port).trans (steady_sendAck up.recording (s.heard port) 0))
      (acknowledges_sendAck_options (s := s.heard port) up)
  | block hears read on => exact receipt_block up on hears read
  | ack _ _ _ put => cases get.symm.trans put
  | @misplaced port _ _ _ _ event =>
    exact .of_fail up ((s.heard port).tell up.recording event) (steady_heard s port) rfl _ _
  | gaveUp =>
    exact .of_fail (s := s) up ({ s with timer := Timer.idle }.counted.tell up.recording
      (.givingUp s.transfer.requested.maxRetries)) (steady_counted s) rfl _ _
  | requestedAgain =>
    exact .quiet (steady_counted s)
      (acknowledges_sendRequest up ({ s with timer := Timer.idle }.retrying up.recording))
  | acknowledgedAgain =>
    exact .again ((steady_counted s).trans (steady_acknowledgeAndFlush up.recording
        ({ s with timer := Timer.idle }.retrying up.recording)))
      (acknowledges_acknowledgeAndFlush up ({ s with timer := Timer.idle }.retrying up.recording))
  | resent _ _ put => cases get.symm.trans put
  | cancelled => exact .quiet (steady_cancel up.recording s) (acknowledges_cancel up s)

end Receipt

/-! ## Runs -/

/-- A transfer that receives a file, at any time. -/
structure Fetches (t : Transfer η) : Prop where
  /-- The file comes to us. -/
  direction : t.direction = .get
  /-- Nothing is received before the options are agreed on. -/
  fresh : t.phase = .negotiating → t.nextBlock = 1 ∧ t.pending = []
  /-- A window has a block. -/
  window : t.phase = .transferring → 0 < t.windowSize.toNat

/-- A receiver that is steady stays a receiver. -/
theorem Steady.fetches {t t' : Transfer η} (steady : Steady t t') (h : Fetches t) :
    Fetches t' where
  direction := steady.direction.trans h.direction
  fresh negotiating := by
    have before : t.phase = .negotiating :=
      (steady.phase.resolve_right (by rw [negotiating]; nofun)).symm.trans negotiating
    obtain ⟨next, nothing⟩ := h.fresh before
    refine ⟨steady.nextBlock.trans next, ?_⟩
    exact steady.pending.elim (·.trans nothing) id
  window on := by
    have before : t.phase = .transferring :=
      (steady.phase.resolve_right (by rw [on]; nofun)).symm.trans on
    rw [steady.windowSize]
    exact h.window before

section Runs

variable [FileHandle η φ] {up : Uplink σ} {s s' : Session η (Recorded σ) φ}
  {input : Input (Recorded σ) φ}

omit [FileHandle η φ] in
/-- A receiver stays one. -/
theorem Receipt.fetches (receipt : Receipt s input s') (h : Fetches s.transfer) :
    Fetches s'.transfer := by
  cases receipt with
  | quiet steady => exact steady.fetches h
  | again steady => exact steady.fetches h
  | optionsAgain _ _ _ steady => exact steady.fetches h
  | block _ expected steady =>
    refine steady.fetches ⟨h.direction, ?_, h.window⟩
    intro negotiating
    cases expected.on.symm.trans negotiating
  | @options port _ o t _ read negotiating agreed _ steady =>
    have adopted := acceptOptions_get (t := (s.heard port).transfer) h.direction agreed
    refine steady.fetches ⟨?_, nofun, fun _ => ?_⟩
    · rw [adopted]
      exact h.direction
    · rw [adopted]
      exact (TftpPacket.inRange_of_parse read).window_pos

/-- A receiver at any time of a run: it is running, or it is done and has an outcome. -/
structure Fetcher (s : Session η (Recorded σ) φ) : Prop where
  /-- The transfer receives a file. -/
  fetches : Fetches s.transfer
  /-- It is running or done. -/
  state : s.Live ∨ s.transfer.phase = .done ∧ s.transfer.outcome ≠ none

/-- A receiver stays a receiver whatever comes. -/
theorem Fetcher.step (h : Fetcher s) (own : s.KeepsRecord input) :
    Fetcher (s.step up.recording input) := by
  rcases h.state with live | ⟨done, finished⟩
  · exact ⟨(receipt up live h.fetches.direction own).fetches h.fetches, live.step input⟩
  · have same := step_transfer_of_done up.recording done input
    refine ⟨?_, .inr ⟨?_, ?_⟩⟩
    · rw [same]
      exact h.fetches
    · rw [same]
      exact done
    · rw [same]
      exact finished

/-- A transfer that is asked to receive a file starts as a receiver. -/
theorem Fetcher.opened (up : Uplink σ) {job : TransferJob} (get : job.direction = .get) (file : η)
    (port : UInt16) (requested : TransferConfig) (link : Recorded σ) (volume : φ) :
    Fetcher (Session.opened up.recording job file port requested link volume) := by
  refine ⟨?_, .inl (live_opened up.recording job file port requested link volume)⟩
  rw [Session.opened, start_transfer]
  refine ⟨get, fun _ => ⟨rfl, rfl⟩, ?_⟩
  intro transferring
  cases transferring

/-- **A receiver stays one throughout a run.** -/
theorem Fetcher.run (h : Fetcher s) {inputs : List (Input (Recorded σ) φ)}
    (own : s.Along up.recording KeepsRecord inputs) : Fetcher (s.run up.recording inputs) :=
  run_induction up.recording (motive := Fetcher) (fun _ _ fetcher own => fetcher.step own) h own

end Runs

/-! ## Each acknowledgement -/

section Acks

variable [FileHandle η φ] {up : Uplink σ} {s : Session η (Recorded σ) φ}

/-- The input agrees to options while nothing of the file is acknowledged. -/
def AgreesFirst (s : Session η σ φ) : Input σ φ → Prop
  | .datagram _ payload =>
    (∃ o, TftpPacket.parse payload = .ok (.optionAck o)) ∧
      (s.transfer.phase = .negotiating ∨ s.transfer.phase = .transferring ∧ s.transfer.acked = 0)
  | _ => False

/-- What is done acknowledges nothing. -/
theorem acksIn_of_done (done : s.transfer.phase = .done) (finished : s.transfer.outcome ≠ none)
    {input : Input (Recorded σ) φ} (own : s.KeepsRecord input) :
    s.acksIn (s.step up.recording input) = [] :=
  (acknowledges_of_eq (handed_of_done up done finished own)).acksIn

/-- **What is acknowledged is the last block that was taken**, or the options. -/
theorem Fetcher.acksIn (h : Fetcher s) {input : Input (Recorded σ) φ} (own : s.KeepsRecord input)
    {number : UInt16} (mem : number ∈ s.acksIn (s.step up.recording input)) :
    number = wireBlock ((s.step up.recording input).transfer.nextBlock - 1)
        (s.step up.recording input).transfer.rollover ∨
      number = 0 ∧ s.AgreesFirst input := by
  rcases h.state with live | ⟨done, finished⟩
  · have receipt := receipt up live h.fetches.direction own
    generalize s.step up.recording input = s' at receipt mem ⊢
    cases receipt with
    | quiet _ acks =>
      rw [acks.acksIn] at mem
      cases mem
    | again steady acks =>
      rw [acks.acksIn, List.mem_singleton] at mem
      rw [steady.nextBlock, steady.rollover]
      exact .inl mem
    | options read negotiating _ _ _ acks =>
      rw [acks.acksIn, List.mem_singleton] at mem
      exact .inr ⟨mem, ⟨_, read⟩, .inl negotiating⟩
    | optionsAgain read on first _ acks =>
      rw [acks.acksIn, List.mem_singleton] at mem
      exact .inr ⟨mem, ⟨_, read⟩, .inr ⟨on, first⟩⟩
    | block _ expected steady acks =>
      rw [acks.acksIn] at mem
      split at mem
      · rw [steady.nextBlock, steady.rollover]
        exact .inl ((List.mem_singleton.mp mem).trans expected.next)
      · cases mem
  · rw [acksIn_of_done done finished own] at mem
    cases mem

/-- The input is the block that is next. -/
def Takes (s : Session η σ φ) : Input σ φ → Prop
  | .datagram server payload =>
    ∃ number octets, TftpPacket.parse payload = .ok (.data number octets) ∧
      s.Expects server number octets
  | _ => False

/-- **A block that is taken is counted**, and acknowledged just if it fills. -/
theorem Fetcher.step_of_expects (h : Fetcher s) {server number : UInt16} {payload octets : Bytes}
    (read : TftpPacket.parse payload = .ok (.data number octets))
    (expected : s.Expects server number octets) :
    Steady (s.withBlock octets).transfer
        (s.step up.recording (.datagram server payload)).transfer ∧
      s.acksIn (s.step up.recording (.datagram server payload)) =
        if s.Fills octets then [number] else [] := by
  obtain ⟨on, hears, rfl, fits⟩ := expected
  rw [step_block up.recording on h.fetches.direction hears read fits]
  exact ⟨steady_receiveBlock_heard up.recording s server octets,
    Acknowledges.acksIn (s := s) (acknowledges_receiveBlock up (s.heard server) octets)⟩

/-- **Any other input counts nothing**, and no other block is acknowledged. -/
theorem Fetcher.step_of_not_takes (h : Fetcher s) {input : Input (Recorded σ) φ}
    (own : s.KeepsRecord input) (other : ¬s.Takes input) :
    (s.step up.recording input).transfer.nextBlock = s.transfer.nextBlock ∧
      ∀ server payload number octets, input = .datagram server payload →
        TftpPacket.parse payload = .ok (.data number octets) →
        s.acksIn (s.step up.recording input) = [] := by
  rcases h.state with live | ⟨done, finished⟩
  · have receipt := receipt up live h.fetches.direction own
    generalize s.step up.recording input = s' at receipt ⊢
    cases receipt with
    | quiet steady acks => exact ⟨steady.nextBlock, fun _ _ _ _ _ _ => acks.acksIn⟩
    | again steady => exact ⟨steady.nextBlock, nofun⟩
    | @options port _ _ t _ read _ agreed _ steady =>
      refine ⟨steady.nextBlock.trans ?_, ?_⟩
      · rw [acceptOptions_get (t := (s.heard port).transfer) h.fetches.direction agreed]
        rfl
      · rintro _ _ _ _ ⟨⟩ read'
        cases read.symm.trans read'
    | optionsAgain read _ _ steady =>
      refine ⟨steady.nextBlock, ?_⟩
      rintro _ _ _ _ ⟨⟩ read'
      cases read.symm.trans read'
    | block read expected => exact absurd ⟨_, _, read, expected⟩ other
  · rw [step_transfer_of_done up.recording done, acksIn_of_done done finished own]
    exact ⟨rfl, fun _ _ _ _ _ _ => rfl⟩

end Acks

end Session

end Transfer

end PolledNet
