import PolledNet.Proofs.Core.Uplink
import PolledNet.Proofs.Tftp.Reaction

/-!
# What a transfer does to its interface

A transfer tells, counts and sends, and no more. So whatever it receives and whatever expires, it
moves its interface as these requests do (`moves_start`, `moves_receive`, `moves_expire`,
`moves_cancel`).
-/

namespace PolledNet

namespace Transfer

namespace Session

section Moves

variable {σ η φ : Type} {up : Uplink σ} {R : σ → σ → Prop} (moves : up.Moves R)
  (s : Session η σ φ)

include moves

/-! ## Single steps -/

/-- Telling the operator moves the link. -/
theorem moves_tell (e : TftpEvent) :
    R s.link (s.tell up e).link :=
  moves.tell (.tftp e) s.link

/-- A datagram that is sent to a port moves the link. -/
theorem moves_sendTo (port : UInt16) (p : TftpPacket) :
    R s.link (s.sendTo up port p).2.link :=
  moves.send _ _ _ _ s.link

/-- A packet that is sent to the server moves the link. -/
theorem moves_send (p : TftpPacket) :
    R s.link (s.send up p).2.link := moves_sendTo moves s _ p

/-- A request moves the link. -/
theorem moves_sendRequest : R s.link (s.sendRequest up).2.link :=
  moves.trans (moves_tell moves s _) (moves_sendTo moves _ _ _)

/-- A transfer that starts moves the link. -/
theorem moves_start : R s.link (s.start up).2.link :=
  moves_sendRequest moves (s.arm up)

/-- Progress moves the link by telling only, if at all. -/
theorem moves_progress : R s.link (s.progress up).link := by
  unfold progress
  dsimp only
  split
  · exact moves.tell _ s.link
  · exact moves.refl _

/-- An acknowledgement moves the link. -/
theorem moves_sendAck (block : Nat) :
    R s.link (s.sendAck up block).2.link :=
  moves.trans (moves_tell moves { s with transfer := { s.transfer with acked := block } } _)
    (moves_send moves _ _)

/-- A transfer that begins moves the link by telling only. -/
theorem moves_begun (t : Transfer η) :
    R s.link (s.begun up t).link :=
  moves.trans (moves.tell (.tftp (.agreed t.blockSize t.windowSize t.rollover t.size)) s.link)
    (moves_progress moves ({ s with transfer := { t with phase := .transferring } }.tell up
      (.agreed t.blockSize t.windowSize t.rollover t.size)))

/-! ## Ending -/

variable [FileHandle η φ]

/-- A transfer that finishes moves the link by telling only, if at all. -/
theorem moves_finish (result : Except TransferError Unit) :
    R s.link (s.finish up result).link := by
  unfold finish
  split
  · exact moves.refl _
  · have closed := s.closeFile_link
    generalize s.closeFile = closing at closed ⊢
    obtain ⟨answer, s₁⟩ := closing
    dsimp only at closed
    rw [← closed]
    exact moves.tell _ s₁.link

/-- A transfer that fails moves the link. -/
theorem moves_fail (cause : TransferError) (code : UInt16) :
    R s.link (s.fail up cause code).2.link := by
  have ended := moves_finish moves s (.error cause)
  unfold fail
  dsimp only
  split
  · exact moves.trans ended (moves_send moves _ _)
  · exact ended

/-- A transfer that is cancelled moves the link. -/
theorem moves_cancel : R s.link (s.cancel up).link := by
  have failed := moves_fail moves s .cancelled Tftp.errorNotDefined
  unfold cancel
  split <;> rename_i eq <;> rw [eq] at failed
  · exact failed
  · exact moves.trans failed (moves_tell moves _ _)

/-! ## Receiving a file -/

/-- Acknowledging and writing a window moves the link. -/
theorem moves_acknowledgeAndFlush :
    R s.link (s.acknowledgeAndFlush up).2.link := by
  have acknowledged := moves_sendAck moves s (s.transfer.nextBlock - 1)
  unfold acknowledgeAndFlush
  split <;> rename_i s₁ eq <;> rw [eq] at acknowledged
  · exact acknowledged
  · have flushed := s₁.flush_link
    split <;> rename_i s₂ eq' <;> rw [eq'] at flushed
    · exact flushed ▸ acknowledged
    · exact moves.trans (flushed ▸ acknowledged) (moves_fail moves _ _ _)

/-- Receiving a block moves the link. -/
theorem moves_receiveBlock (content : Bytes) :
    R s.link (s.receiveBlock up content).2.link := by
  have progressed := moves_progress moves (s.withBlock content)
  rw [receiveBlock_eq]
  split
  · have acknowledged :=
      moves.trans progressed
        (moves_acknowledgeAndFlush moves ((s.withBlock content).progress up))
    split <;> rename_i eq <;> rw [eq] at acknowledged
    · exact acknowledged
    · split
      · exact moves.trans acknowledged (moves_finish moves _ _)
      · exact acknowledged
  · exact progressed

/-- Receiving data moves the link. -/
theorem moves_receiveData (number : UInt16) (content : Bytes) :
    R s.link (s.receiveData up number content).2.link := by
  unfold receiveData
  split
  · exact moves_fail moves s _ _
  · split
    · exact moves_tell moves s _
    · exact moves_receiveBlock moves s _

/-! ## Sending a file -/

omit moves in
/-- Reading a block does not touch the link. -/
theorem readBlock_link (block : Nat) : (s.readBlock block).2.link = s.link := by
  unfold readBlock
  dsimp only
  split
  · rfl
  · split
    · rfl
    · split <;> rfl

/-- Sending blocks moves the link. -/
theorem moves_sendBlocks (count : Nat) :
    R s.link (s.sendBlocks up count).2.link := by
  induction count generalizing s with
  | zero => exact moves.refl _
  | succ count ih =>
    have read := s.readBlock_link s.transfer.nextBlock
    unfold sendBlocks
    dsimp only
    split <;> rename_i s₁ eq <;> rw [eq] at read
    · exact read ▸ moves_fail moves s₁ _ _
    · rename_i content
      have sent :=
        moves_send moves s₁ (.data (wireBlock s.transfer.nextBlock s₁.transfer.rollover) content)
      rw [read] at sent
      split <;> rename_i s₂ eq' <;> rw [eq'] at sent
      · exact sent
      · exact moves.trans sent
          (ih { s₂ with transfer := { s₂.transfer with nextBlock := s.transfer.nextBlock + 1 } })

/-- Sending a window moves the link. -/
theorem moves_sendWindow : R s.link (s.sendWindow up).2.link :=
  moves_sendBlocks moves s _

/-- Sending a window again moves the link. -/
theorem moves_resendWindow : R s.link (s.resendWindow up).2.link :=
  moves_sendWindow moves
    { s with transfer := { s.transfer with nextBlock := s.transfer.acked + 1 } }

/-- Receiving an acknowledgement moves the link. -/
theorem moves_receiveAck (number : UInt16) :
    R s.link (s.receiveAck up number).2.link := by
  rw [receiveAck_eq]
  split
  · exact moves.trans (moves_tell moves s _) (moves_fail moves _ _ _)
  · rename_i block _
    have progressed := moves_progress moves (s.withAck block)
    split
    · exact moves.trans (moves_tell moves s _) (moves_resendWindow moves _)
    · split
      · exact moves.trans progressed (moves_finish moves _ _)
      · exact moves.trans progressed (moves_sendWindow moves _)

/-! ## Whole handlers -/

/-- Receiving options moves the link. -/
theorem moves_receiveOptions (o : TftpOptions) :
    R s.link (s.receiveOptions up o).2.link := by
  cases agreed : s.transfer.acceptOptions o with
  | error e =>
    unfold receiveOptions
    rw [agreed]
    exact moves_fail moves s _ _
  | ok t =>
    rw [receiveOptions_of_ok up s agreed]
    split
    · exact moves.trans (moves_begun moves s t) (moves_sendAck moves _ _)
    · exact moves.trans (moves_begun moves s t) (moves_sendWindow moves _)

/-- Receiving a packet moves the link. -/
theorem moves_receivePacket {port : UInt16} (hears : s.Hears port) {payload : Bytes}
    {p : TftpPacket} (read : TftpPacket.parse payload = .ok p) :
    R s.link ((s.heard port).receivePacket up p).2.link := by
  have reacted := reaction_packet up hears read
  generalize ((s.heard port).receivePacket up p).2 = s' at reacted
  cases reacted with
  | foreign other => exact absurd hears other
  | malformed =>
    exact moves.trans (moves_tell moves (s.heard port) _) (moves.countMalformed _)
  | refused => exact moves.trans (moves_tell moves (s.heard port) _) (moves_finish moves _ _)
  | options => exact moves_receiveOptions moves (s.heard port) _
  | optionsAgain => exact moves_sendAck moves (s.heard port) _
  | block => exact moves_receiveData moves (s.heard port) _ _
  | ack => exact moves_receiveAck moves (s.heard port) _
  | misplaced => exact moves.trans (moves_tell moves (s.heard port) _) (moves_fail moves _ _ _)

/-- **Whatever a transfer receives.** -/
theorem moves_receive (port : UInt16) (payload : Bytes) :
    R s.link (s.receive up port payload).2.link := by
  by_cases done : s.transfer.phase = .done
  · rw [receive, if_pos done]
    exact moves.refl _
  · by_cases hears : s.Hears port
    · rw [receive_of_hears up done hears]
      unfold receiveContent
      split
      · exact moves.trans (moves_tell moves (s.heard port) _) (moves.countMalformed _)
      · rename_i read
        exact moves_receivePacket moves s hears read
    · rw [receive_of_not_hears up done hears]
      exact moves.trans (moves_tell moves s _) (moves_sendTo moves _ _ _)

/-- **Whatever expires.** -/
theorem moves_expire : R s.link (s.expire up).2.link := by
  by_cases done : s.transfer.phase = .done
  · rw [expire, if_pos done]
    exact moves.refl _
  · rw [expire_eq up s done]
    split
    · exact moves.trans (moves_tell moves s.counted _) (moves_fail moves _ _ _)
    · have retrying : R s.link (s.retrying up).link := moves_tell moves (s.counted.arm up) _
      refine moves.trans retrying ?_
      unfold retry
      split
      · exact moves_sendRequest moves _
      · exact moves_acknowledgeAndFlush moves _
      · exact moves_resendWindow moves _

end Moves

end Session

end Transfer

end PolledNet
