import PolledNet.Proofs.Core.Notes
import PolledNet.Proofs.Tftp.Reaction

/-!
# One transfer on two interfaces

A transfer knows its interface by the answers alone. If a map leads from the states of one interface
to those of another that gives the same answers (`Uplink.Projects`), it leads from the sessions of
the one to those of the other: each handler answers the same on both and does the same to the
transfer, its timer and its volume. So does every run (`onto_run`).
-/

namespace PolledNet

namespace Transfer

variable {η σ τ φ : Type}

/-- The input as the other interface has it. -/
def Input.onto (f : σ → τ) : Input σ φ → Input τ φ
  | .datagram sourcePort payload => .datagram sourcePort payload
  | .expiry => .expiry
  | .cancel => .cancel
  | .elapse link volume => .elapse (f link) volume

namespace Session

/-- The session on the other interface. -/
def onto (f : σ → τ) (s : Session η σ φ) : Session η τ φ :=
  ⟨s.transfer, s.timer, f s.link, s.volume⟩

/-- The transfer is the same on the other interface. -/
@[simp] theorem onto_transfer (f : σ → τ) (s : Session η σ φ) :
    (s.onto f).transfer = s.transfer := rfl

/-- The state of the other interface is what the map makes of the first. -/
@[simp] theorem onto_link (f : σ → τ) (s : Session η σ φ) : (s.onto f).link = f s.link := rfl

section Projects

variable {up : Uplink σ} {up' : Uplink τ} {f : σ → τ} (projects : up.Projects up' f)
  (s : Session η σ φ)

include projects

/-! ## Talking to the interface -/

/-- Telling the operator is the same on both interfaces. -/
theorem onto_tell (e : TftpEvent) : (s.onto f).tell up' e = (s.tell up e).onto f := by
  unfold tell
  exact congrArg (Session.mk s.transfer s.timer · s.volume) (projects.tell _ s.link)

/-- Arming the timer is the same on both interfaces. -/
theorem onto_arm : (s.onto f).arm up' = (s.arm up).onto f := by
  unfold arm
  exact congrArg (fun now => Session.mk s.transfer (Timer.arm now _) (f s.link) s.volume)
    (projects.now s.link)

/-- Sending a datagram to a port is the same on both interfaces. -/
theorem onto_sendTo (port : UInt16) (p : TftpPacket) :
    (s.onto f).sendTo up' port p = Prod.map id (onto f) (s.sendTo up port p) := by
  unfold sendTo
  rw [onto_transfer, onto_link, projects.send]
  rfl

/-- Sending a packet is the same on both interfaces. -/
theorem onto_send (p : TftpPacket) :
    (s.onto f).send up' p = Prod.map id (onto f) (s.send up p) := onto_sendTo projects s _ p

/-- Sending the request is the same on both interfaces. -/
theorem onto_sendRequest :
    (s.onto f).sendRequest up' = Prod.map id (onto f) (s.sendRequest up) := by
  unfold sendRequest
  dsimp only
  rw [← onto_sendTo projects, ← onto_tell projects]
  rfl

/-- Progress is the same on both interfaces. -/
theorem onto_progress : (s.onto f).progress up' = (s.progress up).onto f := by
  unfold progress
  rw [onto_link, projects.now, onto_arm projects]
  dsimp only [onto_transfer]
  split
  · exact onto_tell projects
      { s.arm up with
        transfer := { s.transfer with retries := 0, lastReport := up.now s.link } } _
  · rfl

/-- Sending an acknowledgement is the same on both interfaces. -/
theorem onto_sendAck (block : Nat) :
    (s.onto f).sendAck up' block = Prod.map id (onto f) (s.sendAck up block) := by
  unfold sendAck
  dsimp only
  rw [← onto_send projects, ← onto_tell projects]
  rfl

/-! ## Ending -/

variable [FileHandle η φ]

omit projects in
/-- Closing the file has nothing to do with the interface. -/
theorem onto_closeFile : (s.onto f).closeFile = Prod.map id (onto f) s.closeFile := by
  rcases s with ⟨⟨_, _, _, _, _, _, _ | file⟩, _, _, _⟩ <;> rfl

/-- Finishing is the same on both interfaces. -/
theorem onto_finish (result : Except TransferError Unit) :
    (s.onto f).finish up' result = (s.finish up result).onto f := by
  unfold finish
  rw [onto_transfer, onto_closeFile]
  split
  · rfl
  · obtain ⟨closed, s₁⟩ := s.closeFile
    dsimp only [Prod.map, onto_transfer, onto_link]
    rw [← onto_tell projects, projects.now]
    rfl

/-- Failing is the same on both interfaces. -/
theorem onto_fail (cause : TransferError) (code : UInt16) :
    (s.onto f).fail up' cause code = Prod.map id (onto f) (s.fail up cause code) := by
  unfold fail
  dsimp only
  rw [onto_finish projects, onto_send projects, onto_transfer]
  split <;> rfl

/-- Cancelling is the same on both interfaces. -/
theorem onto_cancel : (s.onto f).cancel up' = (s.cancel up).onto f := by
  unfold cancel
  rw [onto_fail projects]
  obtain ⟨answer, s₁⟩ := s.fail up .cancelled Tftp.errorNotDefined
  cases answer with
  | ok => rfl
  | error e => exact onto_tell projects s₁ _

/-! ## Receiving a file -/

omit projects in
/-- Writing what is pending has nothing to do with the interface. -/
theorem onto_flush : (s.onto f).flush = Prod.map id (onto f) s.flush := by
  rcases s with ⟨⟨_, _, _, _, _, _, _ | file⟩, _, _, _⟩ <;> rfl

/-- Acknowledging and writing a window is the same on both interfaces. -/
theorem onto_acknowledgeAndFlush :
    (s.onto f).acknowledgeAndFlush up' = Prod.map id (onto f) (s.acknowledgeAndFlush up) := by
  unfold acknowledgeAndFlush
  rw [onto_sendAck projects, onto_transfer]
  obtain ⟨answer, s₁⟩ := s.sendAck up (s.transfer.nextBlock - 1)
  cases answer with
  | error e => rfl
  | ok =>
    dsimp only [Prod.map, id]
    rw [onto_flush]
    obtain ⟨answer, s₂⟩ := s₁.flush
    cases answer with
    | ok => rfl
    | error e => exact onto_fail projects s₂ _ _

/-- Receiving a block is the same on both interfaces. -/
theorem onto_receiveBlock (content : Bytes) :
    (s.onto f).receiveBlock up' content = Prod.map id (onto f) (s.receiveBlock up content) := by
  have progressed : ((s.onto f).withBlock content).progress up' =
      ((s.withBlock content).progress up).onto f := onto_progress projects (s.withBlock content)
  rw [receiveBlock_eq, receiveBlock_eq, progressed, onto_transfer]
  split
  · rw [onto_acknowledgeAndFlush projects]
    obtain ⟨answer, s₁⟩ := ((s.withBlock content).progress up).acknowledgeAndFlush up
    cases answer with
    | error e => rfl
    | ok =>
      dsimp only [Prod.map, id]
      rw [onto_finish projects]
      split <;> rfl
  · rfl

/-- Receiving data is the same on both interfaces. -/
theorem onto_receiveData (number : UInt16) (content : Bytes) :
    (s.onto f).receiveData up' number content =
      Prod.map id (onto f) (s.receiveData up number content) := by
  unfold receiveData
  rw [onto_fail projects, onto_tell projects, onto_receiveBlock projects, onto_transfer]
  split
  · rfl
  · split <;> rfl

/-! ## Sending a file -/

omit projects in
/-- Reading a block has nothing to do with the interface. -/
theorem onto_readBlock (block : Nat) :
    (s.onto f).readBlock block = Prod.map id (onto f) (s.readBlock block) := by
  unfold readBlock
  dsimp only [onto]
  split
  · rfl
  · split
    · rfl
    · split <;> rfl

/-- Sending blocks is the same on both interfaces. -/
theorem onto_sendBlocks (count : Nat) :
    (s.onto f).sendBlocks up' count = Prod.map id (onto f) (s.sendBlocks up count) := by
  induction count generalizing s with
  | zero => rfl
  | succ count ih =>
    unfold sendBlocks
    dsimp only
    rw [onto_readBlock, onto_transfer]
    obtain ⟨answer, s₁⟩ := s.readBlock s.transfer.nextBlock
    cases answer with
    | error e => exact onto_fail projects s₁ _ _
    | ok content =>
      dsimp only [Prod.map, id, onto_transfer]
      rw [onto_send projects]
      obtain ⟨answer, s₂⟩ :=
        s₁.send up (.data (wireBlock s.transfer.nextBlock s₁.transfer.rollover) content)
      cases answer with
      | error e => rfl
      | ok => exact ih { s₂ with transfer := { s₂.transfer with nextBlock := _ } }

/-- Sending a window is the same on both interfaces. -/
theorem onto_sendWindow :
    (s.onto f).sendWindow up' = Prod.map id (onto f) (s.sendWindow up) :=
  onto_sendBlocks projects s _

/-- Sending a window again is the same on both interfaces. -/
theorem onto_resendWindow :
    (s.onto f).resendWindow up' = Prod.map id (onto f) (s.resendWindow up) :=
  onto_sendWindow projects
    { s with transfer := { s.transfer with nextBlock := s.transfer.acked + 1 } }

/-- Receiving an acknowledgement is the same on both interfaces. -/
theorem onto_receiveAck (number : UInt16) :
    (s.onto f).receiveAck up' number = Prod.map id (onto f) (s.receiveAck up number) := by
  rw [receiveAck_eq, receiveAck_eq, onto_transfer]
  split
  · rw [onto_tell projects, onto_fail projects]
  · rename_i block _
    have progressed : ((s.onto f).withAck block).progress up' =
        ((s.withAck block).progress up).onto f := onto_progress projects (s.withAck block)
    rw [progressed, onto_tell projects, onto_resendWindow projects, onto_finish projects,
      onto_sendWindow projects]
    split
    · rfl
    · split <;> rfl

/-! ## Packets -/

/-- Receiving options is the same on both interfaces. -/
theorem onto_receiveOptions (o : TftpOptions) :
    (s.onto f).receiveOptions up' o = Prod.map id (onto f) (s.receiveOptions up o) := by
  cases agreed : s.transfer.acceptOptions o with
  | error e =>
    have agreed' : (s.onto f).transfer.acceptOptions o = .error e := agreed
    unfold receiveOptions
    rw [agreed, agreed']
    exact onto_fail projects s _ _
  | ok t =>
    have agreed' : (s.onto f).transfer.acceptOptions o = .ok t := agreed
    have begun : (s.onto f).begun up' t = (s.begun up t).onto f := by
      rw [Session.begun, Session.begun, ← onto_progress projects, ← onto_tell projects]
      rfl
    rw [receiveOptions_of_ok up s agreed, receiveOptions_of_ok up' (s.onto f) agreed', begun]
    split
    · exact onto_sendAck projects _ _
    · exact onto_sendWindow projects _

/-- Receiving a packet is the same on both interfaces. -/
theorem onto_receivePacket (p : TftpPacket) :
    (s.onto f).receivePacket up' p = Prod.map id (onto f) (s.receivePacket up p) := by
  unfold receivePacket
  simp only [onto_tell projects, onto_finish projects, onto_fail projects,
    onto_receiveOptions projects, onto_receiveData projects, onto_receiveAck projects,
    onto_sendAck projects, onto_transfer]
  split
  case h_7 => split <;> split <;> rfl
  all_goals rfl

/-- Receiving a payload is the same on both interfaces. -/
theorem onto_receiveContent (payload : Bytes) :
    (s.onto f).receiveContent up' payload =
      Prod.map id (onto f) (s.receiveContent up payload) := by
  unfold receiveContent
  split
  · rw [onto_tell projects]
    exact congrArg (fun link => (_, Session.mk s.transfer s.timer link s.volume))
      (projects.countMalformed (s.tell up (.malformed _)).link)
  · exact onto_receivePacket projects s _

/-- **Whatever a transfer receives.** -/
theorem onto_receive (port : UInt16) (payload : Bytes) :
    (s.onto f).receive up' port payload = Prod.map id (onto f) (s.receive up port payload) := by
  unfold receive
  rw [onto_transfer]
  split
  · rfl
  · split
    · exact onto_receiveContent projects (s.heard port) payload
    · rw [onto_receiveContent projects, onto_tell projects, onto_sendTo projects]
      split <;> rfl

/-! ## Expiry -/

/-- Retrying is the same on both interfaces. -/
theorem onto_retry : (s.onto f).retry up' = Prod.map id (onto f) (s.retry up) := by
  unfold retry
  rw [onto_transfer, onto_sendRequest projects, onto_acknowledgeAndFlush projects,
    onto_resendWindow projects]
  split <;> rfl

/-- **Whatever expires.** -/
theorem onto_expire : (s.onto f).expire up' = Prod.map id (onto f) (s.expire up) := by
  by_cases done : s.transfer.phase = .done
  · rw [expire, expire, onto_transfer, if_pos done, if_pos done]
    rfl
  · have counted : (s.onto f).counted = s.counted.onto f := rfl
    have retrying : (s.onto f).retrying up' = (s.retrying up).onto f := by
      rw [Session.retrying, Session.retrying, counted, onto_arm projects, onto_tell projects]
      rfl
    rw [expire_eq up s done, expire_eq up' (s.onto f) done, onto_transfer, counted,
      onto_tell projects, onto_fail projects, retrying, onto_retry projects]
    split <;> rfl

/-! ## Runs -/

/-- **Every input does on both interfaces the same to the transfer.** -/
theorem onto_step (input : Input σ φ) :
    (s.onto f).step up' (input.onto f) = (s.step up input).onto f := by
  cases input with
  | datagram port payload => exact congrArg Prod.snd (onto_receive projects s port payload)
  | expiry => exact congrArg Prod.snd (onto_expire projects { s with timer := Timer.idle })
  | cancel =>
    dsimp only [step, Input.onto]
    rw [onto_transfer, onto_cancel projects]
    split <;> rfl
  | elapse link volume => rfl

/-- **So does every run.** -/
theorem onto_run (inputs : List (Input σ φ)) :
    (s.onto f).run up' (inputs.map (Input.onto f)) = (s.run up inputs).onto f := by
  induction inputs generalizing s with
  | nil => rfl
  | cons input rest ih => rw [List.map_cons, run_cons, run_cons, onto_step projects, ih]

/-- Two sessions that are the same on the other interface stay so, as long as what reaches them is
the same there. -/
theorem onto_run_congr {s s' : Session η σ φ} (same : s.onto f = s'.onto f)
    {inputs inputs' : List (Input σ φ)}
    (alike : inputs.map (Input.onto f) = inputs'.map (Input.onto f)) :
    (s.run up inputs).onto f = (s'.run up inputs').onto f := by
  rw [← onto_run projects, ← onto_run projects, same, alike]

end Projects

end Session

end Transfer

end PolledNet
