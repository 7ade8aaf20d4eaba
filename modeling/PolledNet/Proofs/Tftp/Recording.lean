import PolledNet.Proofs.Core.Uplink
import PolledNet.Proofs.Tftp.Octets
import PolledNet.Proofs.Tftp.Session

/-!
# What a transfer hands to its interface

A transfer on an interface with a record leaves there every datagram it has handed over. The
equations here say what each of its steps adds. `Hands` says of two moments that only datagrams of
one kind were handed over in between, and `handedIn` lists them.

Of all datagrams only those that read as blocks carry octets of the file (`Handed.block?`).
Requests, acknowledgements and error messages do not.
-/

namespace PolledNet

/-- The number and the octets of a block, if the datagram carries one. -/
def Handed.block? (d : Handed) : Option (UInt16 × Bytes) := TftpPacket.blockOf? d.content

namespace Transfer

namespace Session

variable {η σ φ : Type}

/-! ## Between two moments -/

/-- Only datagrams of one kind are handed over. -/
def Hands (Kind : Handed → Prop) (s s' : Session η (Recorded σ) φ) : Prop :=
  ∃ more, s'.link.handed = s.link.handed ++ more ∧ ∀ d ∈ more, Kind d

/-- The datagrams handed over. -/
def handedIn (s s' : Session η (Recorded σ) φ) : List Handed :=
  s'.link.handed.drop s.link.handed.length

section Hands

variable {Kind Kind' : Handed → Prop} {s s' s'' : Session η (Recorded σ) φ}

/-- If nothing is handed over, everything handed over is of any kind. -/
theorem Hands.of_eq (same : s'.link.handed = s.link.handed) : Hands Kind s s' :=
  ⟨[], by rw [same, List.append_nil], nofun⟩

/-- What is handed over first and then is of the kind. -/
theorem Hands.trans (first : Hands Kind s s') (second : Hands Kind s' s'') : Hands Kind s s'' := by
  obtain ⟨more, eq, kind⟩ := first
  obtain ⟨more', eq', kind'⟩ := second
  refine ⟨more ++ more', by rw [eq', eq, List.append_assoc], ?_⟩
  intro d mem
  exact (List.mem_append.mp mem).elim (kind d) (kind' d)

/-- A kind may be widened. -/
theorem Hands.mono (hands : Hands Kind s s') (weaker : ∀ d, Kind d → Kind' d) :
    Hands Kind' s s' := by
  obtain ⟨more, eq, kind⟩ := hands
  exact ⟨more, eq, fun d mem => weaker d (kind d mem)⟩

/-- The datagrams handed over between two moments are of the kind. -/
theorem Hands.handedIn (hands : Hands Kind s s') {d : Handed} (mem : d ∈ s.handedIn s') :
    Kind d := by
  obtain ⟨more, eq, kind⟩ := hands
  rw [Session.handedIn, eq, List.drop_left] at mem
  exact kind d mem

/-- What was handed over before still counts. -/
theorem Hands.mem (hands : Hands Kind s s') {d : Handed} (mem : d ∈ s.link.handed) :
    d ∈ s'.link.handed := by
  obtain ⟨more, eq, -⟩ := hands
  rw [eq]
  exact List.mem_append_left more mem

end Hands

/-! ## What each step hands over -/

variable (up : Uplink σ) (s : Session η (Recorded σ) φ)

/-- A packet to a port of the server. -/
theorem sendTo_handed (port : UInt16) (p : TftpPacket) :
    (s.sendTo up.recording port p).2.link.handed =
      s.link.handed ++
        [⟨s.transfer.localPort, s.transfer.server, port, p.octets,
          (s.sendTo up.recording port p).1⟩] := rfl

/-- A packet that is sent is handed over to the server's port, with the answer it gets. -/
theorem send_handed (p : TftpPacket) :
    (s.send up.recording p).2.link.handed =
      s.link.handed ++
        [⟨s.transfer.localPort, s.transfer.server,
          s.transfer.serverPort.getD Tftp.serverPort, p.octets,
          (s.send up.recording p).1⟩] := rfl

/-- An acknowledgement, to the port that is known. -/
theorem sendAck_handed {port : UInt16} (locked : s.transfer.serverPort = some port)
    (block : Nat) :
    (s.sendAck up.recording block).2.link.handed =
      s.link.handed ++
        [⟨s.transfer.localPort, s.transfer.server, port,
          (TftpPacket.ack (wireBlock block s.transfer.rollover)).octets,
          (s.sendAck up.recording block).1⟩] := by
  have known : s.transfer.serverPort.getD Tftp.serverPort = port := by rw [locked]; rfl
  rw [← known]
  rfl

/-- A packet that is sent is all that is handed over. -/
theorem hands_packet (port : UInt16) (p : TftpPacket) :
    Hands (fun d => d.content = p.octets) s (s.sendTo up.recording port p).2 :=
  ⟨_, sendTo_handed up s port p, fun _ mem => congrArg Handed.content (List.mem_singleton.mp mem)⟩

/-- A packet that is no block hands over no block. -/
theorem hands_sendTo (port : UInt16) {p : TftpPacket}
    (other : TftpPacket.blockOf? p.octets = none) :
    Hands (fun d => d.block? = none) s (s.sendTo up.recording port p).2 :=
  (hands_packet up s port p).mono fun _ same => (congrArg TftpPacket.blockOf? same).trans other

/-- A request carries no block. -/
theorem hands_sendRequest :
    Hands (fun d => d.block? = none) s (s.sendRequest up.recording).2 := by
  refine hands_sendTo up (s.tell up.recording _) _ ?_
  rw [TftpPacket.blockOf?_octets, requestPacket]
  cases s.transfer.direction <;> rfl

/-- Progress hands nothing over. -/
@[simp] theorem progress_handed : (s.progress up.recording).link.handed = s.link.handed := by
  unfold progress
  dsimp only
  split <;> rfl

variable [FileHandle η φ]

/-- Finishing hands nothing over. -/
@[simp] theorem finish_handed (result : Except TransferError Unit) :
    (s.finish up.recording result).link.handed = s.link.handed := by
  unfold finish
  split
  · rfl
  · show s.closeFile.2.link.handed = s.link.handed
    rw [closeFile_link]

/-- A failure is told to the server, and that is all. -/
theorem hands_error (cause : TransferError) (code : UInt16) :
    Hands (fun d => d.content = (TftpPacket.error code cause.message).octets) s
      (s.fail up.recording cause code).2 := by
  have ended : Hands (fun d => d.content = (TftpPacket.error code cause.message).octets) s
      (s.finish up.recording (.error cause)) := .of_eq (finish_handed up s _)
  unfold fail
  dsimp only
  split
  · exact ended.trans (hands_packet up _ _ _)
  · exact ended

/-- The operator's wish is told to the server, and that is all. -/
theorem hands_error_cancel :
    Hands (fun d => d.content =
        (TftpPacket.error Tftp.errorNotDefined TransferError.cancelled.message).octets) s
      (s.cancel up.recording) := by
  have failed := hands_error up s .cancelled Tftp.errorNotDefined
  unfold cancel
  split <;> rename_i eq <;> rw [eq] at failed <;> exact failed

/-- A transfer that fails hands over no block. -/
theorem hands_fail (cause : TransferError) (code : UInt16) :
    Hands (fun d => d.block? = none) s (s.fail up.recording cause code).2 :=
  (hands_error up s cause code).mono fun _ same =>
    (congrArg TftpPacket.blockOf? same).trans (TftpPacket.blockOf?_octets _)

/-- A transfer that is cancelled hands over no block. -/
theorem hands_cancel : Hands (fun d => d.block? = none) s (s.cancel up.recording) :=
  (hands_error_cancel up s).mono fun _ same =>
    (congrArg TftpPacket.blockOf? same).trans (TftpPacket.blockOf?_octets _)

end Session

end Transfer

end PolledNet
