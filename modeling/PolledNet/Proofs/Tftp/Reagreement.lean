import PolledNet.File.RamVolume
import PolledNet.Proofs.Tftp.Course
import PolledNet.Proofs.Tftp.Recording

/-!
# Agreeing on options once more

A server that misses our answer to its options sends them again. As long as nothing is
acknowledged, a receiver takes that for what it is: it acknowledges the options once more, and
nothing else changes, however often they come (`get_agreement_again`). A sender, whose answer was
its first window, takes it for a packet out of place: the first repetition ends the transfer
(`put_agreement_again`).

So repeated options are tolerated exactly by receivers (`agreement_again_iff`).
-/

namespace PolledNet

namespace Transfer

open Session

variable {η σ φ : Type}

/-- The acknowledgement of the options, to the server's port. -/
def firstAck (t : Transfer η) (port : UInt16) (answer : Except NetError Unit) : Handed :=
  ⟨t.localPort, t.server, port, (TftpPacket.ack (wireBlock 0 t.rollover)).octets, answer⟩

/-- The refusal of a packet out of place, to the server's port. -/
def refusal (t : Transfer η) (port : UInt16) (answer : Except NetError Unit) : Handed :=
  ⟨t.localPort, t.server, port,
    (TftpPacket.error Tftp.errorIllegalOperation TransferError.protocol.message).octets, answer⟩

/-- A transfer whose options are agreed on, and nothing is acknowledged since. -/
structure Agreed (t : Transfer η) (server : UInt16) : Prop where
  /-- The options are agreed on. -/
  on : t.phase = .transferring
  /-- There is no outcome yet. -/
  outcome : t.outcome = none
  /-- Nothing is acknowledged. -/
  first : t.acked = 0
  /-- The server's port is known. -/
  locked : t.serverPort = some server

variable [FileHandle η φ] (up : Uplink σ) {s : Session η (Recorded σ) φ} {server : UInt16}
  {payload : Bytes} {o : TftpOptions}

/-- A transfer that has agreed with its server handles the server's options as they are. -/
theorem Agreed.receive (agreed : Agreed s.transfer server)
    (read : TftpPacket.parse payload = .ok (.optionAck o)) :
    s.receive up.recording server payload = s.receivePacket up.recording (.optionAck o) := by
  rw [receive_of_hears up.recording (by rw [agreed.on]; nofun) (hears_of_locked agreed.locked),
    heard_of_locked agreed.locked, receiveContent, read]

/-- A receiver acknowledges the options once more. -/
theorem Agreed.get_step (agreed : Agreed s.transfer server) (get : s.transfer.direction = .get)
    (read : TftpPacket.parse payload = .ok (.optionAck o)) :
    s.step up.recording (.datagram server payload) = (s.sendAck up.recording 0).2 := by
  simp only [step]
  rw [agreed.receive up read]
  simp only [receivePacket, agreed.on, get, agreed.first]
  simp

/-- A sender does not expect them. -/
theorem Agreed.put_step (agreed : Agreed s.transfer server) (put : s.transfer.direction = .put)
    (read : TftpPacket.parse payload = .ok (.optionAck o)) :
    s.step up.recording (.datagram server payload) =
      ((s.tell up.recording (.unexpected (.optionAck o))).fail up.recording .protocol
        Tftp.errorIllegalOperation).2 := by
  simp only [step]
  rw [agreed.receive up read]
  simp only [receivePacket, agreed.on, put]
  simp

/-- A failure is told to the server's port. -/
theorem fail_handed (running : s.transfer.phase ≠ .done)
    (locked : s.transfer.serverPort = some server) (cause : TransferError) (code : UInt16) :
    (s.fail up.recording cause code).2.link.handed =
      s.link.handed ++
        [⟨s.transfer.localPort, s.transfer.server, server,
          (TftpPacket.error code cause.message).octets, (s.fail up.recording cause code).1⟩] := by
  have transfer := finish_transfer up.recording s running (.error cause)
  have handed := send_handed up (s.finish up.recording (.error cause)) (.error code cause.message)
  have known : (s.finish up.recording (.error cause)).transfer.serverPort.isSome = true := by
    rw [transfer, locked]
    rfl
  unfold fail
  dsimp only
  rw [if_pos known, handed, finish_handed, transfer, locked]
  rfl

/-- Packets that come to a transfer that is done leave everything as it is. -/
theorem run_datagrams_of_done (done : s.transfer.phase = .done) (port : UInt16) (n : Nat) :
    s.run up.recording (List.replicate n (.datagram port payload)) = s := by
  induction n with
  | zero => rfl
  | succ n ih =>
    have same : s.step up.recording (.datagram port payload) = s := by
      simp only [step, Session.receive, if_pos done]
    rw [List.replicate_succ, run_cons, same, ih]

/-- **A receiver takes repeated options as often as they come.** Each time it acknowledges them,
and nothing else of it changes. -/
theorem get_agreement_again (agreed : Agreed s.transfer server)
    (get : s.transfer.direction = .get) (read : TftpPacket.parse payload = .ok (.optionAck o))
    (n : Nat) :
    let s' := s.run up.recording (List.replicate n (.datagram server payload))
    s'.transfer = s.transfer ∧ s'.timer = s.timer ∧ s'.volume = s.volume ∧
      ∃ answers : List (Except NetError Unit), answers.length = n ∧
        s'.link.handed = s.link.handed ++ answers.map (firstAck s.transfer server) := by
  induction n generalizing s with
  | zero => exact ⟨rfl, rfl, rfl, [], rfl, (List.append_nil _).symm⟩
  | succ n ih =>
    have step := agreed.get_step up get read
    have transfer : (s.sendAck up.recording 0).2.transfer = s.transfer := by
      rw [sendAck_transfer, ← agreed.first]
    have handed := sendAck_handed up s agreed.locked 0
    obtain ⟨transfer', timer', volume', answers, length, handed'⟩ :=
      ih (s := (s.sendAck up.recording 0).2) (transfer ▸ agreed) (transfer ▸ get)
    intro s'
    have repeated : s' = (s.sendAck up.recording 0).2.run up.recording
        (List.replicate n (.datagram server payload)) := by
      rw [← step]
      rfl
    rw [repeated]
    refine ⟨transfer'.trans transfer, timer', volume',
      (s.sendAck up.recording 0).1 :: answers, congrArg Nat.succ length, ?_⟩
    rw [handed', transfer, handed, List.append_assoc]
    rfl

/-- **A sender ends at the first repetition**, and says so once. -/
theorem put_agreement_again (agreed : Agreed s.transfer server)
    (put : s.transfer.direction = .put) (read : TftpPacket.parse payload = .ok (.optionAck o))
    (n : Nat) :
    let s' := s.run up.recording (List.replicate (n + 1) (.datagram server payload))
    s'.transfer.outcome = some (.error .protocol) ∧
      ∃ answer, s'.link.handed = s.link.handed ++ [refusal s.transfer server answer] := by
  have running : (s.tell up.recording (.unexpected (.optionAck o))).transfer.phase ≠ .done := by
    rw [tell_transfer, agreed.on]
    nofun
  have step := agreed.put_step up put read
  have done := fail_phase up.recording (s.tell up.recording (.unexpected (.optionAck o))) .protocol
    Tftp.errorIllegalOperation
  intro s'
  have ended : s' = s.step up.recording (.datagram server payload) := by
    show s.run up.recording (List.replicate (n + 1) (.datagram server payload)) = _
    rw [List.replicate_succ, run_cons]
    exact run_datagrams_of_done up (step ▸ done) server n
  rw [ended, step]
  refine ⟨?_, _, fail_handed up running agreed.locked _ _⟩
  rw [fail_transfer up.recording _ running]

/-- **Repeated options are tolerated exactly by receivers.** When the server sends its options again
before anything is acknowledged, once or several times, a receiver runs on as it was and
acknowledges them each time. A sender fails at the first repetition, whatever it has sent. -/
theorem agreement_again_iff (up : Uplink σ) (job : TransferJob) (file : η) (port : UInt16)
    (requested : TransferConfig) (link : Recorded σ) (volume : φ)
    (before : List (Input (Recorded σ) φ)) (server : UInt16) (payload : Bytes) (o : TftpOptions)
    (n : Nat) :
    let s := (Session.opened up.recording job file port requested link volume).run up.recording
      before
    let s' := s.run up.recording (List.replicate (n + 1) (.datagram server payload))
    s.transfer.phase = .transferring → s.transfer.acked = 0 →
    s.transfer.serverPort = some server → TftpPacket.parse payload = .ok (.optionAck o) →
    (s'.transfer.outcome = none ↔ s.transfer.direction = .get) ∧
      (s.transfer.direction = .get →
        s'.transfer = s.transfer ∧ s'.timer = s.timer ∧ s'.volume = s.volume ∧
          ∃ answers : List (Except NetError Unit), answers.length = n + 1 ∧
            s'.link.handed = s.link.handed ++ answers.map (firstAck s.transfer server)) ∧
      (s.transfer.direction = .put →
        s'.transfer.outcome = some (.error .protocol) ∧
          ∃ answer, s'.link.handed = s.link.handed ++ [refusal s.transfer server answer]) := by
  intro s s' on first locked read
  have outcome : s.transfer.outcome = none := by
    rcases (live_opened up.recording job file port requested link volume).run_cases before with
      live | ⟨done, -⟩
    · exact live.outcome
    · cases on.symm.trans done
  have agreed : Agreed s.transfer server := ⟨on, outcome, first, locked⟩
  cases direction : s.transfer.direction with
  | get =>
    have again := get_agreement_again up agreed direction read (n + 1)
    have tolerated : s'.transfer.outcome = none := again.1 ▸ outcome
    exact ⟨iff_of_true tolerated rfl, fun _ => again, nofun⟩
  | put =>
    have again := put_agreement_again up agreed direction read n
    have ended : s'.transfer.outcome ≠ none := by
      rw [again.1]
      exact Option.some_ne_none _
    exact ⟨iff_of_false ended nofun, nofun, fun _ => again⟩

/-- A transfer that receives a file, or sends one of two octets, and its second datagram will be
refused. -/
def repeatable (direction : Direction) :
    Session RamFile (Recorded (List (Except NetError Unit))) RamVolume :=
  let job : TransferJob := ⟨direction, ⟨10, 0, 0, 2⟩, "log", "log"⟩
  Session.opened Uplink.scripted.recording job ⟨"log", job.mode, 0⟩ 50000 {}
    ⟨[.ok (), .error (.transmit .hardwareError)], []⟩ ⟨[⟨"log", #[1, 2]⟩], none⟩

/-- The server agrees to the defaults, and our answer is lost. -/
def answerLost : List (Input (Recorded (List (Except NetError Unit))) RamVolume) :=
  [.datagram 69 (TftpPacket.optionAck {}).octets]

/-- A receiver answers options that are repeated, if its answer was lost, and goes on. -/
theorem agreement_again_answerLost :
    (((repeatable .get).run Uplink.scripted.recording answerLost).run Uplink.scripted.recording
        (List.replicate 2 (.datagram 69 (TftpPacket.optionAck {}).octets))).transfer.outcome =
      none := by
  have known := agreement_again_iff Uplink.scripted ⟨.get, ⟨10, 0, 0, 2⟩, "log", "log"⟩
    (⟨"log", .create, 0⟩ : RamFile) 50000 {} ⟨[.ok (), .error (.transmit .hardwareError)], []⟩
    (⟨[⟨"log", #[1, 2]⟩], none⟩ : RamVolume) answerLost 69 (TftpPacket.optionAck {}).octets {} 1
  exact (known (by decide +kernel) (by decide +kernel) (by decide +kernel)
    (by decide +kernel)).1.mpr (by decide +kernel)

/-- **Repeated options may end a transfer.** The first window of a sender was lost on its way out,
nothing is acknowledged, and the server repeats the options that were accepted. -/
theorem not_agreement_again_tolerated :
    let s := (repeatable .put).run Uplink.scripted.recording answerLost
    s.transfer.phase = .transferring ∧ s.transfer.acked = 0 ∧ s.transfer.outcome = none ∧
      (s.run Uplink.scripted.recording answerLost).transfer.outcome = some (.error .protocol) := by
  decide +kernel

end Transfer

end PolledNet
