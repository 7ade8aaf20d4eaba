import PolledNet.File.RamVolume
import PolledNet.Proofs.Tftp.Course

/-!
# The life of a transfer

Between any two inputs a transfer is either running or finished (`lifecycle`). A running one has no
outcome, its file is open and its timer is armed, so that it cannot be forgotten. A finished one has
an outcome, holds nothing back, and its timer is disarmed; its file was closed once, as the last
that was ever done with it. A finished transfer answers nothing: whatever is delivered to it or
expires, it stays exactly as it is.

The file is watched (`Watched`), since what is done with it can be seen there only.
-/

namespace PolledNet

namespace Transfer

open Session

variable {η σ φ : Type}

namespace Session

/-! ## Running and finished -/

/-- A transfer that is running, with a watched file. -/
structure Running (s : Session (WatchedFile η) σ (Watched φ)) : Prop where
  /-- There is no outcome yet. -/
  outcome : s.transfer.outcome = none
  /-- It is not done. -/
  running : s.transfer.phase ≠ .done
  /-- It holds its file. -/
  opened : s.transfer.file ≠ none
  /-- The file has not been closed. -/
  unclosed : .close ∉ s.volume.calls
  /-- The timer is armed. -/
  armed : s.timer.isArmed = true

/-- A transfer that is finished, with a watched file. -/
structure Finished (s : Session (WatchedFile η) σ (Watched φ)) : Prop where
  /-- There is an outcome. -/
  outcome : s.transfer.outcome ≠ none
  /-- It is done. -/
  done : s.transfer.phase = .done
  /-- It holds its file no longer. -/
  released : s.transfer.file = none
  /-- The file was closed once, and nothing was done with it after that. -/
  closed : ∃ before, s.volume.calls = before ++ [.close] ∧ .close ∉ before
  /-- Nothing is pending. -/
  pending : s.transfer.pending = []
  /-- The timer is disarmed. -/
  disarmed : s.timer = Timer.idle

/-- Nobody else uses the file. -/
def LeavesCalls (s : Session (WatchedFile η) σ (Watched φ)) : Input σ (Watched φ) → Prop
  | .elapse _ volume => volume.calls = s.volume.calls
  | _ => True

variable [FileHandle η φ] {up : Uplink σ} {s s' : Session (WatchedFile η) σ (Watched φ)}
  {input : Input σ (Watched φ)}

omit [FileHandle η φ] in
/-- A transfer that is live and whose file was not closed is running. -/
theorem Live.running_of_unclosed (live : s.Live) (unclosed : .close ∉ s.volume.calls) :
    Running s := by
  obtain ⟨file, opened⟩ := live.opened
  exact ⟨live.outcome, live.running, opened ▸ Option.some_ne_none _, unclosed, live.armed⟩

/-- An end of a transfer whose file has not been closed closes it. -/
theorem Ends.finished {volume : Watched φ} (ends : Ends Watched.Unclosed volume s')
    (unclosed : .close ∉ volume.calls) : Finished s' := by
  obtain ⟨file, before, still, closed⟩ := ends.closed
  refine ⟨ends.outcome, ends.done, ends.released, ⟨before.calls, ?_, still unclosed⟩, ends.pending,
    ends.disarmed⟩
  rw [closed, Watched.close_calls]

/-- A step of a running transfer leaves it running or finishes it. -/
theorem Live.step_unclosed (live : s.Live) (unclosed : .close ∉ s.volume.calls)
    (own : s.LeavesCalls input) :
    (s.step up input).Live ∧ .close ∉ (s.step up input).volume.calls ∨
      Finished (s.step up input) := by
  have course := course up Watched.moves_unclosed live input
  generalize s.step up input = s' at course ⊢
  cases course with
  | elapsed link volume =>
    refine .inl ⟨⟨live.outcome, live.running, live.opened, live.armed, live.room⟩, ?_⟩
    dsimp only
    rwa [own]
  | idle _ _ onward => exact .inl ⟨onward.live (live.known _), onward.volume unclosed⟩
  | advanced _ live' _ _ volume onward =>
    refine .inl ⟨onward.live live', onward.volume ?_⟩
    rwa [volume]
  | repeated _ onward => exact .inl ⟨onward.live (live.retrying up), onward.volume unclosed⟩
  | ended ends => exact .inr (ends.finished unclosed)

omit [FileHandle η φ] in
/-- What others do leaves a finished transfer finished. -/
theorem finished_elapse (finished : Finished s) {link : σ} {volume : Watched φ}
    (same : volume.calls = s.volume.calls) : Finished { s with link, volume } := by
  refine ⟨finished.outcome, finished.done, finished.released, ?_, finished.pending,
    finished.disarmed⟩
  dsimp only
  rw [same]
  exact finished.closed

/-- **A finished transfer stays exactly as it is**, and so does what it runs on. -/
theorem step_of_finished (finished : Finished s)
    (own : ∀ link volume, input ≠ .elapse link volume) : s.step up input = s := by
  have isFinished : s.transfer.isFinished = true :=
    Option.isSome_iff_ne_none.mpr finished.outcome
  cases input with
  | datagram sourcePort payload =>
    simp only [step, receive, if_pos finished.done]
  | expiry =>
    simp only [step, expire, if_pos finished.done]
    rw [← finished.disarmed]
  | cancel => simp only [step, if_pos isFinished]
  | elapse link volume => exact absurd rfl (own link volume)

/-- A finished transfer stays finished, and makes no call on its file. -/
theorem Finished.step (finished : Finished s) (own : s.LeavesCalls input) :
    Finished (s.step up input) := by
  by_cases others : ∃ link volume, input = .elapse link volume
  · obtain ⟨link, volume, rfl⟩ := others
    exact finished_elapse finished own
  · rw [step_of_finished finished fun link volume same => others ⟨link, volume, same⟩]
    exact finished

end Session

/-! ## Every run -/

/-- **Every transfer is running or finished, and what is finished stays so.** Whatever packets are
delivered, however often the timer expires, and whatever the interface and the file refuse, the
transfer runs on with its file open and its timer armed, or it has ended, closed its file once and
disarmed its timer. Then nothing that reaches it changes anything. -/
theorem lifecycle [FileHandle η φ] (up : Uplink σ) (job : TransferJob) (file : η) (port : UInt16)
    (requested : TransferConfig) (link : σ) (volume : φ) (inputs : List (Input σ (Watched φ)))
    (own : (Session.opened up job (WatchedFile.mk file) port requested link
      (Watched.mk volume [])).Along up LeavesCalls inputs) :
    let s := (Session.opened up job (WatchedFile.mk file) port requested link
      (Watched.mk volume [])).run up inputs
    (Running s ∨ Finished s) ∧
      (Finished s →
        (∀ input : Input σ (Watched φ), (∀ link volume, input ≠ .elapse link volume) →
          s.step up input = s) ∧
        ∀ later : List (Input σ (Watched φ)), s.Along up LeavesCalls later →
          Finished (s.run up later) ∧ (s.run up later).transfer = s.transfer) := by
  intro s
  have begins := live_opened up job (WatchedFile.mk file) port requested link (Watched.mk volume [])
  have unclosed : .close ∉ (opened up job (WatchedFile.mk file) port requested link
      (Watched.mk volume [])).volume.calls := by
    rw [opened, start_volume]
    exact List.not_mem_nil
  have state : s.Live ∧ .close ∉ s.volume.calls ∨ Finished s := by
    refine run_induction up (motive := fun s => s.Live ∧ .close ∉ s.volume.calls ∨ Finished s) ?_
      (.inl ⟨begins, unclosed⟩) own
    rintro s input (⟨live, unclosed⟩ | finished) own
    · exact live.step_unclosed unclosed own
    · exact .inr (finished.step own)
  refine ⟨state.imp_left fun goesOn => goesOn.1.running_of_unclosed goesOn.2, ?_⟩
  intro finished
  refine ⟨fun input own => step_of_finished finished own, fun later own => ⟨?_, ?_⟩⟩
  · exact run_induction up (motive := Finished) (fun s input finished own => finished.step own)
      finished own
  · exact run_transfer_of_done up finished.done later

/-- A file of two octets is fetched, and the interface refuses the first acknowledgement. -/
def fetched : Session (WatchedFile RamFile) (List (Except NetError Unit)) (Watched RamVolume) :=
  opened Uplink.scripted ⟨.get, ⟨10, 0, 0, 2⟩, "boot", "boot"⟩ ⟨⟨"boot", .create, 0⟩⟩ 50000 {}
    [.ok (), .error (.transmit .hardwareError)] ⟨⟨[⟨"boot", #[]⟩], none⟩, []⟩

/-- The acknowledgement is repeated, and then the only block arrives. -/
def fetchedInputs : List (Input (List (Except NetError Unit)) (Watched RamVolume)) :=
  [.datagram 69 (TftpPacket.optionAck {}).octets, .expiry,
    .datagram 69 (TftpPacket.data 1 [1, 2]).octets]

/-- A file is fetched in three inputs: it is written and closed once, and a fourth input does
nothing. -/
theorem lifecycle_fetched :
    Running (fetched.run Uplink.scripted (fetchedInputs.take 2)) ∧
      Finished (fetched.run Uplink.scripted fetchedInputs) ∧
      (fetched.run Uplink.scripted fetchedInputs).volume.calls = [.write, .close] ∧
      (fetched.run Uplink.scripted fetchedInputs).step Uplink.scripted
          (.datagram 69 (TftpPacket.data 1 [1, 2]).octets) =
        fetched.run Uplink.scripted fetchedInputs := by
  obtain ⟨before, -⟩ := lifecycle Uplink.scripted ⟨.get, ⟨10, 0, 0, 2⟩, "boot", "boot"⟩
    (⟨"boot", .create, 0⟩ : RamFile) 50000 {} [.ok (), .error (.transmit .hardwareError)]
    ⟨[⟨"boot", #[]⟩], none⟩ (fetchedInputs.take 2) ⟨trivial, trivial, trivial⟩
  obtain ⟨after, absorbing⟩ := lifecycle Uplink.scripted ⟨.get, ⟨10, 0, 0, 2⟩, "boot", "boot"⟩
    (⟨"boot", .create, 0⟩ : RamFile) 50000 {} [.ok (), .error (.transmit .hardwareError)]
    ⟨[⟨"boot", #[]⟩], none⟩ fetchedInputs ⟨trivial, trivial, trivial, trivial⟩
  have unfinished : (fetched.run Uplink.scripted
      (fetchedInputs.take 2)).transfer.outcome = none := by decide +kernel
  have ended : (fetched.run Uplink.scripted fetchedInputs).transfer.outcome ≠ none := by
    decide +kernel
  have finished : Finished (fetched.run Uplink.scripted fetchedInputs) :=
    after.resolve_left fun running => ended running.outcome
  refine ⟨before.resolve_right fun finished => finished.outcome unfinished, finished,
    by decide +kernel, ?_⟩
  exact (absorbing finished).1 _ nofun

end Transfer

end PolledNet
