import PolledNet.Proofs.Tftp.Session
import PolledNet.Stack.Client

/-!
# Runs of a transfer

A transfer begins with its request (`opened`) and then only answers to what reaches it from outside:
datagrams, the expiry of its timer, the operator who gives up, and the world that moves on
meanwhile. A run is any finite list of such inputs. Nothing is assumed of their order or of the
interface, which may refuse any datagram.

Properties of runs are proved by `run_induction`: what holds at the start and is kept by each input
that a run admits holds throughout.
-/

namespace PolledNet

namespace Transfer

/-- What reaches a transfer from outside. -/
inductive Input (σ φ : Type) where
  /-- A datagram is delivered. -/
  | datagram (sourcePort : UInt16) (payload : Bytes)
  /-- The timer has expired. -/
  | expiry
  /-- The operator gives up. -/
  | cancel
  /-- Time passes, and others use the interface and the volume. -/
  | elapse (link : σ) (volume : φ)

/-- The server does not send a block with this number. -/
def Input.Silent {σ φ : Type} (server number : UInt16) : Input σ φ → Prop
  | .datagram port payload =>
    port = server → ∀ octets, TftpPacket.parse payload ≠ .ok (.data number octets)
  | _ => True

/-- A transfer that ended with a failure. -/
def Failed {η : Type} (t : Transfer η) : Prop :=
  t.phase = .done ∧ ∃ e, t.outcome = some (.error e)

namespace Session

variable {η σ φ : Type} [FileHandle η φ] (up : Uplink σ)

/-- The transfer of a job once its file is open and its request has been sent. -/
def opened (job : TransferJob) (file : η) (port : UInt16) (requested : TransferConfig) (link : σ)
    (volume : φ) : Session η σ φ :=
  (start up
    ⟨job.transfer file volume port requested (up.now link), Timer.idle, link, volume⟩).2

/-- One input. The timer is disarmed before its expiry is handled, and only a transfer that is not
finished can be given up. -/
def step (s : Session η σ φ) : Input σ φ → Session η σ φ
  | .datagram sourcePort payload => (s.receive up sourcePort payload).2
  | .expiry => ({ s with timer := Timer.idle }.expire up).2
  | .cancel => if s.transfer.isFinished then s else s.cancel up
  | .elapse link volume => { s with link, volume }

/-- Inputs in turn. -/
def run (s : Session η σ φ) (inputs : List (Input σ φ)) : Session η σ φ :=
  inputs.foldl (step up) s

/-- A run without inputs does nothing. -/
@[simp] theorem run_nil (s : Session η σ φ) : s.run up [] = s := rfl

/-- A run steps with its first input and goes on with the others. -/
@[simp] theorem run_cons (s : Session η σ φ) (input : Input σ φ) (rest : List (Input σ φ)) :
    s.run up (input :: rest) = (s.step up input).run up rest := rfl

/-- A run may be cut in two. -/
@[simp] theorem run_append (s : Session η σ φ) (before rest : List (Input σ φ)) :
    s.run up (before ++ rest) = (s.run up before).run up rest :=
  List.foldl_append

/-! ## Inputs that a run admits -/

/-- Every input is admitted by the session that it meets. -/
def Along (Admitted : Session η σ φ → Input σ φ → Prop) (s : Session η σ φ) :
    List (Input σ φ) → Prop
  | [] => True
  | input :: rest => Admitted s input ∧ Along Admitted (s.step up input) rest

/-- Nobody else takes away what makes a file `Usable`. -/
def Spares (Usable : η → φ → Prop) (s : Session η σ φ) : Input σ φ → Prop
  | .elapse _ volume => ∀ file, Usable file s.volume → Usable file volume
  | _ => True

variable {Admitted : Session η σ φ → Input σ φ → Prop}

/-- A run admits its inputs iff its two parts admit theirs. -/
theorem along_append {s : Session η σ φ} {before rest : List (Input σ φ)} :
    s.Along up Admitted (before ++ rest) ↔
      s.Along up Admitted before ∧ (s.run up before).Along up Admitted rest := by
  induction before generalizing s with
  | nil => simp only [List.nil_append, run_nil, Along, true_and]
  | cons input before ih =>
    rw [List.cons_append, Along, Along, ih, and_assoc]
    rfl

/-- Inputs that are admitted are admitted where more is. -/
theorem Along.mono {Admitted' : Session η σ φ → Input σ φ → Prop}
    (weaker : ∀ s input, Admitted s input → Admitted' s input) {s : Session η σ φ}
    {inputs : List (Input σ φ)} (admitted : s.Along up Admitted inputs) :
    s.Along up Admitted' inputs := by
  induction inputs generalizing s with
  | nil => trivial
  | cons input rest ih => exact ⟨weaker s input admitted.1, ih admitted.2⟩

/-- **What every admitted input keeps holds throughout a run.** -/
theorem run_induction {motive : Session η σ φ → Prop}
    (kept : ∀ s input, motive s → Admitted s input → motive (s.step up input)) {s : Session η σ φ}
    {inputs : List (Input σ φ)} (start : motive s) (admitted : s.Along up Admitted inputs) :
    motive (s.run up inputs) := by
  induction inputs generalizing s with
  | nil => exact start
  | cons input rest ih => exact ih (kept s input start admitted.1) admitted.2

/-! ## What is done stays done -/

/-- A running transfer that fails has failed. -/
theorem failed_of_fail {s : Session η σ φ} (running : s.transfer.phase ≠ .done)
    (cause : TransferError) (code : UInt16) : Failed (s.fail up cause code).2.transfer := by
  rw [fail_transfer up s running]
  exact ⟨rfl, cause, rfl⟩

/-- A running transfer that finishes with an error has failed. -/
theorem failed_of_finish {s : Session η σ φ} (running : s.transfer.phase ≠ .done)
    (cause : TransferError) : Failed (s.finish up (.error cause)).transfer := by
  rw [finish_transfer up s running]
  exact ⟨rfl, cause, rfl⟩

/-- Cancelling a transfer that is done does nothing to it. -/
theorem cancel_transfer_of_done {s : Session η σ φ} (done : s.transfer.phase = .done) :
    (s.cancel up).transfer = s.transfer := by
  rw [cancel_transfer, fail_transfer_of_done up s done]

/-- **A finished transfer does not change any more.** -/
theorem step_transfer_of_done {s : Session η σ φ} (done : s.transfer.phase = .done)
    (input : Input σ φ) : (s.step up input).transfer = s.transfer := by
  cases input with
  | datagram sourcePort payload =>
    simp only [step, receive, if_pos done]
  | expiry => simp only [step, expire, if_pos done]
  | cancel =>
    simp only [step]
    split
    · rfl
    · exact cancel_transfer_of_done up done
  | elapse link volume => rfl

/-- A finished transfer touches neither its interface nor its volume, as long as nobody else acts.
-/
theorem step_of_done {s : Session η σ φ} (done : s.transfer.phase = .done)
    (finished : s.transfer.outcome ≠ none) {input : Input σ φ}
    (own : ∀ link volume, input ≠ .elapse link volume) :
    (s.step up input).link = s.link ∧ (s.step up input).volume = s.volume := by
  cases input with
  | datagram sourcePort payload =>
    simp only [step, receive, if_pos done, and_self]
  | expiry =>
    simp only [step, expire, if_pos done, and_self]
  | cancel =>
    have isFinished : s.transfer.isFinished = true := Option.isSome_iff_ne_none.mpr finished
    simp only [step, if_pos isFinished, and_self]
  | elapse link volume => exact absurd rfl (own link volume)

/-- A transfer that is done stays as it is, whatever comes. -/
theorem run_transfer_of_done {s : Session η σ φ} (done : s.transfer.phase = .done)
    (inputs : List (Input σ φ)) : (s.run up inputs).transfer = s.transfer := by
  induction inputs generalizing s with
  | nil => rfl
  | cons input rest ih =>
    have same := step_transfer_of_done up done input
    rw [run_cons, ih (by rw [same]; exact done), same]

/-- What has failed does not end well any more. -/
theorem run_of_failed {s : Session η σ φ} (failed : Failed s.transfer) (inputs : List (Input σ φ))
    (report : TransferReport) : (s.run up inputs).transfer.outcome ≠ some (.ok report) := by
  obtain ⟨done, e, outcome⟩ := failed
  rw [run_transfer_of_done up done, outcome]
  nofun

end Session

end Transfer

end PolledNet
