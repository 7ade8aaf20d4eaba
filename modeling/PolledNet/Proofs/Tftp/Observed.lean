import PolledNet.Proofs.Tftp.Projection
import PolledNet.Proofs.Tftp.Put

/-!
# Every transfer may be observed

An interface with a record answers like the one behind it (`projects_recording`). So any run of a
transfer is that of a transfer whose interface keeps a record which nobody else writes to
(`exists_recorded_run`), and what is shown of such runs holds of all.
-/

namespace PolledNet

namespace Transfer

namespace Session

variable {η σ φ : Type} (up : Uplink σ)

/-- The record influences nothing. -/
theorem projects_recording : up.recording.Projects up Recorded.link where
  now _ := rfl
  send _ _ _ _ _ := rfl
  countMalformed _ := rfl
  tell _ _ := rfl

variable [FileHandle η φ]

/-- A transfer begins under observation as it does without. -/
theorem onto_opened (job : TransferJob) (file : η) (port : UInt16) (requested : TransferConfig)
    (link : Recorded σ) (volume : φ) :
    (opened up.recording job file port requested link volume).onto Recorded.link =
      opened up job file port requested link.link volume := rfl

/-- Inputs to an observed transfer whose record is its own. -/
theorem exists_recorded (s : Session η (Recorded σ) φ) (inputs : List (Input σ φ)) :
    ∃ inputs', inputs'.map (Input.onto Recorded.link) = inputs ∧
      s.Along up.recording KeepsRecord inputs' := by
  induction inputs generalizing s with
  | nil => exact ⟨[], rfl, trivial⟩
  | cons input rest ih =>
    -- whoever else uses the interface leaves the record as it is
    obtain ⟨input', same, keeps⟩ : ∃ input', input'.onto Recorded.link = input ∧
        s.KeepsRecord input' := by
      cases input with
      | datagram port payload => exact ⟨.datagram port payload, rfl, trivial⟩
      | expiry => exact ⟨.expiry, rfl, trivial⟩
      | cancel => exact ⟨.cancel, rfl, trivial⟩
      | elapse link volume => exact ⟨.elapse ⟨link, s.link.handed⟩ volume, rfl, rfl⟩
    obtain ⟨rest', sames, keepsRest⟩ := ih (s.step up.recording input')
    exact ⟨input' :: rest', by rw [List.map_cons, same, sames], keeps, keepsRest⟩

/-- **Every run is that of an observed transfer.** -/
theorem exists_recorded_run (job : TransferJob) (file : η) (port : UInt16)
    (requested : TransferConfig) (link : σ) (volume : φ) (inputs : List (Input σ φ)) :
    ∃ inputs', (opened up.recording job file port requested ⟨link, []⟩ volume).Along up.recording
        KeepsRecord inputs' ∧
      ((opened up.recording job file port requested ⟨link, []⟩ volume).run up.recording
        inputs').onto Recorded.link =
          (opened up job file port requested link volume).run up inputs := by
  obtain ⟨inputs', same, keeps⟩ := exists_recorded up
    (opened up.recording job file port requested ⟨link, []⟩ volume) inputs
  refine ⟨inputs', keeps, ?_⟩
  rw [← onto_run (projects_recording up), same, onto_opened]

end Session

end Transfer

end PolledNet
