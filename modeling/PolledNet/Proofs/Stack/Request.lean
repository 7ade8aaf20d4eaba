import Mathlib.Data.List.TakeWhile
import PolledNet.Proofs.Core.Silence
import PolledNet.Proofs.Stack.Freshness
import PolledNet.Proofs.Stack.Turnover
import PolledNet.Proofs.Tftp.Codec

/-!
# The file a request names

Starting a transfer hands one packet to the interface, the request. Its name is the one the caller
gave, pasted into a field that ends with the first NUL. So the server reads the name up to its first
NUL, and what the caller put behind that is read as the mode and as options. The request asks for
what was asked for exactly if the name holds no NUL (`Stack.startTransfer_requests`); nothing on the
way from the caller looks.
-/

namespace PolledNet

/-! ## Names and fields -/

namespace Tftp

variable {s : String}

/-- A text up to its first NUL. -/
def untilNul (s : String) : String := String.ofList (s.toList.takeWhile (· ≠ '\x00'))

/-- What stands before the first NUL fits a field. -/
theorem fitsField_untilNul (s : String) : FitsField (untilNul s) := by
  rw [FitsField, untilNul, String.toList_ofList]
  intro nul
  have other := List.all_eq_true.mp List.all_takeWhile _ nul
  simp at other

/-- A text without a NUL is read back as a whole. -/
theorem untilNul_of_fits (fits : FitsField s) : untilNul s = s := by
  have all : s.toList.takeWhile (· ≠ '\x00') = s.toList :=
    List.takeWhile_eq_self_iff.mpr fun c mem =>
      decide_eq_true fun nul => fits (nul ▸ mem)
  rw [untilNul, all, String.ofList_toList]

/-- **A field ends with the first NUL of its text.** What the text goes on with comes behind it. -/
theorem exists_field_eq (s : String) : ∃ rest, field s = field (untilNul s) ++ rest := by
  by_cases fits : FitsField s
  · exact ⟨[], by rw [untilNul_of_fits fits, List.append_nil]⟩
  · obtain ⟨before, behind, split, first⟩ := List.eq_append_cons_of_mem (not_not.mp fits)
    have cut : (before ++ '\x00' :: behind).takeWhile (· ≠ '\x00') = before := by
      have other : ∀ c ∈ before, decide (c ≠ '\x00') = true :=
        fun c mem => decide_eq_true fun nul => first (nul ▸ mem)
      rw [List.takeWhile_append_of_pos other]
      exact List.append_nil before
    refine ⟨behind.flatMap String.utf8EncodeChar ++ [0], ?_⟩
    rw [untilNul, split, cut, field, field, Text.octets_eq_flatMap, Text.octets_eq_flatMap, split,
      String.toList_ofList, List.flatMap_append, List.append_assoc, List.append_assoc]
    rfl

/-- The text up to the first NUL is what is read. -/
theorem nextField_field_untilNul (s : String) (rest : Bytes) :
    ∃ behind, nextField (field s ++ rest) = .ok (some (untilNul s, behind)) := by
  obtain ⟨more, cut⟩ := exists_field_eq s
  exact ⟨more ++ rest, by rw [cut, List.append_assoc, nextField_field (fitsField_untilNul s)]⟩

end Tftp

namespace TftpPacket

/-- The file that a request is about. -/
def name? : TftpPacket → Option String
  | .readRequest name _ _ | .writeRequest name _ _ => some name
  | _ => none

/-- The name read from a request is the text of its first field up to the first NUL. -/
theorem name_of_parseRequest {s name mode : String} {options : TftpOptions} {rest : Bytes}
    (read : parseRequest (Tftp.field s ++ rest) = .ok (name, mode, options)) :
    name = Tftp.untilNul s := by
  obtain ⟨behind, first⟩ := Tftp.nextField_field_untilNul s rest
  rw [parseRequest, first, ok_bind] at read
  dsimp only at read
  obtain ⟨second, -, read⟩ := exists_ok_of_bind read
  split at read
  · obtain ⟨options, -, read⟩ := exists_ok_of_bind read
    cases read
    rfl
  · cases read

end TftpPacket

/-- The packet that asks for a job's file under the settings of the stack, where the local file has
`size` octets. -/
def TransferJob.request (job : TransferJob) (settings : TransferConfig) (size : Nat) : TftpPacket :=
  match job.direction with
  | .get => .readRequest job.remote "octet"
      { blockSize := some settings.blockSize, transferSize := some 0
        windowSize := some settings.windowSize, rollover := some settings.rollover }
  | .put => .writeRequest job.remote "octet"
      { blockSize := some settings.blockSize, transferSize := some (UInt64.ofNat size)
        windowSize := some settings.windowSize, rollover := some settings.rollover }

namespace TransferJob

variable (job : TransferJob) {settings : TransferConfig}

/-- Under settings that may be asked for, the request may be written if its name fits. -/
theorem wellFormed_request (ranged : Tftp.minBlockSize ≤ settings.blockSize.toNat ∧
      settings.blockSize.toNat ≤ Tftp.maxBlockSize) (windowed : settings.windowSize ≠ 0)
    (size : Nat) : (job.request settings size).WellFormed ↔ Tftp.FitsField job.remote := by
  have mode : Tftp.FitsField "octet" := by
    unfold Tftp.FitsField
    decide
  have inRange (size : UInt64) : TftpOptions.InRange
      { blockSize := some settings.blockSize, transferSize := some size
        windowSize := some settings.windowSize, rollover := some settings.rollover } :=
    ⟨fun _ same => Option.some.inj same ▸ ranged, fun _ same => Option.some.inj same ▸ windowed⟩
  unfold request
  cases job.direction with
  | get => exact ⟨And.left, fun fits => ⟨fits, mode, inRange 0⟩⟩
  | put => exact ⟨And.left, fun fits => ⟨fits, mode, inRange _⟩⟩

/-- Whatever is read from it is about the name up to its first NUL. -/
theorem name?_of_parse_request (size : Nat) {p : TftpPacket}
    (read : TftpPacket.parse (job.request settings size).octets = .ok p) :
    p.name? = some (Tftp.untilNul job.remote) := by
  revert read
  unfold request
  cases job.direction with
  | get =>
    intro read
    rw [TftpPacket.octets, List.append_assoc, List.append_assoc, TftpPacket.parse_octets16,
      if_pos rfl] at read
    obtain ⟨⟨name, mode, options⟩, fields, rfl⟩ := exists_ok_of_map read
    exact congrArg some (TftpPacket.name_of_parseRequest fields)
  | put =>
    intro read
    rw [TftpPacket.octets, List.append_assoc, List.append_assoc, TftpPacket.parse_octets16,
      if_neg (by decide), if_pos rfl] at read
    obtain ⟨⟨name, mode, options⟩, fields, rfl⟩ := exists_ok_of_map read
    exact congrArg some (TftpPacket.name_of_parseRequest fields)

end TransferJob

namespace Stack

variable {ω η φ : Type} [FileHandle η φ]

/-- The request is the packet that the new transfer sends. -/
theorem requestPacket_transfer (job : TransferJob) (file : η) (volume : φ) (port : UInt16)
    (settings : TransferConfig) (now : Tick) :
    (job.transfer file volume port settings now).requestPacket =
      job.request settings (FileHandle.size file volume) := by
  unfold TransferJob.transfer Transfer.requestPacket TransferJob.request
  cases job.direction <;> rfl

variable (s : Stack ω η φ) (opener : FileOpener η φ) (job : TransferJob)

/-- Nothing is sent unless the transfer starts. -/
theorem core_startTransfer_of_error {e : TransferError}
    (refused : (s.startTransfer opener job).1 = .error e) :
    (s.startTransfer opener job).2.core = s.core := by
  have starts := s.starts_startTransfer opener job
  rw [refused] at starts
  generalize (s.startTransfer opener job).2 = s' at starts
  cases starts <;> rfl

/-- The datagram of a request, from one of our ports. -/
def requestDatagram (s : Stack ω η φ) (job : TransferJob) (port : UInt16) (request : TftpPacket) :
    Packet :=
  (⟨s.core.mac, s.core.iface.address, port, job.server, Tftp.serverPort⟩ : Endpoints).datagram
    s.core.nextIdentification.1 request.octets

/-- **The request is the one packet that a new transfer sends.** The rest is told. -/
theorem core_startTransfer {id : SinkId} (started : (s.startTransfer opener job).1 = .ok id) :
    ∃ (file : η) (volume : φ) (port : UInt16) (told : List Event),
      opener job.file job.mode s.volume = (.ok file, volume) ∧
      (s.startTransfer opener job).2.core =
        s.core.run (.tell (.tftp (.requesting job.direction job.remote job.server)) :: .identify ::
          .transmit (s.requestDatagram job port
            (job.request s.core.config.transfer (FileHandle.size file volume))) ::
          told.map .tell) := by
  unfold startTransfer at started ⊢
  cases up : s.core.address? with
  | none =>
    rw [up] at started
    cases started
  | some ours =>
    rw [up] at started
    obtain ⟨nextPort, moved⟩ := s.allocatePortWithin_eq
      (Udp.ephemeralLast.toNat - Udp.ephemeralFirst.toNat + 1)
    change s.allocatePort.2 = _ at moved
    rcases free : s.allocatePort with ⟨_ | port, s₁⟩
    · rw [free] at started
      cases started
    rw [free] at started moved
    dsimp only at moved
    subst moved
    dsimp only at started ⊢
    rcases opened : opener job.file job.mode s.volume with ⟨_ | file, volume⟩
    · rw [opened] at started
      cases started
    have began : (Transfer.Session.start (Core.uplink ω)
        ⟨job.transfer file volume port s.core.config.transfer s.core.now, Timer.idle, s.core,
          volume⟩).2.link =
        s.core.run [.tell (.tftp (.requesting job.direction job.remote job.server)), .identify,
          .transmit (s.requestDatagram job port
            (job.request s.core.config.transfer (FileHandle.size file volume)))] := by
      rw [← requestPacket_transfer job file volume port _ s.core.now]
      rfl
    dsimp only
    generalize Transfer.Session.start (Core.uplink ω) (Transfer.Session.mk
      (job.transfer file volume port s.core.config.transfer s.core.now) Timer.idle s.core
        volume) = begun at began ⊢
    obtain ⟨answer, transfer', timer, core, volume'⟩ := begun
    dsimp only at began
    subst began
    cases answer with
    | ok =>
      exact ⟨file, volume, port,
        [.tftp (.started job.direction job.server job.remote job.file port),
          .stack (.registered ⟨s.sinks.nextNumber⟩ .tftp)], rfl, rfl⟩
    | error e =>
      exact ⟨file, volume, port, [.tftp (.notSent e),
        .tftp (.started job.direction job.server job.remote job.file port),
        .stack (.registered ⟨s.sinks.nextNumber⟩ .tftp)], rfl, rfl⟩

/-! ## What the server reads -/

/-- **The request asks for what was asked for exactly if the name holds no NUL.** A start that fails
sends nothing. One that succeeds sends one packet, and under settings that may be asked for, that
packet reads back as the request for the caller's file, with all that the stack is set to, if and
only if the name fits its field. In any case, whatever the server reads, the name is only the part
before the first NUL.
-/
theorem startTransfer_requests
    (ranged : Tftp.minBlockSize ≤ s.core.config.transfer.blockSize.toNat ∧
      s.core.config.transfer.blockSize.toNat ≤ Tftp.maxBlockSize)
    (windowed : s.core.config.transfer.windowSize ≠ 0) :
    (∀ e, (s.startTransfer opener job).1 = .error e →
      (s.startTransfer opener job).2.core = s.core) ∧
    ∀ id, (s.startTransfer opener job).1 = .ok id →
      ∃ (file : η) (volume : φ) (request : Packet) (payload : Bytes) (told : List Event),
        opener job.file job.mode s.volume = (.ok file, volume) ∧
        (s.startTransfer opener job).2.core =
          s.core.run (.tell (.tftp (.requesting job.direction job.remote job.server)) ::
            .identify :: .transmit request :: told.map .tell) ∧
        request.payload? = .ok payload ∧
        (TftpPacket.parse payload = .ok (job.request s.core.config.transfer
          (FileHandle.size file volume)) ↔ Tftp.FitsField job.remote) ∧
        ∀ p, TftpPacket.parse payload = .ok p → p.name? = some (Tftp.untilNul job.remote) := by
  refine ⟨fun e refused => s.core_startTransfer_of_error opener job refused, fun id started => ?_⟩
  obtain ⟨file, volume, port, told, opened, core⟩ := s.core_startTransfer opener job started
  refine ⟨file, volume, _, _, told, opened, core, Endpoints.payload?_datagram .., ?_, ?_⟩
  · rw [← job.wellFormed_request ranged windowed (FileHandle.size file volume)]
    exact (TftpPacket.parse_octets_iff _).1
  · exact fun p => job.name?_of_parse_request _

/-- Fetches a file under a name of the caller's choice. -/
def fetching (remote : String) : TransferJob :=
  { direction := .get, server := ⟨10, 0, 0, 9⟩, remote, file := "image" }

/-- A transfer starts whether or not the file name holds a NUL. -/
theorem started_fetching (remote : String) :
    (early.startTransfer RamFile.open? (fetching remote)).1 = .ok ⟨4⟩ := by
  have opened : RamFile.open? "image" .create {} =
      (.ok { path := "image", mode := .create }, { files := [⟨"image", #[]⟩] }) := by
    have path : RamVolume.isPath "image" = true := by decide +kernel
    rw [RamFile.open?, path]
    rfl
  have up : early.core.address? = some ⟨10, 0, 0, 2⟩ := rfl
  have free : early.allocatePort = (some 49152, { early with nextPort := 49153 }) := rfl
  unfold startTransfer
  rw [up, free]
  dsimp only
  rw [show (fetching remote).file = "image" from rfl,
    show (fetching remote).mode = .create from rfl,
    show early.volume = {} from rfl, opened]
  rfl

/-- A plain name is asked for. -/
theorem startTransfer_requests_boot :
    ∃ (request : Packet) (payload : Bytes) (told : List Event),
      (early.startTransfer RamFile.open? (fetching "boot")).2.core =
        early.core.run (.tell (.tftp (.requesting .get "boot" ⟨10, 0, 0, 9⟩)) :: .identify ::
          .transmit request :: told.map .tell) ∧
      request.payload? = .ok payload ∧
      TftpPacket.parse payload = .ok (.readRequest "boot" "octet"
        { blockSize := some 1468, transferSize := some 0, windowSize := some 8
          rollover := some .zero }) := by
  obtain ⟨file, volume, request, payload, told, -, core, carried, reads, -⟩ :=
    (startTransfer_requests early RamFile.open? (fetching "boot") (by decide) (by decide)).2 _
      (started_fetching "boot")
  refine ⟨request, payload, told, core, carried, reads.mpr ?_⟩
  unfold Tftp.FitsField
  decide

/-- **A name with a NUL asks for another file.** What stands behind the NUL takes the places of the
mode and of options.
-/
theorem not_startTransfer_requests_named :
    ¬ ∀ (s : Stack Nat RamFile RamVolume) (job : TransferJob) (id : SinkId),
      Tftp.minBlockSize ≤ s.core.config.transfer.blockSize.toNat ∧
        s.core.config.transfer.blockSize.toNat ≤ Tftp.maxBlockSize →
      s.core.config.transfer.windowSize ≠ 0 →
      (s.startTransfer RamFile.open? job).1 = .ok id →
      ∀ (file : RamFile) (volume : RamVolume) (request : Packet) (payload : Bytes)
        (told : List Event), RamFile.open? job.file job.mode s.volume = (.ok file, volume) →
        (s.startTransfer RamFile.open? job).2.core =
          s.core.run (.tell (.tftp (.requesting job.direction job.remote job.server)) ::
            .identify :: .transmit request :: told.map .tell) →
        request.payload? = .ok payload →
        TftpPacket.parse payload = .ok (job.request s.core.config.transfer
          (FileHandle.size file volume)) := by
  intro claim
  have started := started_fetching "boot\x00octet\x00x"
  obtain ⟨file, volume, port, told, opened, core⟩ :=
    early.core_startTransfer RamFile.open? _ started
  have reads := claim early _ _ (by decide) (by decide) started file volume _ _ told opened core
    (Endpoints.payload?_datagram ..)
  have cut : "boot\x00octet\x00x" = Tftp.untilNul "boot\x00octet\x00x" :=
    Option.some.inj (TransferJob.name?_of_parse_request _ _ reads)
  have differs : "boot\x00octet\x00x" ≠ Tftp.untilNul "boot\x00octet\x00x" := by decide
  exact differs cut

end Stack

end PolledNet
