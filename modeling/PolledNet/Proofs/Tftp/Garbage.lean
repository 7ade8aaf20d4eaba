import PolledNet.File.RamVolume
import PolledNet.Proofs.Core.Ownership
import PolledNet.Proofs.Tftp.Projection

/-!
# Garbage

A datagram that is no packet is counted and told, and it is answered by nothing. But a transfer that
does not know the server's port yet takes it from the first datagram it gets, before it reads it. So
garbage is without influence if, and only if, it comes from the port that is known
(`garbage_ignored_iff`). Otherwise it fixes the port, and a server that uses another one is turned
away.

Without influence means that whatever comes later is handled as if the garbage had never come. The
two sessions differ in what was counted and told, and nothing reads that (`Alike`).
-/

namespace PolledNet

namespace Transfer

variable {η ω φ : Type}

/-- What reaches one session reaches the other too; where others have used the interface, it may
differ in what they counted and told. -/
def AllAlike (inputs inputs' : List (Input (Core ω) φ)) : Prop :=
  inputs.map (Input.onto Core.unnoted) = inputs'.map (Input.onto Core.unnoted)

namespace Session

/-! ## Sessions that differ in their notes -/

/-- The sessions differ at most in what was counted and told. -/
def Alike (s s' : Session η (Core ω) φ) : Prop := s.onto Core.unnoted = s'.onto Core.unnoted

section Alike

variable {s s' : Session η (Core ω) φ}

/-- Sessions that differ in their notes only have one transfer. -/
theorem Alike.transfer (alike : Alike s s') : s.transfer = s'.transfer := by
  have transfers := congrArg Session.transfer alike
  exact transfers

variable [FileHandle η φ]

/-- Sessions that are alike stay so in runs that are alike. -/
theorem Alike.run (alike : Alike s s') {inputs inputs' : List (Input (Core ω) φ)}
    (same : AllAlike inputs inputs') :
    Alike (s.run (Core.uplink ω) inputs) (s'.run (Core.uplink ω) inputs') :=
  onto_run_congr Core.projects_unnoted alike same

end Alike

/-! ## Datagrams that do nothing -/

section Receive

variable {σ : Type} (up : Uplink σ) {s : Session η σ φ} {port : UInt16} {payload : Bytes}

/-- Nothing is new about a port that is known. -/
theorem heard_transfer_eq_iff :
    (s.heard port).transfer = s.transfer ↔ s.transfer.serverPort = some port := by
  constructor
  · intro same
    rw [← same]
    rfl
  · intro locked
    rw [heard_of_locked locked]

/-- Once a port is known, it is the only one that counts as the server's. -/
theorem hears_heard_iff {q : UInt16} : (s.heard port).Hears q ↔ q = port :=
  ⟨fun hears => (hears port rfl).symm, fun same => hears_of_locked (congrArg some same.symm)⟩

variable [FileHandle η φ]

/-- Garbage is counted and told; and the port is known from then on. -/
theorem receive_garbage (running : s.transfer.phase ≠ .done) (hears : s.Hears port)
    {e : TftpError} (garbage : TftpPacket.parse payload = .error e) :
    s.receive up port payload =
      (.ok (), { s.heard port with
        link := up.countMalformed (up.tell (.tftp (.malformed e)) s.link) }) := by
  rw [receive_of_hears up running hears, receiveContent, garbage]
  rfl

/-- A datagram from another port is told and answered, and changes the interface only. -/
theorem step_of_not_hears (running : s.transfer.phase ≠ .done) (other : ¬ s.Hears port) :
    s.step up (.datagram port payload) =
      { s with
        link := (up.send s.transfer.localPort s.transfer.server port
          (TftpPacket.error Tftp.errorUnknownTransfer "Unknown transfer ID").octets
          (up.tell (.tftp (.foreign port)) s.link)).2 } := by
  rw [step, receive_of_not_hears up running other]
  rfl

/-- A datagram from the server's port makes the port known anyway. -/
theorem step_heard (running : s.transfer.phase ≠ .done) (hears : s.Hears port) :
    (s.heard port).step up (.datagram port payload) = s.step up (.datagram port payload) := by
  have running' : (s.heard port).transfer.phase ≠ .done := running
  have again : (s.heard port).heard port = s.heard port := rfl
  rw [step, step, receive_of_hears up running hears,
    receive_of_hears up running' (hears_heard_iff.mpr rfl), again]

/-- The server ends a transfer. -/
def refused : Bytes := (TftpPacket.error 0 "").octets

/-- A server may end a transfer that does not know its port, but not any more once another port is
known. -/
theorem step_refused_ne_heard (running : s.transfer.phase ≠ .done)
    (unlocked : s.transfer.serverPort = none) {q : UInt16} (other : q ≠ port) :
    (s.step up (.datagram q refused)).transfer ≠
      ((s.heard port).step up (.datagram q refused)).transfer := by
  have hears : s.Hears q := fun known mem => by rw [unlocked] at mem; cases mem
  have read : TftpPacket.parse refused = .ok (.error 0 "") := by decide +kernel
  have ended : (s.step up (.datagram q refused)).transfer.phase = .done := by
    rw [step, receive_of_hears up running hears, receiveContent, read]
    exact finish_phase up _ _
  have running' : (s.heard port).transfer.phase ≠ .done := running
  intro same
  rw [same, step_of_not_hears up running' (mt hears_heard_iff.mp other)] at ended
  exact running ended

end Receive

end Session

open Session

variable [FileHandle η φ]

/-- **What garbage does to a transfer.** It is counted and told, and it makes its port the known
one. So it leaves a transfer as it was only if that port was known already, and then all that
follows is handled as if it had not come. Otherwise this is so exactly for datagrams from the same
port. A datagram from a port other than the known one, garbage or not, is answered by one error
message and leaves transfer, timer and volume as they were. -/
theorem garbage_ignored_iff (s : Session η (Core ω) φ) (running : s.transfer.phase ≠ .done)
    (port : UInt16) (payload : Bytes) :
    let up := Core.uplink ω
    let s' := s.step up (.datagram port payload)
    (∀ e, TftpPacket.parse payload = .error e → s.Hears port →
      s.receive up port payload =
        (.ok (), { s.heard port with
          link := (s.link.tell (.tftp (.malformed e))).countMalformed }) ∧
      (s'.transfer = s.transfer ↔ s.transfer.serverPort = some port) ∧
      (s.transfer.serverPort = some port → ∀ inputs inputs', AllAlike inputs inputs' →
        Alike (s'.run up inputs) (s.run up inputs')) ∧
      ∀ q : UInt16,
        (∀ next inputs inputs', AllAlike inputs inputs' →
          Alike (s'.run up (.datagram q next :: inputs)) (s.run up (.datagram q next :: inputs'))) ↔
        s.transfer.serverPort = some port ∨ q = port) ∧
    (¬ s.Hears port →
      s' = { s with
        link := ((s.link.tell (.tftp (.foreign port))).sendDatagram s.transfer.localPort
          s.transfer.server port
          (TftpPacket.error Tftp.errorUnknownTransfer "Unknown transfer ID").octets).2 }) := by
  intro up s'
  refine ⟨fun e garbage hears => ?_, step_of_not_hears up running⟩
  have received := receive_garbage up running hears garbage
  have after : s' = _ := congrArg Prod.snd received
  have transfer : s'.transfer = (s.heard port).transfer := by rw [after]
  have alike : Alike s' (s.heard port) := by rw [after]; rfl
  refine ⟨received, by rw [transfer]; exact heard_transfer_eq_iff, ?_, fun q => ⟨?_, ?_⟩⟩
  · intro locked inputs inputs' same
    rw [heard_of_locked locked] at alike
    exact alike.run same
  · intro ignored
    by_contra not
    obtain ⟨unknown, other⟩ := not_or.mp not
    have unlocked : s.transfer.serverPort = none :=
      Classical.byContradiction fun known => unknown (hears.locked known)
    have withGarbage := (ignored refused [] [] rfl).transfer
    have withPort : _ = ((s.heard port).run up [.datagram q refused]).transfer :=
      (alike.run rfl).transfer
    exact step_refused_ne_heard up running unlocked other (withGarbage.symm.trans withPort)
  · rintro same next inputs inputs' others
    have all : AllAlike (.datagram q next :: inputs) (.datagram q next :: inputs') :=
      congrArg (Input.onto Core.unnoted (.datagram q next) :: ·) others
    rcases same with locked | rfl
    · rw [heard_of_locked locked] at alike
      exact alike.run all
    · have known : (s.heard q).run up (.datagram q next :: inputs') =
          s.run up (.datagram q next :: inputs') := by
        rw [run_cons, run_cons, step_heard up running hears]
      rw [← known]
      exact alike.run all

/-- A transfer that has asked for a file and heard nothing yet. -/
def asking : Session RamFile (Core (Tapped Bench)) RamVolume :=
  Session.opened (Core.uplink _) ⟨.get, ⟨10, 0, 0, 9⟩, "log", "log"⟩ ⟨"log", .create, 0⟩ 50000 {}
    Core.faulty ⟨[⟨"log", #[1, 2]⟩], none⟩

/-- No packet begins like this. -/
def garbage : Bytes := [0, 99, 1]

/-- The server agrees to the defaults. -/
def agreeing : Bytes := (TftpPacket.optionAck {}).octets

/-- Garbage from another port is noted by a transfer that still asks, and leaves no trace once the
server's port is locked. -/
theorem garbage_ignored_iff_asking :
    let up := Core.uplink (Tapped Bench)
    asking.transfer.phase ≠ .done ∧ TftpPacket.parse garbage = .error (.unknownOpcode 99) ∧
      (asking.step up (.datagram 70 garbage)).transfer ≠ asking.transfer ∧
      Alike (((asking.heard 69).step up (.datagram 69 garbage)).run up
          [.datagram 69 agreeing, .expiry])
        ((asking.heard 69).run up [.datagram 69 agreeing, .expiry]) := by
  intro up
  have running : asking.transfer.phase ≠ .done := by decide
  have running' : (asking.heard 69).transfer.phase ≠ .done := running
  have unlocked : asking.transfer.serverPort = none := rfl
  have read : TftpPacket.parse garbage = .error (.unknownOpcode 99) := by decide +kernel
  have hears : asking.Hears 70 := fun known mem => by rw [unlocked] at mem; cases mem
  refine ⟨running, read, ?_, ?_⟩
  · rw [Ne, ((garbage_ignored_iff asking running 70 garbage).1 _ read hears).2.1, unlocked]
    nofun
  · exact ((garbage_ignored_iff (asking.heard 69) running' 69 garbage).1 _ read
      (hears_of_locked rfl)).2.2.1 rfl _ _ rfl

/-- **Garbage may end the talk with a server.** It comes from another port before the server has
answered, and then the server's agreement is turned away. -/
theorem not_garbage_ignored :
    let up := Core.uplink (Tapped Bench)
    TftpPacket.parse garbage = .error (.unknownOpcode 99) ∧
      asking.transfer.serverPort = none ∧
      (asking.run up [.datagram 70 garbage]).transfer.serverPort = some 70 ∧
      (asking.run up [.datagram 69 agreeing]).transfer.phase = .transferring ∧
      (asking.run up [.datagram 70 garbage, .datagram 69 agreeing]).transfer.phase =
        .negotiating := by
  decide +kernel

end Transfer

end PolledNet
