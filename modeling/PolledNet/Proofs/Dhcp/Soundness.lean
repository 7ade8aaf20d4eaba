import PolledNet.Proofs.Deadline
import PolledNet.Proofs.Dhcp.Conduct

/-!
# The DHCP client between two handlers

Four states of the client outlast a handler, and each goes with a lease or none and with the
addresses that the interface then has (`Standing`). With an armed timer and a wait within its limits
that is what every handler relies on and restores (`Session.Sound`), whether what it sends is taken
or not.

A client runs beside other work on the same core, which leaves our addresses alone. `Session.Step`
is one handler of the client or any such work, and `Session.Lives` any sequence of them.
-/

namespace PolledNet

namespace DhcpClient

/-- Where a client may be between two handlers, and which addresses the interface then has. -/
inductive Standing (client : DhcpClient) (iface : InterfaceConfig) : Prop where
  /-- It waits for an offer. -/
  | selecting (state : client.state = .select) (none : client.lease = none)
      (down : iface = InterfaceConfig.unconfigured)
  /-- It waits for the address that was offered. -/
  | requesting {lease : Lease} (state : client.state = .request)
      (offered : client.lease = some lease) (down : iface = InterfaceConfig.unconfigured)
  /-- It holds an address. -/
  | holding {lease : Lease} (state : client.state = .bound) (held : client.lease = some lease)
      (up : iface = lease.interfaceConfig)
  /-- It asks to keep it. -/
  | renewing {lease : Lease} (state : client.state = .renew) (held : client.lease = some lease)
      (up : iface = lease.interfaceConfig) (least : 1 ≤ client.renewAttempts)
      (most : client.renewAttempts ≤ Dhcp.renewRetries)

/-- The wait for an offer is within its limits. -/
def Patient (client : DhcpClient) : Prop :=
  Dhcp.initialBackoff ≤ client.backoff ∧ client.backoff ≤ Dhcp.maxBackoff

/-- The least wait is within the limits. -/
theorem patient_of_initial {client : DhcpClient} (initial : client.backoff = Dhcp.initialBackoff) :
    client.Patient := by
  unfold Patient
  rw [initial]
  decide

/-- Doubled and cut off, the wait is still within its limits. -/
theorem Patient.doubled {client : DhcpClient} (patient : client.Patient) :
    Dhcp.initialBackoff ≤ min (client.backoff * 2) Dhcp.maxBackoff ∧
      min (client.backoff * 2) Dhcp.maxBackoff ≤ Dhcp.maxBackoff := by
  have least : Dhcp.initialBackoff.toNat = 200 := by decide
  have most : Dhcp.maxBackoff.toNat = 12000 := by decide
  obtain ⟨low, high⟩ := patient
  rw [UInt32.le_iff_toNat_le] at low high ⊢
  rw [UInt32.le_iff_toNat_le, Tick.toNat_min, UInt32.toNat_mul, show (2 : Tick).toNat = 2 from rfl]
  omega

/-- An address that is leased is an address. -/
theorem interfaceConfig_ne_unconfigured (lease : Lease) :
    lease.interfaceConfig ≠ InterfaceConfig.unconfigured :=
  fun same => Option.some_ne_none _ (congrArg InterfaceConfig.gateway same)

namespace Session

open PolledNet.Core (Leads)

variable {ω : Type} {x y : Session (Core ω)}

/-- What holds between any two handlers. -/
structure Sound (x : Session (Core ω)) : Prop where
  /-- The client has something to wait for. -/
  armed : x.timer.isArmed = true
  standing : x.client.Standing x.link.iface
  patient : x.client.Patient

/-! ## What handlers are made of -/

section Parts

variable {σ : Type} (up : Uplink σ) (s : Session σ)

/-- The round that starts has a number of its own, and nothing is leased in it. -/
theorem discover_client :
    (s.discover up).2.client =
      { s.client with
        state := .select, lease := none, xid := nextXid s.client.xid (up.now s.link) } := rfl

/-- A client that searches waits as long as it is ready to. -/
theorem discover_isArmed : (s.discover up).2.timer.isArmed = true := rfl

/-- Asking changes nothing but the interface. -/
theorem request_client : (s.request up).2.client = s.client := by
  unfold request
  split <;> rfl

/-- To ask for an address leaves the timer alone. -/
theorem request_timer : (s.request up).2.timer = s.timer := by
  unfold request
  split <;> rfl

end Parts

variable (x) in
/-- To look for servers is ordinary work on the core. -/
theorem leads_discover : Leads Act.Ordinary x.link (x.discover (Core.uplink ω)).2.link :=
  moves_discover (Core.moves_of_plain fun _ plain => plain.ordinary) x

variable (x) in
/-- To ask for an address is ordinary work on the core. -/
theorem leads_request : Leads Act.Ordinary x.link (x.request (Core.uplink ω)).2.link :=
  moves_request (Core.moves_of_plain fun _ plain => plain.ordinary) x

/-- A new round finds the client waiting for an offer. -/
theorem sound_discover (patient : x.client.Patient)
    (down : x.link.iface = InterfaceConfig.unconfigured) :
    (x.discover (Core.uplink ω)).2.Sound where
  armed := discover_isArmed _ x
  standing := by
    rw [discover_client]
    exact .selecting rfl rfl (x.leads_discover.undisturbed.iface.trans down)
  patient := by
    rw [discover_client]
    exact patient

/-- A client that is started on an interface without addresses is sound. -/
theorem sound_start (down : x.link.iface = InterfaceConfig.unconfigured) :
    (x.start (Core.uplink ω)).2.Sound :=
  sound_discover (x := { x with client := { x.client with backoff := Dhcp.initialBackoff } })
    (patient_of_initial rfl) down

/-- What a request leaves behind is what it found. -/
theorem Sound.request (sound : x.Sound) : (x.request (Core.uplink ω)).2.Sound where
  armed := by rw [request_timer]; exact sound.armed
  standing := by
    rw [request_client, x.leads_request.undisturbed.iface]
    exact sound.standing
  patient := by rw [request_client]; exact sound.patient

/-! ## Answers -/

/-- An offer keeps it sound. -/
theorem sound_receiveOffer (sound : x.Sound) (down : x.link.iface = InterfaceConfig.unconfigured)
    (m : DhcpMessage) : (x.receiveOffer (Core.uplink ω) m).2.Sound := by
  unfold receiveOffer
  split
  · exact ⟨sound.armed, sound.standing, sound.patient⟩
  · exact Sound.request ⟨rfl, .requesting rfl rfl down, patient_of_initial rfl⟩

/-- A grant keeps it sound. -/
theorem sound_bind (sound : x.Sound) (m : DhcpMessage) : (x.bind (Core.uplink ω) m).Sound := by
  unfold bind
  split
  · exact sound
  · exact ⟨rfl, .holding rfl rfl rfl, sound.patient⟩

/-- A refusal leads to a new round, without an address. -/
theorem sound_receiveNak (patient : x.client.Patient)
    (down : x.client.state ≠ .renew → x.link.iface = InterfaceConfig.unconfigured) :
    (x.receiveNak (Core.uplink ω)).2.Sound := by
  unfold receiveNak
  dsimp only
  split
  · exact sound_discover patient rfl
  · rename_i other
    exact sound_discover patient (down other)

/-- **Whatever the client receives.** -/
theorem Sound.receive (sound : x.Sound) (payload : Bytes) :
    (x.receive (Core.uplink ω) payload).2.Sound := by
  unfold Session.receive
  split
  · exact ⟨sound.armed, sound.standing, sound.patient⟩
  · rename_i m _
    split
    · exact ⟨sound.armed, sound.standing, sound.patient⟩
    · split
      · rename_i state _
        cases sound.standing with
        | selecting _ _ down => exact sound_receiveOffer sound down m
        | requesting other | holding other | renewing other => cases state.symm.trans other
      · exact sound_bind sound m
      · exact sound_bind sound m
      · rename_i state _
        cases sound.standing with
        | requesting _ _ down => exact sound_receiveNak sound.patient fun _ => down
        | selecting other | holding other | renewing other => cases state.symm.trans other
      · rename_i state _
        exact sound_receiveNak sound.patient fun other => absurd state other
      · exact ⟨sound.armed, sound.standing, sound.patient⟩

/-! ## Expiry -/

/-- A renewal request keeps the address. -/
theorem sound_renew {lease : Lease} (held : x.client.lease = some lease)
    (up : x.link.iface = lease.interfaceConfig) (patient : x.client.Patient) {attempts : UInt32}
    (least : 1 ≤ attempts) (most : attempts ≤ Dhcp.renewRetries) :
    (x.renew (Core.uplink ω) attempts).2.Sound :=
  Sound.request ⟨rfl, .renewing rfl held up least most, patient⟩

/-- A client that has lost its lease is sound. -/
theorem sound_loseLease : (x.loseLease (Core.uplink ω)).2.Sound :=
  sound_discover (patient_of_initial rfl) rfl

/-- **Whatever expires.** The timer is disarmed by then. -/
theorem sound_expire (standing : x.client.Standing x.link.iface) (patient : x.client.Patient) :
    (x.expire (Core.uplink ω)).2.Sound := by
  unfold expire
  cases standing with
  | selecting state _ down =>
    rw [state]
    exact sound_discover patient.doubled down
  | requesting state _ down =>
    rw [state]
    exact sound_discover patient down
  | holding state held up =>
    rw [state]
    exact sound_renew held up patient (by decide) (by decide)
  | renewing state held up least most =>
    rw [state]
    dsimp only
    split
    · exact sound_loseLease
    · rename_i few
      have few : x.client.renewAttempts.toNat < Dhcp.renewRetries.toNat := by
        rw [ge_iff_le, UInt32.le_iff_toNat_le] at few
        omega
      have retries : Dhcp.renewRetries.toNat = 5 := rfl
      have next : (x.client.renewAttempts + 1).toNat = x.client.renewAttempts.toNat + 1 := by
        rw [UInt32.toNat_add, show (1 : UInt32).toNat = 1 from rfl]
        omega
      refine sound_renew held up patient ?_ ?_ <;> rw [UInt32.le_iff_toNat_le, next]
      · rw [show (1 : UInt32).toNat = 1 from rfl]
        omega
      · omega

/-! ## Whole lives -/

/-- One handler of the client, or other work on the core. -/
inductive Step (x : Session (Core ω)) : Session (Core ω) → Prop where
  /-- Others work, and time passes. -/
  | others {c : Core ω} (leads : Leads Act.KeepsAddress x.link c) : Step x { x with link := c }
  /-- A datagram is received. -/
  | receive (payload : Bytes) : Step x (x.receive (Core.uplink ω) payload).2
  /-- The timer expires. -/
  | expire : Step x ({ x with timer := Timer.idle }.expire (Core.uplink ω)).2

/-- Any sequence of handlers and other work. -/
def Lives : Session (Core ω) → Session (Core ω) → Prop := Relation.ReflTransGen Step

/-- **Whatever happens to a sound client leaves it sound.** -/
theorem Sound.step (sound : x.Sound) (step : Step x y) : y.Sound := by
  cases step with
  | others leads =>
    refine ⟨sound.armed, ?_, sound.patient⟩
    have iface := leads.iface fun _ keeps => keeps
    rw [iface]
    exact sound.standing
  | receive payload => exact sound.receive payload
  | expire => exact sound_expire (x := { x with timer := Timer.idle }) sound.standing sound.patient

/-- **Between any two handlers of its life the client is sound.** -/
theorem Sound.lives (sound : x.Sound) (lives : Lives x y) : y.Sound := by
  induction lives with
  | refl => exact sound
  | tail _ step ih => exact ih.step step

end Session

end DhcpClient

end PolledNet
