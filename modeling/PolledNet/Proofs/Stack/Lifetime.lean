import PolledNet.Proofs.Dhcp.Renewal
import PolledNet.Proofs.Stack.Acquisition

/-!
# How long an address is used

The packets of a pass bind the DHCP client, and with that the time of its lease starts. `Unanswered`
is what may happen after that pass while no answer comes: passes, at least one in every tick, and
between them anything that leaves the client and our addresses alone. Time is read off the clock of
the hardware, which passes neither while a frame is sent nor while one is taken (`Core.Prompt`).

* `Serves.pass`: what one pass makes of an unanswered client.
* `lease_kept`: **the interface has the addresses of the lease for exactly `Lease.kept` ticks**
  after the pass that bound the client. That is no longer than the lease only if the lease has more
  than fifty seconds (`not_lease_never_outlived` for one that has fewer).
-/

namespace PolledNet

open PolledNet.Core (Leads)
open DhcpClient (Session)

/-- The packet answers what the client has asked. -/
def Packet.Answers (p : Packet) (client : DhcpClient) : Prop :=
  ∃ payload m, p.payload? = .ok payload ∧ DhcpMessage.parse payload = .ok m ∧
    Session.isAnswer client m = true

/-- A lease as one of the packets acknowledges it: for the time that the packet says, or else the
time that was offered. -/
def Lease.AcknowledgedBy (lease : Lease) (packets : List Packet) : Prop :=
  ∃ p ∈ packets, ∃ payload m, ∃ former : Lease, p.payload? = .ok payload ∧
    DhcpMessage.parse payload = .ok m ∧ m.type = .ack ∧
    lease = { former with seconds := m.leaseSeconds.getD former.seconds }

namespace Stack

variable {ω η φ : Type} {s s₀ s₁ s' : Stack ω η φ}

/-- What may happen between two passes. -/
structure Apart (s s' : Stack ω η φ) : Prop where
  setup : Core.SameSetup s.core s'.core
  iface : s'.core.iface = s.core.iface
  client : clients s'.sinks.sinks = clients s.sinks.sinks

/-- Only the hardware moves on. -/
def elapsed (f : ω → ω) (s : Stack ω η φ) : Stack ω η φ :=
  { s with core := { s.core with hw := f s.core.hw } }

/-- Time that passes on the hardware touches no client. -/
theorem apart_elapsed (f : ω → ω) (s : Stack ω η φ) : s.Apart (s.elapsed f) :=
  ⟨⟨rfl, rfl, rfl, rfl⟩, rfl, rfl⟩

/-- The next pass has no answer for a client. -/
def Quiet (s : Stack ω η φ) : Prop :=
  ∀ p ∈ mail s.collected.sinks.sinks, ∀ client ∈ clients s.sinks.sinks, ¬ p.Answers client.1

/-- What is collected for a pass is collected for the same client. -/
theorem Serves.collected {x : Session (Core ω)} (serves : s.Serves x) :
    s.collected.Serves { x with link := s.collected.core } :=
  ⟨s.leads_collected.2.trans serves.client, rfl⟩

/-- What happens between passes happens to the same client. -/
theorem Serves.apart {x : Session (Core ω)} (serves : s.Serves x) (apart : s.Apart s') :
    s'.Serves { x with link := s'.core } :=
  ⟨apart.client.trans serves.client, rfl⟩

variable [FileHandle η φ]

/-- What may happen while no answer comes, in so many ticks. -/
inductive Unanswered (s₀ : Stack ω η φ) : Nat → Stack ω η φ → Prop where
  /-- Nothing yet. -/
  | now : Unanswered s₀ 0 s₀
  /-- One more pass, at most a tick after the last one. -/
  | pass {n m : Nat} {s s₁ s' : Stack ω η φ} (before : Unanswered s₀ n s) (apart : s.Apart s₁)
      (quiet : s₁.Quiet) (ran : s₁.pump = .ok s') (later : s'.core.now = s.core.now.after m)
      (soon : m ≤ 1) : Unanswered s₀ (n + m) s'

/-! ## Handling takes no time -/

/-- What a core is led to while no time passes is steady: a session's own deeds keep it. -/
theorem steady_leads (c : Core ω) : Steady fun x => Leads Act.Timeless c x.link :=
  fun _ _ leads before => before.trans (leads.mono fun _ ordinary => ordinary.1)

/-- No time passes while the queues are drained. -/
theorem Serves.leads_drained {x : Session (Core ω)} (serves : s.Serves x)
    (ran : s.drainQueues = .ok s') : Leads Act.Timeless s.core s'.core := by
  obtain ⟨y, served, leads⟩ := drained_client (steady_leads s.core)
    (fun x _ payload _ _ before => before.trans (x.leads_receive payload)) serves
    (by rw [serves.core]; exact .refl _) ran
  rw [served.core]
  exact leads

/-- No time passes while timers expire. -/
theorem Serves.leads_expired {x : Session (Core ω)} (serves : s.Serves x) :
    Leads Act.Timeless s.core s.expireTimers.core := by
  obtain ⟨y, served, leads⟩ := expired_client (steady_leads s.core) (steady_leads s.core)
    (fun _ before _ => before)
    (fun y before _ => Leads.trans before (Session.leads_expire { y with timer := Timer.idle }))
    serves (by rw [serves.core]; exact .refl _)
  rw [served.core]
  exact leads

/-- A client that is served is still served once the queues are drained. -/
theorem Serves.drained {x : Session (Core ω)} (serves : s.Serves x)
    (ran : s.drainQueues = .ok s') : ∃ y, s'.Serves y := by
  have steady : Steady fun _ : Session (Core ω) => True := fun _ _ _ _ => trivial
  obtain ⟨y, served, -⟩ := drained_client steady (fun _ _ _ _ _ _ => trivial) serves trivial ran
  exact ⟨y, served⟩

/-- No time passes while a pass handles what it has received. -/
theorem Serves.leads_handled {x : Session (Core ω)} (serves : s.Serves x)
    (ran : s.handled = .ok s') : Leads Act.Timeless s.core s'.core := by
  obtain ⟨s₁, drained, rfl⟩ := handled_eq_ok ran
  obtain ⟨y, served⟩ := serves.drained drained
  exact (serves.leads_drained drained).trans served.leads_expired

/-- The hardware stays prompt. -/
theorem Serves.prompt {x : Session (Core ω)} (serves : s.Serves x) (prompt : s.core.Prompt)
    (ran : s.pump = .ok s') : s'.core.Prompt :=
  (serves.collected.leads_handled ran).sameSetup.prompt
    (s.leads_collected.1.sameSetup.prompt prompt)

/-! ## One pass -/

section Pass

variable {x : Session (Core ω)} {t₀ : Tick} {lost n m : Nat} {lease : Lease}

/-- **A pass without an answer** lets the client wait, ask once more, or give its lease up. -/
theorem Serves.pass (serves : s.Serves x) (prompt : s.core.Prompt)
    (fate : x.Fate t₀ lost n lease) (quiet : s.Quiet) (ran : s.pump = .ok s')
    (later : s'.core.now = t₀.after (n + m)) (soon : m ≤ 1) :
    ∃ y, s'.Serves y ∧ y.Fate t₀ lost (n + m) lease := by
  rw [pump_eq] at ran
  have gathered := s.leads_collected.1
  have prompt := gathered.sameSetup.prompt prompt
  have same : s.collected.core.iface = x.link.iface := by
    rw [gathered.iface fun _ keeps => keeps, serves.core]
  have clock (c : Core ω) (leads : Leads Act.Timeless s.collected.core c) :
      c.now = t₀.after (n + m) := by
    have whole := (serves.collected.leads_handled ran).now prompt fun _ timeless => timeless
    rw [leads.now prompt fun _ timeless => timeless, ← whole, later]
  -- until its timer is looked at, nothing happens to the client
  have steady : Steady fun y => y.client = x.client ∧
      Leads Act.Timeless s.collected.core y.link ∧ y.Fate t₀ lost n lease := by
    rintro y c leads ⟨client, before, fate⟩
    exact ⟨client, steady_leads _ y c leads before, fate.others leads.undisturbed.iface⟩
  have steady' : Steady fun y : Session (Core ω) => y.Fate t₀ lost (n + m) lease :=
    fun y c leads fate => fate.others leads.undisturbed.iface
  refine handled_client steady steady' ?_ ?_ ?_ serves.collected ⟨rfl, .refl _, fate.others same⟩
    ran
  · rintro y p payload mem read ⟨client, before, fate⟩
    have silent (m : DhcpMessage) (parsed : DhcpMessage.parse payload = .ok m) :
        Session.isAnswer y.client m ≠ true := by
      intro answers
      rw [client] at answers
      exact quiet p mem (x.client, x.timer)
        (by rw [serves.client]; exact List.mem_singleton_self _) ⟨payload, m, read, parsed, answers⟩
    obtain ⟨c, leads, ignored⟩ := Session.receive_of_unanswered silent
    rw [ignored]
    exact steady y c leads ⟨client, before, fate⟩
  · rintro y z ⟨-, before, -⟩ ⟨-, -, fate⟩ early
    rw [clock _ before] at early
    exact fate.wait soon early
  · rintro y z ⟨-, before, -⟩ ⟨-, still, fate⟩ due
    rw [clock _ before] at due
    exact fate.expire soon (clock _ still) due

/-- **All passes without an answer**, by induction on them. -/
theorem Unanswered.fate (unanswered : Unanswered s₀ n s') (serves : s₀.Serves x)
    (prompt : s₀.core.Prompt) (fate : x.Fate s₀.core.now lost 0 lease) :
    (∃ y, s'.Serves y ∧ y.Fate s₀.core.now lost n lease) ∧ s'.core.Prompt ∧
      s'.core.now = s₀.core.now.after n := by
  induction unanswered with
  | now => exact ⟨⟨x, serves, fate⟩, prompt, (Tick.after_zero _).symm⟩
  | @pass n m s s₁ s' _ apart quiet ran later soon ih =>
    obtain ⟨⟨y, served, fate⟩, prompt, now⟩ := ih
    rw [now, Tick.after_after] at later
    have serves := served.apart apart
    have same : s₁.core.iface = y.link.iface := by rw [apart.iface, served.core]
    have prompt := apart.setup.prompt prompt
    exact ⟨serves.pass prompt (fate.others same) quiet ran later soon, serves.prompt prompt ran,
      later⟩

end Pass

/-! ## The pass that binds -/

section Binding

variable {x y : Session (Core ω)}

/-- If the client is bound, one of the packets has done that at `t₀`. -/
def BoundBy (packets : List Packet) (t₀ : Tick) (x : Session (Core ω)) : Prop :=
  x.client.state = .bound → ∃ lease : Lease, lease.AcknowledgedBy packets ∧
    x.Keeping t₀ lease.kept 0 lease

/-- A session's deeds in between do not bind it, so the reason for a bond stays. -/
theorem steady_boundBy (packets : List Packet) (t₀ : Tick) :
    Steady fun x : Session (Core ω) => BoundBy packets t₀ x := by
  intro x c leads before bound
  obtain ⟨lease, acknowledged, keeping⟩ := before bound
  exact ⟨lease, acknowledged, keeping.others leads.undisturbed.iface⟩

/-- A packet of the list that reaches the client is a reason for its bond. -/
theorem BoundBy.receive {packets : List Packet} {t₀ : Tick} {p : Packet} {payload : Bytes}
    (before : BoundBy packets t₀ x) (now : x.link.now = t₀) (mem : p ∈ packets)
    (read : p.payload? = .ok payload) :
    BoundBy packets t₀ (x.receive (Core.uplink ω) payload).2 := by
  have received := x.reception payload
  generalize (x.receive (Core.uplink ω) payload).2 = y at received ⊢
  cases received with
  | ignored leads => exact steady_boundBy packets t₀ x _ leads before
  | @bound m former parsed answers ack free held =>
    exact fun _ => ⟨_, ⟨p, mem, payload, m, former, read, parsed, ack, rfl⟩,
      Session.keeping_of_bind held now⟩
  | moved parsed answers free away => exact fun bound => absurd bound away

/-- Whoever is bound by a pass, and was not before, was bound by a packet that waited for it, at the
time of the pass. -/
theorem Serves.boundBy (serves : s.Serves x) (prompt : s.core.Prompt)
    (free : x.client.state ≠ .bound) (drained : s.drainQueues = .ok s₁) :
    ∃ y, s₁.Serves y ∧ BoundBy (mail s.sinks.sinks) s.core.now y := by
  have steady : Steady fun y => Leads Act.Timeless s.core y.link ∧
      BoundBy (mail s.sinks.sinks) s.core.now y :=
    fun y c leads before =>
      ⟨steady_leads _ y c leads before.1, steady_boundBy _ _ y c leads before.2⟩
  obtain ⟨y, served, -, bound⟩ := drained_client steady
    (fun y p payload mem read before => ⟨before.1.trans (y.leads_receive payload),
      before.2.receive (before.1.now prompt fun _ timeless => timeless) mem read⟩)
    serves ⟨by rw [serves.core]; exact .refl _, fun bound => absurd bound free⟩ drained
  exact ⟨y, served, bound⟩

/-- The timer of a client that keeps a lease is not due in such a pass. -/
theorem Serves.keeping_expired {lost : Nat} {lease : Lease} (serves : s.Serves x)
    (keeping : x.Keeping s.core.now lost 0 lease) :
    ∃ y, s.expireTimers.Serves y ∧ y.Keeping s.core.now lost 0 lease :=
  expired_client
    (fun _ _ leads keeping => keeping.others leads.undisturbed.iface)
    (fun _ _ leads keeping => keeping.others leads.undisturbed.iface)
    (fun _ keeping _ => keeping)
    (fun _ keeping due => absurd due (by rw [keeping.early]; exact Bool.false_ne_true))
    serves keeping

end Binding

/-! ## A server on the bench -/

/-- The frame in which a server answers a client. -/
def reply (client : DhcpClient) (type : DhcpType) (seconds : UInt32) : Bytes :=
  let m : DhcpMessage :=
    { op := Dhcp.bootReply, xid := client.xid, clientMac := client.mac, type
      offeredAddress := ⟨192, 168, 1, 50⟩, subnetMask := some ⟨255, 255, 255, 0⟩
      router := some ⟨192, 168, 1, 1⟩, nameServer := some ⟨192, 168, 1, 1⟩
      leaseSeconds := some seconds, serverId := some ⟨192, 168, 1, 1⟩ }
  let ends : Endpoints :=
    ⟨⟨2, 0, 0, 0, 0, 2⟩, ⟨192, 168, 1, 1⟩, Dhcp.serverPort, Ipv4.allOnes, Dhcp.clientPort⟩
  ends.frame Mac.broadcast 0 m.octets

/-- The answer to the client of a stack is on the wire. -/
def answered (s : Stack Bench RamFile RamVolume) (type : DhcpType) (seconds : UInt32) :
    Stack Bench RamFile RamVolume :=
  s.elapsed fun hw => (hw.send .b (s.dhcpClient?.map (reply · type seconds)).toList).2

/-- A stack that has accepted an address for an hour and asked for it. -/
def requesting : Stack Bench RamFile RamVolume :=
  let s := unaddressed.startDhcp.2.answered .offer 3600
  s.pump.toOption.getD s

/-- Neither sending nor receiving takes time at the bench. -/
theorem prompt_unaddressed : unaddressed.core.Prompt := by
  refine ⟨fun frame hw => ?_, fun hw => rfl⟩
  show Bench.now ((Bench.device .a _ none 0).transmit frame hw).2 = hw.now
  unfold Bench.device
  dsimp only
  split <;> rfl

/-- The acknowledgement of its address is on the wire as well. -/
def acknowledged (seconds : UInt32) : Stack Bench RamFile RamVolume :=
  requesting.answered .ack seconds

/-- What the server on the bench answers comes between two passes. -/
theorem apart_answered (s : Stack Bench RamFile RamVolume) (type : DhcpType) (seconds : UInt32) :
    s.Apart (s.answered type seconds) := apart_elapsed _ s

/-- The requesting stack serves a client, and its hardware is prompt. -/
theorem serves_requesting : (∃ x, requesting.Serves x) ∧ requesting.core.Prompt := by
  obtain ⟨x, serves, -⟩ := startDhcp_serves (s := unaddressed) rfl rfl
  have prompt :=
    (leads_startDhcp Core.repertoire_plain unaddressed).sameSetup.prompt prompt_unaddressed
  have apart := apart_answered unaddressed.startDhcp.2 .offer 3600
  have serves := serves.apart apart
  have prompt := apart.setup.prompt prompt
  unfold requesting
  dsimp only
  generalize unaddressed.startDhcp.2.answered .offer 3600 = s at serves prompt ⊢
  cases ran : s.pump with
  | error => exact ⟨⟨_, serves⟩, prompt⟩
  | ok s' =>
    obtain ⟨y, served, -⟩ := serves.call (.pump ran)
    exact ⟨⟨y, served⟩, serves.prompt prompt ran⟩

/-- The stack that is about to read the acknowledgement serves a client that is not bound yet. -/
theorem serves_acknowledged (seconds : UInt32) :
    ∃ x, (acknowledged seconds).Serves x ∧ x.client.state ≠ .bound ∧
      (acknowledged seconds).core.Prompt := by
  obtain ⟨⟨x, serves⟩, prompt⟩ := serves_requesting
  have apart := apart_answered requesting .ack seconds
  have state : (clients requesting.sinks.sinks).map (·.1.state) = [.request] := by decide +kernel
  refine ⟨_, serves.apart apart, ?_, apart.setup.prompt prompt⟩
  rw [serves.client] at state
  have state : x.client.state = .request := (List.cons.inj state).1
  show x.client.state ≠ .bound
  rw [state]
  decide

/-- The stack after so many passes, one in every tick, if no mail comes for a client. -/
def alone {ω η φ : Type} [FileHandle η φ] (later : ω → ω) :
    Nat → Stack ω η φ → Option (Stack ω η φ)
  | 0, s => some s
  | n + 1, s =>
    let s₁ := (s.elapsed later).collected
    match mail s₁.sinks.sinks, s₁.handled with
    | [], .ok s' => if s'.core.now = s.core.now.after 1 then alone later n s' else none
    | _, _ => none

/-- Passes without mail, one in every tick, leave a stack unanswered for so many ticks. -/
theorem Unanswered.alone {later : ω → ω} {k n : Nat} (before : Unanswered s₀ k s)
    (ran : alone later n s = some s') : Unanswered s₀ (k + n) s' := by
  induction n generalizing k s with
  | zero =>
    cases ran
    exact before
  | succ n ih =>
    unfold Stack.alone at ran
    dsimp only at ran
    split at ran
    · rename_i s₂ empty handled
      split at ran
      · rename_i now
        have quiet : (s.elapsed later).Quiet := by
          intro p mem
          rw [empty] at mem
          cases mem
        rw [Nat.add_comm n 1, ← Nat.add_assoc]
        exact ih (before.pass (apart_elapsed later s) quiet handled now (Nat.le_refl 1)) ran
      · cases ran
    · cases ran

/-! ## The time of a lease -/

/-- **How long an address is used** once the packets of a pass have bound the client: as long as
the requests for renewal take, whatever their outcome at the device, and not a tick longer. -/
theorem lease_kept {x y : Session (Core ω)} (prompt : s.core.Prompt) (serves : s.Serves x)
    (free : x.client.state ≠ .bound) (drained : s.collected.drainQueues = .ok s₁)
    (served : s₁.Serves y) (bound : y.client.state = .bound) :
    ∃ s₀, s.pump = .ok s₀ ∧ ∃ lease : Lease, y.client.lease = some lease ∧
      lease.AcknowledgedBy (mail s.collected.sinks.sinks) ∧
      (∀ n s', Unanswered s₀ n s' →
        (n < lease.kept → s'.core.iface = lease.interfaceConfig) ∧
        (lease.kept ≤ n → s'.core.iface = InterfaceConfig.unconfigured)) ∧
      (lease.kept ≤ lease.lent ↔ 50 < lease.seconds.toNat) := by
  have ran : s.pump = .ok s₁.expireTimers := by
    rw [pump_eq, handled, drained]
    rfl
  have prompt₀ := serves.prompt prompt ran
  have prompt := s.leads_collected.1.sameSetup.prompt prompt
  obtain ⟨y', served', binding⟩ := serves.collected.boundBy prompt free drained
  obtain rfl := served'.unique served
  obtain ⟨lease, acknowledged, keeping⟩ := binding bound
  -- the clock reads the same when the packets have been handled, and when the timers have
  have now := (serves.collected.leads_drained drained).now prompt fun _ timeless => timeless
  have now₀ := (serves.collected.leads_handled ran).now prompt fun _ timeless => timeless
  obtain ⟨z, serving, start⟩ := served.keeping_expired (by rw [now]; exact keeping)
  rw [now, ← now₀] at start
  refine ⟨_, ran, lease, keeping.held, acknowledged, fun n s' unanswered => ?_,
    lease.kept_le_lent_iff⟩
  obtain ⟨⟨w, still, fate⟩, -⟩ := unanswered.fate serving prompt₀ (.inl start)
  rw [still.core]
  exact fate.iface

/-- A lease of an hour is kept for as many ticks as computed, and not one longer. -/
theorem lease_kept_hour : ∃ x s₁ y, (acknowledged 3600).core.Prompt ∧
    (acknowledged 3600).Serves x ∧ x.client.state ≠ .bound ∧
    (acknowledged 3600).collected.drainQueues = .ok s₁ ∧ s₁.Serves y ∧ y.client.state = .bound ∧
    ∃ s₀, (acknowledged 3600).pump = .ok s₀ ∧ ∃ lease : Lease, y.client.lease = some lease ∧
      ∀ n s', Unanswered s₀ n s' →
        (n < lease.kept → s'.core.iface = lease.interfaceConfig) ∧
        (lease.kept ≤ n → s'.core.iface = InterfaceConfig.unconfigured) := by
  have state : (acknowledged 3600).collected.drainQueues.toOption.map
      (fun s => (clients s.sinks.sinks).map (·.1.state)) = some [.bound] := by decide +kernel
  obtain ⟨x, serves, free, prompt⟩ := serves_acknowledged 3600
  cases drained : (acknowledged 3600).collected.drainQueues with
  | error => rw [drained] at state; cases state
  | ok s₁ =>
    obtain ⟨y, served⟩ := serves.collected.drained drained
    rw [drained, Except.toOption, Option.map_some, served.client] at state
    have bound := (List.cons.inj (Option.some.inj state)).1
    obtain ⟨s₀, ran, lease, held, -, kept, -⟩ := lease_kept prompt serves free drained served bound
    exact ⟨x, s₁, y, prompt, serves, free, rfl, served, bound, s₀, ran, lease, held, kept⟩

/-- **A lease may be outlived.** The address that was offered for an hour is acknowledged for a
second. A second later the interface still has it, though every tick has had its pass. -/
theorem not_lease_never_outlived :
    ¬ ∀ (s s₀ : Stack Bench RamFile RamVolume) (x y : Session (Core Bench)) (lease : Lease),
      s.core.Prompt → s.Serves x → x.client.state ≠ .bound → s.pump = .ok s₀ → s₀.Serves y →
      y.client.state = .bound → y.client.lease = some lease →
      ∀ n s', Unanswered s₀ n s' → lease.lent ≤ n →
        s'.core.iface = InterfaceConfig.unconfigured := by
  intro never
  have run : (acknowledged 1).pump.toOption.bind (fun s₀ =>
      (alone (Bench.advance · 1) 100 s₀).map fun s' =>
        ((clients s₀.sinks.sinks).map (fun c => (c.1.state, c.1.lease.map (·.lent))),
          s'.core.iface.address)) = some ([(.bound, some 100)], ⟨192, 168, 1, 50⟩) := by
    decide +kernel
  obtain ⟨x, serves, free, prompt⟩ := serves_acknowledged 1
  cases ran : (acknowledged 1).pump with
  | error => rw [ran] at run; cases run
  | ok s₀ =>
    obtain ⟨y, served, -⟩ := serves.call (.pump ran)
    rw [ran, Except.toOption, Option.bind_some, served.client, Option.map_eq_some_iff] at run
    obtain ⟨s', alone, run⟩ := run
    obtain ⟨client, address⟩ := Prod.mk.inj run
    obtain ⟨bound, lent⟩ := Prod.mk.inj (List.cons.inj client).1
    obtain ⟨lease, held, lent⟩ := Option.map_eq_some_iff.mp lent
    have unanswered := Unanswered.now.alone alone
    rw [never _ s₀ x y lease prompt serves free ran served bound held _ s' unanswered
      (by omega)] at address
    exact absurd address (by decide)

end Stack

end PolledNet
