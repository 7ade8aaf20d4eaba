import PolledNet.File.RamVolume
import PolledNet.Link.Bench
import PolledNet.Proofs.Stack.Serving

/-!
# Acquiring and keeping an address

The DHCP client of a stack, from the moment it is started on an interface without addresses. `Call`
is one call of the stack by its owner, or the world moving on; the owner may do anything but set the
addresses or touch the sinks of others. Every run is, to the client, a sequence of its own handlers
and of the work of others (`Serves.runs`), and between any two of them the client, its timer, its
lease and the interface fit together (`startDhcp_consistent`).
-/

namespace PolledNet

open PolledNet.Core (Leads)
open DhcpClient (Session)

variable {ω η φ : Type}

/-! ## What fits together -/

namespace DhcpClient

/-- The client, its timer and the interface fit together. -/
structure Session.Consistent (x : Session (Core ω)) : Prop where
  /-- The client has started. -/
  state : x.client.state = .select ∨ x.client.state = .request ∨ x.client.state = .bound ∨
    x.client.state = .renew
  /-- Its timer is armed. -/
  armed : x.timer.isArmed = true
  /-- It has a lease from the offer on. -/
  leased : x.client.lease.isSome = true ↔
    x.client.state = .request ∨ x.client.state = .bound ∨ x.client.state = .renew
  /-- The interface has the addresses of the lease while the lease is held. -/
  configured : (∃ lease, x.client.lease = some lease ∧ x.link.iface = lease.interfaceConfig) ↔
    x.client.state = .bound ∨ x.client.state = .renew
  /-- It has none before. -/
  unconfigured : x.client.state = .select ∨ x.client.state = .request →
    x.link.iface = InterfaceConfig.unconfigured
  /-- Renewal requests are counted. -/
  attempts : x.client.state = .renew →
    1 ≤ x.client.renewAttempts ∧ x.client.renewAttempts ≤ Dhcp.renewRetries
  /-- The wait for an offer is within its limits. -/
  backoff : Dhcp.initialBackoff ≤ x.client.backoff ∧ x.client.backoff ≤ Dhcp.maxBackoff

/-- **What a client keeps fits together.** -/
theorem Session.Sound.consistent {x : Session (Core ω)} (sound : x.Sound) : x.Consistent := by
  have standing := sound.standing
  refine ⟨?_, sound.armed, ?_, ?_, ?_, ?_, sound.patient⟩
  all_goals cases standing with
  | selecting state lease down => simp [state, lease, down]
  | requesting state lease down =>
    simp [state, lease, down, (interfaceConfig_ne_unconfigured _).symm]
  | holding state lease up => simp [state, lease, up]
  | renewing state lease up least most => simp [state, lease, up, least, most]

end DhcpClient

namespace Stack

/-! ## Sinks that come and go -/

/-- A sink that is no client leaves the clients when it is put in. -/
theorem clients_place_of_none {sink : Sink (SinkKind η)} (other : sink.client? = none)
    (sinks : List (Sink (SinkKind η))) :
    clients (SinkTable.place sink sinks) = clients sinks := by
  induction sinks with
  | nil => exact clients_cons_of_none other []
  | cons t rest ih =>
    unfold SinkTable.place
    split
    · exact clients_cons_of_none other _
    · simp only [clients, List.filterMap_cons] at ih ⊢
      rw [ih]

/-- A client that is put in among sinks of others is the only one. -/
theorem clients_place_of_some {sink : Sink (SinkKind η)} {client : DhcpClient × Timer}
    (own : sink.client? = some client) {sinks : List (Sink (SinkKind η))}
    (none : clients sinks = []) : clients (SinkTable.place sink sinks) = [client] := by
  induction sinks with
  | nil => exact clients_cons_of_some own []
  | cons t rest ih =>
    cases first : t.client? with
    | some other => rw [clients_cons_of_some first] at none; cases none
    | none =>
      unfold SinkTable.place
      split
      · rw [clients_cons_of_some own, none]
      · rw [clients_cons_of_none first] at none
        rw [clients_cons_of_none first, ih none]

/-- Taking out the first sink of a name takes out no client unless it is one. -/
theorem clients_eraseP {sinks : List (Sink (SinkKind η))} {p : Sink (SinkKind η) → Bool}
    {sink : Sink (SinkKind η)} (found : sinks.find? p = some sink) (other : sink.client? = none) :
    clients (sinks.eraseP p) = clients sinks := by
  induction sinks with
  | nil => cases found
  | cons t rest ih =>
    by_cases hit : p t = true
    · rw [List.find?_cons_of_pos hit, Option.some.injEq] at found
      rw [List.eraseP_cons_of_pos hit, clients_cons_of_none (by rw [found, other])]
    · rw [List.find?_cons_of_neg hit] at found
      rw [List.eraseP_cons_of_neg hit]
      simp only [clients, List.filterMap_cons] at ih ⊢
      rw [ih found]

/-- To look for a free port moves the cursor, and nothing else. -/
theorem allocatePortWithin_eq (s : Stack ω η φ) (count : Nat) :
    ∃ nextPort, (s.allocatePortWithin count).2 = { s with nextPort } := by
  induction count generalizing s with
  | zero => exact ⟨s.nextPort, rfl⟩
  | succ count ih =>
    unfold allocatePortWithin
    dsimp only
    split
    · obtain ⟨nextPort, eq⟩ := ih { s with nextPort := portAfter s.nextPort }
      exact ⟨nextPort, eq⟩
    · exact ⟨_, rfl⟩

section Served

variable {s s' : Stack ω η φ} {x : Session (Core ω)}

/-- The sink of a transfer is not that of a client. -/
theorem sink_of_transfer {id : SinkId} {transfer : Transfer η}
    (known : s.transfer? id = some transfer) :
    ∃ sink, s.sinks.sinks.find? (·.id = id) = some sink ∧ sink.client? = none := by
  obtain ⟨sink, hit, kind⟩ := Option.bind_eq_some_iff.mp known
  refine ⟨sink, hit, ?_⟩
  unfold Sink.client?
  split at kind
  · rename_i eq
    rw [eq]
  · cases kind

/-- The sink that is taken out is the first of its name, and the operator is told. -/
theorem removeSink?_of_found {id : SinkId} {sink : Sink (SinkKind η)}
    (hit : s.sinks.sinks.find? (·.id = id) = some sink) :
    s.removeSink? id =
      some (sink, { s with
        sinks := { s.sinks with sinks := s.sinks.sinks.eraseP (·.id = id) } }.tell
          (.removed id sink.kind.service)) := by
  rw [removeSink?, SinkTable.remove?, SinkTable.get?, hit]
  rfl

/-- A change of the core that leaves our addresses alone is the work of others. -/
theorem Serves.others (serves : s.Serves x) (leads : Leads Act.KeepsAddress s.core s'.core)
    (same : clients s'.sinks.sinks = clients s.sinks.sinks) : ∃ y, s'.Serves y ∧ x.Lives y := by
  rw [serves.core] at leads
  exact ⟨{ x with link := s'.core }, ⟨same.trans serves.client, rfl⟩, .single (.others leads)⟩

/-- A stack without a client has none to replace. -/
theorem filter_isDhcp_of_none (none : clients s.sinks.sinks = []) :
    s.sinks.sinks.filter isDhcp = [] := by
  rw [List.filter_eq_nil_iff]
  intro sink mem dhcp
  have other : sink.client? = Option.none := by
    rw [clients, List.filterMap_eq_nil_iff] at none
    exact none sink mem
  unfold Sink.client? at other
  unfold isDhcp at dhcp
  cases kind : sink.kind with
  | dhcp client => rw [kind] at other; cases other
  | _ => rw [kind] at dhcp; cases dhcp

/-! ## The start -/

/-- A client that is registered is served from then on. -/
theorem addSink_serves (none : clients s.sinks.sinks = []) (x : Session (Core ω))
    (filter : Filter) (link : s.core = x.link) :
    ∃ y, (s.addSink { filter, kind := .dhcp x.client, timer := x.timer }).2.Serves y ∧
      x.Step y := by
  refine ⟨{ x with link := x.link.tell (.stack (.registered ⟨s.sinks.nextNumber⟩ .dhcp)) },
    ⟨clients_place_of_some rfl none, ?_⟩, .others (.one (a := .tell _) trivial)⟩
  rw [← link]
  rfl

/-- The client that is started is sound, whether its first message is sent or not. -/
theorem startDhcp_serves (down : s.core.iface = InterfaceConfig.unconfigured)
    (none : clients s.sinks.sinks = []) : ∃ x, s.startDhcp.2.Serves x ∧ x.Sound := by
  have sound := DhcpClient.Session.sound_start
    (x := ⟨DhcpClient.ofMac s.core.mac, Timer.idle, s.core⟩) down
  unfold startDhcp
  simp only [filter_isDhcp_of_none none, List.map_nil, List.foldl_nil]
  generalize Session.start (Core.uplink ω)
    (Session.mk (DhcpClient.ofMac s.core.mac) Timer.idle s.core) = started at sound ⊢
  obtain ⟨answer, session⟩ := started
  dsimp only at sound ⊢
  cases answer with
  | ok =>
    obtain ⟨y, serves, step⟩ := addSink_serves (s := { s with core := session.link }) none session
      _ rfl
    exact ⟨y, serves, sound.step step⟩
  | error e =>
    have told : session.Step { session with link := session.link.tell (.dhcp (.notSent e)) } :=
      .others (.one (a := .tell _) trivial)
    obtain ⟨y, serves, step⟩ := addSink_serves
      (s := { s with core := session.link.tell (.dhcp (.notSent e)) }) none
      { session with link := session.link.tell (.dhcp (.notSent e)) } _ rfl
    exact ⟨y, serves, (sound.step told).step step⟩

/-! ## Other clients come and go -/

section Repertoire

variable {Kind : Act ω → Prop} (able : Core.Repertoire Kind)

include able

/-- Taking a sink out only tells the operator. -/
theorem leads_removeSink? {id : SinkId} {sink : Sink (SinkKind η)} {s' : Stack ω η φ}
    (removed : s.removeSink? id = some (sink, s')) : Leads Kind s.core s'.core := by
  unfold removeSink? at removed
  obtain ⟨⟨found, sinks⟩, -, eq⟩ := Option.map_eq_some_iff.mp removed
  cases eq
  exact able.leads_tell s.core _

/-- Taking sinks out does nothing to the core but tell the operator. -/
theorem leads_removeSinks (ids : List SinkId) :
    Leads Kind s.core
      (ids.foldl (fun s id => ((s.removeSink? id).map (·.2)).getD s) s).core := by
  induction ids generalizing s with
  | nil => exact .refl _
  | cons id rest ih =>
    rw [List.foldl_cons]
    refine Leads.trans ?_ ih
    cases removed : s.removeSink? id with
    | none => exact .refl _
    | some result => exact leads_removeSink? able removed

/-- The first message of a client is the work of others to everyone else. -/
theorem leads_startDhcp (s : Stack ω η φ) : Leads Kind s.core s.startDhcp.2.core := by
  have cleared := leads_removeSinks able (s := s) ((s.sinks.sinks.filter isDhcp).map (·.id))
  unfold startDhcp
  dsimp only
  generalize List.foldl _ s _ = s₁ at cleared ⊢
  have begun := cleared.trans (Session.moves_start able.moves
    ⟨DhcpClient.ofMac s₁.core.mac, Timer.idle, s₁.core⟩)
  generalize Session.start (Core.uplink ω) _ = started at begun ⊢
  obtain ⟨answer, session⟩ := started
  cases answer with
  | ok => exact begun.trans (able.leads_tell _ _)
  | error e => exact (begun.trans (able.leads_tell _ _)).trans (able.leads_tell _ _)

end Repertoire

end Served

/-! ## Calls -/

variable [FileHandle η φ]

/-- One call of the stack by its owner, or the world moves on. -/
inductive Call (s : Stack ω η φ) : Stack ω η φ → Prop where
  /-- Time passes, frames come and go, and others use the volume. -/
  | elapse (f : ω → ω) (volume : φ) :
      Call s { s with core := { s.core with hw := f s.core.hw }, volume }
  /-- A pass. -/
  | pump {s' : Stack ω η φ} (ran : s.pump = .ok s') : Call s s'
  /-- A packet is sent. -/
  | transmit {p : Packet} {answer : Except NetError Unit} {s' : Stack ω η φ}
      (sent : s.transmit p = .ok (answer, s')) : Call s s'
  /-- A transfer is started. -/
  | startTransfer (opener : FileOpener η φ) (job : TransferJob) :
      Call s (s.startTransfer opener job).2
  /-- A transfer is taken out. -/
  | finishTransfer (id : SinkId) : Call s (s.finishTransfer id).2

/-- Any sequence of calls. -/
def Runs : Stack ω η φ → Stack ω η φ → Prop := Relation.ReflTransGen Call

section Calls

variable {s s' : Stack ω η φ} {x : Session (Core ω)}

section Repertoire

variable {Kind : Act ω → Prop} (able : Core.Repertoire Kind)

include able

/-- To a client the start of a transfer is the work of others. -/
theorem leads_startTransfer (opener : FileOpener η φ) (job : TransferJob) :
    Leads Kind s.core (s.startTransfer opener job).2.core ∧
      clients (s.startTransfer opener job).2.sinks.sinks = clients s.sinks.sinks := by
  unfold startTransfer
  split
  · exact ⟨.refl _, rfl⟩
  · obtain ⟨nextPort, allocated⟩ := s.allocatePortWithin_eq
      (Udp.ephemeralLast.toNat - Udp.ephemeralFirst.toNat + 1)
    split
    · rename_i s₁ eq
      have eq₁ : s₁ = { s with nextPort } := by rw [← allocated, ← allocatePort, eq]
      rw [eq₁]
      exact ⟨.refl _, rfl⟩
    · rename_i port s₁ eq
      have eq₁ : s₁ = { s with nextPort } := by rw [← allocated, ← allocatePort, eq]
      rw [eq₁]
      dsimp only
      split
      · exact ⟨.refl _, rfl⟩
      · rename_i file volume _
        have begun := Transfer.Session.moves_start able.moves
          (Transfer.Session.mk
            (job.transfer file volume port s.core.config.transfer s.core.now) Timer.idle s.core
            volume)
        dsimp only at begun
        generalize Transfer.Session.start (Core.uplink ω) (Transfer.Session.mk
          (job.transfer file volume port s.core.config.transfer s.core.now) Timer.idle s.core
            volume) = started at begun ⊢
        obtain ⟨answer, transfer, timer, core, volume⟩ := started
        refine ⟨?_, clients_place_of_none rfl _⟩
        cases answer with
        | ok => exact (begun.trans (able.leads_tell core _)).trans (able.leads_tell _ _)
        | error e =>
          exact ((begun.trans (able.leads_tell core _)).trans (able.leads_tell _ _)).trans
            (able.leads_tell _ _)

/-- To a client the end of a transfer is the work of others. -/
theorem leads_finishTransfer (id : SinkId) :
    Leads Kind s.core (s.finishTransfer id).2.core ∧
      clients (s.finishTransfer id).2.sinks.sinks = clients s.sinks.sinks := by
  unfold finishTransfer
  split
  · rename_i transfer sink s₁ known removed
    obtain ⟨found, hit, other⟩ := sink_of_transfer known
    rw [removeSink?_of_found hit, Option.some.injEq, Prod.mk.injEq] at removed
    obtain ⟨rfl, rfl⟩ := removed
    have out := able.leads_tell s.core (.stack (.removed id found.kind.service))
    have same := clients_eraseP hit other
    split
    · exact ⟨out, same⟩
    · exact ⟨out.trans (Transfer.Session.moves_cancel able.moves
        ⟨transfer, Timer.idle, _, s.volume⟩), same⟩
  · exact ⟨.refl _, rfl⟩

end Repertoire

/-- A client goes on living while others work. -/
theorem steady_lives (x : Session (Core ω)) : Steady x.Lives :=
  fun _ _ leads lives => lives.tail (.others (leads.mono fun _ ordinary => ordinary.2))

/-- **Every call is, to the client, a sequence of handlers and of the work of others.** -/
theorem Serves.call (serves : s.Serves x) (call : Call s s') :
    ∃ y, s'.Serves y ∧ x.Lives y := by
  cases call with
  | elapse f volume =>
    have leads : Leads Act.KeepsAddress s.core { s.core with hw := f s.core.hw } :=
      .one (a := .elapse f) trivial
    exact serves.others leads rfl
  | pump ran =>
    rw [pump_eq] at ran
    obtain ⟨leads, same⟩ := s.leads_collected
    obtain ⟨y, collected, lived⟩ := serves.others leads same
    exact handled_client (steady_lives x) (steady_lives x)
      (fun y _ payload _ _ lives => lives.tail (.receive payload)) (fun _ _ _ lives _ => lives)
      (fun _ _ _ lives _ => lives.tail .expire) collected lived ran
  | @transmit p answer _ sent =>
    unfold Stack.transmit at sent
    obtain ⟨result, ran, sent⟩ := exists_ok_of_bind sent
    cases sent
    exact serves.others ((Core.plain_transmit ran).mono fun _ plain => plain.ordinary.2) rfl
  | startTransfer opener job =>
    obtain ⟨leads, same⟩ := leads_startTransfer (s := s) Core.repertoire_plain opener job
    exact serves.others (leads.mono fun _ plain => plain.ordinary.2) same
  | finishTransfer id =>
    obtain ⟨leads, same⟩ := leads_finishTransfer (s := s) Core.repertoire_plain id
    exact serves.others (leads.mono fun _ plain => plain.ordinary.2) same

/-- **Any calls of a stack are part of the life of its client.** -/
theorem Serves.runs (serves : s.Serves x) (runs : Runs s s') : ∃ y, s'.Serves y ∧ x.Lives y := by
  induction runs with
  | refl => exact ⟨x, serves, .refl⟩
  | tail _ call ih =>
    obtain ⟨y, served, lived⟩ := ih
    obtain ⟨z, serves, lives⟩ := served.call call
    exact ⟨z, serves, lived.trans lives⟩

end Calls

/-- **The client of a stack that starts without addresses.** Every run of the stack is, to the
client, a sequence of handlers and of the work of others, and between any two of them the client,
its timer and the interface fit together. -/
theorem startDhcp_consistent {s : Stack ω η φ}
    (down : s.core.iface = InterfaceConfig.unconfigured) (none : clients s.sinks.sinks = []) :
    ∃ x, s.startDhcp.2.Serves x ∧
      (∀ s', Runs s.startDhcp.2 s' → ∃ y, s'.Serves y ∧ x.Lives y) ∧
      ∀ y, x.Lives y → y.Consistent := by
  obtain ⟨x, serves, sound⟩ := startDhcp_serves down none
  exact ⟨x, serves, fun _ runs => serves.runs runs, fun _ lives => (sound.lives lives).consistent⟩

/-- A stack on a bench, with the sinks that every stack has. Its interface has no addresses, and its
device loses the first frame. -/
def unaddressed : Stack Bench RamFile RamVolume :=
  let core : Core Bench :=
    { device := Bench.device .a ⟨2, 0, 0, 0, 0, 1⟩ none 0, clock := Bench.now
      hw := Bench.refuse {} .a [.hardwareError], config := {}
      iface := InterfaceConfig.unconfigured, mac := ⟨2, 0, 0, 0, 0, 1⟩ }
  (builtinSinks core.now core.config.arpSweepInterval).foldl (fun s sink => (s.addSink sink).2)
    { core, volume := {} }

/-- The client is started on a device that loses its first frame, and fits together all the same. -/
theorem startDhcp_consistent_frameLost :
    unaddressed.core.iface = InterfaceConfig.unconfigured ∧
      clients unaddressed.sinks.sinks = [] ∧
      ∃ x, unaddressed.startDhcp.2.Serves x ∧ x.Consistent := by
  obtain ⟨x, serves, -, consistent⟩ := startDhcp_consistent (s := unaddressed) rfl rfl
  exact ⟨rfl, rfl, x, serves, consistent x .refl⟩

end Stack

end PolledNet
