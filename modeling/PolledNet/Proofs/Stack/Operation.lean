import PolledNet.Proofs.Core.Traffic
import PolledNet.Proofs.Stack.Acquisition

/-!
# Runs of a stack

Whatever a stack does is made of acts on its core. `Core.FullRepertoire` says that the acts of a
kind are enough for it, and then acts of this kind lead through a pass (`leads_pump`).

`Operation` is anything that the owner of a stack may do with it, together with a world that moves
as it may, and `Operates` is any sequence of such things. To the core all of it is made of acts
(`leads_operates`), so that every run comes with the frames that passed the outlet
(`traffic_of_operates`).
-/

namespace PolledNet

open PolledNet.Core (Leads Traffic Polling FullRepertoire Answerable)

variable {ω η φ : Type} {World : (ω → ω) → Prop}

/-! ## Handlers -/

section Handlers

variable [FileHandle η φ] {d d' : Duty ω η φ} {p : Packet} {answer : Except NetError Unit}
  {core core' : Core ω} {volume volume' : φ} {sinks sinks' : List (Sink (SinkKind η))}
  {Kind : Act ω → Prop} (able : FullRepertoire Kind)

include able

/-- The handler of a packet does acts of a kind only, if the kind allows what the packet may be
answered with. -/
theorem Duty.leads_deliver_of (answerable : Answerable Kind p)
    (handled : d.deliver p = .ok (answer, d')) : Leads Kind d.core d'.core := by
  cases own : d.sink.client? with
  | none => exact (Duty.leads_deliver able.toRepertoire answerable own handled).1
  | some client =>
    have serves : d.Serves ⟨client.1, client.2, d.core⟩ := ⟨own, rfl⟩
    obtain ⟨payload, -, served⟩ := serves.deliver handled
    rw [served.core]
    exact DhcpClient.Session.moves_receive able.movesFreely ⟨client.1, client.2, d.core⟩ payload

/-- An expiring timer does acts of a kind only. -/
theorem Duty.leads_expire_of (d : Duty ω η φ) : Leads Kind d.core d.expire.2.core := by
  cases own : d.sink.client? with
  | none => exact (Duty.leads_expire able.toRepertoire own).1
  | some client =>
    have serves : d.Serves ⟨client.1, client.2, d.core⟩ := ⟨own, rfl⟩
    rw [serves.expire.core]
    exact DhcpClient.Session.moves_expire able.movesFreely ⟨client.1, client.2, d.core⟩

namespace Stack

/-- The handlers of a list of packets do acts of a kind only. -/
theorem leads_deliverAll_of {packets : List Packet} (answerable : ∀ p ∈ packets, Answerable Kind p)
    (handled : deliverAll d packets = .ok d') : Leads Kind d.core d'.core := by
  refine deliverAll_keeps (fun d' => Leads Kind d.core d'.core) ?_ (.refl _) handled
  intro d₁ p answer d₂ mem before delivered
  have first := Duty.leads_deliver_of able (answerable p mem) delivered
  exact (before.trans first).trans
    (Duty.leads_noteFailure able.toRoutine d₂ answer .deliveryFailed).1

/-- The handlers of all the packets that wait at the sinks do acts of a kind only. -/
theorem leads_drainSinks_of
    (answerable : ∀ sink ∈ sinks, ∀ p ∈ sink.queue.packets, Answerable Kind p)
    (handled : drainSinks core volume sinks = .ok (core', volume', sinks')) :
    Leads Kind core core' := by
  have through : Leads Kind core core' ∧ ∀ sink ∈ sinks', True := by
    refine drainSinks_keeps (fun c => Leads Kind core c) ?_ (.refl _) answerable handled
    intro sink core₁ volume d waits before delivered
    have first := leads_deliverAll_of able (d := ⟨{ sink with queue := {} }, core₁, volume⟩) waits
      delivered
    exact ⟨before.trans first, trivial⟩
  exact through.1

/-- The timer of one sink does acts of a kind only. -/
theorem leads_expireOne_of (now : Tick) (core : Core ω) (volume : φ) (sink : Sink (SinkKind η)) :
    Leads Kind core (expireOne now core volume sink).core := by
  unfold expireOne
  split
  · exact (Duty.leads_expire_of able ⟨{ sink with timer := Timer.idle }, core, volume⟩).trans
      (Duty.leads_noteFailure able.toRoutine _ _ _).1
  · exact .refl _

/-- The timers of all sinks do acts of a kind only. -/
theorem leads_expireSinks_of (now : Tick) (core : Core ω) (volume : φ)
    (sinks : List (Sink (SinkKind η))) :
    Leads Kind core (expireSinks now core volume sinks).1 := by
  have through : Leads Kind core (expireSinks now core volume sinks).1 ∧
      ∀ sink ∈ (expireSinks now core volume sinks).2.2, True := by
    refine expireSinks_keeps (fun c => Leads Kind core c) ?_ (.refl _) volume fun _ mem => mem
    intro sink core₁ volume _ before
    exact ⟨before.trans (leads_expireOne_of able now core₁ volume sink), trivial⟩
  exact through.1

end Stack

end Handlers

/-! ## Passes -/

namespace Stack

section Passes

variable {Kind : Act ω → Prop}

/-- The frames of a pass are received by acts of a kind, if the kind is enough for polling. -/
theorem leads_receiveFrames_of (able : Polling Kind) (s : Stack ω η φ) (budget : Nat) :
    Leads Kind s.core (s.receiveFrames budget).core := by
  induction budget generalizing s with
  | zero => exact .refl _
  | succ budget ih =>
    have taken : Leads Kind s.core
        { s.core with hw := (s.core.device.receive s.core.hw).2 } :=
      .one (a := .receive) able.receive
    unfold receiveFrames
    split <;> rename_i eq <;> rw [eq] at taken
    · exact taken
    · rename_i frame hw
      have received :=
        leads_receiveFrame_of able.toRoutine { s with core := { s.core with hw } } frame
      exact (taken.trans received).trans (ih _)

/-- What a pass does before it handles anything. -/
theorem leads_collected_of (able : Polling Kind) (s : Stack ω η φ) :
    Leads Kind s.core s.collected.core := by
  have retried : Leads Kind s.core s.core.serviceParked := .one (a := .retry) able.retry
  have serviced := retried.andThen (a := .service) able.service
  have received := serviced.trans (leads_receiveFrames_of able
    { s with core := s.core.serviceParked }.serviceDevice receiveBudget)
  exact received.andThen (a := .flush) able.flush

section Handling

variable [FileHandle η φ] {s s' : Stack ω η φ} (able : FullRepertoire Kind)

include able

/-- The queues of a pass are drained by acts of a kind. -/
theorem leads_drainQueues_of
    (answerable : ∀ sink ∈ s.sinks.sinks, ∀ p ∈ sink.queue.packets, Answerable Kind p)
    (drained : s.drainQueues = .ok s') : Leads Kind s.core s'.core := by
  unfold drainQueues at drained
  obtain ⟨⟨core, volume, sinks⟩, handled, done⟩ := exists_ok_of_bind drained
  cases done
  exact leads_drainSinks_of able answerable handled

/-- The timers of a pass expire by acts of a kind. -/
theorem leads_expireTimers_of (s : Stack ω η φ) : Leads Kind s.core s.expireTimers.core :=
  leads_expireSinks_of able s.core.now s.core s.volume s.sinks.sinks

/-- **A pass is made of acts on the core**, which are of any kind that has what services and passes
need, and the answers to what waits for the sinks. -/
theorem leads_pump
    (answerable : ∀ sink ∈ s.collected.sinks.sinks, ∀ p ∈ sink.queue.packets, Answerable Kind p)
    (ran : s.pump = .ok s') : Leads Kind s.core s'.core := by
  rw [pump_eq] at ran
  obtain ⟨s₁, drained, rfl⟩ := handled_eq_ok ran
  have received := leads_collected_of able.toPolling s
  exact (received.trans (leads_drainQueues_of able answerable drained)).trans
    (leads_expireTimers_of able s₁)

end Handling

end Passes

/-! ## Runs -/

variable [FileHandle η φ] {s s' : Stack ω η φ}

/-- One thing that the owner of a stack does with it, or the world moves on as it may. -/
inductive Operation (World : (ω → ω) → Prop) (s : Stack ω η φ) : Stack ω η φ → Prop where
  /-- The world moves on, and others use the volume. -/
  | elapse {f : ω → ω} (world : World f) (volume : φ) :
      Operation World s { s with core := { s.core with hw := f s.core.hw }, volume }
  /-- A pass. -/
  | pump {s' : Stack ω η φ} (ran : s.pump = .ok s') : Operation World s s'
  /-- A frame is handed in. -/
  | receiveFrame (frame : Bytes) : Operation World s (s.receiveFrame frame)
  /-- A fully addressed frame is sent. -/
  | sendFrame (p : Packet) : Operation World s { s with core := (s.core.sendFrame p).2 }
  /-- A packet is sent. -/
  | transmit {p : Packet} {answer : Except NetError Unit} {s' : Stack ω η φ}
      (sent : s.transmit p = .ok (answer, s')) : Operation World s s'
  /-- A datagram is built and sent. -/
  | sendDatagram (sourcePort : UInt16) (dest : Ipv4) (destPort : UInt16) (payload : Bytes) :
      Operation World s
        { s with core := (s.core.sendDatagram sourcePort dest destPort payload).2 }
  /-- The DHCP client is started. -/
  | startDhcp : Operation World s s.startDhcp.2
  /-- A transfer is started. -/
  | startTransfer (opener : FileOpener η φ) (job : TransferJob) :
      Operation World s (s.startTransfer opener job).2
  /-- A transfer is taken out. -/
  | finishTransfer (id : SinkId) : Operation World s (s.finishTransfer id).2
  /-- A sink is registered. -/
  | addSink (sink : Sink (SinkKind η)) : Operation World s (s.addSink sink).2
  /-- A sink is taken out. -/
  | removeSink {id : SinkId} {sink : Sink (SinkKind η)} {s' : Stack ω η φ}
      (removed : s.removeSink? id = some (sink, s')) : Operation World s s'
  /-- The interface gets other addresses. -/
  | configure (iface : InterfaceConfig) : Operation World s (s.configure iface)

/-- Any sequence of such things. -/
def Operates (World : (ω → ω) → Prop) : Stack ω η φ → Stack ω η φ → Prop :=
  Relation.ReflTransGen (Operation World)

/-- All acts within a world make up a full repertoire. -/
theorem fullRepertoire_within : FullRepertoire (Act.Within World) where
  toRepertoire := .of_plain fun _ plain => plain.within
  configure _ := ⟨trivial, nofun⟩
  retry := ⟨trivial, nofun⟩
  flush := ⟨trivial, nofun⟩
  receive := ⟨trivial, nofun⟩
  service := ⟨trivial, nofun⟩

/-- Whatever answer a packet gets is an act within the world. -/
theorem answerable_within (p : Packet) : Answerable (Act.Within World) p :=
  fun _ _ _ _ => ⟨trivial, nofun⟩

/-- What an operation does is made of acts that are enough for services and passes, of packets that
are sent and of what the world does, unless a frame is sent as it is. -/
theorem leads_operation_of {Kind : Act ω → Prop} (able : FullRepertoire Kind)
    (transmit : ∀ p, Kind (.transmit p)) (elapse : ∀ f, World f → Kind (.elapse f))
    (operation : s.Operation World s') :
    Leads Kind s.core s'.core ∨ ∃ p, s' = { s with core := (s.core.sendFrame p).2 } := by
  cases operation with
  | @elapse f world volume => exact .inl (.one (a := .elapse f) (elapse f world))
  | pump ran => exact .inl (leads_pump able (fun _ _ _ _ _ _ reply _ => transmit reply) ran)
  | receiveFrame frame => exact .inl (leads_receiveFrame_of able.toRoutine s frame)
  | sendFrame p => exact .inr ⟨p, rfl⟩
  | @transmit p answer _ sent =>
    unfold Stack.transmit at sent
    obtain ⟨result, ran, sent⟩ := exists_ok_of_bind sent
    cases sent
    exact .inl ((able.sendable (transmit p)).leads_transmit ran)
  | sendDatagram => exact .inl (able.leads_sendDatagram s.core _ _ _ _)
  | startDhcp => exact .inl (leads_startDhcp able.toRepertoire s)
  | startTransfer opener job =>
    exact .inl (leads_startTransfer able.toRepertoire opener job).1
  | finishTransfer id => exact .inl (leads_finishTransfer able.toRepertoire id).1
  | addSink sink => exact .inl (able.leads_tell s.core _)
  | removeSink removed => exact .inl (leads_removeSink? able.toRepertoire removed)
  | configure iface =>
    exact .inl ((able.leads_tell s.core _).andThen (a := .configure iface) (able.configure iface))

/-- **What an operation does is made of acts on the core.** -/
theorem leads_operation (operation : s.Operation World s') :
    Leads (Act.Within World) s.core s'.core := by
  obtain made | ⟨p, rfl⟩ := leads_operation_of fullRepertoire_within (fun _ => ⟨trivial, nofun⟩)
    (fun _ world => ⟨trivial, fun _ eq => by cases eq; exact world⟩) operation
  · exact made
  · exact (s.core.plain_sendFrame p).within

/-- **A run is made of acts on the core.** -/
theorem leads_operates (run : s.Operates World s') : Leads (Act.Within World) s.core s'.core := by
  induction run with
  | refl => exact .refl _
  | tail _ operation ih => exact ih.trans (leads_operation operation)

/-- **Every run comes with the frames that passed the outlet.** -/
theorem traffic_of_operates (run : s.Operates World s') :
    ∃ trace, Traffic World s.core trace s'.core :=
  Core.traffic_of_leads (leads_operates run)

/-! ## Where a run starts -/

section Start

omit [FileHandle η φ]

variable {device : Device ω} {clock : ω → Tick} {config : StackConfig} {hw hw' : ω} {volume : φ}
  (up : bringUp device clock config hw volume = (.ok s, hw'))

include up

/-- The core of a stack that has come up knows no station, and nothing waits in it. -/
theorem core_bringUp : ∃ log, s.core =
    { device, clock, hw := hw', config, iface := config.network.getD InterfaceConfig.unconfigured
      mac := device.mac, log } := by
  unfold bringUp at up
  split at up
  · cases up
  · obtain ⟨same, rfl⟩ := Prod.mk.inj up
    obtain ⟨rfl⟩ := Except.ok.inj same
    cases config.network with
    | none => exact ⟨_, rfl⟩
    | some network => exact ⟨_, rfl⟩

/-- The sinks of a stack that comes up are the built-in ones, in the order of their specificity. -/
theorem sinks_bringUp : s.sinks.sinks =
    [{ id := ⟨2⟩, kind := .icmpEcho
       filter := { ethertype := some Ethernet.typeIpv4, protocol := some Ip.icmp, toUs := true } },
      { id := ⟨3⟩, kind := .icmpUnreachable {}
        filter := { ethertype := some Ethernet.typeIpv4, toUs := true } },
      { id := ⟨1⟩, kind := .arp, filter := { ethertype := some Ethernet.typeArp }
        timer := Timer.arm (clock hw') config.arpSweepInterval }] := by
  unfold bringUp at up
  split at up
  · cases up
  · obtain ⟨same, rfl⟩ := Prod.mk.inj up
    obtain ⟨rfl⟩ := Except.ok.inj same
    cases config.network with
    | none => rfl
    | some network => rfl

end Start

end Stack

end PolledNet
