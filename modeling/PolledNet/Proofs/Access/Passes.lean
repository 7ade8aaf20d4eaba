import PolledNet.Proofs.Access.Services
import PolledNet.Proofs.Stack.Operation
import PolledNet.Proofs.Stack.Receiving

/-!
# Checked passes

A sink's handlers rely on what classification and registration have established: what waits for a
sink is framed, a service of IPv4 waits for IPv4 only, and a transfer counts its blocks
(`Sink.Sane`). A received frame keeps this (`Stack.Sane.receiveFrame`), and so does a whole pass,
which therefore never faults (`Stack.checkedPump_agrees`, `Stack.Sane.pump`).
-/

namespace PolledNet

open PolledNet.Core (Leads)

variable {ω η φ : Type}

/-! ## Sinks -/

namespace Sink

/-- A packet that a sink can work with. -/
structure Takes (sink : Sink (SinkKind η)) (p : Packet) : Prop where
  framed : p.Framed
  ipv4 : sink.filter.ethertype = some Ethernet.typeIpv4 → p.FramedIpv4

/-- A service of IPv4 waits for IPv4 only, and a transfer counts its blocks. -/
def Ready (sink : Sink (SinkKind η)) : Prop :=
  match sink.kind with
  | .arp | .dhcp _ => True
  | .icmpEcho | .icmpUnreachable _ => sink.filter.ethertype = some Ethernet.typeIpv4
  | .tftp transfer => transfer.Counting

/-- A sink that is ready and can work with what waits for it. -/
structure Sane (sink : Sink (SinkKind η)) : Prop where
  ready : sink.Ready
  waiting : ∀ p ∈ sink.queue.packets, sink.Takes p

variable {sink sink' : Sink (SinkKind η)}

/-- What a sink can work with depends on its filter only. -/
theorem Takes.of_filter {p : Packet} (takes : sink.Takes p) (filter : sink'.filter = sink.filter) :
    sink'.Takes p :=
  ⟨takes.framed, fun ipv4 => takes.ipv4 (filter ▸ ipv4)⟩

/-- A sink that accepts a frame can work with it. -/
theorem takes_of_accepts {mac : Mac} {frame : Bytes} {arrival : Arrival} {ours : Option Ipv4}
    (classified : Arrival.ofFrame mac frame = .ok arrival)
    (accepts : sink.filter.accepts arrival.info ours = true) : sink.Takes arrival.packet := by
  obtain ⟨framed, ipv4⟩ := Arrival.framed_of_ofFrame classified
  refine ⟨framed, fun filter => ipv4 ?_⟩
  simp only [Filter.accepts, Bool.and_eq_true] at accepts
  have admitted := accepts.1.1.1.1.1.1
  rw [filter] at admitted
  simpa [Filter.admits, eq_comm] using admitted

/-- A sink that keeps its queue and its filter stays sane, if it is ready still. -/
theorem Sane.of_kept (sane : sink.Sane) (kept : sink.Kept sink') (ready : sink'.Ready) :
    sink'.Sane := by
  refine ⟨ready, ?_⟩
  intro p mem
  rw [kept.queue] at mem
  exact (sane.waiting p mem).of_filter kept.filter

end Sink

namespace Duty

/-- Runs a handler of the DHCP client. -/
def checkedRunClient (d : Duty ω η φ) (client : DhcpClient)
    (handler : DhcpClient.Session (Core ω) →
      Except Fault (Except NetError Unit × DhcpClient.Session (Core ω))) :
    Except Fault (Except NetError Unit × Duty ω η φ) := do
  let (answer, s) ← handler ⟨client, d.sink.timer, d.core⟩
  return (answer,
    { d with sink := { d.sink with kind := .dhcp s.client, timer := s.timer }, core := s.link })

/-- Runs a handler of a transfer. -/
def checkedRunTransfer (d : Duty ω η φ) (transfer : Transfer η)
    (handler : Transfer.Session η (Core ω) φ →
      Except Fault (Except NetError Unit × Transfer.Session η (Core ω) φ)) :
    Except Fault (Except NetError Unit × Duty ω η φ) := do
  let ⟨sink, core, volume⟩ := d
  let (answer, s) ← handler ⟨transfer, sink.timer, core, volume⟩
  return (answer, ⟨{ sink with kind := .tftp s.transfer, timer := s.timer }, s.link, s.volume⟩)

variable [FileHandle η φ]

/-- Handles a packet that waited for the sink. -/
def checkedDeliver (d : Duty ω η φ) (p : Packet) :
    Except Fault (Except NetError Unit × Duty ω η φ) := do
  match d.sink.kind with
  | .arp =>
    let (answer, core) ← d.core.checkedReceiveArp (← p.network?)
    return (answer, { d with core })
  | .icmpEcho =>
    let (answer, core) ← d.core.checkedReceiveEcho p
    return (answer, { d with core })
  | .icmpUnreachable limiter =>
    let (answer, limiter, core) ← d.core.checkedReceiveUnclaimed limiter p
    return (answer, { d with sink := { d.sink with kind := .icmpUnreachable limiter }, core })
  | .dhcp client =>
    let payload ← p.payload?
    d.checkedRunClient client (·.checkedReceive (Core.checkedUplink ω) payload)
  | .tftp transfer =>
    let segment ← p.transport?
    let payload ← p.payload?
    if segment.length < 2 then return (.ok (), d)
    else
      let sourcePort ← segment.word16? 0
      d.checkedRunTransfer transfer (·.checkedReceive (Core.checkedUplink ω) sourcePort payload)

/-- Handles the expiry of the sink's timer, which is no longer armed. -/
def checkedExpire (d : Duty ω η φ) : Except Fault (Except NetError Unit × Duty ω η φ) :=
  match d.sink.kind with
  | .arp => do
    let core ← d.core.checkedSweepArp
    let timer := Timer.arm core.now core.config.arpSweepInterval
    return (.ok (), { d with sink := { d.sink with timer }, core })
  | .icmpEcho | .icmpUnreachable _ => .ok (.ok (), d)
  | .dhcp client => d.checkedRunClient client (·.checkedExpire (Core.checkedUplink ω))
  | .tftp transfer => d.checkedRunTransfer transfer (·.checkedExpire (Core.checkedUplink ω))

variable {d d' : Duty ω η φ} {p : Packet} {answer : Except NetError Unit}

/-! ### No faults -/

/-- **Whatever waits for a sink is handled without a fault.** -/
theorem checkedDeliver_agrees [FileHandle.Bounded η φ] (sane : d.core.Sane) (ready : d.sink.Ready)
    (takes : d.sink.Takes p) : Agree (d.checkedDeliver p) (d.deliver p) := by
  have framed := takes.framed
  have network : p.network? = .ok (p.data.drop p.offsets.network) :=
    Bytes.suffix?_eq (framed.network ▸ framed.header)
  have transport : p.transport? = .ok (p.data.drop p.offsets.transport) :=
    Bytes.suffix?_eq framed.transport
  have payload : ∃ content, p.payload? = .ok content :=
    ⟨_, Bytes.slice?_eq_ok (Nat.le_add_right _ _) framed.payload⟩
  obtain ⟨content, payload⟩ := payload
  have sound := Core.sound_checkedUplink ω
  unfold Sink.Ready at ready
  unfold checkedDeliver deliver
  generalize d.sink.kind = kind at ready ⊢
  cases kind with
  | arp =>
    dsimp only
    rw [network, ok_bind, ok_bind, Core.checkedReceiveArp_eq sane]
    exact .ok _
  | icmpEcho =>
    exact (Core.checkedReceiveEcho_agrees sane (takes.ipv4 ready)).bind fun _ _ => .ok _
  | icmpUnreachable limiter =>
    exact (Core.checkedReceiveUnclaimed_agrees sane limiter (takes.ipv4 ready)).bind
      fun _ _ => .ok _
  | dhcp client =>
    have received := DhcpClient.Session.checkedReceive_eq sound
      (s := ⟨client, d.sink.timer, d.core⟩) sane content
    dsimp only
    rw [payload, ok_bind, ok_bind]
    exact .of_ok (bind_of_ok received _) rfl
  | tftp transfer =>
    dsimp only
    rw [transport, ok_bind, ok_bind, payload, ok_bind, ok_bind]
    generalize p.data.drop p.offsets.transport = segment
    rcases segment with _ | ⟨hi, _ | ⟨lo, rest⟩⟩
    · exact .ok _
    · exact .ok _
    · have received := Transfer.Session.checkedReceive_eq sound
        (s := ⟨transfer, d.sink.timer, d.core, d.volume⟩) sane ready (word16 hi lo) content
      rw [if_neg (by simp)]
      exact .of_ok (bind_of_ok received _) rfl

/-- **So is the expiry of its timer.** -/
theorem checkedExpire_eq [FileHandle.Bounded η φ] (sane : d.core.Sane) (ready : d.sink.Ready) :
    d.checkedExpire = .ok d.expire := by
  have sound := Core.sound_checkedUplink ω
  unfold Sink.Ready at ready
  unfold checkedExpire expire
  generalize d.sink.kind = kind at ready ⊢
  cases kind with
  | arp =>
    dsimp only
    rw [Core.checkedSweepArp_eq]
    rfl
  | icmpEcho => rfl
  | icmpUnreachable limiter => rfl
  | dhcp client =>
    exact bind_of_ok (DhcpClient.Session.checkedExpire_eq sound
      (s := ⟨client, d.sink.timer, d.core⟩) sane) _
  | tftp transfer =>
    exact bind_of_ok (Transfer.Session.checkedExpire_eq sound
      (s := ⟨transfer, d.sink.timer, d.core, d.volume⟩) sane ready) _

/-! ### What handlers keep -/

/-- A sink is ready after a packet if it was before. -/
theorem ready_deliver (ready : d.sink.Ready) (delivered : d.deliver p = .ok (answer, d')) :
    d'.sink.Ready := by
  obtain ⟨⟨id, filter, queue, timer, kind⟩, core, volume⟩ := d
  cases kind with
  | arp =>
    obtain ⟨content, -, rest⟩ := exists_ok_of_bind delivered
    cases rest
    exact ready
  | icmpEcho =>
    obtain ⟨result, -, rest⟩ := exists_ok_of_bind delivered
    cases rest
    exact ready
  | icmpUnreachable limiter =>
    obtain ⟨result, -, rest⟩ := exists_ok_of_bind delivered
    cases rest
    exact ready
  | dhcp client =>
    obtain ⟨payload, -, rest⟩ := exists_ok_of_bind delivered
    cases rest
    exact ready
  | tftp transfer =>
    obtain ⟨segment, -, rest⟩ := exists_ok_of_bind delivered
    obtain ⟨payload, -, rest⟩ := exists_ok_of_bind rest
    split at rest
    · cases rest
      exact Transfer.Session.counting_receive (Core.uplink ω) (s := ⟨transfer, timer, core, volume⟩)
        ready _ _
    · cases rest
      exact ready

/-- A sink is ready after an expiry if it was before. -/
theorem ready_expire (ready : d.sink.Ready) : d.expire.2.sink.Ready := by
  obtain ⟨⟨id, filter, queue, timer, kind⟩, core, volume⟩ := d
  cases kind with
  | arp | icmpEcho | icmpUnreachable | dhcp => exact ready
  | tftp transfer =>
    exact Transfer.Session.counting_expire (Core.uplink ω) (s := ⟨transfer, timer, core, volume⟩)
      ready

/-- The core stays sane, and the sink ready for what it was ready for. -/
structure Keeps (d d' : Duty ω η φ) : Prop where
  sane : d.core.Sane → d'.core.Sane
  ready : d.sink.Ready → d'.sink.Ready
  kept : d.sink.Kept d'.sink

omit [FileHandle η φ] in
/-- What is kept twice is kept. -/
theorem Keeps.trans {d'' : Duty ω η φ} (first : d.Keeps d') (second : d'.Keeps d'') :
    d.Keeps d'' :=
  ⟨second.sane ∘ first.sane, second.ready ∘ first.ready, first.kept.trans second.kept⟩

omit [FileHandle η φ] in
/-- A report of a failure keeps the core sane and the sink ready. -/
theorem keeps_noteFailure (d : Duty ω η φ) (answer : Except NetError Unit)
    (event : SinkId → Service → NetError → StackEvent) :
    d.Keeps (Stack.noteFailure d answer event) := by
  obtain ⟨leads, sink⟩ := leads_noteFailure Core.repertoire_plain.toRoutine d answer event
  exact ⟨leads.sane, fun ready => sink.symm ▸ ready, d.kept_noteFailure answer event⟩

/-- The handler of a packet keeps the core sane and the sink ready. -/
theorem keeps_deliver (delivered : d.deliver p = .ok (answer, d')) : d.Keeps d' where
  sane :=
    have leads : Leads (Act.Within fun _ => True) d.core d'.core :=
      leads_deliver_of Stack.fullRepertoire_within (Stack.answerable_within p) delivered
    leads.sane
  ready ready := ready_deliver ready delivered
  kept := deliver_kept delivered

/-- An expiry keeps the core sane and the sink ready. -/
theorem keeps_expire (d : Duty ω η φ) : d.Keeps d.expire.2 where
  sane :=
    have leads : Leads (Act.Within fun _ => True) d.core d.expire.2.core :=
      leads_expire_of Stack.fullRepertoire_within d
    leads.sane
  ready := ready_expire
  kept := d.expire_kept

end Duty

/-! ## All sinks -/

namespace Stack

variable [FileHandle η φ] {d d' : Duty ω η φ} {core core' : Core ω} {volume volume' : φ}
  {sinks sinks' : List (Sink (SinkKind η))}

/-- Handles packets that waited for one sink, in turn. -/
def checkedDeliverAll (d : Duty ω η φ) : List Packet → Except Fault (Duty ω η φ)
  | [] => .ok d
  | p :: rest => do
    let (answer, d) ← d.checkedDeliver p
    checkedDeliverAll (noteFailure d answer .deliveryFailed) rest

/-- Handles all that waited for each sink, in the order of the table. -/
def checkedDrainSinks (core : Core ω) (volume : φ) :
    List (Sink (SinkKind η)) → Except Fault (Core ω × φ × List (Sink (SinkKind η)))
  | [] => .ok (core, volume, [])
  | sink :: rest => do
    let ⟨sink, core, volume⟩ ←
      checkedDeliverAll ⟨{ sink with queue := {} }, core, volume⟩ sink.queue.packets
    let (core, volume, rest) ← checkedDrainSinks core volume rest
    return (core, volume, sink :: rest)

/-- Handles the timer of one sink, if it is due. -/
def checkedExpireOne (now : Tick) (core : Core ω) (volume : φ) (sink : Sink (SinkKind η)) :
    Except Fault (Duty ω η φ) :=
  if sink.timer.isDue now then do
    let (answer, d) ← Duty.checkedExpire ⟨{ sink with timer := Timer.idle }, core, volume⟩
    return noteFailure d answer .expiryFailed
  else .ok ⟨sink, core, volume⟩

/-- Handles the timer of each sink that is due at `now`, in the order of the table. -/
def checkedExpireSinks (now : Tick) (core : Core ω) (volume : φ) :
    List (Sink (SinkKind η)) → Except Fault (Core ω × φ × List (Sink (SinkKind η)))
  | [] => .ok (core, volume, [])
  | sink :: rest => do
    let ⟨sink, core, volume⟩ ← checkedExpireOne now core volume sink
    let (core, volume, rest) ← checkedExpireSinks now core volume rest
    return (core, volume, sink :: rest)

/-- Handlers of several packets keep the core sane and the sink ready. -/
theorem keeps_deliverAll {packets : List Packet} (delivered : deliverAll d packets = .ok d') :
    d.Keeps d' := by
  refine deliverAll_keeps d.Keeps ?_ ⟨id, id, ⟨rfl, rfl, rfl⟩⟩ delivered
  intro d₁ p answer d₂ _ before first
  exact (before.trans (Duty.keeps_deliver first)).trans (d₂.keeps_noteFailure answer _)

/-- Packets that a sink can work with are handled without a fault of their own. -/
theorem checkedDeliverAll_agrees [FileHandle.Bounded η φ] {packets : List Packet}
    (sane : d.core.Sane) (ready : d.sink.Ready) (take : ∀ p ∈ packets, d.sink.Takes p) :
    Agree (checkedDeliverAll d packets) (deliverAll d packets) := by
  induction packets generalizing d with
  | nil => exact .ok d
  | cons p rest ih =>
    have first := Duty.checkedDeliver_agrees sane ready (take p List.mem_cons_self)
    refine first.bind fun result delivered => ?_
    obtain ⟨answer, d₁⟩ := result
    have keeps := (Duty.keeps_deliver delivered).trans (d₁.keeps_noteFailure answer .deliveryFailed)
    refine ih (keeps.sane sane) (keeps.ready ready) ?_
    intro q mem
    exact (take q (List.mem_cons_of_mem p mem)).of_filter keeps.kept.filter

/-- Sane sinks are drained without a fault of their own. -/
theorem checkedDrainSinks_agrees [FileHandle.Bounded η φ] (sane : core.Sane)
    (all : ∀ sink ∈ sinks, sink.Sane) :
    Agree (checkedDrainSinks core volume sinks) (drainSinks core volume sinks) := by
  induction sinks generalizing core volume with
  | nil => exact .ok _
  | cons sink rest ih =>
    have here := all sink List.mem_cons_self
    have first := checkedDeliverAll_agrees (d := ⟨{ sink with queue := {} }, core, volume⟩) sane
      here.ready fun p mem => (here.waiting p mem).of_filter rfl
    refine first.bind fun d delivered => ?_
    have others :
        Agree (checkedDrainSinks d.core d.volume rest) (drainSinks d.core d.volume rest) :=
      ih ((keeps_deliverAll delivered).sane sane)
        fun other mem => all other (List.mem_cons_of_mem sink mem)
    exact others.bind fun _ _ => .ok _

/-- Sinks stay sane, and nothing waits for them any more. -/
theorem sane_drainSinks (all : ∀ sink ∈ sinks, sink.Sane)
    (drained : drainSinks core volume sinks = .ok (core', volume', sinks')) :
    ∀ sink ∈ sinks', sink.Sane := by
  refine (drainSinks_keeps (fun _ => True) ?_ trivial all drained).2
  intro sink core₁ volume d sane _ delivered
  have keeps := keeps_deliverAll delivered
  have emptied : { sink with queue := {} }.Sane := ⟨sane.ready, nofun⟩
  exact ⟨trivial, emptied.of_kept keeps.kept (keeps.ready emptied.ready)⟩

/-- The core and the sink stay sane when a timer is looked at. -/
theorem keeps_expireOne (now : Tick) (core : Core ω) (volume : φ) (sink : Sink (SinkKind η)) :
    (core.Sane → (expireOne now core volume sink).core.Sane) ∧
      (sink.Sane → (expireOne now core volume sink).sink.Sane) := by
  unfold expireOne
  split
  · let d : Duty ω η φ := ⟨{ sink with timer := Timer.idle }, core, volume⟩
    have keeps := d.keeps_expire.trans (d.expire.2.keeps_noteFailure d.expire.1 .expiryFailed)
    refine ⟨keeps.sane, fun sane => ?_⟩
    have disarmed : { sink with timer := Timer.idle }.Sane :=
      ⟨sane.ready, fun p mem => (sane.waiting p mem).of_filter rfl⟩
    exact disarmed.of_kept keeps.kept (keeps.ready disarmed.ready)
  · exact ⟨id, id⟩

/-- The timer of a sane sink is looked at without a fault. -/
theorem checkedExpireOne_eq [FileHandle.Bounded η φ] (now : Tick) (sane : core.Sane) (volume : φ)
    {sink : Sink (SinkKind η)} (ready : sink.Ready) :
    checkedExpireOne now core volume sink = .ok (expireOne now core volume sink) := by
  refine ite_ok (fun _ => ?_) fun _ => rfl
  have expired := Duty.checkedExpire_eq (d := ⟨{ sink with timer := Timer.idle }, core, volume⟩)
    sane ready
  exact bind_of_ok expired _

/-- The timers of sane sinks are looked at without a fault. -/
theorem checkedExpireSinks_eq [FileHandle.Bounded η φ] (now : Tick) (sane : core.Sane) (volume : φ)
    (all : ∀ sink ∈ sinks, sink.Sane) :
    checkedExpireSinks now core volume sinks = .ok (expireSinks now core volume sinks) := by
  induction sinks generalizing core volume with
  | nil => rfl
  | cons sink rest ih =>
    have here := all sink List.mem_cons_self
    have keeps := keeps_expireOne now core volume sink
    have others := ih (keeps.1 sane) (expireOne now core volume sink).volume
      fun other mem => all other (List.mem_cons_of_mem sink mem)
    rw [checkedExpireSinks, checkedExpireOne_eq now sane volume here.ready, ok_bind,
      expireSinks_cons]
    dsimp only
    rw [others]
    rfl

/-- Sinks stay sane when their timers are looked at. -/
theorem sane_expireSinks (now : Tick) (core : Core ω) (volume : φ)
    (all : ∀ sink ∈ sinks, sink.Sane) :
    ∀ sink ∈ (expireSinks now core volume sinks).2.2, sink.Sane := by
  refine (expireSinks_keeps (fun _ => True) ?_ trivial volume all).2
  intro sink core₁ volume sane _
  exact ⟨trivial, (keeps_expireOne now core₁ volume sink).2 sane⟩

end Stack

/-! ## Received frames -/

/-- Counts a received frame and classifies it. -/
def Core.checkedClassify (c : Core ω) (frame : Bytes) :
    Except Fault (Option Arrival × Core ω) := do
  let c := c.count fun s => { s with rxFrames := s.rxFrames + 1 }
  match ← Arrival.checkedOfFrame c.mac frame with
  | .ok arrival => return (some arrival, c)
  | .error cause =>
    let c := c.count cause.count
    return (none, match cause.event? with
      | none => c
      | some event => c.tell event)

/-- A frame is classified without a fault. -/
theorem Core.checkedClassify_eq (c : Core ω) (frame : Bytes) :
    c.checkedClassify frame = .ok (c.classify frame) := by
  unfold Core.checkedClassify Core.classify
  dsimp only
  rw [Arrival.checkedOfFrame_eq, ok_bind]
  cases Arrival.ofFrame (c.count fun s => { s with rxFrames := s.rxFrames + 1 }).mac frame <;> rfl

namespace Stack

variable {s s' : Stack ω η φ}

/-- Queues a received frame on the most specific sink that accepts it. -/
def checkedReceiveFrame (s : Stack ω η φ) (frame : Bytes) : Except Fault (Stack ω η φ) := do
  match ← s.core.checkedClassify frame with
  | (none, core) => return { s with core }
  | (some arrival, core) =>
    let accepting := s.sinks.find? arrival.info core.address?
    match accepting.bind fun i => (s.sinks.at? i).map (i, ·) with
    | some (i, sink) =>
      let event : FrameEvent := .queued arrival.packet.data.length sink.id
      let sinks :=
        s.sinks.modifyAt i fun sink => { sink with queue := sink.queue.push arrival.packet }
      return { s with core := core.tell (.frame event), sinks }
    | none =>
      let core := core.tell (.frame (.unclaimed arrival.info.ethertype))
      return { s with core := core.count fun n => { n with rxUnclaimed := n.rxUnclaimed + 1 } }

/-- **No frame is read outside its octets**, in whatever state the stack is. -/
theorem checkedReceiveFrame_eq (s : Stack ω η φ) (frame : Bytes) :
    s.checkedReceiveFrame frame = .ok (s.receiveFrame frame) := by
  unfold checkedReceiveFrame receiveFrame
  rw [Core.checkedClassify_eq, ok_bind]
  rcases s.core.classify frame with ⟨_ | arrival, core⟩
  · rfl
  · dsimp only
    generalize ((s.sinks.find? arrival.info core.address?).bind fun i =>
      (s.sinks.at? i).map (i, ·)) = accepting
    rcases accepting with _ | ⟨i, sink⟩ <;> rfl

/-- The core and all sinks are sane. -/
structure Sane (s : Stack ω η φ) : Prop where
  core : s.core.Sane
  sinks : ∀ sink ∈ s.sinks.sinks, sink.Sane

/-- A received frame waits for a sink that can work with it. -/
theorem Sane.receiveFrame (sane : s.Sane) (frame : Bytes) : (s.receiveFrame frame).Sane := by
  refine ⟨(s.plain_receiveFrame frame).sane sane.core, ?_⟩
  apply (s.receives_receiveFrame frame).all_sinks sane.sinks
  intro arrival sink classified accepts here
  refine ⟨here.ready, ?_⟩
  intro p waits
  rcases List.mem_append.mp waits with old | new
  · exact (here.waiting p old).of_filter rfl
  · rw [List.mem_singleton.mp new]
    exact (Sink.takes_of_accepts classified accepts).of_filter rfl

/-- Takes at most so many frames from the device. -/
def checkedReceiveFrames (s : Stack ω η φ) : (budget : Nat) → Except Fault (Stack ω η φ)
  | 0 => .ok s
  | budget + 1 =>
    match s.core.device.receive s.core.hw with
    | (none, hw) => .ok { s with core := { s.core with hw } }
    | (some frame, hw) => do
      let s ← { s with core := { s.core with hw } }.checkedReceiveFrame frame
      checkedReceiveFrames s budget

/-- The frames of a pass are received without a fault. -/
theorem checkedReceiveFrames_eq (s : Stack ω η φ) (budget : Nat) :
    s.checkedReceiveFrames budget = .ok (s.receiveFrames budget) := by
  induction budget generalizing s with
  | zero => rfl
  | succ budget ih =>
    unfold checkedReceiveFrames receiveFrames
    rcases s.core.device.receive s.core.hw with ⟨_ | frame, hw⟩
    · rfl
    · dsimp only
      rw [checkedReceiveFrame_eq, ok_bind]
      exact ih _

/-- Receiving the frames of a pass keeps a stack sane. -/
theorem Sane.receiveFrames (sane : s.Sane) (budget : Nat) : (s.receiveFrames budget).Sane := by
  induction budget generalizing s with
  | zero => exact sane
  | succ budget ih =>
    have taken (hw : ω) : Sane { s with core := { s.core with hw } } :=
      ⟨sane.core.of_eq rfl rfl, sane.sinks⟩
    unfold Stack.receiveFrames
    split
    · exact taken _
    · exact ih ((taken _).receiveFrame _)

/-- What a pass takes and sends before it handles anything. -/
theorem Sane.collected (sane : s.Sane) : s.collected.Sane := by
  have retried : Sane { s with core := s.core.serviceParked } :=
    ⟨sane.core.serviceParked, sane.sinks⟩
  have serviced : { s with core := s.core.serviceParked }.serviceDevice.Sane :=
    ⟨retried.core.of_eq rfl rfl, retried.sinks⟩
  have received := serviced.receiveFrames receiveBudget
  exact ⟨received.core.flush _, received.sinks⟩

/-! ## Passes -/

variable [FileHandle η φ]

/-- Handles all that waited for the sinks. -/
def checkedDrainQueues (s : Stack ω η φ) : Except Fault (Stack ω η φ) := do
  let ⟨core, volume, ⟨sinks, nextNumber⟩, nextPort⟩ := s
  let (core, volume, sinks) ← checkedDrainSinks core volume sinks
  return ⟨core, volume, ⟨sinks, nextNumber⟩, nextPort⟩

/-- Handles all timers that are due. -/
def checkedExpireTimers (s : Stack ω η φ) : Except Fault (Stack ω η φ) := do
  let ⟨core, volume, ⟨sinks, nextNumber⟩, nextPort⟩ := s
  let (core, volume, sinks) ← checkedExpireSinks core.now core volume sinks
  return ⟨core, volume, ⟨sinks, nextNumber⟩, nextPort⟩

/-- One pass. -/
def checkedPump (s : Stack ω η φ) : Except Fault (Stack ω η φ) := do
  let core ← s.core.checkedServiceParked
  let s ← { s with core }.serviceDevice.checkedReceiveFrames receiveBudget
  let s ← { s with core := s.core.flushBacklog }.checkedDrainQueues
  s.checkedExpireTimers

/-- The queues of a sane stack are drained without a fault of their own. -/
theorem checkedDrainQueues_agrees [FileHandle.Bounded η φ] (sane : s.Sane) :
    Agree s.checkedDrainQueues s.drainQueues :=
  (checkedDrainSinks_agrees sane.core sane.sinks).bind fun _ _ => .ok _

/-- Draining the queues keeps a stack sane. -/
theorem Sane.drainQueues (sane : s.Sane) (drained : s.drainQueues = .ok s') : s'.Sane := by
  unfold Stack.drainQueues at drained
  obtain ⟨⟨core, volume, sinks⟩, handled, done⟩ := exists_ok_of_bind drained
  cases done
  have leads : Leads (Act.Within fun _ => True) s.core core :=
    leads_drainSinks_of fullRepertoire_within (fun _ _ p _ => answerable_within p) handled
  exact ⟨leads.sane sane.core, sane_drainSinks sane.sinks handled⟩

/-- The timers of a sane stack are looked at without a fault. -/
theorem checkedExpireTimers_eq [FileHandle.Bounded η φ] (sane : s.Sane) :
    s.checkedExpireTimers = .ok s.expireTimers :=
  bind_of_ok (checkedExpireSinks_eq s.core.now sane.core s.volume sane.sinks) _

/-- Looking at the timers keeps a stack sane. -/
theorem Sane.expireTimers (sane : s.Sane) : s.expireTimers.Sane := by
  have leads : Leads (Act.Within fun _ => True) s.core s.expireTimers.core :=
    leads_expireSinks_of fullRepertoire_within _ _ _ _
  exact ⟨leads.sane sane.core, sane_expireSinks _ _ _ sane.sinks⟩

/-- **A pass never faults.** -/
theorem checkedPump_agrees [FileHandle.Bounded η φ] (sane : s.Sane) :
    Agree s.checkedPump s.pump := by
  have collected := sane.collected
  have drained := checkedDrainQueues_agrees collected
  have same : s.checkedPump = s.collected.checkedDrainQueues >>= checkedExpireTimers := by
    unfold checkedPump
    rw [Core.checkedServiceParked_eq sane.core, ok_bind, checkedReceiveFrames_eq, ok_bind]
    rfl
  rw [same, pump_eq]
  refine drained.bind fun s₁ handled => ?_
  exact .of_ok (checkedExpireTimers_eq (collected.drainQueues handled)) rfl

/-- A pass keeps a stack sane. -/
theorem Sane.pump (sane : s.Sane) (ran : s.pump = .ok s') : s'.Sane := by
  rw [pump_eq] at ran
  obtain ⟨s₁, drained, rfl⟩ := handled_eq_ok ran
  exact (sane.collected.drainQueues drained).expireTimers

end Stack

end PolledNet
