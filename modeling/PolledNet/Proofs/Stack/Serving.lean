import PolledNet.Proofs.Dhcp.Soundness
import PolledNet.Proofs.Tftp.Conduct
import PolledNet.Stack.Client

/-!
# The stack as its DHCP client sees it

A stack with one DHCP client *serves* a session of the client: the client with its timer, on the
core of the stack. All that a pass does is, to the client, a sequence of its own handlers and of
work that others do on the core. So a property of sessions that others' work keeps (`Steady`) is
kept by the passes over all sinks, if the handlers of the client keep it (`drainSinks_client`,
`expireSinks_client`).
-/

namespace PolledNet

open PolledNet.Core (Leads)
open DhcpClient (Session)

/-- The DHCP client behind a sink, with its timer. -/
def Sink.client? {η : Type} (sink : Sink (SinkKind η)) : Option (DhcpClient × Timer) :=
  match sink.kind with
  | .dhcp client => some (client, sink.timer)
  | _ => none

variable {ω η φ : Type}

/-- A property that other work on the core keeps. -/
def Steady (Holds : Session (Core ω) → Prop) : Prop :=
  ∀ x c, Leads Act.Ordinary x.link c → Holds x → Holds { x with link := c }

/-! ## One handler -/

namespace Duty

/-- The sink at work is that of the client. -/
structure Serves (d : Duty ω η φ) (x : Session (Core ω)) : Prop where
  client : d.sink.client? = some (x.client, x.timer)
  core : d.core = x.link

/-- A duty that serves a session is at its client and its timer. -/
theorem Serves.kind {d : Duty ω η φ} {x : Session (Core ω)} (serves : d.Serves x) :
    d.sink.kind = .dhcp x.client ∧ d.sink.timer = x.timer := by
  have client := serves.client
  unfold Sink.client? at client
  split at client
  · rename_i kind
    rw [Option.some.injEq, Prod.mk.injEq] at client
    exact ⟨by rw [kind, client.1], client.2⟩
  · cases client

section Handlers

variable [FileHandle η φ] {d d' : Duty ω η φ} {x : Session (Core ω)} {p : Packet}
  {answer : Except NetError Unit} {Kind : Act ω → Prop}

/-- What a handler of another service does is made of acts that services need. -/
theorem leads_deliver (able : Core.Repertoire Kind) (answerable : Core.Answerable Kind p)
    (other : d.sink.client? = none) (handled : d.deliver p = .ok (answer, d')) :
    Leads Kind d.core d'.core ∧ d'.sink.client? = none := by
  unfold deliver at handled
  split at handled
  case h_1 =>
    obtain ⟨content, -, handled⟩ := exists_ok_of_bind handled
    cases handled
    exact ⟨able.leads_receiveArp d.core content, other⟩
  case h_2 =>
    obtain ⟨result, echoed, handled⟩ := exists_ok_of_bind handled
    cases handled
    exact ⟨able.leads_receiveEcho answerable echoed, other⟩
  case h_3 limiter kind =>
    obtain ⟨result, told, handled⟩ := exists_ok_of_bind handled
    cases handled
    exact ⟨able.leads_receiveUnclaimed told, rfl⟩
  case h_4 client kind =>
    rw [Sink.client?, kind] at other
    cases other
  case h_5 transfer kind =>
    obtain ⟨segment, -, handled⟩ := exists_ok_of_bind handled
    obtain ⟨payload, -, handled⟩ := exists_ok_of_bind handled
    split at handled
    · cases handled
      exact ⟨Transfer.Session.moves_receive able.moves
        ⟨transfer, d.sink.timer, d.core, d.volume⟩ _ _, rfl⟩
    · cases handled
      exact ⟨.refl _, other⟩

/-- An expiring timer of another service does plain acts, and makes no DHCP client of it. -/
theorem leads_expire (able : Core.Repertoire Kind) (other : d.sink.client? = none) :
    Leads Kind d.core d.expire.2.core ∧ d.expire.2.sink.client? = none := by
  unfold expire
  split
  case h_1 kind => exact ⟨able.leads_sweepArp d.core, by rw [Sink.client?, kind]⟩
  case h_2 => exact ⟨.refl _, other⟩
  case h_3 => exact ⟨.refl _, other⟩
  case h_4 client kind =>
    rw [Sink.client?, kind] at other
    cases other
  case h_5 transfer kind =>
    exact ⟨Transfer.Session.moves_expire able.moves
      ⟨transfer, d.sink.timer, d.core, d.volume⟩, rfl⟩

/-- A packet for the client is received by it. -/
theorem Serves.deliver (serves : d.Serves x) (handled : d.deliver p = .ok (answer, d')) :
    ∃ payload, p.payload? = .ok payload ∧ d'.Serves (x.receive (Core.uplink ω) payload).2 := by
  obtain ⟨client, timer, link⟩ := x
  obtain ⟨kind, armed⟩ := serves.kind
  have core := serves.core
  dsimp only at kind armed core
  subst armed core
  unfold Duty.deliver at handled
  rw [kind] at handled
  dsimp only at handled
  obtain ⟨payload, read, handled⟩ := exists_ok_of_bind handled
  cases handled
  exact ⟨payload, read, rfl, rfl⟩

/-- The timer of a session is handled by the session. -/
theorem Serves.expire (serves : d.Serves x) :
    d.expire.2.Serves (x.expire (Core.uplink ω)).2 := by
  obtain ⟨client, timer, link⟩ := x
  obtain ⟨kind, armed⟩ := serves.kind
  have core := serves.core
  dsimp only at kind armed core
  subst armed core
  unfold Duty.expire
  rw [kind]
  exact ⟨rfl, rfl⟩

end Handlers

/-- A report of a failure is a routine act, and leaves the sink alone. -/
theorem leads_noteFailure {Kind : Act ω → Prop} (able : Core.Routine Kind) (d : Duty ω η φ)
    (answer : Except NetError Unit) (event : SinkId → Service → NetError → StackEvent) :
    Leads Kind d.core (Stack.noteFailure d answer event).core ∧
      (Stack.noteFailure d answer event).sink = d.sink := by
  cases answer with
  | ok => exact ⟨.refl _, rfl⟩
  | error e => exact ⟨able.leads_tell d.core _, rfl⟩

/-- The client does not see whether a failure was noted. -/
theorem Serves.noteFailure {d : Duty ω η φ} {x : Session (Core ω)} (serves : d.Serves x)
    (answer : Except NetError Unit) (event : SinkId → Service → NetError → StackEvent)
    {Holds : Session (Core ω) → Prop} (steady : Steady Holds) (holds : Holds x) :
    ∃ y, (Stack.noteFailure d answer event).Serves y ∧ Holds y := by
  obtain ⟨leads, sink⟩ := leads_noteFailure Core.repertoire_plain.toRoutine d answer event
  rw [serves.core] at leads
  exact ⟨_, ⟨by rw [sink]; exact serves.client, rfl⟩, steady x _ leads.ordinary holds⟩

end Duty

/-! ## All sinks -/

namespace Stack

/-- The DHCP clients behind sinks, with their timers. -/
def clients (sinks : List (Sink (SinkKind η))) : List (DhcpClient × Timer) :=
  sinks.filterMap Sink.client?

/-- The packets that wait for DHCP clients. -/
def mail (sinks : List (Sink (SinkKind η))) : List Packet :=
  (sinks.filter (·.client?.isSome)).flatMap (·.queue.packets)

/-- A sink without a client adds none to the list. -/
theorem clients_cons_of_none {sink : Sink (SinkKind η)} (other : sink.client? = none)
    (rest : List (Sink (SinkKind η))) : clients (sink :: rest) = clients rest :=
  List.filterMap_cons_none other

/-- The client of the first sink is the first of the list. -/
theorem clients_cons_of_some {sink : Sink (SinkKind η)} {client : DhcpClient × Timer}
    (own : sink.client? = some client) (rest : List (Sink (SinkKind η))) :
    clients (sink :: rest) = client :: clients rest :=
  List.filterMap_cons_some own

/-- A sink without a client has no mail that counts. -/
theorem mail_cons_of_none {sink : Sink (SinkKind η)} (other : sink.client? = none)
    (rest : List (Sink (SinkKind η))) : mail (sink :: rest) = mail rest := by
  simp [mail, other]

/-- What waits for a client is in the mail. -/
theorem mem_mail_of_some {sink : Sink (SinkKind η)} {client : DhcpClient × Timer}
    (own : sink.client? = some client) (rest : List (Sink (SinkKind η))) {p : Packet}
    (mem : p ∈ sink.queue.packets) : p ∈ mail (sink :: rest) := by
  simp [mail, own, mem]

section Passes

variable [FileHandle η φ] {d d' : Duty ω η φ} {core core' : Core ω} {volume volume' : φ}
  {sinks sinks' : List (Sink (SinkKind η))} {x : Session (Core ω)}
  {Holds Holds' : Session (Core ω) → Prop}

/-- What each delivery keeps is kept by all of them. -/
theorem deliverAll_keeps (Holds : Duty ω η φ → Prop) {packets : List Packet}
    (step : ∀ d p answer d', p ∈ packets → Holds d → d.deliver p = .ok (answer, d') →
      Holds (noteFailure d' answer .deliveryFailed))
    (start : Holds d) (handled : deliverAll d packets = .ok d') : Holds d' := by
  induction packets generalizing d with
  | nil => cases handled; exact start
  | cons p rest ih =>
    unfold deliverAll at handled
    obtain ⟨⟨answer, d₁⟩, delivered, handled⟩ := exists_ok_of_bind handled
    refine ih ?_ (step d p answer d₁ List.mem_cons_self start delivered) handled
    intro d q answer d' mem
    exact step d q answer d' (List.mem_cons_of_mem p mem)

/-- The handlers of another service do plain acts, and make no DHCP client of it. -/
theorem leads_deliverAll {packets : List Packet} (other : d.sink.client? = none)
    (handled : deliverAll d packets = .ok d') :
    Leads Act.Plain d.core d'.core ∧ d'.sink.client? = none := by
  refine deliverAll_keeps (fun d' => Leads Act.Plain d.core d'.core ∧ d'.sink.client? = none) ?_
    ⟨.refl _, other⟩ handled
  rintro d₁ p answer d₂ - ⟨before, other⟩ delivered
  obtain ⟨leads, other⟩ :=
    Duty.leads_deliver Core.repertoire_plain (Core.answerable_plain p) other delivered
  obtain ⟨noted, sink⟩ :=
    Duty.leads_noteFailure Core.repertoire_plain.toRoutine d₂ answer .deliveryFailed
  exact ⟨(before.trans leads).trans noted, by rw [sink]; exact other⟩

/-- The client receives its packets in turn. -/
theorem deliverAll_client (steady : Steady Holds) {packets : List Packet}
    (receive : ∀ x p payload, p ∈ packets → p.payload? = .ok payload → Holds x →
      Holds (x.receive (Core.uplink ω) payload).2)
    (serves : d.Serves x) (holds : Holds x) (handled : deliverAll d packets = .ok d') :
    ∃ y, d'.Serves y ∧ Holds y := by
  refine deliverAll_keeps (fun d => ∃ y, d.Serves y ∧ Holds y) ?_ ⟨x, serves, holds⟩ handled
  rintro d p answer d' mem ⟨y, serves, holds⟩ delivered
  obtain ⟨payload, read, served⟩ := serves.deliver delivered
  exact served.noteFailure answer .deliveryFailed steady (receive y p payload mem read holds)

/-- A step of a pass over the sinks. -/
theorem drainSinks_cons {sink : Sink (SinkKind η)}
    (handled : drainSinks core volume (sink :: sinks) = .ok (core', volume', sinks')) :
    ∃ d rest, deliverAll ⟨{ sink with queue := {} }, core, volume⟩ sink.queue.packets = .ok d ∧
      drainSinks d.core d.volume sinks = .ok (core', volume', rest) ∧ sinks' = d.sink :: rest := by
  unfold drainSinks at handled
  obtain ⟨d, delivered, handled⟩ := exists_ok_of_bind handled
  obtain ⟨⟨_, _, rest⟩, rested, handled⟩ := exists_ok_of_bind handled
  cases handled
  exact ⟨d, rest, delivered, rested, rfl⟩

/-- What the deliveries to each sink keep is kept by the pass, and what they make of each sink holds
after it. -/
theorem drainSinks_keeps (Holds : Core ω → Prop) {Before After : Sink (SinkKind η) → Prop}
    (step : ∀ sink core volume d, Before sink → Holds core →
      deliverAll ⟨{ sink with queue := {} }, core, volume⟩ sink.queue.packets = .ok d →
        Holds d.core ∧ After d.sink)
    (start : Holds core) (all : ∀ sink ∈ sinks, Before sink)
    (handled : drainSinks core volume sinks = .ok (core', volume', sinks')) :
    Holds core' ∧ ∀ sink ∈ sinks', After sink := by
  induction sinks generalizing core volume sinks' with
  | nil => cases handled; exact ⟨start, fun _ mem => absurd mem List.not_mem_nil⟩
  | cons sink rest ih =>
    obtain ⟨d, rest', delivered, rested, rfl⟩ := drainSinks_cons handled
    obtain ⟨held, here⟩ := step sink core volume d (all sink List.mem_cons_self) start delivered
    obtain ⟨still, others⟩ := ih held (fun other mem => all other (List.mem_cons_of_mem sink mem))
      rested
    refine ⟨still, ?_⟩
    intro other mem
    rcases List.mem_cons.mp mem with rfl | mem
    · exact here
    · exact others other mem

/-- There are no clients iff no sink has one. -/
theorem clients_eq_nil_iff : clients sinks = [] ↔ ∀ sink ∈ sinks, sink.client? = none :=
  List.filterMap_eq_nil_iff

/-- Draining queues where there is no client does plain acts, and brings no client. -/
theorem leads_drainSinks (none : clients sinks = [])
    (handled : drainSinks core volume sinks = .ok (core', volume', sinks')) :
    Leads Act.Plain core core' ∧ clients sinks' = [] := by
  rw [clients_eq_nil_iff] at none ⊢
  refine drainSinks_keeps (fun c => Leads Act.Plain core c) ?_ (.refl _) none handled
  intro sink core₁ volume d other before delivered
  obtain ⟨leads, still⟩ :=
    leads_deliverAll (d := ⟨{ sink with queue := {} }, core₁, volume⟩) other delivered
  exact ⟨before.trans leads, still⟩

/-- **A pass over what the sinks have received** keeps what the handlers of the one client keep. -/
theorem drainSinks_client (steady : Steady Holds)
    (receive : ∀ x p payload, p ∈ mail sinks → p.payload? = .ok payload → Holds x →
      Holds (x.receive (Core.uplink ω) payload).2)
    (one : clients sinks = [(x.client, x.timer)]) (link : core = x.link) (holds : Holds x)
    (handled : drainSinks core volume sinks = .ok (core', volume', sinks')) :
    ∃ y, clients sinks' = [(y.client, y.timer)] ∧ core' = y.link ∧ Holds y := by
  induction sinks generalizing core volume sinks' x with
  | nil => cases one
  | cons sink rest ih =>
    obtain ⟨d, rest', delivered, rested, rfl⟩ := drainSinks_cons handled
    cases own : sink.client? with
    | some client =>
      rw [clients_cons_of_some own, List.cons.injEq] at one
      obtain ⟨rfl, none⟩ := one
      have serves : Duty.Serves ⟨{ sink with queue := {} }, core, volume⟩ x := ⟨own, link⟩
      obtain ⟨y, served, still⟩ := deliverAll_client steady
        (fun x p payload mem => receive x p payload (mem_mail_of_some own rest mem)) serves holds
        delivered
      -- the sinks behind it are others
      obtain ⟨leads, others⟩ := leads_drainSinks none rested
      rw [served.core] at leads
      refine ⟨_, ?_, rfl, steady y core' leads.ordinary still⟩
      rw [clients_cons_of_some served.client, others]
    | none =>
      obtain ⟨leads, other⟩ := leads_deliverAll (d := ⟨{ sink with queue := {} }, core, volume⟩)
        own delivered
      rw [clients_cons_of_none own] at one
      dsimp only at leads
      rw [link] at leads
      obtain ⟨y, only, core, still⟩ := ih (x := { x with link := d.core })
        (fun x p payload mem => receive x p payload (by rwa [mail_cons_of_none own])) one rfl
        (steady x d.core leads.ordinary holds) rested
      exact ⟨y, by rw [clients_cons_of_none other, only], core, still⟩

/-- What a pass over the timers does with one sink. -/
def expireOne (now : Tick) (core : Core ω) (volume : φ) (sink : Sink (SinkKind η)) :
    Duty ω η φ :=
  if sink.timer.isDue now then
    noteFailure (Duty.expire ⟨{ sink with timer := Timer.idle }, core, volume⟩).2
      (Duty.expire ⟨{ sink with timer := Timer.idle }, core, volume⟩).1 .expiryFailed
  else ⟨sink, core, volume⟩

/-- The timers of a list of sinks are looked at from the first sink on. -/
theorem expireSinks_cons (now : Tick) (sink : Sink (SinkKind η)) :
    expireSinks now core volume (sink :: sinks) =
      ((expireSinks now (expireOne now core volume sink).core
          (expireOne now core volume sink).volume sinks).1,
        (expireSinks now (expireOne now core volume sink).core
          (expireOne now core volume sink).volume sinks).2.1,
        (expireOne now core volume sink).sink ::
          (expireSinks now (expireOne now core volume sink).core
            (expireOne now core volume sink).volume sinks).2.2) := rfl

/-- The timer of another service does plain acts, and makes no DHCP client of it. -/
theorem leads_expireOne (now : Tick) (core : Core ω) (volume : φ) {sink : Sink (SinkKind η)}
    (other : sink.client? = none) :
    Leads Act.Plain core (expireOne now core volume sink).core ∧
      (expireOne now core volume sink).sink.client? = none := by
  unfold expireOne
  split
  · have disarmed : { sink with timer := Timer.idle }.client? = none := by
      unfold Sink.client? at other ⊢
      split at other
      · cases other
      · rfl
    obtain ⟨leads, still⟩ := Duty.leads_expire Core.repertoire_plain
      (d := ⟨{ sink with timer := Timer.idle }, core, volume⟩) disarmed
    obtain ⟨noted, same⟩ := Duty.leads_noteFailure Core.repertoire_plain.toRoutine
      (Duty.expire ⟨{ sink with timer := Timer.idle }, core, volume⟩).2
      (Duty.expire ⟨{ sink with timer := Timer.idle }, core, volume⟩).1 .expiryFailed
    exact ⟨leads.trans noted, by rw [same]; exact still⟩
  · exact ⟨.refl _, other⟩

/-- What the timer of each sink keeps is kept by the pass, and what it makes of each sink holds
after it. -/
theorem expireSinks_keeps (Holds : Core ω → Prop) {Before After : Sink (SinkKind η) → Prop}
    {now : Tick}
    (step : ∀ sink core volume, Before sink → Holds core →
      Holds (expireOne now core volume sink).core ∧ After (expireOne now core volume sink).sink)
    (start : Holds core) (volume : φ) (all : ∀ sink ∈ sinks, Before sink) :
    Holds (expireSinks now core volume sinks).1 ∧
      ∀ sink ∈ (expireSinks now core volume sinks).2.2, After sink := by
  induction sinks generalizing core volume with
  | nil => exact ⟨start, fun _ mem => absurd mem List.not_mem_nil⟩
  | cons sink rest ih =>
    obtain ⟨held, here⟩ := step sink core volume (all sink List.mem_cons_self) start
    obtain ⟨still, others⟩ := ih held (expireOne now core volume sink).volume
      fun other mem => all other (List.mem_cons_of_mem sink mem)
    rw [expireSinks_cons]
    refine ⟨still, ?_⟩
    intro other mem
    rcases List.mem_cons.mp mem with rfl | mem
    · exact here
    · exact others other mem

/-- Timers where there is no client do plain acts, and bring no client. -/
theorem leads_expireSinks (now : Tick) (core : Core ω) (volume : φ) (none : clients sinks = []) :
    Leads Act.Plain core (expireSinks now core volume sinks).1 ∧
      clients (expireSinks now core volume sinks).2.2 = [] := by
  rw [clients_eq_nil_iff] at none ⊢
  refine expireSinks_keeps (fun c => Leads Act.Plain core c) ?_ (.refl _) volume none
  intro sink core₁ volume other before
  obtain ⟨leads, still⟩ := leads_expireOne now core₁ volume other
  exact ⟨before.trans leads, still⟩

/-- The client's timer is left alone until it is due, and then handled. -/
theorem expireOne_client (volume : φ) (steady : Steady Holds') {now : Tick}
    {sink : Sink (SinkKind η)}
    (wait : ∀ x, Holds x → x.timer.isDue now = false → Holds' x)
    (expire : ∀ x, Holds x → x.timer.isDue now = true →
      Holds' ({ x with timer := Timer.idle }.expire (Core.uplink ω)).2)
    (own : sink.client? = some (x.client, x.timer)) (link : core = x.link) (holds : Holds x) :
    ∃ y, (expireOne now core volume sink).Serves y ∧ Holds' y := by
  have serves : Duty.Serves ⟨sink, core, volume⟩ x := ⟨own, link⟩
  obtain ⟨kind, timer⟩ := serves.kind
  dsimp only at kind timer
  unfold expireOne
  rw [timer]
  split
  · rename_i due
    have disarmed : Duty.Serves ⟨{ sink with timer := Timer.idle }, core, volume⟩
        { x with timer := Timer.idle } := ⟨by rw [Sink.client?, kind], link⟩
    exact disarmed.expire.noteFailure _ _ steady (expire x holds due)
  · rename_i early
    exact ⟨x, serves, wait x holds (by simpa using early)⟩

/-- **A pass over the timers** turns what holds before into what holds after it, if the handler of
the client's timer does so when it is due, and nothing is to do when it is not. -/
theorem expireSinks_client (volume : φ) (steady : Steady Holds) (steady' : Steady Holds')
    {now : Tick}
    (wait : ∀ x, Holds x → x.timer.isDue now = false → Holds' x)
    (expire : ∀ x, Holds x → x.timer.isDue now = true →
      Holds' ({ x with timer := Timer.idle }.expire (Core.uplink ω)).2)
    (one : clients sinks = [(x.client, x.timer)]) (link : core = x.link) (holds : Holds x) :
    ∃ y, clients (expireSinks now core volume sinks).2.2 = [(y.client, y.timer)] ∧
      (expireSinks now core volume sinks).1 = y.link ∧ Holds' y := by
  induction sinks generalizing core volume x with
  | nil => cases one
  | cons sink rest ih =>
    rw [expireSinks_cons]
    cases own : sink.client? with
    | some client =>
      rw [clients_cons_of_some own, List.cons.injEq] at one
      obtain ⟨rfl, none⟩ := one
      obtain ⟨y, served, still⟩ := expireOne_client volume steady' wait expire own link holds
      generalize expireOne now core volume sink = d at served ⊢
      obtain ⟨sink', core', volume'⟩ := d
      obtain rfl : core' = y.link := served.core
      -- the sinks behind it are others
      obtain ⟨leads, others⟩ := leads_expireSinks now y.link volume' none
      refine ⟨_, ?_, rfl, steady' y _ leads.ordinary still⟩
      rw [clients_cons_of_some served.client, others]
    | none =>
      rw [clients_cons_of_none own] at one
      obtain ⟨leads, other⟩ := leads_expireOne now core volume own
      generalize expireOne now core volume sink = d at leads other ⊢
      obtain ⟨sink', core', volume'⟩ := d
      dsimp only at leads
      rw [link] at leads
      obtain ⟨y, only, core, still⟩ :=
        ih (x := { x with link := core' }) volume' one rfl (steady x _ leads.ordinary holds)
      exact ⟨y, by rw [clients_cons_of_none other, only], core, still⟩

end Passes

/-! ## Whole passes -/

/-- The stack has one DHCP client, which with its timer is that of a session on the core. -/
structure Serves (s : Stack ω η φ) (x : Session (Core ω)) : Prop where
  client : clients s.sinks.sinks = [(x.client, x.timer)]
  core : s.core = x.link

/-- A stack serves one session only. -/
theorem Serves.unique {s : Stack ω η φ} {x y : Session (Core ω)} (serves : s.Serves x)
    (serves' : s.Serves y) : x = y := by
  have client : (x.client, x.timer) = (y.client, y.timer) :=
    List.singleton_inj.mp (serves.client.symm.trans serves'.client)
  have link : x.link = y.link := serves.core.symm.trans serves'.core
  cases x
  cases y
  cases client
  cases link
  rfl

/-- The stack once a pass has received all it will receive, and before any of it is handled. -/
def collected (s : Stack ω η φ) : Stack ω η φ :=
  let s := { s with core := s.core.serviceParked }
  let s := s.serviceDevice.receiveFrames receiveBudget
  { s with core := s.core.flushBacklog }

/-- The stack once all it has received is handled, and all timers that are due. -/
def handled [FileHandle η φ] (s : Stack ω η φ) : Except Fault (Stack ω η φ) := do
  let s ← s.drainQueues
  return s.expireTimers

/-- A pass first collects and then handles. -/
theorem pump_eq [FileHandle η φ] (s : Stack ω η φ) : s.pump = s.collected.handled := rfl

/-- Packets that are queued leave the clients alone. -/
theorem clients_modify_queue (sinks : List (Sink (SinkKind η))) (i : Nat) (p : Packet) :
    clients (sinks.modify i fun sink => { sink with queue := sink.queue.push p }) =
      clients sinks := by
  unfold clients
  induction sinks generalizing i with
  | nil => cases i <;> rfl
  | cons sink rest ih =>
    cases i with
    | zero => rfl
    | succ i =>
      rw [List.modify_succ_cons]
      simp only [List.filterMap_cons]
      rw [ih i]

/-- A frame is received by routine acts. -/
theorem leads_receiveFrame_of {Kind : Act ω → Prop} (able : Core.Routine Kind)
    (s : Stack ω η φ) (frame : Bytes) : Leads Kind s.core (s.receiveFrame frame).core := by
  have classified := able.leads_classify s.core frame
  unfold receiveFrame
  generalize s.core.classify frame = result at classified ⊢
  obtain ⟨arrival?, core⟩ := result
  cases arrival? with
  | none => exact classified
  | some arrival =>
    dsimp only at classified ⊢
    split
    · exact classified.trans (able.leads_tell core _)
    · have told := classified.trans
        (able.leads_tell core (.frame (.unclaimed arrival.info.ethertype)))
      exact told.trans (able.leads_count (f := fun n => { n with rxUnclaimed := n.rxUnclaimed + 1 })
        _ fun _ => ⟨rfl, rfl, rfl⟩)

/-- A frame is received by plain acts. -/
theorem plain_receiveFrame (s : Stack ω η φ) (frame : Bytes) :
    Leads Act.Plain s.core (s.receiveFrame frame).core :=
  leads_receiveFrame_of Core.repertoire_plain.toRoutine s frame

/-- A frame is received by ordinary acts, and the clients do not notice. -/
theorem leads_receiveFrame (s : Stack ω η φ) (frame : Bytes) :
    Leads Act.Ordinary s.core (s.receiveFrame frame).core ∧
      clients (s.receiveFrame frame).sinks.sinks = clients s.sinks.sinks := by
  refine ⟨(s.plain_receiveFrame frame).ordinary, ?_⟩
  unfold receiveFrame
  split
  · rfl
  · dsimp only
    split
    · exact clients_modify_queue _ _ _
    · rfl

/-- The frames of a pass are received by ordinary acts, and the clients do not notice. -/
theorem leads_receiveFrames (s : Stack ω η φ) (budget : Nat) :
    Leads Act.Ordinary s.core (s.receiveFrames budget).core ∧
      clients (s.receiveFrames budget).sinks.sinks = clients s.sinks.sinks := by
  induction budget generalizing s with
  | zero => exact ⟨.refl _, rfl⟩
  | succ budget ih =>
    have taken : Leads Act.Ordinary s.core
        { s.core with hw := (s.core.device.receive s.core.hw).2 } :=
      .one (a := .receive) ⟨trivial, trivial⟩
    unfold receiveFrames
    split
    · rename_i eq
      rw [eq] at taken
      exact ⟨taken, rfl⟩
    · rename_i frame hw eq
      rw [eq] at taken
      obtain ⟨received, same⟩ := leads_receiveFrame { s with core := { s.core with hw } } frame
      obtain ⟨rest, still⟩ := ih ({ s with core := { s.core with hw } }.receiveFrame frame)
      exact ⟨(taken.trans received).trans rest, still.trans same⟩

/-- Collecting leaves the clients and our addresses alone. -/
theorem leads_collected (s : Stack ω η φ) :
    Leads Act.KeepsAddress s.core s.collected.core ∧
      clients s.collected.sinks.sinks = clients s.sinks.sinks := by
  have retried : Leads Act.KeepsAddress s.core s.core.serviceParked := .one (a := .retry) trivial
  have serviced := retried.andThen (a := .service) trivial
  obtain ⟨received, same⟩ :=
    ({ s with core := s.core.serviceParked }.serviceDevice).leads_receiveFrames receiveBudget
  have received := received.mono fun _ ordinary => ordinary.2
  exact ⟨(serviced.trans received).andThen (a := .flush) trivial, same⟩

section Handled

variable [FileHandle η φ] {s s' : Stack ω η φ} {x : Session (Core ω)}
  {Holds Holds' : Session (Core ω) → Prop}

/-- What holds of a served session holds once the queues are drained, if its own deeds and each
packet of its mail keep it. -/
theorem drained_client (steady : Steady Holds)
    (receive : ∀ x p payload, p ∈ mail s.sinks.sinks → p.payload? = .ok payload → Holds x →
      Holds (x.receive (Core.uplink ω) payload).2)
    (serves : s.Serves x) (holds : Holds x) (ran : s.drainQueues = .ok s') :
    ∃ y, s'.Serves y ∧ Holds y := by
  obtain ⟨core, volume, ⟨sinks, nextNumber⟩, nextPort⟩ := s
  unfold drainQueues at ran
  dsimp only at ran
  obtain ⟨result, drained, ran⟩ := exists_ok_of_bind ran
  cases ran
  obtain ⟨y, one, link, still⟩ :=
    drainSinks_client steady receive serves.client serves.core holds drained
  exact ⟨y, ⟨one, link⟩, still⟩

/-- What holds of a served session before the timers are looked at gives what holds after, whether
or not its own timer is due. -/
theorem expired_client (steady : Steady Holds) (steady' : Steady Holds')
    (wait : ∀ x, Holds x → x.timer.isDue s.core.now = false → Holds' x)
    (expire : ∀ x, Holds x → x.timer.isDue s.core.now = true →
      Holds' ({ x with timer := Timer.idle }.expire (Core.uplink ω)).2)
    (serves : s.Serves x) (holds : Holds x) : ∃ y, s.expireTimers.Serves y ∧ Holds' y := by
  obtain ⟨core, volume, ⟨sinks, nextNumber⟩, nextPort⟩ := s
  obtain ⟨y, one, link, after⟩ :=
    expireSinks_client volume steady steady' wait expire serves.client serves.core holds
  exact ⟨y, ⟨one, link⟩, after⟩

/-- A pass handles packets before timers. -/
theorem handled_eq_ok (ran : s.handled = .ok s') :
    ∃ s₁, s.drainQueues = .ok s₁ ∧ s' = s₁.expireTimers := by
  unfold handled at ran
  obtain ⟨s₁, drained, ran⟩ := exists_ok_of_bind ran
  cases ran
  exact ⟨s₁, drained, rfl⟩

/-- **What a pass handles**, as the client sees it: first its packets, then its timer if it is due
when they are handled. -/
theorem handled_client (steady : Steady Holds) (steady' : Steady Holds')
    (receive : ∀ x p payload, p ∈ mail s.sinks.sinks → p.payload? = .ok payload → Holds x →
      Holds (x.receive (Core.uplink ω) payload).2)
    (wait : ∀ x y, Holds x → Holds y → y.timer.isDue x.link.now = false → Holds' y)
    (expire : ∀ x y, Holds x → Holds y → y.timer.isDue x.link.now = true →
      Holds' ({ y with timer := Timer.idle }.expire (Core.uplink ω)).2)
    (serves : s.Serves x) (holds : Holds x) (ran : s.handled = .ok s') :
    ∃ y, s'.Serves y ∧ Holds' y := by
  obtain ⟨s₁, drained, rfl⟩ := handled_eq_ok ran
  obtain ⟨y, served, still⟩ := drained_client steady receive serves holds drained
  refine expired_client steady steady' (fun z holds early => ?_) (fun z holds due => ?_) served
    still
  · rw [served.core] at early
    exact wait y z still holds early
  · rw [served.core] at due
    exact expire y z still holds due

end Handled

end Stack

end PolledNet
