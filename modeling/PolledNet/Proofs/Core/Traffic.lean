import PolledNet.Proofs.Core.Services

/-!
# What passes the outlet

All frames leave the core at one place. A sender gives a frame to it (`sendFrame`), and a frame that
had to wait is offered to the device by a later pass (`flushBacklog`). `Traffic` lists what passed
there between two states of a core, first to last; whatever is done to a core comes with such a list
(`traffic_of_leads`).

* `Traffic.backlog`: **the backlog is a queue.** Frames leave it in the order in which they entered
  it, one by one, and only by being offered to the device.
* `Traffic.frames`, `Traffic.drops`: the counters of sent frames count what passed.
* `Traffic.lost_to_transient_iff`: a frame that was offered and refused is gone, also when the
  refusal says that it may be taken later. So nothing is lost to such a refusal exactly if the
  device never gives one after it has said that it has room.
-/

namespace PolledNet

/-- One thing that passes the outlet. -/
inductive Passage where
  /-- A frame of a sender, which the device takes at once. -/
  | taken (p : Packet)
  /-- A frame of a sender, which waits. -/
  | queued (p : Packet)
  /-- A frame of a sender, who is told that it is lost. -/
  | refused (p : Packet) (cause : NetError)
  /-- A frame that has waited, and what the device says to it. -/
  | offered (p : Packet) (answer : Except TransmitError Unit)

namespace Passage

/-- The frame that a sender gives to the outlet. -/
def given? : Passage → Option Packet
  | .taken p | .queued p | .refused p _ => some p
  | .offered .. => none

/-- The frame accepted from a sender. -/
def accepted? : Passage → Option Packet
  | .taken p | .queued p => some p.padded
  | .refused .. | .offered .. => none

/-- The frame that enters the backlog. -/
def queued? : Passage → Option Packet
  | .queued p => some p.padded
  | .taken _ | .refused .. | .offered .. => none

/-- The frame that leaves the backlog. -/
def offered? : Passage → Option Packet
  | .offered p _ => some p
  | .taken _ | .queued _ | .refused .. => none

/-- Whether the device has taken the frame. -/
def isDelivery : Passage → Bool
  | .taken _ | .offered _ (.ok ()) => true
  | .queued _ | .refused .. | .offered _ (.error _) => false

/-- Whether the frame is lost for want of room: in the backlog, or at the end of it in the
device. -/
def isDrop : Passage → Bool
  | .refused _ .backlogFull | .offered _ (.error _) => true
  | .taken _ | .queued _ | .refused .. | .offered _ (.ok ()) => false

end Passage

/-- What a device never changes about its hardware, nor the world that moves as it may. -/
structure Device.Keeps {ω : Type} (d : Device ω) (World : (ω → ω) → Prop) (Holds : ω → Prop) :
    Prop where
  transmit {hw : ω} (frame : Bytes) (holds : Holds hw) : Holds (d.transmit frame hw).2
  receive {hw : ω} (holds : Holds hw) : Holds (d.receive hw).2
  service {hw : ω} (holds : Holds hw) : Holds (d.service hw)
  world {f : ω → ω} {hw : ω} (may : World f) (holds : Holds hw) : Holds (f hw)

namespace Core

variable {ω : Type}

/-! ## The backlog, one frame at a time -/

/-- The core after the first of the waiting frames has been offered to the device; the others are
`rest`. -/
def release (c : Core ω) (p : Packet) (rest : List Packet) : Core ω :=
  match c.handOver p with
  | (.ok (), c) => { c with backlog := rest }
  | (.error e, c) =>
    let c := c.count fun s => { s with txBacklogDrops := s.txBacklogDrops + 1 }
    { c.tell (.frame (.dropped c.device.name e)) with backlog := rest }

/-- What a frame is told when it is offered does not depend on the backlog. -/
theorem handOver_withBacklog (c : Core ω) (backlog : List Packet) (p : Packet) :
    { c with backlog }.handOver p = ((c.handOver p).1, { (c.handOver p).2 with backlog }) := by
  unfold handOver
  dsimp only
  split <;> rfl

/-- What a flush does depends on the frames it is told, and not on the backlog. -/
theorem flush_withBacklog (c : Core ω) (backlog frames : List Packet) :
    { c with backlog }.flush frames = c.flush frames := by
  induction frames generalizing c with
  | nil => rfl
  | cons p rest ih =>
    unfold flush
    dsimp only
    split
    · rw [handOver_withBacklog]
      cases c.handOver p with
      | mk answer c₁ =>
        cases answer with
        | ok => exact ih c₁
        | error e =>
          exact ih ((c₁.count fun s => { s with txBacklogDrops := s.txBacklogDrops + 1 }).tell
            (.frame (.dropped c₁.device.name e)))
    · rfl

/-- A pass offers the first frame and goes on with the others. -/
theorem flush_cons_of_room {c : Core ω} (room : c.device.canTransmit c.hw = true) (p : Packet)
    (rest : List Packet) : c.flush (p :: rest) = (c.release p rest).flush rest := by
  rw [flush, if_pos room, release]
  cases c.handOver p with
  | mk answer c₁ =>
    cases answer with
    | ok => exact (flush_withBacklog _ _ _).symm
    | error e => exact (flush_withBacklog _ _ _).symm

/-- While the device has no room the backlog stays. -/
theorem flush_cons_of_full {c : Core ω} (full : c.device.canTransmit c.hw = false) (p : Packet)
    (rest : List Packet) : c.flush (p :: rest) = { c with backlog := p :: rest } := by
  rw [flush, if_neg (by rw [full]; exact Bool.false_ne_true)]

/-! ## Traffic -/

/-- Nothing happens that could be seen at the outlet. -/
structure SameOutlet (c c' : Core ω) : Prop where
  setup : SameSetup c c'
  hw : c'.hw = c.hw
  backlog : c'.backlog = c.backlog
  sent : c.stats.SameSent c'.stats

/-- The hardware moves on by itself: the device takes in a frame or does its housekeeping, or the
world moves on. -/
inductive HardwareStep (World : (ω → ω) → Prop) (c : Core ω) : ω → Prop where
  | receive : HardwareStep World c (c.device.receive c.hw).2
  | service : HardwareStep World c (c.device.service c.hw)
  | elapse {f : ω → ω} (world : World f) : HardwareStep World c (f c.hw)

/-- Something passes the outlet. -/
inductive Passes (c : Core ω) : Passage → Core ω → Prop where
  | taken {p : Packet} {c' : Core ω} (sent : c.sendFrame p = (.ok (), c'))
      (direct : c'.backlog = c.backlog) : Passes c (.taken p) c'
  | queued {p : Packet} {c' : Core ω} (sent : c.sendFrame p = (.ok (), c'))
      (behind : c'.backlog = c.backlog ++ [p.padded]) : Passes c (.queued p) c'
  | refused {p : Packet} {e : NetError} {c' : Core ω} (sent : c.sendFrame p = (.error e, c')) :
      Passes c (.refused p e) c'
  | offered {p : Packet} {rest : List Packet} (next : c.backlog = p :: rest)
      (room : c.device.canTransmit c.hw = true) :
      Passes c (.offered p (c.handOver p).1) (c.release p rest)

/-- What passes the outlet from one state of a core to another, first to last, in a world that moves
as it may. -/
inductive Traffic (World : (ω → ω) → Prop) (c : Core ω) : List Passage → Core ω → Prop where
  | nil : Traffic World c [] c
  | quiet {trace : List Passage} {c' c'' : Core ω} (before : Traffic World c trace c')
      (same : SameOutlet c' c'') : Traffic World c trace c''
  | hardware {trace : List Passage} {c' : Core ω} {hw : ω} (before : Traffic World c trace c')
      (step : c'.HardwareStep World hw) : Traffic World c trace { c' with hw }
  | pass {trace : List Passage} {x : Passage} {c' c'' : Core ω} (before : Traffic World c trace c')
      (passes : c'.Passes x c'') : Traffic World c (trace ++ [x]) c''

variable {World : (ω → ω) → Prop} {c c' c'' : Core ω} {trace trace' : List Passage}

/-- What passes in two stretches passes one after the other. -/
theorem Traffic.append (first : Traffic World c trace c') (second : Traffic World c' trace' c'') :
    Traffic World c (trace ++ trace') c'' := by
  induction second with
  | nil => rw [List.append_nil]; exact first
  | quiet _ same ih => exact ih.quiet same
  | hardware _ step ih => exact ih.hardware step
  | pass _ passes ih => rw [← List.append_assoc]; exact ih.pass passes

/-- There is traffic that leads from one state of a core to another. -/
def Flows (World : (ω → ω) → Prop) (c c' : Core ω) : Prop := ∃ trace, Traffic World c trace c'

/-- Nothing passes if nothing happens. -/
theorem Flows.refl (c : Core ω) : Flows World c c := ⟨[], .nil⟩

/-- What flows on from where something flowed to flows from where that began. -/
theorem Flows.trans (first : Flows World c c') (second : Flows World c' c'') :
    Flows World c c'' := by
  obtain ⟨trace, first⟩ := first
  obtain ⟨trace', second⟩ := second
  exact ⟨trace ++ trace', first.append second⟩

/-- What passes the outlet is traffic. -/
theorem Flows.one {x : Passage} (passes : c.Passes x c') : Flows World c c' :=
  ⟨[x], .pass .nil passes⟩

/-- What cannot be seen at the outlet is no traffic. -/
theorem Flows.still (same : SameOutlet c c') : Flows World c c' := ⟨[], .quiet .nil same⟩

/-- Most of a core cannot be seen at the outlet. -/
theorem sameOutlet (c : Core ω) (iface : InterfaceConfig) (arp : ArpCache) (parked : List Packet)
    (identification : UInt16) (log : List Event) {stats : Stats} (sent : c.stats.SameSent stats) :
    SameOutlet c { c with iface, arp, parked, identification, log, stats } :=
  ⟨⟨rfl, rfl, rfl, rfl⟩, rfl, rfl, sent⟩

/-! ## Everything is traffic -/

section Flows

variable (c)

/-- To tell the operator is no traffic. -/
theorem flows_tell (e : Event) : Flows World c (c.tell e) :=
  .still (c.sameOutlet _ _ _ _ _ (.refl _))

/-- To count something other than frames is no traffic. -/
theorem flows_count {f : Stats → Stats} (same : ∀ s : Stats, s.SameSent (f s)) :
    Flows World c (c.count f) :=
  .still (c.sameOutlet _ _ _ _ _ (same c.stats))

/-- To resolve a next hop is no traffic. -/
theorem flows_advanceResolution (now : Tick) (hop : Ipv4) :
    Flows World c (c.advanceResolution now hop).2 :=
  .still (c.sameOutlet _ _ _ _ _ (.refl _))

/-- To park a packet is no traffic. -/
theorem flows_park (p : Packet) : Flows World c (c.park p) :=
  .still (c.sameOutlet _ _ _ _ _ (.refl _))

/-- What a sender is told decides what has passed. -/
theorem passes_sendFrame (p : Packet) :
    ∃ x : Passage, c.Passes x (c.sendFrame p).2 ∧ x.given? = some p := by
  have dispatched := c.sendFrame_dispatched p
  cases sent : c.sendFrame p with
  | mk answer c' =>
    rw [sent] at dispatched
    dsimp only at dispatched
    cases dispatched with
    | taken => exact ⟨_, .taken sent rfl, rfl⟩
    | barred => exact ⟨_, .refused sent, rfl⟩
    | waits => exact ⟨_, .queued sent rfl, rfl⟩
    | crowded => exact ⟨_, .refused sent, rfl⟩

/-- A frame that is sent passes the outlet. -/
theorem flows_sendFrame (p : Packet) : Flows World c (c.sendFrame p).2 := by
  obtain ⟨x, passes, -⟩ := c.passes_sendFrame p
  exact .one passes

/-- What becomes of a packet, by the state of its next hop, is traffic. -/
theorem flows_settle (p : Packet) (hop : Ipv4) (resolution : Resolution)
    (failed : Except NetError Unit) : Flows World c (c.settle p hop resolution failed).2 := by
  cases resolution with
  | hit mac => exact c.flows_sendFrame _
  | sendRequest =>
    exact ((c.flows_park p).trans (flows_tell _ _)).trans (flows_sendFrame _ _)
  | wait => exact c.flows_park p
  | fail =>
    exact (c.flows_tell (.arp (.unanswered hop))).trans
      (flows_count (f := fun s => { s with arpFailures := s.arpFailures + 1 }) _
        fun _ => ⟨rfl, rfl, rfl⟩)

/-- What becomes of a packet that is given to the core is traffic. -/
theorem flows_transmitIpv4 (p : Packet) : Flows World c (c.transmitIpv4 p).2 := by
  rw [transmitIpv4_eq]
  split
  · exact c.flows_count (f := fun s => { s with txRefused := s.txRefused + 1 })
      fun _ => ⟨rfl, rfl, rfl⟩
  · exact .refl c
  · exact c.flows_sendFrame _
  · exact (c.flows_advanceResolution _ _).trans (flows_settle _ _ _ _ _)

/-- What a pass does with one packet is traffic. -/
theorem flows_retried {now : Tick} {failed failed' : List Ipv4} {p : Packet}
    (step : Retried now c failed p c' failed') : Flows World c c' := by
  have retried (hop : Ipv4) : Flows World c (c.retryVia now p hop) :=
    (c.flows_advanceResolution now hop).trans (flows_settle _ _ _ _ _)
  cases step with
  | aimless => exact .refl c
  | dropped =>
    exact c.flows_count (f := fun s => { s with arpFailures := s.arpFailures + 1 })
      fun _ => ⟨rfl, rfl, rfl⟩
  | retried next hope told =>
    rcases told with rfl | ⟨e, rfl⟩
    · exact retried _
    · exact (retried _).trans (flows_tell _ _)

/-- What a pass does with several packets is traffic. -/
theorem flows_retryParked (now : Tick) (failed : List Ipv4) (packets : List Packet) :
    Flows World c (retryParked now c failed packets) := by
  induction packets generalizing c failed with
  | nil => exact .refl c
  | cons p rest ih =>
    obtain ⟨c', failed', step, eq⟩ := retryParked_cons now c failed p rest
    rw [eq]
    exact (c.flows_retried step).trans (ih c' failed')

/-- What a pass does with the parked packets is traffic. -/
theorem flows_serviceParked : Flows World c c.serviceParked :=
  Flows.trans (.still (c.sameOutlet _ _ [] _ _ (.refl _))) (flows_retryParked _ _ _ _)

/-- The frames behind the one that is offered still wait. -/
theorem backlog_release (p : Packet) (rest : List Packet) : (c.release p rest).backlog = rest := by
  unfold release
  split <;> rfl

/-- To offer a frame takes the hardware along, and leaves bindings and parked packets alone. -/
theorem release_kept (c : Core ω) (p : Packet) (rest : List Packet) :
    (c.release p rest).hw = (c.device.transmit p.data c.hw).2 ∧ (c.release p rest).arp = c.arp ∧
      (c.release p rest).parked = c.parked := by
  unfold release handOver
  cases c.device.transmit p.data c.hw with
  | mk answer hw =>
    cases answer with
    | ok => exact ⟨rfl, rfl, rfl⟩
    | error e => exact ⟨rfl, rfl, rfl⟩

/-- The backlog is handed over frame by frame. -/
theorem flows_flush {frames : List Packet} (waiting : c.backlog = frames) :
    Flows World c (c.flush frames) := by
  induction frames generalizing c with
  | nil =>
    refine .still ⟨⟨rfl, rfl, rfl, rfl⟩, rfl, ?_, .refl _⟩
    rw [waiting]
    rfl
  | cons p rest ih =>
    by_cases room : c.device.canTransmit c.hw = true
    · rw [flush_cons_of_room room]
      exact Flows.trans (.one (.offered waiting room)) (ih _ (c.backlog_release p rest))
    · rw [flush_cons_of_full (Bool.eq_false_iff.mpr room), ← waiting]
      exact .refl c

/-- **Every act is traffic**, in a world that moves as it may. -/
theorem flows_act {a : Act ω} (within : a.Within World) : Flows World c (c.act a) := by
  cases a with
  | tell e => exact c.flows_tell e
  | count f => exact c.flows_count within.keepsSent
  | identify => exact .still (c.sameOutlet _ _ _ _ _ (.refl _))
  | learn a mac => exact .still (c.sameOutlet _ _ _ _ _ (.refl _))
  | sweep => exact .still (c.sameOutlet _ _ _ _ _ (.refl _))
  | sendFrame p => exact c.flows_sendFrame p
  | transmit p => exact c.flows_transmitIpv4 p
  | retry => exact c.flows_serviceParked
  | flush => exact c.flows_flush rfl
  | receive => exact ⟨[], .hardware .nil .receive⟩
  | service => exact ⟨[], .hardware .nil .service⟩
  | configure iface => exact .still (c.sameOutlet _ _ _ _ _ (.refl _))
  | elapse f => exact ⟨[], .hardware .nil (.elapse (within.world f rfl))⟩

end Flows

/-! ## What senders give -/

/-- There is traffic from one state of a core to another, in which senders give these frames to the
outlet. -/
def Gives (World : (ω → ω) → Prop) (frames : List Packet) (c c' : Core ω) : Prop :=
  ∃ trace, Traffic World c trace c' ∧ trace.filterMap Passage.given? = frames

/-- What is given in two stretches is given one after the other. -/
theorem Gives.trans {frames frames' : List Packet} (first : Gives World frames c c')
    (second : Gives World frames' c' c'') : Gives World (frames ++ frames') c c'' := by
  obtain ⟨trace, traffic, rfl⟩ := first
  obtain ⟨trace', traffic', rfl⟩ := second
  exact ⟨trace ++ trace', traffic.append traffic', List.filterMap_append⟩

/-- Nothing is given where nothing can be seen at the outlet. -/
theorem Gives.still (same : SameOutlet c c') : Gives World [] c c' := ⟨[], .quiet .nil same, rfl⟩

/-- Nothing is given while the hardware moves on. -/
theorem Gives.hardware {hw : ω} (step : c.HardwareStep World hw) : Gives World [] c { c with hw } :=
  ⟨[], .hardware .nil step, rfl⟩

/-- Nothing is given when a frame that has waited is offered to the device. -/
theorem gives_release {p : Packet} {rest : List Packet} (next : c.backlog = p :: rest)
    (room : c.device.canTransmit c.hw = true) : Gives World [] c (c.release p rest) :=
  ⟨[_], .pass .nil (.offered next room), rfl⟩

/-- Whoever sends a frame gives it to the outlet. -/
theorem gives_sendFrame (c : Core ω) (p : Packet) : Gives World [p] c (c.sendFrame p).2 := by
  obtain ⟨x, passes, given⟩ := c.passes_sendFrame p
  refine ⟨[x], .pass .nil passes, ?_⟩
  rw [List.filterMap_cons_some given]
  rfl

/-- **Whatever is done to a core comes with traffic.** -/
theorem traffic_of_leads (leads : Leads (Act.Within World) c c') :
    ∃ trace, Traffic World c trace c' :=
  leads.keeps (Flows World c) (fun c₁ _ within flows => flows.trans (c₁.flows_act within)) (.refl c)

/-- To offer a frame does not change the setup. -/
theorem sameSetup_release (c : Core ω) (p : Packet) (rest : List Packet) :
    SameSetup c (c.release p rest) := by
  have handed := (c.undisturbed_handOver p).setup
  unfold release
  split <;> rename_i eq <;> rw [eq] at handed
  · exact ⟨handed.device, handed.clock, handed.config, handed.mac⟩
  · exact ⟨handed.device, handed.clock, handed.config, handed.mac⟩

/-- Nothing that passes the outlet changes the setup. -/
theorem Passes.sameSetup {x : Passage} (passes : c.Passes x c') : SameSetup c c' := by
  cases passes with
  | @taken p _ sent | @queued p _ sent | @refused p _ _ sent =>
    have same := (c.undisturbed_sendFrame p).setup
    rwa [sent] at same
  | offered => exact c.sameSetup_release _ _

/-- No traffic changes the setup. -/
theorem Traffic.sameSetup (traffic : Traffic World c trace c') : SameSetup c c' := by
  induction traffic with
  | nil => exact .refl c
  | quiet _ same ih => exact ih.trans same.setup
  | hardware _ _ ih => exact ih.trans ⟨rfl, rfl, rfl, rfl⟩
  | pass _ passes ih => exact ih.trans passes.sameSetup

/-! ## The hardware -/

section Hardware

variable {Holds : ω → Prop}

/-- What the device never changes is not changed by a frame that is sent. -/
theorem Sent.keeps {p : Packet} {answer : Except NetError Unit} (sent : Sent c p answer c')
    (keeps : c.device.Keeps World Holds) (start : Holds c.hw) : Holds c'.hw := by
  have offered := keeps.transmit p.padded.data start
  have turned {hw : ω} (notTaken : c.NotTaken p hw) : Holds hw := by
    obtain rfl | ⟨e, refusal⟩ := notTaken
    · exact start
    · rwa [refusal] at offered
  cases sent with
  | taken hw stats took => rwa [took] at offered
  | waits hw stats notTaken => exact turned notTaken
  | lost hw stats notTaken => exact turned notTaken

/-- What the hardware keeps is kept by what passes the outlet. -/
theorem Passes.keeps {x : Passage} (passes : c.Passes x c') (keeps : c.device.Keeps World Holds)
    (start : Holds c.hw) : Holds c'.hw := by
  cases passes with
  | @taken p _ sent | @queued p _ sent | @refused p _ _ sent =>
    have kept := (c.sendFrame_sent p).keeps keeps start
    rwa [sent] at kept
  | @offered p rest =>
    rw [(c.release_kept p rest).1]
    exact keeps.transmit p.data start

/-- **What the device keeps of its hardware stays so**, whatever is done to a core. -/
theorem Leads.keeps_hw (leads : Leads (Act.Within World) c c') (keeps : c.device.Keeps World Holds)
    (start : Holds c.hw) : Holds c'.hw := by
  obtain ⟨trace, traffic⟩ := traffic_of_leads leads
  clear leads
  induction traffic with
  | nil => exact start
  | quiet before same ih =>
    rw [same.hw]
    exact ih
  | hardware before step ih =>
    rw [← before.sameSetup.device] at keeps
    cases step with
    | receive => exact keeps.receive ih
    | service => exact keeps.service ih
    | elapse may => exact keeps.world may ih
  | pass before passes ih =>
    rw [← before.sameSetup.device] at keeps
    exact passes.keeps keeps ih

end Hardware

/-! ## The queue -/

/-- A sender who is told of an error leaves the backlog as it was. -/
theorem backlog_of_refused {p : Packet} {e : NetError} (sent : c.sendFrame p = (.error e, c')) :
    c'.backlog = c.backlog := by
  have dispatched := c.sendFrame_dispatched p
  rw [sent] at dispatched
  dsimp only at dispatched
  cases dispatched with
  | barred => rfl
  | crowded => rfl

/-- What passes the outlet enters the backlog at its end, or leaves it at its front. -/
theorem Passes.backlog {x : Passage} (passes : c.Passes x c') :
    c.backlog ++ x.queued?.toList = x.offered?.toList ++ c'.backlog := by
  cases passes with
  | taken sent direct => rw [direct]; exact List.append_nil _
  | queued sent behind => rw [behind]; rfl
  | refused sent => rw [backlog_of_refused sent]; exact List.append_nil _
  | offered next room =>
    rw [backlog_release, next]
    exact List.append_nil _

/-- **The backlog is a queue.** What waited and what entered is what was offered to the device and
what still waits, in this order. -/
theorem Traffic.backlog (traffic : Traffic World c trace c') :
    c.backlog ++ trace.filterMap Passage.queued? =
      trace.filterMap Passage.offered? ++ c'.backlog := by
  induction traffic with
  | nil => exact List.append_nil _
  | quiet _ same ih => rw [same.backlog]; exact ih
  | hardware _ _ ih => exact ih
  | @pass trace x c' c'' _ passes ih =>
    have step := passes.backlog
    calc c.backlog ++ (trace ++ [x]).filterMap Passage.queued?
        = c.backlog ++ trace.filterMap Passage.queued? ++ x.queued?.toList := by
          rw [List.filterMap_append, List.append_assoc]
          cases x <;> rfl
      _ = trace.filterMap Passage.offered? ++ (c'.backlog ++ x.queued?.toList) := by
          rw [ih, List.append_assoc]
      _ = (trace ++ [x]).filterMap Passage.offered? ++ c''.backlog := by
          rw [step, List.filterMap_append, List.append_assoc]
          cases x <;> rfl

/-! ## The counters -/

/-- The counters count what passes the outlet. -/
theorem Passes.counted {x : Passage} (passes : c.Passes x c') :
    c'.stats.txFrames = c.stats.txFrames + x.isDelivery.toNat ∧
      c'.stats.txBacklogDrops = c.stats.txBacklogDrops + x.isDrop.toNat := by
  cases passes with
  | @taken p _ sent direct =>
    have dispatched := c.sendFrame_dispatched p
    rw [sent] at dispatched
    dsimp only at dispatched
    cases dispatched with
    | taken => exact ⟨rfl, rfl⟩
    | waits =>
      -- a frame that waits is in the backlog
      exact absurd (List.append_right_eq_self.mp direct) (List.cons_ne_nil _ _)
  | @queued p _ sent behind =>
    have dispatched := c.sendFrame_dispatched p
    rw [sent] at dispatched
    dsimp only at dispatched
    cases dispatched with
    | taken => exact absurd (List.append_right_eq_self.mp behind.symm) (List.cons_ne_nil _ _)
    | waits => exact ⟨rfl, rfl⟩
  | @refused p _ _ sent =>
    have dispatched := c.sendFrame_dispatched p
    rw [sent] at dispatched
    dsimp only at dispatched
    cases dispatched with
    | barred => exact ⟨rfl, rfl⟩
    | crowded => exact ⟨rfl, rfl⟩
  | @offered p rest next room =>
    unfold release handOver
    cases c.device.transmit p.data c.hw with
    | mk answer hw =>
      cases answer with
      | ok => exact ⟨rfl, rfl⟩
      | error e => exact ⟨rfl, rfl⟩

/-- Every frame that is lost for want of room is counted. -/
theorem Traffic.drops (traffic : Traffic World c trace c') :
    c'.stats.txBacklogDrops = c.stats.txBacklogDrops + trace.countP Passage.isDrop := by
  induction traffic with
  | nil => rfl
  | quiet _ same ih => rw [same.sent.drops, ih]
  | hardware _ _ ih => exact ih
  | @pass _ x _ _ _ passes ih =>
    rw [passes.counted.2, ih, List.countP_append, List.countP_singleton]
    cases x.isDrop <;> rfl

/-! ## Refusals -/

/-- Some time between two states of a core the device is offered the first of the waiting frames,
because it has room, and says `answer`. -/
def Offers (World : (ω → ω) → Prop) (c : Core ω) (trace : List Passage) (p : Packet)
    (answer : Except TransmitError Unit) : Prop :=
  ∃ before c₁ rest, before ++ [.offered p answer] <+: trace ∧ Traffic World c before c₁ ∧
    c₁.backlog = p :: rest ∧ c₁.device.canTransmit c₁.hw = true ∧
      (c₁.device.transmit p.data c₁.hw).1 = answer

/-- What a frame is answered with is what the device says to it. -/
theorem fst_handOver (c : Core ω) (p : Packet) :
    (c.handOver p).1 = (c.device.transmit p.data c.hw).1 := by
  unfold handOver
  split <;> rename_i eq <;> rw [eq]

/-- A frame that was offered was so at some time. -/
theorem Traffic.offers (traffic : Traffic World c trace c') {p : Packet}
    {answer : Except TransmitError Unit} (mem : .offered p answer ∈ trace) :
    Offers World c trace p answer := by
  induction traffic with
  | nil => cases mem
  | quiet _ _ ih => exact ih mem
  | hardware _ _ ih => exact ih mem
  | @pass trace x c' _ before passes ih =>
    rcases List.mem_append.mp mem with earlier | last
    · obtain ⟨first, c₁, rest, initial, led, next, room, said⟩ := ih earlier
      exact ⟨first, c₁, rest, initial.trans (List.prefix_append _ _), led, next, room, said⟩
    · rw [List.mem_singleton] at last
      subst last
      cases passes with
      | @offered _ rest next room =>
        exact ⟨trace, c', rest, List.prefix_rfl, before, next, room, (c'.fst_handOver p).symm⟩

/-- **Which frames are lost to a refusal that says "later".** Those for which the device, having
said that it has room, gives one; and such a frame does not wait any longer (`Traffic.backlog`). -/
theorem Traffic.lost_to_transient_iff (traffic : Traffic World c trace c') :
    (∃ p e, .offered p (.error e) ∈ trace ∧ e.isTransient = true) ↔
      ∃ p e, Offers World c trace p (.error e) ∧ e.isTransient = true := by
  constructor
  · rintro ⟨p, e, mem, transient⟩
    exact ⟨p, e, traffic.offers mem, transient⟩
  · rintro ⟨p, e, ⟨before, _, _, initial, -⟩, transient⟩
    exact ⟨p, e, initial.subset (List.mem_append_right before List.mem_cons_self), transient⟩

end Core

/-- A device that, once it has said that it has room, refuses a frame only for good. -/
def Device.Candid {ω : Type} (d : Device ω) : Prop :=
  ∀ frame hw e, d.canTransmit hw = true → (d.transmit frame hw).1 = .error e →
    e.isTransient = false

namespace Core

variable {ω : Type} {World : (ω → ω) → Prop} {c c' : Core ω} {trace : List Passage}

/-- A candid device loses no frame that it may take later. -/
theorem Traffic.permanent (traffic : Traffic World c trace c') (candid : c.device.Candid)
    {p : Packet} {e : TransmitError} (mem : .offered p (.error e) ∈ trace) :
    e.isTransient = false := by
  obtain ⟨before, c₁, rest, -, led, -, room, said⟩ := traffic.offers mem
  rw [led.sameSetup.device] at room said
  exact candid p.data c₁.hw e room said

end Core

end PolledNet
