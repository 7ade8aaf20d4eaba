import PolledNet.Proofs.Arp.Cache
import PolledNet.Proofs.Stack.Names

/-!
# The sweeper

Expired bindings are removed by the sink of the address bindings, which is registered when the stack
comes up and arms its timer again whenever it has swept. Nothing that the owner of a stack does
touches this timer, short of taking the sink out (`sweeperStays_perform`), and neither does what a
pass receives (`sweeps_collected`, `sweeps_drainQueues`). When a pass handles its timers, the
sweeper waits if its timer is not due; if it is, the cache is swept at some moment of the pass, the
timer is armed from this moment on, and nothing is learned in what remains of the pass
(`expireTimers_swept`).
-/

namespace PolledNet

open PolledNet.Core (Leads FullRepertoire)

variable {ω η φ : Type} {World : (ω → ω) → Prop}

/-! ## What teaches the cache nothing -/

namespace Core

/-- No binding is known that was not known before. -/
def Unlearned (c c' : Core ω) : Prop :=
  ∀ e ∈ c'.arp.entries, e.state = .valid → e ∈ c.arp.entries

variable {c c' c'' : Core ω}

/-- A cache that stays the same learns nothing. -/
theorem Unlearned.of_eq (same : c'.arp = c.arp) : c.Unlearned c' := by
  intro e mem _
  rwa [same] at mem

/-- A core that does nothing learns nothing. -/
theorem Unlearned.refl (c : Core ω) : c.Unlearned c := .of_eq rfl

/-- What teaches nothing twice teaches nothing. -/
theorem Unlearned.trans (first : c.Unlearned c') (second : c'.Unlearned c'') : c.Unlearned c'' :=
  fun e mem valid => first e (second e mem valid) valid

/-- The cache learns nothing when a packet is sent to a next hop. -/
theorem unlearned_sendVia (c : Core ω) (p : Packet) (hop : Ipv4) :
    c.Unlearned (c.sendVia p hop).2 := by
  have advanced : c.Unlearned (c.advanceResolution c.now hop).2 :=
    fun e mem valid => ArpCache.mem_of_mem_resolve mem valid
  refine advanced.trans (.of_eq ?_)
  show ((c.advanceResolution c.now hop).2.settle p hop (c.advanceResolution c.now hop).1
    (.error (.arpFailed hop))).2.arp = _
  cases (c.advanceResolution c.now hop).1 with
  | hit mac => exact (sendFrame_sent _ _).arp
  | sendRequest => exact (sendFrame_sent _ _).arp
  | wait => rfl
  | fail => rfl

/-- The cache learns nothing when a packet is transmitted. -/
theorem unlearned_transmitIpv4 (c : Core ω) (p : Packet) : c.Unlearned (c.transmitIpv4 p).2 := by
  rw [transmitIpv4_eq]
  split
  · exact .of_eq rfl
  · exact .refl c
  · exact .of_eq (sendFrame_sent _ _).arp
  · exact c.unlearned_sendVia _ _

/-- Nothing that a client asks of the core teaches the cache. -/
theorem movesFreely_unlearned : (Core.uplink ω).MovesFreely Core.Unlearned where
  refl := .refl
  trans := .trans
  tell _ _ := .of_eq rfl
  send _ _ _ _ c := (Unlearned.of_eq rfl).trans (c.nextIdentification.2.unlearned_transmitIpv4 _)
  countMalformed _ := .of_eq rfl
  configure _ _ := .of_eq rfl

/-- The cache learns nothing when it is swept. -/
theorem unlearned_sweepArp (c : Core ω) : c.Unlearned c.sweepArp := by
  have swept : c.Unlearned (c.act .sweep) := fun e mem _ => (List.mem_filter.mp mem).1
  unfold sweepArp
  dsimp only
  split
  · exact swept
  · exact swept

end Core

section Expiry

variable [FileHandle η φ]

/-- The cache learns nothing when a timer expires. -/
theorem Duty.unlearned_expire (d : Duty ω η φ) : d.core.Unlearned d.expire.2.core := by
  unfold Duty.expire
  split
  · exact d.core.unlearned_sweepArp
  · exact .refl _
  · exact .refl _
  · exact DhcpClient.Session.moves_expire Core.movesFreely_unlearned ⟨_, d.sink.timer, d.core⟩
  · exact Transfer.Session.moves_expire Core.movesFreely_unlearned.toMoves
      ⟨_, d.sink.timer, d.core, d.volume⟩

omit [FileHandle η φ] in
/-- The cache learns nothing from a report of a failure. -/
theorem Duty.unlearned_noteFailure (d : Duty ω η φ) (answer : Except NetError Unit)
    (event : SinkId → Service → NetError → StackEvent) :
    d.core.Unlearned (Stack.noteFailure d answer event).core := by
  cases answer with
  | ok => exact .refl _
  | error e => exact .of_eq rfl

namespace Stack

/-- The cache learns nothing when a sink looks at its timer. -/
theorem unlearned_expireOne (now : Tick) (core : Core ω) (volume : φ) (sink : Sink (SinkKind η)) :
    core.Unlearned (expireOne now core volume sink).core := by
  unfold expireOne
  split
  · exact (Duty.unlearned_expire ⟨{ sink with timer := Timer.idle }, core, volume⟩).trans
      (Duty.unlearned_noteFailure _ _ _)
  · exact .refl core

/-- The cache learns nothing from the timers of a pass. -/
theorem unlearned_expireSinks (now : Tick) (core : Core ω) (volume : φ)
    (sinks : List (Sink (SinkKind η))) : core.Unlearned (expireSinks now core volume sinks).1 := by
  have through : core.Unlearned (expireSinks now core volume sinks).1 ∧
      ∀ sink ∈ (expireSinks now core volume sinks).2.2, True := by
    refine expireSinks_keeps core.Unlearned ?_ (.refl core) volume fun _ mem => mem
    intro sink core₁ volume _ before
    exact ⟨before.trans (unlearned_expireOne now core₁ volume sink), trivial⟩
  exact through.1

end Stack

end Expiry

namespace Stack

/-! ## The sink that sweeps -/

/-- The name of the sink that sweeps; it is the first that a stack registers. -/
def sweeperId : SinkId := ⟨1⟩

/-- The sweeper is registered, with this timer. -/
def Sweeps (sinks : List (Sink (SinkKind η))) (timer : Timer) : Prop :=
  ∃ sink ∈ sinks, sink.id = sweeperId ∧ sink.kind = .arp ∧ sink.timer = timer

/-- The sweeper stays registered, and nobody touches its timer. -/
def SweeperStays (s s' : Stack ω η φ) : Prop :=
  ∀ timer, Sweeps s.sinks.sinks timer → Sweeps s'.sinks.sinks timer

variable {s s' s'' : Stack ω η φ} {timer : Timer}

/-- The sweeper stays where no sink goes. -/
theorem SweeperStays.of_subset (more : s.sinks.sinks ⊆ s'.sinks.sinks) : s.SweeperStays s' := by
  rintro timer ⟨sink, mem, sweeper⟩
  exact ⟨sink, more mem, sweeper⟩

/-- The sweeper stays where the table of sinks stays. -/
theorem SweeperStays.of_eq (same : s'.sinks = s.sinks) : s.SweeperStays s' :=
  .of_subset (by rw [same]; exact List.Subset.refl _)

/-- A sweeper that stays twice stays. -/
theorem SweeperStays.trans (first : s.SweeperStays s') (second : s'.SweeperStays s'') :
    s.SweeperStays s'' :=
  fun timer sweeps => second timer (first timer sweeps)

/-! ## What a pass receives -/

/-- The sweeper stays when a frame is received. -/
theorem sweeps_receiveFrame (s : Stack ω η φ) (frame : Bytes) :
    s.SweeperStays (s.receiveFrame frame) := by
  obtain ⟨drops, -⟩ | ⟨queues, -⟩ := (receives_receiveFrame s frame).fate
  · exact .of_eq drops.sinks
  · obtain ⟨arrival, before, sink, after, -, split, -, -, pushed⟩ := queues.queued
    rintro timer ⟨other, mem, sweeper⟩
    rw [split] at mem
    rw [pushed]
    obtain mem | rfl | mem := List.mem_append.mp mem |>.imp_right List.mem_cons.mp
    · exact ⟨other, List.mem_append_left _ mem, sweeper⟩
    · exact ⟨_, List.mem_append_right _ List.mem_cons_self, sweeper⟩
    · exact ⟨other, List.mem_append_right _ (List.mem_cons_of_mem _ mem), sweeper⟩

/-- The sweeper stays when the frames of a pass are received. -/
theorem sweeps_receiveFrames (s : Stack ω η φ) (budget : Nat) :
    s.SweeperStays (s.receiveFrames budget) := by
  induction budget generalizing s with
  | zero => exact .of_eq rfl
  | succ budget ih =>
    unfold receiveFrames
    split
    · exact .of_eq rfl
    · rename_i frame hw _
      have received := sweeps_receiveFrame { s with core := { s.core with hw } } frame
      exact received.trans (ih _)

/-- The sweeper stays in the first half of a pass. -/
theorem sweeps_collected (s : Stack ω η φ) : s.SweeperStays s.collected :=
  sweeps_receiveFrames { s with core := s.core.serviceParked }.serviceDevice receiveBudget

section Handling

variable [FileHandle η φ] {d d' : Duty ω η φ} {core core' : Core ω} {volume volume' : φ}
  {sinks sinks' : List (Sink (SinkKind η))}

/-- What the sweeper receives leaves its sink alone. -/
theorem sink_deliverAll {packets : List Packet} (arp : d.sink.kind = .arp)
    (handled : deliverAll d packets = .ok d') : d'.sink = d.sink := by
  refine deliverAll_keeps (fun d' => d'.sink = d.sink) ?_ rfl handled
  intro d₁ p answer d₂ _ before delivered
  have same : d₂.sink = d.sink := by
    unfold Duty.deliver at delivered
    rw [before, arp] at delivered
    obtain ⟨content, -, delivered⟩ := exists_ok_of_bind delivered
    cases delivered
    rfl
  cases answer with
  | ok => exact same
  | error e => exact same

/-- The sweeper keeps its timer while the queues are drained, its own among them. -/
theorem sweeps_drainSinks (handled : drainSinks core volume sinks = .ok (core', volume', sinks'))
    (sweeps : Sweeps sinks timer) : Sweeps sinks' timer := by
  induction sinks generalizing core volume sinks' with
  | nil =>
    obtain ⟨sink, mem, -⟩ := sweeps
    cases mem
  | cons first rest ih =>
    obtain ⟨d, rest', delivered, rested, rfl⟩ := drainSinks_cons handled
    obtain ⟨sink, mem, id, arp, armed⟩ := sweeps
    obtain rfl | mem := List.mem_cons.mp mem
    · refine ⟨d.sink, List.mem_cons_self, ?_⟩
      rw [sink_deliverAll arp delivered]
      exact ⟨id, arp, armed⟩
    · obtain ⟨sink', mem', sweeper⟩ := ih rested ⟨sink, mem, id, arp, armed⟩
      exact ⟨sink', List.mem_cons_of_mem _ mem', sweeper⟩

/-- The sweeper stays when the queues are drained. -/
theorem sweeps_drainQueues (drained : s.drainQueues = .ok s') : s.SweeperStays s' := by
  intro timer sweeps
  unfold drainQueues at drained
  obtain ⟨⟨core, volume, sinks⟩, handled, done⟩ := exists_ok_of_bind drained
  cases done
  exact sweeps_drainSinks handled sweeps

/-! ## The timers of a pass -/

/-- The cache is swept at some moment, and from this moment on the timer of the sweeper is armed
again. What happens before and after is made of acts within a world, and nothing is learned in what
remains. -/
def Swept (World : (ω → ω) → Prop) (core core' : Core ω) (sinks' : List (Sink (SinkKind η))) :
    Prop :=
  ∃ c, Leads (Act.Within World) core c ∧ Leads (Act.Within World) c core' ∧
    (c.act .sweep).Unlearned core' ∧ Sweeps sinks' (Timer.arm c.now c.config.arpSweepInterval)

/-- The sweeper waits. -/
theorem sweeps_expireSinks {now : Tick} (early : timer.isDue now = false)
    (sweeps : Sweeps sinks timer) : Sweeps (expireSinks now core volume sinks).2.2 timer := by
  induction sinks generalizing core volume with
  | nil => exact sweeps
  | cons first rest ih =>
    rw [expireSinks_cons]
    obtain ⟨sink, mem, id, arp, rfl⟩ := sweeps
    obtain rfl | mem := List.mem_cons.mp mem
    · refine ⟨(expireOne now core volume sink).sink, List.mem_cons_self, ?_⟩
      unfold expireOne
      rw [if_neg (by rw [early]; exact Bool.false_ne_true)]
      exact ⟨id, arp, rfl⟩
    · obtain ⟨sink', mem', sweeper⟩ := ih ⟨sink, mem, id, arp, rfl⟩
      exact ⟨sink', List.mem_cons_of_mem _ mem', sweeper⟩

/-- What the sweeper does when its timer is due. -/
theorem expireOne_sweeper {now : Tick} {sink : Sink (SinkKind η)}
    (due : sink.timer.isDue now = true)
    (arp : sink.kind = .arp) :
    expireOne now core volume sink =
      ⟨{ sink with timer := Timer.arm core.now core.config.arpSweepInterval }, core.sweepArp,
        volume⟩ := by
  have same : core.sweepArp.now = core.now ∧ core.sweepArp.config = core.config := by
    unfold Core.sweepArp
    dsimp only
    split
    · exact ⟨rfl, rfl⟩
    · exact ⟨rfl, rfl⟩
  unfold expireOne
  rw [if_pos due]
  unfold Duty.expire
  rw [arp]
  dsimp only
  rw [same.1, same.2]
  rfl

/-- The sweeper sweeps. -/
theorem expireSinks_swept {now : Tick} (due : timer.isDue now = true)
    (sweeps : Sweeps sinks timer) :
    Swept World core (expireSinks now core volume sinks).1
      (expireSinks now core volume sinks).2.2 := by
  have able : FullRepertoire (Act.Within World) := fullRepertoire_within
  induction sinks generalizing core volume with
  | nil =>
    obtain ⟨sink, mem, -⟩ := sweeps
    cases mem
  | cons first rest ih =>
    rw [expireSinks_cons]
    obtain ⟨sink, mem, id, arp, rfl⟩ := sweeps
    obtain rfl | mem := List.mem_cons.mp mem
    · rw [expireOne_sweeper due arp]
      have swept : (core.act .sweep).Unlearned core.sweepArp := by
        unfold Core.sweepArp
        dsimp only
        split
        · exact .of_eq rfl
        · exact .refl _
      refine ⟨core, .refl core, ?_, ?_, ?_⟩
      · exact (able.leads_sweepArp core).trans (leads_expireSinks_of able now _ volume rest)
      · exact swept.trans (unlearned_expireSinks now _ volume rest)
      · exact ⟨_, List.mem_cons_self, id, arp, rfl⟩
    · obtain ⟨c, before, after, unlearned, sink', mem', sweeper⟩ :
          Swept World (expireOne now core volume first).core _ _ := ih ⟨sink, mem, id, arp, rfl⟩
      refine ⟨c, ?_, after, unlearned, sink', List.mem_cons_of_mem _ mem', sweeper⟩
      exact (leads_expireOne_of able now core volume first).trans before

/-- The sweeper keeps its timer while that is not due. -/
theorem sweeps_expireTimers (early : timer.isDue s.core.now = false)
    (sweeps : Sweeps s.sinks.sinks timer) : Sweeps s.expireTimers.sinks.sinks timer :=
  sweeps_expireSinks early sweeps

/-- **The sweeper sweeps when its timer is due**, and arms it again. -/
theorem expireTimers_swept (due : timer.isDue s.core.now = true)
    (sweeps : Sweeps s.sinks.sinks timer) :
    Swept World s.core s.expireTimers.core s.expireTimers.sinks.sinks :=
  expireSinks_swept due sweeps

end Handling

/-! ## What the owner does -/

/-- **Whatever is done with a stack, short of a pass, leaves the sweeper alone**, if somebody is
still registered under its name after it. For no two sinks share a name, and names are not given
twice. -/
theorem sweeperStays_perform [FileHandle η φ] {command : Command ω η φ} {n : Nat}
    (names : s.NamesBelow n) (noPass : command ≠ .pump) (done : s.perform command = .ok s')
    (registered : ∃ sink ∈ s'.sinks.sinks, sink.id = sweeperId) : s.SweeperStays s' := by
  by_cases tends : command.Tends
  · cases command with
    | pump => exact absurd rfl noPass
    | receiveFrame frame =>
      cases done
      exact sweeps_receiveFrame s frame
    | _ => exact tends.elim
  rintro timer ⟨sweeper, mem, named, what⟩
  obtain ⟨other, registered, same⟩ := registered
  obtain ⟨kept, less, left | ⟨new, next, -, put⟩⟩ := turnover_perform tends done
  · rw [left] at registered ⊢
    have one : other = sweeper := List.inj_on_of_nodup_map names.distinct (less.subset registered)
      mem (same.trans named.symm)
    exact ⟨sweeper, one ▸ registered, named, what⟩
  · rw [put] at registered ⊢
    obtain rfl | registered := (mem_place_iff _ _ _).mp registered
    · -- the sweeper would have the next name
      exact absurd (named.trans (same.symm.trans next)) (names.nameFree sweeper mem)
    · have one : other = sweeper := List.inj_on_of_nodup_map names.distinct
        (less.subset registered) mem (same.trans named.symm)
      exact ⟨sweeper, (mem_place_iff _ _ _).mpr (.inr (one ▸ registered)), named, what⟩

end Stack

end PolledNet
