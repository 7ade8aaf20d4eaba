import PolledNet.Proofs.Sink.Order
import PolledNet.Proofs.Stack.Command
import PolledNet.Proofs.Stack.Receiving
import PolledNet.Proofs.Tftp.Changes

/-!
# Who is registered

To the table of sinks there are two kinds of commands. A pass, or a frame that is handed in, *tends*
the sinks: each stays where it is, under its name, with its filter and its service, and a transfer
goes on as transfers do (`Stack.Tends`, `Stack.tends_pump`). All other commands leave the sinks as
they are, except that some may be taken out and one may be put in (`Turnover`,
`Stack.turnover_perform`).

So the `roster` of a stack, what its sinks were registered with, stays the same as long as nobody is
taken out or put in (`Stack.Tends.roster`).
-/

namespace PolledNet

variable {ω η φ : Type}

/-- What a sink is registered with. -/
structure Enrolment where
  /-- Its name. -/
  id : SinkId
  /-- What it wants to receive. -/
  filter : Filter
  /-- What it does with it. -/
  service : Service
  /-- The local port of its transfer, if it has one. -/
  port : Option UInt16
  deriving DecidableEq

/-- The transfer behind a sink. -/
def SinkKind.transfer? : SinkKind η → Option (Transfer η)
  | .tftp transfer => some transfer
  | _ => none

/-- What a sink is registered with. -/
def Sink.enrolment (sink : Sink (SinkKind η)) : Enrolment :=
  ⟨sink.id, sink.filter, sink.kind.service, sink.kind.transfer?.map (·.localPort)⟩

/-- What the sinks of a stack are registered with, in the order of the table. -/
def Stack.roster (s : Stack ω η φ) : List Enrolment := s.sinks.sinks.map Sink.enrolment

/-- A service has a transfer exactly if it moves a file. -/
theorem SinkKind.transfer?_eq_none_iff {kind : SinkKind η} :
    kind.transfer? = none ↔ kind.service ≠ .tftp := by
  cases kind <;> simp [transfer?, service]

variable [FileHandle η φ]

/-! ## One sink -/

/-- What becomes of the state behind a sink, and of the volume, while the sink is tended. -/
inductive SinkKind.Goes : SinkKind η × φ → SinkKind η × φ → Prop where
  /-- A service that moves no file does not touch the volume. -/
  | service {kind kind' : SinkKind η} {volume : φ} (other : kind.service ≠ .tftp)
      (same : kind'.service = kind.service) : Goes (kind, volume) (kind', volume)
  /-- A transfer changes as transfers do. -/
  | transfer {t t' : Transfer η} {volume volume' : φ}
      (changes : Transfer.Changes (t, volume) (t', volume')) :
      Goes (.tftp t, volume) (.tftp t', volume')

/-- A service that nothing happens to goes on. -/
theorem SinkKind.Goes.refl (kind : SinkKind η) (volume : φ) :
    Goes (kind, volume) (kind, volume) := by
  cases kind with
  | tftp transfer => exact .transfer (.refl _)
  | _ => exact .service nofun rfl

/-- What becomes of a sink, and of the volume, while the sink is tended. -/
structure Sink.Tended (x y : Sink (SinkKind η) × φ) : Prop where
  id : y.1.id = x.1.id
  filter : y.1.filter = x.1.filter
  goes : SinkKind.Goes (x.1.kind, x.2) (y.1.kind, y.2)

namespace Sink.Tended

/-- Neither the queue nor the timer of a sink matters. -/
theorem of_eq {sink sink' : Sink (SinkKind η)} (volume : φ) (id : sink'.id = sink.id)
    (filter : sink'.filter = sink.filter) (kind : sink'.kind = sink.kind) :
    Tended (sink, volume) (sink', volume) :=
  ⟨id, filter, by rw [kind]; exact .refl _ _⟩

/-- A sink that nothing happens to is tended. -/
theorem refl (x : Sink (SinkKind η) × φ) : Tended x x := of_eq x.2 rfl rfl rfl

/-- A sink that is tended twice is tended. -/
theorem trans {x y z : Sink (SinkKind η) × φ} (first : Tended x y) (second : Tended y z) :
    Tended x z := by
  refine ⟨second.id.trans first.id, second.filter.trans first.filter, ?_⟩
  obtain ⟨⟨_, _, _, _, kind⟩, volume⟩ := y
  have before := first.goes
  have after := second.goes
  dsimp only at before after
  generalize (x.1.kind, x.2) = start at before ⊢
  generalize (z.1.kind, z.2) = stop at after ⊢
  cases before with
  | service other same =>
    cases after with
    | service _ same' => exact .service other (same'.trans same)
    | transfer => exact absurd same.symm other
  | transfer changes =>
    cases after with
    | service other => exact absurd rfl other
    | transfer changes' => exact .transfer (changes.trans changes')

/-- What a sink is registered with stays. -/
theorem enrolment {x y : Sink (SinkKind η) × φ} (tended : Tended x y) :
    y.1.enrolment = x.1.enrolment := by
  obtain ⟨id, filter, goes⟩ := tended
  have same : y.1.kind.service = x.1.kind.service ∧
      y.1.kind.transfer?.map (·.localPort) = x.1.kind.transfer?.map (·.localPort) := by
    obtain ⟨⟨_, _, _, _, kind⟩, volume⟩ := x
    obtain ⟨⟨_, _, _, _, kind'⟩, volume'⟩ := y
    dsimp only at goes ⊢
    cases goes with
    | service other same =>
      rw [SinkKind.transfer?_eq_none_iff.mpr other,
        SinkKind.transfer?_eq_none_iff.mpr (same ▸ other)]
      exact ⟨same, rfl⟩
    | transfer changes => exact ⟨rfl, congrArg some changes.sameJob.localPort⟩
  rw [Sink.enrolment, id, filter, same.1, same.2, Sink.enrolment]

end Sink.Tended

namespace Duty

variable {d d' : Duty ω η φ} {p : Packet} {answer : Except NetError Unit}

/-- To handle a packet is to tend the sink. -/
theorem tended_deliver (delivered : d.deliver p = .ok (answer, d')) :
    Sink.Tended (d.sink, d.volume) (d'.sink, d'.volume) := by
  have kept := deliver_kept delivered
  refine ⟨kept.id, kept.filter, ?_⟩
  obtain ⟨⟨id, filter, queue, timer, kind⟩, core, volume⟩ := d
  cases kind with
  | arp =>
    obtain ⟨content, -, rest⟩ := exists_ok_of_bind delivered
    cases rest
    exact .refl _ _
  | icmpEcho =>
    obtain ⟨result, -, rest⟩ := exists_ok_of_bind delivered
    cases rest
    exact .refl _ _
  | icmpUnreachable limiter =>
    obtain ⟨result, -, rest⟩ := exists_ok_of_bind delivered
    cases rest
    exact .service nofun rfl
  | dhcp client =>
    obtain ⟨payload, -, rest⟩ := exists_ok_of_bind delivered
    cases rest
    exact .service nofun rfl
  | tftp transfer =>
    obtain ⟨segment, -, rest⟩ := exists_ok_of_bind delivered
    obtain ⟨payload, -, rest⟩ := exists_ok_of_bind rest
    split at rest
    · cases rest
      exact .transfer
        (Transfer.Session.becomes_receive ⟨transfer, timer, core, volume⟩ (Core.uplink ω) _ _)
    · cases rest
      exact .refl _ _

/-- To handle its timer is to tend a sink. -/
theorem tended_expire (d : Duty ω η φ) :
    Sink.Tended (d.sink, d.volume) (d.expire.2.sink, d.expire.2.volume) := by
  have kept := expire_kept d
  refine ⟨kept.id, kept.filter, ?_⟩
  obtain ⟨⟨id, filter, queue, timer, kind⟩, core, volume⟩ := d
  cases kind with
  | arp | icmpEcho | icmpUnreachable => exact .refl _ _
  | dhcp client => exact .service nofun rfl
  | tftp transfer =>
    exact .transfer
      (Transfer.Session.becomes_expire ⟨transfer, timer, core, volume⟩ (Core.uplink ω))

omit [FileHandle η φ] in
/-- A report of a failure changes neither the sink nor the volume. -/
theorem noteFailure_sink (d : Duty ω η φ) (answer : Except NetError Unit)
    (event : SinkId → Service → NetError → StackEvent) :
    (Stack.noteFailure d answer event).sink = d.sink ∧
      (Stack.noteFailure d answer event).volume = d.volume := by
  cases answer <;> exact ⟨rfl, rfl⟩

/-- A sink is tended when its packets are delivered. -/
theorem tended_deliverAll {packets : List Packet} (handled : Stack.deliverAll d packets = .ok d') :
    Sink.Tended (d.sink, d.volume) (d'.sink, d'.volume) := by
  refine Stack.deliverAll_keeps
    (fun d' => Sink.Tended (d.sink, d.volume) (d'.sink, d'.volume)) ?_ (.refl _) handled
  intro d₁ p answer d₂ _ before delivered
  obtain ⟨sink, volume⟩ := noteFailure_sink d₂ answer .deliveryFailed
  rw [sink, volume]
  exact before.trans (tended_deliver delivered)

end Duty

/-! ## All sinks -/

/-- The sinks of a table are tended, one after the other. -/
inductive Round : φ → List (Sink (SinkKind η)) → φ → List (Sink (SinkKind η)) → Prop where
  | nil {volume : φ} : Round volume [] volume []
  | cons {volume volume₁ volume' : φ} {sink sink' : Sink (SinkKind η)}
      {rest rest' : List (Sink (SinkKind η))}
      (first : Sink.Tended (sink, volume) (sink', volume₁))
      (others : Round volume₁ rest volume' rest') :
      Round volume (sink :: rest) volume' (sink' :: rest')

namespace Round

variable {volume volume' : φ} {sinks sinks' : List (Sink (SinkKind η))}

/-- A round in which nothing happens is a round. -/
theorem refl (volume : φ) (sinks : List (Sink (SinkKind η))) : Round volume sinks volume sinks := by
  induction sinks with
  | nil => exact .nil
  | cons sink rest ih => exact .cons (.refl _) ih

/-- One sink is tended, and the others are left as they are. -/
theorem single {before after : List (Sink (SinkKind η))} {sink sink' : Sink (SinkKind η)}
    (tended : Sink.Tended (sink, volume) (sink', volume')) :
    Round volume (before ++ sink :: after) volume' (before ++ sink' :: after) := by
  induction before with
  | nil => exact .cons tended (.refl _ _)
  | cons first rest ih => exact .cons (.refl _) ih

/-- No sink comes or goes in a round, and none changes its name, its service or its filter. -/
theorem enrolments (round : Round volume sinks volume' sinks') :
    sinks'.map Sink.enrolment = sinks.map Sink.enrolment := by
  induction round with
  | nil => rfl
  | cons first _ ih => rw [List.map_cons, List.map_cons, first.enrolment, ih]

end Round

namespace Stack

variable {s s' s'' : Stack ω η φ}

/-- A pass that drains the queues makes a round. -/
theorem round_drainSinks {core core' : Core ω} {volume volume' : φ}
    {sinks sinks' : List (Sink (SinkKind η))}
    (handled : drainSinks core volume sinks = .ok (core', volume', sinks')) :
    Round volume sinks volume' sinks' := by
  induction sinks generalizing core volume sinks' with
  | nil =>
    cases handled
    exact .nil
  | cons sink rest ih =>
    obtain ⟨d, rest', delivered, rested, rfl⟩ := drainSinks_cons handled
    have emptied : Sink.Tended (sink, volume) ({ sink with queue := {} }, volume) :=
      .of_eq volume rfl rfl rfl
    exact .cons (emptied.trans (Duty.tended_deliverAll delivered)) (ih rested)

/-- A sink is tended when its timer expires, or does not. -/
theorem tended_expireOne (now : Tick) (core : Core ω) (volume : φ) (sink : Sink (SinkKind η)) :
    Sink.Tended (sink, volume)
      ((expireOne now core volume sink).sink, (expireOne now core volume sink).volume) := by
  unfold expireOne
  split
  · have disarmed : Sink.Tended (sink, volume) ({ sink with timer := Timer.idle }, volume) :=
      .of_eq volume rfl rfl rfl
    obtain ⟨same, volume'⟩ := Duty.noteFailure_sink
      (Duty.expire ⟨{ sink with timer := Timer.idle }, core, volume⟩).2
      (Duty.expire ⟨{ sink with timer := Timer.idle }, core, volume⟩).1 .expiryFailed
    rw [same, volume']
    exact disarmed.trans (Duty.tended_expire ⟨{ sink with timer := Timer.idle }, core, volume⟩)
  · exact .refl _

/-- A pass that looks at the timers makes a round. -/
theorem round_expireSinks (now : Tick) (core : Core ω) (volume : φ)
    (sinks : List (Sink (SinkKind η))) :
    Round volume sinks (expireSinks now core volume sinks).2.1
      (expireSinks now core volume sinks).2.2 := by
  induction sinks generalizing core volume with
  | nil => exact .nil
  | cons sink rest ih =>
    rw [expireSinks_cons]
    exact .cons (tended_expireOne now core volume sink) (ih _ _)

/-! ## Tending -/

/-- The sinks are tended once, and neither the names nor the ports go on. -/
structure TendsOnce (s s' : Stack ω η φ) : Prop where
  round : Round s.volume s.sinks.sinks s'.volume s'.sinks.sinks
  nextNumber : s'.sinks.nextNumber = s.sinks.nextNumber
  nextPort : s'.nextPort = s.nextPort

/-- The sinks are tended any number of times. -/
def Tends : Stack ω η φ → Stack ω η φ → Prop := Relation.ReflTransGen TendsOnce

/-- One step of tending tends the stack. -/
theorem Tends.one (once : s.TendsOnce s') : s.Tends s' := Relation.ReflTransGen.single once

/-- A stack that nothing happens to is tended. -/
theorem Tends.refl (s : Stack ω η φ) : s.Tends s := Relation.ReflTransGen.refl

/-- A stack that is tended twice is tended. -/
theorem Tends.trans (first : s.Tends s') (second : s'.Tends s'') : s.Tends s'' :=
  Relation.ReflTransGen.trans first second

/-- **What is kept while the sinks are tended once** is kept as long as they are only tended. -/
theorem Tends.keeps (tends : s.Tends s') (Holds : Stack ω η φ → Prop)
    (kept : ∀ s s', s.TendsOnce s' → Holds s → Holds s') (start : Holds s) : Holds s' := by
  induction tends with
  | refl => exact start
  | tail _ once ih => exact kept _ _ once ih

/-- **Nobody is taken out or put in.** -/
theorem Tends.roster (tends : s.Tends s') : s'.roster = s.roster := by
  apply tends.keeps (fun s' => s'.roster = s.roster) _ rfl
  intro s₁ s₂ once same
  exact once.round.enrolments.trans same

/-- No number is given out while a stack is tended. -/
theorem Tends.nextNumber (tends : s.Tends s') : s'.sinks.nextNumber = s.sinks.nextNumber := by
  apply tends.keeps (fun s' => s'.sinks.nextNumber = s.sinks.nextNumber) _ rfl
  intro s₁ s₂ once same
  exact once.nextNumber.trans same

/-- No port is picked while a stack is tended. -/
theorem Tends.nextPort (tends : s.Tends s') : s'.nextPort = s.nextPort := by
  apply tends.keeps (fun s' => s'.nextPort = s.nextPort) _ rfl
  intro s₁ s₂ once same
  exact once.nextPort.trans same

/-- Whatever is done to the core alone. -/
theorem tends_withCore (s : Stack ω η φ) (core : Core ω) : s.Tends { s with core } :=
  .one ⟨.refl _ _, rfl, rfl⟩

/-- The stack is tended when a frame is received. -/
theorem tends_receiveFrame (s : Stack ω η φ) (frame : Bytes) : s.Tends (s.receiveFrame frame) := by
  have receives := s.receives_receiveFrame frame
  have volume : (s.receiveFrame frame).volume = s.volume := by
    unfold receiveFrame
    dsimp only
    split
    · rfl
    · split <;> rfl
  have nextPort : (s.receiveFrame frame).nextPort = s.nextPort := by
    unfold receiveFrame
    dsimp only
    split
    · rfl
    · split <;> rfl
  apply Tends.one
  rcases receives.fate with ⟨drops, -⟩ | ⟨queues, -⟩
  · refine ⟨?_, by rw [drops.sinks], nextPort⟩
    rw [drops.sinks, volume]
    exact .refl _ _
  · obtain ⟨arrival, before, sink, after, -, split, -, -, sinks⟩ := queues.queued
    refine ⟨?_, by rw [sinks], nextPort⟩
    rw [sinks, split, volume]
    exact .single (.of_eq s.volume rfl rfl rfl)

/-- The stack is tended when the frames of a pass are received. -/
theorem tends_receiveFrames (s : Stack ω η φ) (budget : Nat) :
    s.Tends (s.receiveFrames budget) := by
  induction budget generalizing s with
  | zero => exact .refl s
  | succ budget ih =>
    unfold receiveFrames
    split
    · exact s.tends_withCore _
    · rename_i frame hw _
      have taken : s.Tends { s with core := { s.core with hw } } := s.tends_withCore _
      exact (taken.trans (tends_receiveFrame _ frame)).trans (ih _)

/-- The stack is tended in the first half of a pass. -/
theorem tends_collected (s : Stack ω η φ) : s.Tends s.collected := by
  have retried : s.Tends { s with core := s.core.serviceParked } := s.tends_withCore _
  have serviced : s.Tends { s with core := s.core.serviceParked }.serviceDevice :=
    retried.trans (tends_withCore _ _)
  exact (serviced.trans (tends_receiveFrames _ receiveBudget)).trans (tends_withCore _ _)

/-- The stack is tended when the queues are drained. -/
theorem tends_drainQueues (drained : s.drainQueues = .ok s') : s.Tends s' := by
  unfold drainQueues at drained
  obtain ⟨⟨core, volume, sinks⟩, handled, done⟩ := exists_ok_of_bind drained
  cases done
  exact .one ⟨round_drainSinks handled, rfl, rfl⟩

/-- The stack is tended when the timers expire. -/
theorem tends_expireTimers (s : Stack ω η φ) : s.Tends s.expireTimers :=
  .one ⟨round_expireSinks s.core.now s.core s.volume s.sinks.sinks, rfl, rfl⟩

/-- **A pass only tends the sinks.** -/
theorem tends_pump (ran : s.pump = .ok s') : s.Tends s' := by
  rw [pump_eq] at ran
  obtain ⟨s₁, drained, rfl⟩ := handled_eq_ok ran
  exact (s.tends_collected.trans (tends_drainQueues drained)).trans s₁.tends_expireTimers

end Stack

end PolledNet
