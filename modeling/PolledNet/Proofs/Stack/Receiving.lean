import PolledNet.File.RamVolume
import PolledNet.Link.Bench
import PolledNet.Proofs.Stack.Serving
import Mathlib.Logic.Basic

/-!
# What a pass does with received frames

Every frame that a pass takes from the device is counted, and then it is either dropped for one
cause, which one counter counts, or queued on the first sink that accepts it
(`receives_receiveFrame`). What waits is handled afterwards, each packet by its own sink and in the
order of arrival, until nothing waits (`pump_receives`).

A pass hands a sink its packets with the queue already emptied. This comes to the same as taking
them from the queue one by one, since a service neither sees nor changes the queue of its sink
(`Duty.deliver_withQueue`, `Duty.expire_kept`).
-/

namespace PolledNet

variable {ω η φ : Type}

/-! ## One frame -/

/-- The counters of received frames that no sink gets. -/
inductive DropCounter where
  | otherStation
  | badIpChecksum
  | badTransportChecksum
  | malformed
  | fragments
  | unclaimed
  deriving DecidableEq, Repr

/-- What a counter shows. -/
def DropCounter.read (s : Stats) : DropCounter → Nat
  | .otherStation => s.rxDroppedMac
  | .badIpChecksum => s.rxBadIpChecksum
  | .badTransportChecksum => s.rxBadTransportChecksum
  | .malformed => s.rxMalformed
  | .fragments => s.rxFragments
  | .unclaimed => s.rxUnclaimed

/-- The counter of a cause. -/
def DropCause.counter : DropCause → DropCounter
  | .otherStation => .otherStation
  | .badIpChecksum => .badIpChecksum
  | .fragment => .fragments
  | .badTransportChecksum => .badTransportChecksum
  | .badEthernet _ | .badIp _ | .badUdp _ | .shortIcmp => .malformed

/-- A drop counts at the counter of its cause and at no other. -/
theorem DropCause.read_count (cause : DropCause) (j : DropCounter) (s : Stats) :
    j.read (cause.count s) = j.read s + if j = cause.counter then 1 else 0 := by
  cases cause <;> cases j <;> rfl

/-- Counting a drop leaves the count of received frames. -/
theorem DropCause.rxFrames_count (cause : DropCause) (s : Stats) :
    (cause.count s).rxFrames = s.rxFrames := by
  cases cause <;> rfl

namespace SinkTable

variable {κ : Type} {t : SinkTable κ} {info : FrameInfo} {ours : Option Ipv4} {i : Nat}

/-- The sink that is found accepts the frame, and those before it do not. -/
theorem exists_of_find? (found : t.find? info ours = some i) :
    ∃ before sink after, t.sinks = before ++ sink :: after ∧ before.length = i ∧
      (∀ other ∈ before, other.filter.accepts info ours = false) ∧
      sink.filter.accepts info ours = true := by
  obtain ⟨inside, accepts, others⟩ := List.findIdx?_eq_some_iff_getElem.mp found
  refine ⟨t.sinks.take i, t.sinks[i], t.sinks.drop (i + 1), ?_, ?_, ?_, accepts⟩
  · rw [List.getElem_cons_drop, List.take_append_drop]
  · exact List.length_take_of_le (Nat.le_of_lt inside)
  · intro other mem
    obtain ⟨j, early, rfl⟩ := List.mem_take_iff_getElem.mp mem
    simpa using others j (by omega)

/-- A sink is found at the place where it stands. -/
theorem at?_of_split {before after : List (Sink κ)} {sink : Sink κ}
    (split : t.sinks = before ++ sink :: after) : t.at? before.length = some sink := by
  rw [at?, split]
  simp

/-- A change at the place of a sink changes that sink only. -/
theorem modifyAt_of_split {before after : List (Sink κ)} {sink : Sink κ}
    (split : t.sinks = before ++ sink :: after) (f : Sink κ → Sink κ) :
    t.modifyAt before.length f = { t with sinks := before ++ f sink :: after } := by
  rw [modifyAt, split, List.modify_eq_take_drop, List.take_left, List.drop_left]
  rfl

end SinkTable

namespace Core

/-- Counting leaves the station's own address alone. -/
@[simp] theorem mac_count (c : Core ω) (f : Stats → Stats) : (c.count f).mac = c.mac := rfl

/-- Counting leaves the IPv4 address alone. -/
@[simp] theorem address?_count (c : Core ω) (f : Stats → Stats) :
    (c.count f).address? = c.address? := rfl

end Core

namespace Stack

variable {s s' : Stack ω η φ} {frame : Bytes}

/-- A frame is dropped: exactly one counter counts it, and no sink is touched. -/
structure Drops (s s' : Stack ω η φ) : Prop where
  counted : ∃ k : DropCounter, ∀ j : DropCounter,
    j.read s'.core.stats = j.read s.core.stats + if j = k then 1 else 0
  sinks : s'.sinks = s.sinks

/-- A frame is queued: it goes behind what waits for the first sink that accepts it. No other sink
is touched, and none of the counters of dropped frames. -/
structure Queues (s : Stack ω η φ) (frame : Bytes) (s' : Stack ω η φ) : Prop where
  uncounted : ∀ j : DropCounter, j.read s'.core.stats = j.read s.core.stats
  queued : ∃ arrival before sink after, Arrival.ofFrame s.core.mac frame = .ok arrival ∧
    s.sinks.sinks = before ++ sink :: after ∧
    (∀ other ∈ before, other.filter.accepts arrival.info s.core.address? = false) ∧
    sink.filter.accepts arrival.info s.core.address? = true ∧
    s'.sinks =
      { s.sinks with
        sinks := before ++ { sink with queue := sink.queue.push arrival.packet } :: after }

/-- What becomes of a received frame. -/
structure Receives (s : Stack ω η φ) (frame : Bytes) (s' : Stack ω η φ) : Prop where
  /-- It is counted. -/
  counted : s'.core.stats.rxFrames = s.core.stats.rxFrames + 1
  /-- It is dropped or queued, and not both. -/
  fate : Xor (s.Drops s') (s.Queues frame s')

/-- A frame that is dropped is counted, and one that is queued is not. -/
theorem not_queues_of_drops (drops : s.Drops s') : ¬ s.Queues frame s' := by
  intro queues
  obtain ⟨k, counted⟩ := drops.counted
  have once := counted k
  rw [queues.uncounted k, if_pos rfl] at once
  omega

/-- A frame that only a drop counter knows of is received. -/
theorem Receives.of_drops (counted : s'.core.stats.rxFrames = s.core.stats.rxFrames + 1)
    (drops : s.Drops s') : s.Receives frame s' :=
  ⟨counted, .inl ⟨drops, not_queues_of_drops drops⟩⟩

/-- A frame that only a queue knows of is received. -/
theorem Receives.of_queues (counted : s'.core.stats.rxFrames = s.core.stats.rxFrames + 1)
    (queues : s.Queues frame s') : s.Receives frame s' :=
  ⟨counted, .inr ⟨queues, fun drops => not_queues_of_drops drops queues⟩⟩

/-- A frame that classification drops is counted with its cause. -/
theorem classify_of_error {c : Core ω} {cause : DropCause}
    (dropped : Arrival.ofFrame c.mac frame = .error cause) :
    (c.classify frame).1 = none ∧
      (c.classify frame).2.stats =
        cause.count { c.stats with rxFrames := c.stats.rxFrames + 1 } := by
  unfold Core.classify
  simp only [Core.mac_count, dropped, true_and]
  cases cause.event? <;> rfl

/-- What can be read is classified, and the frame is counted. -/
theorem classify_of_ok {c : Core ω} {arrival : Arrival}
    (classified : Arrival.ofFrame c.mac frame = .ok arrival) :
    c.classify frame =
      (some arrival, c.count fun n => { n with rxFrames := n.rxFrames + 1 }) := by
  unfold Core.classify
  simp only [Core.mac_count, classified]

/-- **A received frame** is counted, and then dropped for one cause or queued on the first sink that
accepts it. -/
theorem receives_receiveFrame (s : Stack ω η φ) (frame : Bytes) :
    s.Receives frame (s.receiveFrame frame) := by
  cases outcome : Arrival.ofFrame s.core.mac frame with
  | error cause =>
    obtain ⟨none, stats⟩ := classify_of_error outcome
    have received : s.receiveFrame frame = { s with core := (s.core.classify frame).2 } := by
      unfold receiveFrame
      generalize s.core.classify frame = classified at none
      obtain ⟨arrival?, core⟩ := classified
      dsimp only at none
      rw [none]
    rw [received]
    refine .of_drops ?_ ⟨⟨cause.counter, ?_⟩, rfl⟩
    · show (s.core.classify frame).2.stats.rxFrames = _
      rw [stats, cause.rxFrames_count]
    · intro j
      show j.read (s.core.classify frame).2.stats = _
      rw [stats, cause.read_count]
      cases j <;> rfl
  | ok arrival =>
    unfold receiveFrame
    rw [classify_of_ok outcome]
    dsimp only
    cases found : s.sinks.find? arrival.info s.core.address? with
    | none =>
      simp only [Core.address?_count, found]
      refine .of_drops rfl ⟨⟨.unclaimed, ?_⟩, rfl⟩
      intro j
      cases j <;> rfl
    | some i =>
      obtain ⟨before, sink, after, split, rfl, others, accepts⟩ := SinkTable.exists_of_find? found
      simp only [Core.address?_count, found, Option.bind_some, SinkTable.at?_of_split split,
        Option.map_some, SinkTable.modifyAt_of_split split]
      refine .of_queues rfl ⟨?_, arrival, before, sink, after, outcome, split, others, accepts, rfl⟩
      intro j
      cases j <;> rfl

/-- What is so of each sink stays so, if it does of the one that the frame waits for. -/
theorem Receives.all_sinks {Good : Sink (SinkKind η) → Prop} (receives : s.Receives frame s')
    (all : ∀ sink ∈ s.sinks.sinks, Good sink)
    (push : ∀ arrival sink, Arrival.ofFrame s.core.mac frame = .ok arrival →
      sink.filter.accepts arrival.info s.core.address? = true → Good sink →
        Good { sink with queue := sink.queue.push arrival.packet }) :
    ∀ sink ∈ s'.sinks.sinks, Good sink := by
  rcases receives.fate with ⟨drops, -⟩ | ⟨queues, -⟩
  · rw [drops.sinks]
    exact all
  · obtain ⟨arrival, before, sink, after, classified, split, -, accepts, sinks⟩ := queues.queued
    rw [split] at all
    rw [sinks]
    intro other mem
    rcases List.mem_append.mp mem with early | late
    · exact all other (List.mem_append_left _ early)
    · rcases List.mem_cons.mp late with rfl | late
      · have here := all sink (List.mem_append_right _ List.mem_cons_self)
        exact push arrival sink classified accepts here
      · exact all other (List.mem_append_right _ (List.mem_cons_of_mem sink late))

/-! ## The frames of a pass -/

/-- At most so many frames are taken from the device, each received before the next is taken; no
more are taken once the device has none. -/
inductive Intake : Nat → Stack ω η φ → List Bytes → Stack ω η φ → Prop where
  /-- The budget is used up. -/
  | spent {s : Stack ω η φ} : Intake 0 s [] s
  /-- The device has no frame. -/
  | dry {n} {s : Stack ω η φ} {hw} : s.core.device.receive s.core.hw = (none, hw) →
      Intake (n + 1) s [] { s with core := { s.core with hw } }
  /-- A frame is taken. -/
  | taken {n} {s s₁ s' : Stack ω η φ} {frame hw frames} :
      s.core.device.receive s.core.hw = (some frame, hw) →
      Receives { s with core := { s.core with hw } } frame s₁ → Intake n s₁ frames s' →
      Intake (n + 1) s (frame :: frames) s'

/-- No more frames are taken in than a pass may receive. -/
theorem Intake.length_le {n : Nat} {frames : List Bytes} (intake : Intake n s frames s') :
    frames.length ≤ n := by
  induction intake with
  | spent => exact Nat.le_refl 0
  | dry => exact Nat.zero_le _
  | taken _ _ _ ih => exact Nat.succ_le_succ ih

/-- The frames of a pass are taken in one after the other. -/
theorem intake_receiveFrames (s : Stack ω η φ) (n : Nat) :
    ∃ frames, Intake n s frames (s.receiveFrames n) := by
  induction n generalizing s with
  | zero => exact ⟨[], .spent⟩
  | succ n ih =>
    unfold receiveFrames
    split
    · rename_i none
      exact ⟨[], .dry none⟩
    · rename_i frame hw some
      obtain ⟨frames, rest⟩ := ih ({ s with core := { s.core with hw } }.receiveFrame frame)
      exact ⟨frame :: frames, .taken some (receives_receiveFrame _ frame) rest⟩

end Stack

/-! ## What a service leaves alone -/

/-- The sink with another queue. -/
def Sink.withQueue {κ : Type} (sink : Sink κ) (queue : PacketQueue) : Sink κ := { sink with queue }

/-- Two states of one sink: same name, same filter, same queue. -/
structure Sink.Kept {κ : Type} (sink sink' : Sink κ) : Prop where
  id : sink'.id = sink.id
  filter : sink'.filter = sink.filter
  queue : sink'.queue = sink.queue

/-- What is left alone twice is left alone. -/
theorem Sink.Kept.trans {κ : Type} {sink sink' sink'' : Sink κ} (first : sink.Kept sink')
    (second : sink'.Kept sink'') : sink.Kept sink'' :=
  ⟨second.id.trans first.id, second.filter.trans first.filter, second.queue.trans first.queue⟩

namespace Duty

variable {d d' : Duty ω η φ} {answer : Except NetError Unit} {p : Packet}

/-- The duty with another queue of its sink. -/
def withQueue (d : Duty ω η φ) (queue : PacketQueue) : Duty ω η φ :=
  { d with sink := d.sink.withQueue queue }

/-- A report of a failure does not look at the queue. -/
theorem noteFailure_withQueue (d : Duty ω η φ) (answer : Except NetError Unit)
    (event : SinkId → Service → NetError → StackEvent) (queue : PacketQueue) :
    Stack.noteFailure (d.withQueue queue) answer event =
      (Stack.noteFailure d answer event).withQueue queue := by
  cases answer <;> rfl

/-- A report of a failure leaves the queue and the filter of the sink alone. -/
theorem kept_noteFailure (d : Duty ω η φ) (answer : Except NetError Unit)
    (event : SinkId → Service → NetError → StackEvent) :
    d.sink.Kept (Stack.noteFailure d answer event).sink := by
  cases answer <;> exact ⟨rfl, rfl, rfl⟩

variable [FileHandle η φ]

/-- A service does not see the queue of its sink. -/
theorem deliver_withQueue (delivered : d.deliver p = .ok (answer, d')) (queue : PacketQueue) :
    (d.withQueue queue).deliver p = .ok (answer, d'.withQueue queue) := by
  obtain ⟨⟨id, filter, old, timer, kind⟩, core, volume⟩ := d
  cases kind with
  | arp =>
    obtain ⟨content, read, rest⟩ := exists_ok_of_bind delivered
    cases rest
    show (p.network? >>= _) = _
    rw [read]
    rfl
  | icmpEcho =>
    obtain ⟨result, echoed, rest⟩ := exists_ok_of_bind delivered
    cases rest
    show (core.receiveEcho p >>= _) = _
    rw [echoed]
    rfl
  | icmpUnreachable limiter =>
    obtain ⟨result, told, rest⟩ := exists_ok_of_bind delivered
    cases rest
    show (core.receiveUnclaimed limiter p >>= _) = _
    rw [told]
    rfl
  | dhcp client =>
    obtain ⟨payload, read, rest⟩ := exists_ok_of_bind delivered
    cases rest
    show (p.payload? >>= _) = _
    rw [read]
    rfl
  | tftp transfer =>
    obtain ⟨segment, found, rest⟩ := exists_ok_of_bind delivered
    obtain ⟨payload, read, rest⟩ := exists_ok_of_bind rest
    show (p.transport? >>= _) = _
    rw [found]
    show (p.payload? >>= _) = _
    rw [read]
    split at rest
    · cases rest
      rfl
    · cases rest
      rfl

/-- A handler leaves the queue, the name and the filter of its sink alone. -/
theorem deliver_kept (delivered : d.deliver p = .ok (answer, d')) : d.sink.Kept d'.sink := by
  obtain ⟨⟨id, filter, old, timer, kind⟩, core, volume⟩ := d
  cases kind with
  | arp =>
    obtain ⟨content, -, rest⟩ := exists_ok_of_bind delivered
    cases rest
    exact ⟨rfl, rfl, rfl⟩
  | icmpEcho =>
    obtain ⟨result, -, rest⟩ := exists_ok_of_bind delivered
    cases rest
    exact ⟨rfl, rfl, rfl⟩
  | icmpUnreachable limiter =>
    obtain ⟨result, -, rest⟩ := exists_ok_of_bind delivered
    cases rest
    exact ⟨rfl, rfl, rfl⟩
  | dhcp client =>
    obtain ⟨payload, -, rest⟩ := exists_ok_of_bind delivered
    cases rest
    exact ⟨rfl, rfl, rfl⟩
  | tftp transfer =>
    obtain ⟨segment, -, rest⟩ := exists_ok_of_bind delivered
    obtain ⟨payload, -, rest⟩ := exists_ok_of_bind rest
    split at rest <;> cases rest <;> exact ⟨rfl, rfl, rfl⟩

/-- A timer that expires leaves the queue and the filter of its sink alone. -/
theorem expire_kept (d : Duty ω η φ) : d.sink.Kept d.expire.2.sink := by
  obtain ⟨⟨id, filter, queue, timer, kind⟩, core, volume⟩ := d
  cases kind <;> exact ⟨rfl, rfl, rfl⟩

end Duty

/-! ## Handling -/

namespace Stack

variable {s s' : Stack ω η φ}

/-- The packets that wait, each with the position of its sink, in the order in which a pass handles
them: sink by sink, and for each sink in the order of arrival. -/
def unhandled (s : Stack ω η φ) : List (Nat × Packet) :=
  s.sinks.sinks.zipIdx.flatMap fun (sink, i) => sink.queue.packets.map (i, ·)

/-- The stack once the sink between `before` and `after` has done its duty. -/
def resume (s : Stack ω η φ) (before : List (Sink (SinkKind η))) (d : Duty ω η φ)
    (after : List (Sink (SinkKind η))) : Stack ω η φ :=
  { s with core := d.core, volume := d.volume
           sinks := { s.sinks with sinks := before ++ d.sink :: after } }

section Handled

variable [FileHandle η φ]

/-- One packet is handled: the oldest that waits for a sink is taken from its queue and given to
the service of this sink. -/
inductive Handles : Stack ω η φ → Nat × Packet → Stack ω η φ → Prop where
  | intro {s : Stack ω η φ} {before sink after p rest answer d}
      (split : s.sinks.sinks = before ++ sink :: after) (oldest : sink.queue.packets = p :: rest)
      (delivered :
        Duty.deliver ⟨sink.withQueue ⟨rest⟩, s.core, s.volume⟩ p = .ok (answer, d)) :
      Handles s (before.length, p) (s.resume before (noteFailure d answer .deliveryFailed) after)

/-- Packets are handled one after another. -/
inductive HandlesAll : Stack ω η φ → List (Nat × Packet) → Stack ω η φ → Prop where
  | nil {s : Stack ω η φ} : HandlesAll s [] s
  | cons {s s₁ s' : Stack ω η φ} {call calls} : Handles s call s₁ → HandlesAll s₁ calls s' →
      HandlesAll s (call :: calls) s'

/-- Calls that follow each other make up one list of calls. -/
theorem HandlesAll.append {s₁ : Stack ω η φ} {calls calls' : List (Nat × Packet)}
    (first : HandlesAll s calls s₁) (second : HandlesAll s₁ calls' s') :
    HandlesAll s (calls ++ calls') s' := by
  induction first with
  | nil => exact second
  | cons handles _ ih => exact .cons handles (ih second)

/-- The packets of one sink are handled in turn, and then its queue is empty. -/
theorem handlesAll_deliverAll {before after : List (Sink (SinkKind η))} {d d' : Duty ω η φ}
    {packets : List Packet} (empty : d.sink.queue = {})
    (split : s.sinks.sinks = before ++ d.sink.withQueue ⟨packets⟩ :: after)
    (core : s.core = d.core) (volume : s.volume = d.volume)
    (handled : deliverAll d packets = .ok d') :
    HandlesAll s (packets.map (before.length, ·)) (s.resume before d' after) ∧
      d'.sink.queue = {} := by
  induction packets generalizing s d with
  | nil =>
    cases handled
    have same : s.resume before d' after = s := by
      have queue : d'.sink.withQueue ⟨[]⟩ = d'.sink := by
        unfold Sink.withQueue
        rw [← empty]
      rw [queue] at split
      unfold resume
      rw [← split, ← core, ← volume]
    rw [same]
    exact ⟨.nil, empty⟩
  | cons p rest ih =>
    unfold deliverAll at handled
    obtain ⟨⟨answer, d₁⟩, delivered, handled⟩ := exists_ok_of_bind handled
    have first : Handles s (before.length, p)
        (s.resume before (noteFailure (d₁.withQueue ⟨rest⟩) answer .deliveryFailed) after) := by
      refine .intro split rfl ?_
      rw [core, volume]
      exact Duty.deliver_withQueue delivered ⟨rest⟩
    have kept := (Duty.deliver_kept delivered).trans
      (d₁.kept_noteFailure answer .deliveryFailed)
    rw [Duty.noteFailure_withQueue] at first
    obtain ⟨others, nothing⟩ := ih
      (s := s.resume before ((noteFailure d₁ answer .deliveryFailed).withQueue ⟨rest⟩) after)
      (kept.queue.trans empty) rfl rfl rfl handled
    exact ⟨.cons first others, nothing⟩

/-- The packets of all sinks are handled, and then all queues are empty. -/
theorem handlesAll_drainSinks {before sinks sinks' : List (Sink (SinkKind η))} {core : Core ω}
    {volume : φ} (split : s.sinks.sinks = before ++ sinks)
    (handled : drainSinks s.core s.volume sinks = .ok (core, volume, sinks')) :
    HandlesAll s
        ((sinks.zipIdx before.length).flatMap fun (sink, i) => sink.queue.packets.map (i, ·))
        { s with core, volume, sinks := { s.sinks with sinks := before ++ sinks' } } ∧
      ∀ sink ∈ sinks', sink.queue = {} := by
  induction sinks generalizing s before sinks' with
  | nil =>
    cases handled
    rw [← split]
    exact ⟨.nil, by simp⟩
  | cons sink rest ih =>
    obtain ⟨d, rest', delivered, rested, rfl⟩ := drainSinks_cons handled
    obtain ⟨own, empty⟩ := handlesAll_deliverAll (s := s)
      (d := ⟨{ sink with queue := {} }, s.core, s.volume⟩) rfl split rfl rfl delivered
    have next : (s.resume before d rest).sinks.sinks = (before ++ [d.sink]) ++ rest := by
      simp [resume]
    obtain ⟨others, nothing⟩ := ih next rested
    rw [List.length_append, List.length_singleton] at others
    have all := own.append others
    rw [List.zipIdx_cons, List.flatMap_cons]
    refine ⟨?_, ?_⟩
    · simpa [resume] using all
    · intro other mem
      rcases List.mem_cons.mp mem with rfl | mem
      · exact empty
      · exact nothing other mem

/-- A pass calls the handlers for all packets that wait, in order, and leaves no packet waiting. -/
theorem handlesAll_drainQueues (handled : s.drainQueues = .ok s') :
    HandlesAll s s.unhandled s' ∧ ∀ sink ∈ s'.sinks.sinks, sink.queue = {} := by
  unfold drainQueues at handled
  obtain ⟨⟨core, volume, sinks⟩, drained, handled⟩ := exists_ok_of_bind handled
  cases handled
  have split : s.sinks.sinks = [] ++ s.sinks.sinks := rfl
  exact handlesAll_drainSinks split drained

/-- Timers leave the queues alone. -/
theorem queue_expireOne (now : Tick) (core : Core ω) (volume : φ) (sink : Sink (SinkKind η)) :
    (expireOne now core volume sink).sink.queue = sink.queue := by
  unfold expireOne
  split
  · have expired := Duty.expire_kept (d := ⟨{ sink with timer := Timer.idle }, core, volume⟩)
    exact (expired.trans (Duty.kept_noteFailure _ _ .expiryFailed)).queue
  · rfl

/-- Timers that expire leave all the queues alone. -/
theorem queues_expireSinks (now : Tick) (core : Core ω) (volume : φ)
    (sinks : List (Sink (SinkKind η))) :
    (expireSinks now core volume sinks).2.2.map (·.queue) = sinks.map (·.queue) := by
  induction sinks generalizing core volume with
  | nil => rfl
  | cons sink rest ih =>
    rw [expireSinks_cons, List.map_cons, List.map_cons, queue_expireOne, ih]

/-- Queues that are empty stay so when the timers expire. -/
theorem queues_expireTimers (empty : ∀ sink ∈ s.sinks.sinks, sink.queue = {}) :
    ∀ sink ∈ s.expireTimers.sinks.sinks, sink.queue = {} := by
  have same : s.expireTimers.sinks.sinks.map (·.queue) = s.sinks.sinks.map (·.queue) :=
    queues_expireSinks s.core.now s.core s.volume s.sinks.sinks
  intro sink mem
  have queue : sink.queue ∈ s.expireTimers.sinks.sinks.map (·.queue) := List.mem_map_of_mem mem
  rw [same] at queue
  obtain ⟨old, mem, eq⟩ := List.mem_map.mp queue
  rw [← eq]
  exact empty old mem

/-- **A pass loses no received frame.** It takes at most 64 frames from the device. Each is counted,
and dropped for one counted cause or queued on the first sink that accepts it. All that waits is
then handled once, by the sink for which it waits and in the order of arrival, and when the pass is
over nothing waits. -/
theorem pump_receives (ran : s.pump = .ok s') :
    ∃ frames s₁ s₂,
      Intake receiveBudget { s with core := s.core.serviceParked }.serviceDevice frames s₁ ∧
        frames.length ≤ 64 ∧
        HandlesAll { s₁ with core := s₁.core.flushBacklog } s₁.unhandled s₂ ∧
        (∀ sink ∈ s₂.sinks.sinks, sink.queue = {}) ∧
        s' = s₂.expireTimers ∧
        ∀ sink ∈ s'.sinks.sinks, sink.queue = {} := by
  obtain ⟨frames, intake⟩ := intake_receiveFrames
    { s with core := s.core.serviceParked }.serviceDevice receiveBudget
  rw [pump_eq] at ran
  obtain ⟨s₂, drained, rfl⟩ := handled_eq_ok ran
  obtain ⟨handles, empty⟩ := handlesAll_drainQueues drained
  exact ⟨frames, _, s₂, intake, intake.length_le, handles, empty, rfl, queues_expireTimers empty⟩

end Handled

/-- A stack with an ARP service only, and two frames on the wire to it: an announcement of the
address 192.168.1.9, and a frame for another station. -/
def visited : Stack Bench RamFile RamVolume :=
  let announcement := (ArpMessage.request ⟨2, 0, 0, 0, 0, 9⟩ ⟨192, 168, 1, 9⟩
    ⟨192, 168, 1, 9⟩).packet Mac.broadcast
  let stray := Packet.zeroed Ethernet.minFrameSize
  { core :=
      { device := Bench.device .a ⟨2, 0, 0, 0, 0, 1⟩ none 0, clock := Bench.now
        hw := { wire := { toA := { frames := [announcement.data, stray.data] } } }, config := {}
        iface := InterfaceConfig.unconfigured, mac := ⟨2, 0, 0, 0, 0, 1⟩ }
    volume := {}
    sinks := { sinks := [{ filter := { ethertype := some Ethernet.typeArp }, kind := .arp }] } }

/-- A frame for another station is dropped and counted, and an announcement makes its sender known,
in one pass. -/
theorem pump_receives_announcement :
    ∃ s', visited.pump = .ok s' ∧ s'.core.stats.rxFrames = 2 ∧
      DropCounter.read s'.core.stats .otherStation = 1 ∧ s'.core.arp.size = 1 ∧
      ∀ sink ∈ s'.sinks.sinks, sink.queue = {} := by
  obtain ⟨s', ran, frames, strays, learned⟩ : ∃ s', visited.pump = .ok s' ∧
      s'.core.stats.rxFrames = 2 ∧ DropCounter.read s'.core.stats .otherStation = 1 ∧
      s'.core.arp.size = 1 := ⟨_, rfl, rfl, rfl, rfl⟩
  obtain ⟨-, -, -, -, -, -, -, -, empty⟩ := pump_receives ran
  exact ⟨s', ran, frames, strays, learned, empty⟩

end Stack

end PolledNet
