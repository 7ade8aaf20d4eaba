import PolledNet.Core.Transmit
import PolledNet.Proofs.Computations

/-!
# What comes of sending

A frame that is sent is taken by the device, waits behind others, or is lost, and nothing else comes
of it (`sendFrame_sent`); `sendFrame_dispatched` says when. Only in the last case the sender is told
of an error. A pass over parked packets deals with one after the other, and does one of three things
with each (`retried_retryOne`).
-/

namespace PolledNet

namespace Core

variable {ω : Type} {c : Core ω} {p : Packet}

/-- What resolving a next hop would say at `now`. -/
def resolution (c : Core ω) (now : Tick) (hop : Ipv4) : Resolution :=
  (c.arp.resolve hop now c.config.arpRetryInterval).1

/-- The hardware after the device has been offered a frame and has not taken it, or has not been
offered it at all. -/
def NotTaken (c : Core ω) (p : Packet) (hw : ω) : Prop :=
  hw = c.hw ∨ ∃ e, c.device.transmit p.padded.data c.hw = (.error e, hw)

/-- The hardware after a frame has been turned away for now: others wait, the device has no room, or
it says that the frame may be taken later. -/
def TurnedAway (c : Core ω) (p : Packet) (hw : ω) : Prop :=
  (hw = c.hw ∧ (c.backlog ≠ [] ∨ c.device.canTransmit c.hw = false)) ∨
    (c.backlog = [] ∧ c.device.canTransmit c.hw = true ∧
      ∃ e, e.isTransient = true ∧ c.device.transmit p.padded.data c.hw = (.error e, hw))

/-- What comes of sending a frame, and when: the answer and the core after it. -/
inductive Dispatched (c : Core ω) (p : Packet) : Except NetError Unit → Core ω → Prop where
  /-- The device takes it. -/
  | taken {hw : ω} (idle : c.backlog = []) (room : c.device.canTransmit c.hw = true)
      (took : c.device.transmit p.padded.data c.hw = (.ok (), hw)) :
      Dispatched c p (.ok ())
        ({ c with hw }.count fun s => { s with txFrames := s.txFrames + 1 })
  /-- The device refuses it for good. -/
  | barred {hw : ω} {e : TransmitError} (idle : c.backlog = [])
      (room : c.device.canTransmit c.hw = true)
      (refusal : c.device.transmit p.padded.data c.hw = (.error e, hw))
      (permanent : e.isTransient = false) :
      Dispatched c p (.error (.transmit e)) { c with hw }
  /-- It waits. -/
  | waits {hw : ω} (turned : c.TurnedAway p hw) (space : c.backlog.length < c.backlogLimit) :
      Dispatched c p (.ok ()) ({ c with hw, backlog := c.backlog ++ [p.padded] }.count fun s =>
        { s with txBacklogged := s.txBacklogged + 1 })
  /-- It would wait, but there is no space left. -/
  | crowded {hw : ω} (turned : c.TurnedAway p hw) (full : c.backlogLimit ≤ c.backlog.length) :
      Dispatched c p (.error .backlogFull) ({ c with hw }.count fun s =>
        { s with txBacklogDrops := s.txBacklogDrops + 1 })

/-- A frame that is turned away waits, unless there is no space left. -/
theorem dispatched_enqueue {hw : ω} (turned : c.TurnedAway p hw) :
    Dispatched c p ({ c with hw }.enqueue p.padded).1 ({ c with hw }.enqueue p.padded).2 := by
  unfold enqueue
  split
  · rename_i space
    exact .waits turned space
  · rename_i full
    exact .crowded turned (Nat.le_of_not_lt full)

/-- **There are no other outcomes.** -/
theorem sendFrame_dispatched (c : Core ω) (p : Packet) :
    Dispatched c p (c.sendFrame p).1 (c.sendFrame p).2 := by
  unfold sendFrame handOver
  dsimp only
  split
  · rename_i open_
    rw [Bool.and_eq_true, List.isEmpty_iff] at open_
    obtain ⟨idle, room⟩ := open_
    split
    · rename_i answered
      split at answered <;> cases answered
      rename_i took
      exact .taken idle room took
    · rename_i answered
      split at answered <;> cases answered
      rename_i refusal
      split
      · rename_i transient
        exact dispatched_enqueue (.inr ⟨idle, room, _, transient, refusal⟩)
      · rename_i permanent
        exact .barred idle room refusal (by simpa using permanent)
  · rename_i shut
    rw [Bool.and_eq_true, List.isEmpty_iff] at shut
    refine dispatched_enqueue (.inl ⟨rfl, ?_⟩)
    by_cases idle : c.backlog = []
    · exact .inr (Bool.eq_false_iff.mpr fun room => shut ⟨idle, room⟩)
    · exact .inl idle

/-- What comes of sending a frame: the answer and the core after it. -/
inductive Sent (c : Core ω) (p : Packet) : Except NetError Unit → Core ω → Prop where
  /-- The device takes it. -/
  | taken (hw : ω) (stats : Stats)
      (taken : c.device.transmit p.padded.data c.hw = (.ok (), hw)) :
      Sent c p (.ok ()) { c with hw, stats }
  /-- It waits. -/
  | waits (hw : ω) (stats : Stats) (notTaken : c.NotTaken p hw) :
      Sent c p (.ok ()) { c with hw, stats, backlog := c.backlog ++ [p.padded] }
  /-- It is lost. -/
  | lost (hw : ω) (stats : Stats) (notTaken : c.NotTaken p hw) (e : NetError) :
      Sent c p (.error e) { c with hw, stats }

/-- What is turned away for now is not taken. -/
theorem TurnedAway.notTaken {hw : ω} (turned : c.TurnedAway p hw) : c.NotTaken p hw := by
  rcases turned with ⟨same, -⟩ | ⟨-, -, e, -, refusal⟩
  · exact .inl same
  · exact .inr ⟨e, refusal⟩

/-- **A frame is taken, waits, or is lost.** -/
theorem sendFrame_sent (c : Core ω) (p : Packet) :
    Sent c p (c.sendFrame p).1 (c.sendFrame p).2 := by
  have dispatched := c.sendFrame_dispatched p
  generalize (c.sendFrame p).1 = answer, (c.sendFrame p).2 = c' at dispatched
  cases dispatched with
  | taken idle room took => exact .taken _ _ took
  | @barred hw e idle room refusal permanent =>
    exact .lost hw c.stats (.inr ⟨e, refusal⟩) (.transmit e)
  | waits turned space => exact .waits _ _ turned.notTaken
  | crowded turned full => exact .lost _ _ turned.notTaken .backlogFull

/-- A packet that is given to the core is routed if it is an IPv4 packet, and else sent as it is. -/
theorem transmit_cases {c c' : Core ω} {p : Packet} {answer : Except NetError Unit}
    (sent : c.transmit p = .ok (answer, c')) :
    c.transmitIpv4 p = (answer, c') ∨ c.sendFrame p = (answer, c') := by
  unfold transmit at sent
  obtain ⟨ethertype, -, sent⟩ := exists_ok_of_bind sent
  change Except.ok (if ethertype = Ethernet.typeIpv4 then c.transmitIpv4 p else c.sendFrame p) =
    .ok (answer, c') at sent
  rw [Except.ok.injEq] at sent
  split at sent
  · exact .inl sent
  · exact .inr sent

/-- An IPv4 packet is routed, and so it has an answer. -/
theorem transmit_of_ipv4 (c : Core ω) {p : Packet} (ipv4 : p.ethertype? = .ok Ethernet.typeIpv4) :
    c.transmit p = .ok (c.transmitIpv4 p) := by
  unfold transmit
  rw [ipv4]
  exact congrArg Except.ok (if_pos rfl)

/-- A packet that goes to the device is sent as a frame. -/
theorem transmitIpv4_of_send {c : Core ω} {p q : Packet}
    (leaves : p.disposition c.iface = .send q) : c.transmitIpv4 p = c.sendFrame q := by
  rw [transmitIpv4_eq, leaves]

/-! ## What sending leaves alone -/

/-- Sending leaves the parked packets alone. -/
theorem Sent.parked {answer : Except NetError Unit} {c' : Core ω} (sent : Sent c p answer c') :
    c'.parked = c.parked := by cases sent <;> rfl

/-- Sending leaves the address bindings alone. -/
theorem Sent.arp {answer : Except NetError Unit} {c' : Core ω} (sent : Sent c p answer c') :
    c'.arp = c.arp := by cases sent <;> rfl

/-- Sending tells the operator nothing. -/
theorem Sent.log {answer : Except NetError Unit} {c' : Core ω} (sent : Sent c p answer c') :
    c'.log = c.log := by cases sent <;> rfl

/-- Sending leaves the tunables alone. -/
theorem Sent.config {answer : Except NetError Unit} {c' : Core ω} (sent : Sent c p answer c') :
    c'.config = c.config := by cases sent <;> rfl

/-! ## One packet of a pass -/

/-- The core after a packet has been retried by way of its next hop. -/
def retryVia (c : Core ω) (now : Tick) (p : Packet) (hop : Ipv4) : Core ω :=
  ((c.advanceResolution now hop).2.settle p hop (c.resolution now hop) (.ok ())).2

/-- What a pass does with one packet: the core, and the hops given up so far, after it. -/
inductive Retried (now : Tick) (c : Core ω) (failed : List Ipv4) (p : Packet) :
    Core ω → List Ipv4 → Prop where
  /-- A packet without a next hop is dropped. -/
  | aimless (next : p.nextHop = none) : Retried now c failed p c failed
  /-- So is one whose next hop was given up in this pass. -/
  | dropped {hop : Ipv4} (next : p.nextHop = some hop) (gone : hop ∈ failed) :
      Retried now c failed p c.countUnanswered failed
  /-- Any other is retried, and the operator may be told that it could not be sent. -/
  | retried {hop : Ipv4} {c' : Core ω} (next : p.nextHop = some hop) (hope : hop ∉ failed)
      (told : c' = c.retryVia now p hop ∨
        ∃ e, c' = (c.retryVia now p hop).tell (.arp (.sendFailed hop e))) :
      Retried now c failed p c' (if c.resolution now hop = .fail then hop :: failed else failed)

/-- **A pass takes one such step for each packet.** -/
theorem retried_retryOne (c : Core ω) (now : Tick) (failed : List Ipv4) (p : Packet) :
    Retried now c failed p (c.retryOne now failed p).1 (c.retryOne now failed p).2 := by
  unfold retryOne retryErrand
  split
  · rename_i next
    exact .aimless next
  · rename_i hop next
    by_cases gone : failed.contains hop = true
    · rw [if_pos gone]
      exact .dropped next (List.contains_iff_mem.mp gone)
    · rw [if_neg gone]
      have hope : hop ∉ failed := fun mem => gone (List.contains_iff_mem.mpr mem)
      have retried : c.retryVia now p hop =
          ((c.advanceResolution now hop).2.settle p hop (c.resolution now hop) (.ok ())).2 := rfl
      unfold settle at retried
      dsimp only at retried ⊢
      split <;> rename_i answered <;> rw [show (c.advanceResolution now hop).1 =
        c.resolution now hop from rfl] at answered <;> rw [answered] at retried
      · exact .retried next hope (.inl retried.symm)
      · exact .retried next hope (.inr ⟨_, by rw [retried]⟩)

/-- A pass retries one packet after the other. -/
theorem retryParked_cons (now : Tick) (c : Core ω) (failed : List Ipv4) (p : Packet)
    (rest : List Packet) :
    ∃ c' failed', Retried now c failed p c' failed' ∧
      retryParked now c failed (p :: rest) = retryParked now c' failed' rest :=
  ⟨_, _, c.retried_retryOne now failed p, rfl⟩

end Core

end PolledNet
