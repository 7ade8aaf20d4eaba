import PolledNet.Proofs.Core.Uplink

/-!
# What is noted influences nothing

The counters of an interface and its log are written and never read. Two cores that differ in them
alone send the same frames, give the same answers and differ in them alone afterwards
(`ignoresNotes_sendDatagram`).

So a transfer may as well run on an interface that keeps no notes (`Core.quietUplink`): forgetting
the notes leads from the one to the other, whatever it asks (`projects_unnoted`).
-/

namespace PolledNet

/-- A map from the states of one interface to those of another that gives a transfer the same
answers. A transfer sets no addresses. -/
structure Uplink.Projects {σ τ : Type} (up : Uplink σ) (up' : Uplink τ) (f : σ → τ) : Prop where
  now (s : σ) : up'.now (f s) = up.now s
  send (sourcePort : UInt16) (dest : Ipv4) (destPort : UInt16) (content : Bytes) (s : σ) :
    up'.send sourcePort dest destPort content (f s) =
      Prod.map id f (up.send sourcePort dest destPort content s)
  countMalformed (s : σ) : up'.countMalformed (f s) = f (up.countMalformed s)
  tell (e : Event) (s : σ) : up'.tell e (f s) = f (up.tell e s)

namespace Core

variable {ω α : Type}

/-- The core without what was counted and told. -/
def unnoted (c : Core ω) : Core ω := { c with stats := {}, log := [] }

/-- The device is no note. -/
@[simp] theorem device_unnoted (c : Core ω) : c.unnoted.device = c.device := rfl

/-- The hardware is not among the notes. -/
@[simp] theorem hw_unnoted (c : Core ω) : c.unnoted.hw = c.hw := rfl

/-- The addresses of the station are not among the notes. -/
@[simp] theorem iface_unnoted (c : Core ω) : c.unnoted.iface = c.iface := rfl

/-- What is done depends on the notes of a core neither in its answer nor in anything it leaves but
the notes. -/
def IgnoresNotes (act : Core ω → α × Core ω) : Prop :=
  ∀ c : Core ω, (act c.unnoted).1 = (act c).1 ∧ (act c.unnoted).2.unnoted = (act c).2.unnoted

/-- Cores that differ in their notes alone do so after what ignores the notes. -/
theorem IgnoresNotes.alike {act : Core ω → α × Core ω} (ignores : IgnoresNotes act) (c c' : Core ω)
    (same : c.unnoted = c'.unnoted) :
    (act c).1 = (act c').1 ∧ (act c).2.unnoted = (act c').2.unnoted := by
  have left := ignores c
  have right := ignores c'
  rw [same] at left
  exact ⟨left.1.symm.trans right.1, left.2.symm.trans right.2⟩

/-! ## Frames -/

/-- A frame waits or is turned away whatever was noted. -/
theorem ignoresNotes_enqueue (p : Packet) : IgnoresNotes fun c : Core ω => c.enqueue p := by
  intro c
  dsimp only [enqueue]
  by_cases room : c.backlog.length < c.backlogLimit
  · have room' : c.unnoted.backlog.length < c.unnoted.backlogLimit := room
    rw [if_pos room, if_pos room']
    exact ⟨rfl, rfl⟩
  · have room' : ¬ c.unnoted.backlog.length < c.unnoted.backlogLimit := room
    rw [if_neg room, if_neg room']
    exact ⟨rfl, rfl⟩

/-- A frame is handed to the device whatever was noted. -/
theorem ignoresNotes_handOver (p : Packet) : IgnoresNotes fun c : Core ω => c.handOver p := by
  intro c
  simp only [handOver, device_unnoted, hw_unnoted]
  split <;> exact ⟨rfl, rfl⟩

/-- A frame that the device does not take waits or is refused, whatever was noted. -/
theorem ignoresNotes_sendFrame (p : Packet) : IgnoresNotes fun c : Core ω => c.sendFrame p := by
  intro c
  have handed := ignoresNotes_handOver p.padded c
  dsimp only [sendFrame] at handed ⊢
  by_cases free : (c.backlog.isEmpty && c.device.canTransmit c.hw) = true
  · have free' : (c.unnoted.backlog.isEmpty && c.unnoted.device.canTransmit c.unnoted.hw) = true :=
      free
    rw [if_pos free, if_pos free']
    generalize c.unnoted.handOver p.padded = r, c.handOver p.padded = r' at handed
    obtain ⟨answer, d⟩ := r
    obtain ⟨answer', d'⟩ := r'
    obtain ⟨rfl, same⟩ := handed
    cases answer with
    | ok => exact ⟨rfl, same⟩
    | error e =>
      dsimp only
      split
      · exact (ignoresNotes_enqueue p.padded).alike d d' same
      · exact ⟨rfl, same⟩
  · have free' :
        ¬ (c.unnoted.backlog.isEmpty && c.unnoted.device.canTransmit c.unnoted.hw) = true := free
    rw [if_neg free, if_neg free']
    exact ignoresNotes_enqueue p.padded c

/-! ## Packets -/

/-- An address is asked for whatever was noted. -/
theorem ignoresNotes_sendArpRequest (target : Ipv4) :
    IgnoresNotes fun c : Core ω => c.sendArpRequest target :=
  fun c => (ignoresNotes_sendFrame _).alike (c.unnoted.tell _) (c.tell _) rfl

/-- What becomes of a packet does not depend on the notes, once the state of its next hop is known.
-/
theorem ignoresNotes_settle (p : Packet) (hop : Ipv4) (resolution : Resolution)
    (failed : Except NetError Unit) :
    IgnoresNotes fun c : Core ω => c.settle p hop resolution failed := by
  intro c
  cases resolution with
  | hit mac => exact ignoresNotes_sendFrame _ c
  | sendRequest =>
    exact (ignoresNotes_sendArpRequest hop).alike (c.unnoted.park p) (c.park p) rfl
  | wait => exact ⟨rfl, rfl⟩
  | fail => exact ⟨rfl, rfl⟩

/-- Nor does it for a packet that is sent by way of its next hop. -/
theorem ignoresNotes_sendVia (p : Packet) (hop : Ipv4) :
    IgnoresNotes fun c : Core ω => c.sendVia p hop :=
  fun c => (ignoresNotes_settle p hop _ _).alike
    (c.unnoted.advanceResolution c.now hop).2 (c.advanceResolution c.now hop).2 rfl

/-- Transmitting a packet ignores the notes. -/
theorem ignoresNotes_transmitIpv4 (p : Packet) :
    IgnoresNotes fun c : Core ω => c.transmitIpv4 p := by
  intro c
  simp only [transmitIpv4_eq, iface_unnoted]
  split
  · exact ⟨rfl, rfl⟩
  · exact ⟨rfl, rfl⟩
  · exact ignoresNotes_sendFrame _ c
  · exact ignoresNotes_sendVia _ _ c

/-- **A datagram is sent the same, whatever was noted.** -/
theorem ignoresNotes_sendDatagram (sourcePort : UInt16) (dest : Ipv4) (destPort : UInt16)
    (content : Bytes) :
    IgnoresNotes fun c : Core ω => c.sendDatagram sourcePort dest destPort content :=
  fun c => (ignoresNotes_transmitIpv4 _).alike
    (c.unnoted.datagram sourcePort dest destPort content).2
    (c.datagram sourcePort dest destPort content).2 rfl

/-! ## Clients -/

/-- The core as clients see it, without notes. -/
def quietUplink (ω : Type) : Uplink (Core ω) where
  now := now
  send sourcePort dest destPort content c :=
    Prod.map id unnoted (c.sendDatagram sourcePort dest destPort content)
  configure iface c := c.configure iface
  countMalformed c := c
  tell _ c := c

/-- **What a transfer asks is answered the same without notes.** -/
theorem projects_unnoted : (uplink ω).Projects (quietUplink ω) unnoted where
  now _ := rfl
  send sourcePort dest destPort content c := by
    obtain ⟨answer, left⟩ := ignoresNotes_sendDatagram sourcePort dest destPort content c
    dsimp only [quietUplink, uplink, Prod.map] at answer left ⊢
    rw [answer, left]
  countMalformed _ := rfl
  tell _ _ := rfl

end Core

end PolledNet
