import PolledNet.Proofs.Core.Addressing

/-!
# Bindings in true time

A clock shows true time only modulo its size, so an entry that has expired reads as expired for half
the tick space, and after that reads as valid again. What keeps the cache right is that it is swept
in time. A diary is `Fresh` since some moment if no valid entry had expired by then; sweeping makes
it fresh since the sweep (`Fresh.later`), and whatever else is done to the core, it stays fresh
since then (`Fresh.run`). As long as less than half the tick space has gone by since, nothing that
is found in the cache was heard longer ago than an entry may live (`Fresh.current`), and no frame
was addressed by anything else.
-/

namespace PolledNet

variable {ω : Type}

/-- The clock shows a true time that never runs backwards. -/
structure TrueTime (device : Device ω) (clock : ω → Tick) (World : (ω → ω) → Prop)
    (time : ω → Nat) : Prop where
  shown (hw : ω) : clock hw = UInt32.ofNat (time hw)
  transmit (frame : Bytes) (hw : ω) : time hw ≤ time (device.transmit frame hw).2
  receive (hw : ω) : time hw ≤ time (device.receive hw).2
  service (hw : ω) : time hw ≤ time (device.service hw)
  world {f : ω → ω} (may : World f) (hw : ω) : time hw ≤ time (f hw)

variable {World : (ω → ω) → Prop} {time : ω → Nat}

namespace TrueTime

variable {device : Device ω} {clock : ω → Tick} (truth : TrueTime device clock World time)

include truth

/-- True time does not run backwards while frames are offered. -/
theorem since {hw hw' : ω} (since : device.Since hw hw') : time hw ≤ time hw' := by
  induction since with
  | refl => exact Nat.le_refl _
  | tail _ step ih =>
    obtain ⟨frame, rfl⟩ := step
    exact Nat.le_trans ih (truth.transmit frame _)

/-- A deadline that was set at one moment and is not reached at another. -/
theorem lt_of_not_reached {set now : ω} {delay : Tick}
    (near : time now < time set + delay.clamped + 2147483648)
    (ahead : Tick.reached (clock now) (Tick.deadline (clock set) delay) = false) :
    time now < time set + delay.clamped := by
  rw [truth.shown, truth.shown] at ahead
  exact Tick.lt_of_not_reached near ahead

end TrueTime

/-- True time for a core. -/
def Core.Timed (World : (ω → ω) → Prop) (time : ω → Nat) (c : Core ω) : Prop :=
  TrueTime c.device c.clock World time

/-- What is true of the clock stays true as long as the setup does. -/
theorem Core.SameSetup.timed {c c' : Core ω} (same : c.SameSetup c') (timed : c.Timed World time) :
    c'.Timed World time := by
  unfold Core.Timed
  rw [same.device, same.clock]
  exact timed

namespace Core

variable {c c' : Core ω}

/-- True time does not run backwards, whatever the hardware does by itself. -/
theorem HardwareStep.time_le {hw : ω} (step : c.HardwareStep World hw)
    (timed : c.Timed World time) : time c.hw ≤ time hw := by
  cases step with
  | receive => exact timed.receive c.hw
  | service => exact timed.service c.hw
  | elapse may => exact timed.world may c.hw

/-- Time never goes backward, whatever happens to the hardware. -/
theorem Moved.time_le {hw : ω} (moved : c.Moved World hw) (timed : c.Timed World time) :
    time c.hw ≤ time hw := by
  cases moved with
  | still => exact Nat.le_refl _
  | offered frame => exact timed.transmit frame c.hw
  | moved step => exact step.time_le timed

/-- **True time goes on**, whatever is done to a core. -/
theorem Leads.time_le (leads : Leads (Act.Within World) c c') (timed : c.Timed World time) :
    time c.hw ≤ time c'.hw := by
  have keeps : c.device.Keeps World fun hw => time c.hw ≤ time hw :=
    ⟨fun frame le => Nat.le_trans le (timed.transmit frame _),
      fun le => Nat.le_trans le (timed.receive _), fun le => Nat.le_trans le (timed.service _),
      fun may le => Nat.le_trans le (timed.world may _)⟩
  exact leads.keeps_hw keeps (Nat.le_refl _)

/-- Time only goes forward with acts of any kind, as long as the world moves only as it may. -/
theorem Leads.time_le_of {Kind : Act ω → Prop} (leads : Leads Kind c c')
    (world : ∀ f, Kind (.elapse f) → World f) (timed : c.Timed World time) :
    time c.hw ≤ time c'.hw := by
  have kept := leads.keeps (fun c' => c.SameSetup c' ∧ time c.hw ≤ time c'.hw) ?_
    ⟨.refl c, Nat.le_refl _⟩
  · exact kept.2
  · rintro c₁ a kind ⟨setup, le⟩
    have timed := setup.timed timed
    refine ⟨setup.trans (sameSetup_act a), Nat.le_trans le ?_⟩
    cases a with
    | count f => exact Nat.le_refl _
    | elapse f => exact timed.world (world f kind) c₁.hw
    | _ => exact Leads.time_le (.one ⟨trivial, nofun⟩) timed

end Core

namespace Diary

variable {d d' : Diary ω}

/-! ## Time goes on -/

/-- Time does not run backwards in a step. -/
theorem Step.time_le (step : Step World d d') (timed : d.core.Timed World time) :
    time d.core.hw ≤ time d'.core.hw := by
  cases step with
  | quiet setup moved => exact moved.time_le timed
  | heard a mac => exact Nat.le_refl _
  | swept => exact Nat.le_refl _
  | given p => exact Nat.le_refl _
  | resolved since hop => exact Nat.le_refl _
  | parked vouched => exact Nat.le_refl _
  | @sent cause reading frame since due => exact timed.since (d.core.since_sendFrame frame)

/-- Time never goes backward in a sequence of steps. -/
theorem Steps.time_le (steps : Steps World d d') (timed : d.core.Timed World time) :
    time d.core.hw ≤ time d'.core.hw := by
  induction steps with
  | refl => exact Nat.le_refl _
  | tail first step ih => exact Nat.le_trans ih (step.time_le ((Steps.sameSetup first).timed timed))

/-! ## Nothing is found too late -/

/-- The frame of a parked packet, or of one whose next hop was known at once, was addressed by what
was heard no longer ago than an entry may live. -/
def Timely (time : ω → Nat) (earlier : List (Deed ω)) : Deed ω → Prop
  | .sent (.known p hop) frame core reading => ∃ mac hw, frame = p.addressedTo mac ∧
      lastHeard earlier hop = some (mac, hw) ∧
        time reading < time hw + core.config.arpTtl.clamped
  | _ => True

/-- Nothing that the cache says, or has said, was heard longer ago than an entry may live. -/
structure Current (time : ω → Nat) (d : Diary ω) : Prop where
  /-- What it says to a packet, or to whoever looks an address up. -/
  found (a : Ipv4) (mac : Mac) (known : d.core.resolution d.core.now a = .hit mac ∨
      d.core.arp.lookup? a d.core.now = some mac) :
    ∃ hw, lastHeard d.deeds a = some (mac, hw) ∧
      time d.core.hw < time hw + d.core.config.arpTtl.clamped
  /-- What it has said. -/
  said : Each (Timely time) d.deeds

/-- No valid entry had expired by `since`. -/
structure Fresh (time : ω → Nat) (since : Nat) (d : Diary ω) : Prop where
  sound : d.Sound
  /-- Now is not earlier. -/
  begun : since ≤ time d.core.hw
  unexpired : ∀ e ∈ d.core.arp.entries, e.state = .valid → ∃ mac hw,
    lastHeard d.deeds e.address = some (mac, hw) ∧ since ≤ time hw + d.core.config.arpTtl.clamped
  said : Each (Timely time) d.deeds

/-- A core of which nothing has been asked yet starts a fresh diary. -/
theorem fresh_new {c : Core ω} (unknown : c.arp = ArpCache.empty) (none : c.parked = []) :
    (⟨c, []⟩ : Diary ω).Fresh time (time c.hw) := by
  refine ⟨sound_new unknown none, Nat.le_refl _, ?_, each_nil⟩
  intro e mem
  rw [unknown] at mem
  cases mem

section Fresh

variable {since : Nat} (fresh : d.Fresh time since) (timed : d.core.Timed World time)

include fresh timed

/-- **An entry that can be relied on was heard in time**, as long as it is not yet half the tick
space since the diary was fresh. -/
theorem Fresh.young {a : Ipv4} {mac : Mac} {reading : ω} {e : ArpEntry}
    (usable : d.core.arp.Usable a mac (d.core.clock reading) e)
    (soon : time reading < since + 2147483648) :
    ∃ hw, lastHeard d.deeds a = some (mac, hw) ∧
      time reading < time hw + d.core.config.arpTtl.clamped := by
  obtain ⟨hw, heard, stamp⟩ := fresh.sound.heard usable
  obtain ⟨_, hw', heard', recent⟩ := fresh.unexpired e usable.listed usable.valid
  rw [usable.address, heard] at heard'
  obtain ⟨rfl, rfl⟩ := heard'
  have ahead := usable.unexpired
  rw [stamp] at ahead
  refine ⟨hw, heard, timed.lt_of_not_reached ?_ ahead⟩
  omega

/-- Nothing that is found in a fresh cache was heard too long ago. -/
theorem Fresh.current (soon : time d.core.hw < since + 2147483648) : d.Current time where
  found a mac known := by
    have usable : ∃ e, d.core.arp.Usable a mac (d.core.clock d.core.hw) e := by
      rcases known with hit | listed
      · exact ArpCache.usable_of_hit hit
      · exact ArpCache.usable_of_lookup? listed
    obtain ⟨e, usable⟩ := usable
    exact fresh.young timed usable soon
  said := fresh.said

/-- **A step keeps a diary fresh**, for less than half the tick space since the moment in question.
-/
theorem Fresh.step (step : Step World d d') (soon : time d'.core.hw < since + 2147483648) :
    d'.Fresh time since := by
  have later : time d.core.hw ≤ time d'.core.hw := step.time_le timed
  refine ⟨fresh.sound.step step, Nat.le_trans fresh.begun later, ?_, ?_⟩
  · intro e mem valid
    rw [step.sameSetup.config]
    obtain ⟨old, same⟩ | ⟨heard, -, -⟩ := step.entry mem valid
    · rw [same]
      exact fresh.unexpired e old valid
    · exact ⟨e.mac, d.core.hw, heard, Nat.le_trans fresh.begun (Nat.le_add_right _ _)⟩
  · apply fresh.said.step step
    · intro a mac hw
      trivial
    · intro p iface
      trivial
    · intro cause reading frame readAt due
      cases cause with
      | asIs => trivial
      | asking hop => trivial
      | direct p iface => trivial
      | known p hop =>
        obtain ⟨-, mac, hit, rfl⟩ := due
        obtain ⟨e, usable⟩ := ArpCache.usable_of_hit hit
        have early : time reading ≤ time d.core.hw := timed.since readAt
        obtain ⟨hw, heard, young⟩ := fresh.young timed usable (by omega)
        exact ⟨mac, hw, rfl, heard, young⟩

/-- So does any sequence of steps. -/
theorem Fresh.steps (steps : Steps World d d') (soon : time d'.core.hw < since + 2147483648) :
    d'.Fresh time since := by
  induction steps with
  | refl => exact fresh
  | tail first step ih =>
    have timed' := (Steps.sameSetup first).timed timed
    have later := step.time_le timed'
    exact (ih (by omega)).step timed' step soon

/-- **A diary that is fresh once no valid entry has expired** by some moment that has come. -/
theorem Fresh.later {now : ω} (come : time now ≤ time d.core.hw)
    (soon : time now < since + 2147483648)
    (unexpired : ∀ e ∈ d.core.arp.entries, e.state = .valid →
      Tick.reached (d.core.clock now) e.stamp = false) : d.Fresh time (time now) := by
  refine ⟨fresh.sound, come, ?_, fresh.said⟩
  intro e mem valid
  obtain ⟨hw, heard, young⟩ := fresh.young timed ⟨mem, rfl, rfl, valid, unexpired e mem valid⟩ soon
  exact ⟨e.mac, hw, heard, Nat.le_of_lt young⟩

end Fresh

/-! ## Runs -/

/-- **A fresh diary stays fresh**, and for less than half the tick space nothing that is found at
any time was heard too long ago. -/
theorem Fresh.run {since : Nat} {acts : List (Act ω)} (fresh : d.Fresh time since)
    (timed : d.core.Timed World time) (within : ∀ a ∈ acts, a.Within World)
    (soon : time (d.run acts).core.hw < since + 2147483648) :
    (d.run acts).Fresh time since ∧ ∀ first, first <+: acts → (d.run first).Current time := by
  refine ⟨fresh.steps timed (fresh.sound.steps_run within) soon, ?_⟩
  rintro first ⟨rest, rfl⟩
  have before : ∀ a ∈ first, a.Within World := fun a mem => within a (List.mem_append_left _ mem)
  have behind : ∀ a ∈ rest, a.Within World := fun a mem => within a (List.mem_append_right _ mem)
  have steps : Steps World d (d.run first) := fresh.sound.steps_run before
  have timed' : (d.run first).core.Timed World time := steps.sameSetup.timed timed
  have later : time (d.run first).core.hw ≤ time (d.run (first ++ rest)).core.hw := by
    rw [run_append]
    exact ((fresh.sound.run before).steps_run behind).time_le timed'
  have early : time (d.run first).core.hw < since + 2147483648 := by omega
  exact (fresh.steps timed steps early).current timed' early

end Diary

end PolledNet
