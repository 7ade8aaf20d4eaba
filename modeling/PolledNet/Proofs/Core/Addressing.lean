import PolledNet.Proofs.Core.Diary

/-!
# The station a frame is addressed to

The hardware address of a next hop is looked up twice: when a packet is given to the core, and when
a pass takes it up again. In between, its entry may have expired, been asked for again, or been
replaced. A diary is `Sound` if, at every moment,

* every valid binding is the one that was heard last of its address, and expires when that was said;
* every parked packet came from one that was given to the core, and still names the next hop that
  the addresses of the interface then led to;
* every frame that was sent had its reason at that time (`Founded`): in particular a routed frame
  for a next hop names the station that was heard last of this hop, by an entry that was valid and
  not expired when the clock was read.

Each step keeps this (`Sound.step`), so each run does (`Sound.run`).
-/

namespace PolledNet

namespace Diary

variable {ω : Type}

/-! ## What was heard last -/

/-- What an entry says about the binding of an address, if what was heard before is `last`. -/
def hear (a : Ipv4) (last : Option (Mac × ω)) : Deed ω → Option (Mac × ω)
  | .heard b mac hw => if b = a then some (mac, hw) else last
  | .given .. | .sent .. => last

/-- The binding of an address that was heard last, with the hardware as it then was. -/
def lastHeard (deeds : List (Deed ω)) (a : Ipv4) : Option (Mac × ω) := deeds.foldl (hear a) none

/-- What was heard last is known after one more entry if it was known before it. -/
theorem lastHeard_concat (deeds : List (Deed ω)) (deed : Deed ω) (a : Ipv4) :
    lastHeard (deeds ++ [deed]) a = hear a (lastHeard deeds a) deed := by
  rw [lastHeard, List.foldl_append]
  rfl

/-- An entry holds what was heard last of its address, until the time that follows from it. -/
def Learned (d : Diary ω) (e : ArpEntry) : Prop :=
  ∃ hw, lastHeard d.deeds e.address = some (e.mac, hw) ∧
    e.stamp = Tick.deadline (d.core.clock hw) d.core.config.arpTtl

/-! ## Entries of a diary -/

/-- An entry that stands behind the `earlier` ones has its reason. -/
def Founded (earlier : List (Deed ω)) : Deed ω → Prop
  | .heard .. | .given .. => True
  | .sent cause frame core reading => core.device.Since reading core.hw ∧
      match cause with
      | .asIs => True
      | .asking hop =>
        frame = (ArpMessage.request core.mac core.iface.address hop).packet Mac.broadcast
      | .direct p iface => .given p iface ∈ earlier ∧ p.disposition iface = .send frame
      | .known p hop => Vouched earlier p hop ∧ ∃ mac e hw,
          frame = p.addressedTo mac ∧ core.arp.Usable hop mac (core.clock reading) e ∧
            lastHeard earlier hop = some (mac, hw) ∧
              e.stamp = Tick.deadline (core.clock hw) core.config.arpTtl

/-- Each entry fits what stands before it. -/
def Each (Fits : List (Deed ω) → Deed ω → Prop) (deeds : List (Deed ω)) : Prop :=
  ∀ before deed after, deeds = before ++ deed :: after → Fits before deed

section Each

variable {Fits : List (Deed ω) → Deed ω → Prop}

/-- A diary without entries has none that does not fit. -/
theorem each_nil : Each Fits ([] : List (Deed ω)) := by
  intro before deed after eq
  exact absurd eq.symm (List.append_ne_nil_of_right_ne_nil _ (List.cons_ne_nil _ _))

/-- A diary goes on with an entry that fits what stands before. -/
theorem Each.concat {deeds : List (Deed ω)} {deed : Deed ω} (each : Each Fits deeds)
    (last : Fits deeds deed) : Each Fits (deeds ++ [deed]) := by
  intro before x after eq
  rcases List.eq_nil_or_concat after with rfl | ⟨rest, y, rfl⟩
  · obtain ⟨rfl, same⟩ := List.append_inj' eq rfl
    rw [← List.head_eq_of_cons_eq same]
    exact last
  · rw [List.concat_eq_append, ← List.cons_append, ← List.append_assoc] at eq
    obtain ⟨rfl, -⟩ := List.append_inj' eq rfl
    exact each before x rest rfl

/-- What is asked of the entries that record a frame is asked of nothing else that a step adds. -/
theorem Each.step {World : (ω → ω) → Prop} {d d' : Diary ω} (each : Each Fits d.deeds)
    (step : Step World d d') (heard : ∀ a mac hw, Fits d.deeds (.heard a mac hw))
    (given : ∀ p iface, Fits d.deeds (.given p iface))
    (sent : ∀ cause reading frame, d.core.device.Since reading d.core.hw →
      d.Due (d.core.clock reading) cause frame → Fits d.deeds (.sent cause frame d.core reading)) :
    Each Fits d'.deeds := by
  cases step with
  | quiet => exact each
  | heard a mac => exact each.concat (heard a mac d.core.hw)
  | swept => exact each
  | given p => exact each.concat (given p d.core.iface)
  | resolved => exact each
  | parked => exact each
  | sent cause since due => exact each.concat (sent cause _ _ since due)

end Each

/-! ## Soundness -/

/-- Bindings, parked packets and frames are what was heard and given. -/
structure Sound (d : Diary ω) : Prop where
  learned : ∀ e ∈ d.core.arp.entries, e.state = .valid → d.Learned e
  vouched : AllVouched d.deeds d.core.parked
  founded : Each Founded d.deeds

variable {World : (ω → ω) → Prop} {d d' : Diary ω}

/-- A core of which nothing has been asked yet starts a sound diary. -/
theorem sound_new {c : Core ω} (unknown : c.arp = ArpCache.empty) (none : c.parked = []) :
    (⟨c, []⟩ : Diary ω).Sound := by
  refine ⟨fun e mem => ?_, fun p mem => ?_, each_nil⟩
  · rw [unknown] at mem
    cases mem
  · rw [none] at mem
    cases mem

/-- **Where a valid entry comes from.** It was there before and nothing else was heard of its
address, or this step has learned it. -/
theorem Step.entry (step : Step World d d') {e : ArpEntry} (mem : e ∈ d'.core.arp.entries)
    (valid : e.state = .valid) :
    (e ∈ d.core.arp.entries ∧ lastHeard d'.deeds e.address = lastHeard d.deeds e.address) ∨
      (lastHeard d'.deeds e.address = some (e.mac, d.core.hw) ∧
        e.stamp = Tick.deadline d.core.now d.core.config.arpTtl ∧ d'.core.hw = d.core.hw) := by
  cases step with
  | quiet setup moved arp parked =>
    rw [show e ∈ _ ↔ e ∈ d.core.arp.entries from by rw [← arp]] at mem
    exact .inl ⟨mem, rfl⟩
  | heard a mac =>
    have heard : lastHeard (d.note (.heard a mac d.core.hw)).deeds e.address =
        hear e.address (lastHeard d.deeds e.address) (.heard a mac d.core.hw) :=
      lastHeard_concat _ _ _
    obtain rfl | ⟨old, other⟩ := ArpCache.mem_insert mem
    · exact .inr ⟨heard.trans (if_pos rfl), rfl, rfl⟩
    · exact .inl ⟨old, heard.trans (if_neg (Ne.symm other))⟩
  | swept => exact .inl ⟨(List.mem_filter.mp mem).1, rfl⟩
  | given p => exact .inl ⟨mem, lastHeard_concat _ _ _⟩
  | resolved since hop => exact .inl ⟨ArpCache.mem_of_mem_resolve mem valid, rfl⟩
  | parked vouched => exact .inl ⟨mem, rfl⟩
  | @sent cause reading frame since due =>
    have kept := (d.core.sendFrame_sent frame).arp
    exact .inl ⟨kept ▸ mem, lastHeard_concat _ _ _⟩

/-- A binding that is found is the one heard last. -/
theorem Sound.heard (sound : d.Sound) {hop : Ipv4} {mac : Mac} {now : Tick} {e : ArpEntry}
    (usable : d.core.arp.Usable hop mac now e) :
    ∃ hw, lastHeard d.deeds hop = some (mac, hw) ∧
      e.stamp = Tick.deadline (d.core.clock hw) d.core.config.arpTtl := by
  have learned := sound.learned e usable.listed usable.valid
  rwa [Learned, usable.address, usable.mac] at learned

/-- What is due has its reason. -/
theorem Sound.founded_of_due (sound : d.Sound) {cause : Cause} {reading : ω} {frame : Packet}
    (since : d.core.device.Since reading d.core.hw)
    (due : d.Due (d.core.clock reading) cause frame) :
    Founded d.deeds (.sent cause frame d.core reading) := by
  refine ⟨since, ?_⟩
  cases cause with
  | asIs => trivial
  | asking hop => exact due
  | direct p iface => exact due
  | known p hop =>
    obtain ⟨vouched, mac, hit, rfl⟩ := due
    obtain ⟨e, usable⟩ := ArpCache.usable_of_hit hit
    obtain ⟨hw, heard, stamp⟩ := sound.heard usable
    exact ⟨vouched, mac, e, hw, rfl, usable, heard, stamp⟩

/-- **Each step keeps a diary sound.** -/
theorem Sound.step (sound : d.Sound) (step : Step World d d') : d'.Sound := by
  have setup := step.sameSetup
  refine ⟨fun e mem valid => ?_, ?_, ?_⟩
  · obtain ⟨old, same⟩ | ⟨heard, stamp, -⟩ := step.entry mem valid
    · obtain ⟨hw, heard, stamp⟩ := sound.learned e old valid
      refine ⟨hw, same.trans heard, ?_⟩
      rw [stamp, setup.clock, setup.config]
    · refine ⟨d.core.hw, heard, ?_⟩
      rw [stamp, setup.clock, setup.config]
      rfl
  · have kept : AllVouched d'.deeds d.core.parked :=
      fun p mem hop next => (sound.vouched p mem hop next).mono step.deeds
    cases step with
    | quiet _ _ _ parked => exact fun p mem => kept p (parked mem)
    | heard a mac => exact kept
    | swept => exact kept
    | given p => exact kept
    | resolved since hop => exact kept
    | @parked p hop vouched =>
      intro q mem hop' next
      obtain old | new := List.mem_append.mp mem
      · exact kept q old hop' next
      · obtain rfl := List.mem_singleton.mp new
        obtain ⟨_, _, -, resolves⟩ := id vouched
        have named := (Packet.nextHop_of_resolve resolves).symm.trans next
        exact Option.some.inj named ▸ vouched
    | @sent cause reading frame since due =>
      have same : (d.sendFrame cause reading frame).core.parked = d.core.parked :=
        (d.core.sendFrame_sent frame).parked
      rw [same]
      exact kept
  · exact sound.founded.step step (fun _ _ _ => trivial) (fun _ _ => trivial)
      fun _ _ _ since due => sound.founded_of_due since due

/-- A diary stays sound in any sequence of steps. -/
theorem Sound.steps (sound : d.Sound) (steps : Steps World d d') : d'.Sound := by
  induction steps with
  | refl => exact sound
  | tail _ step ih => exact ih.step step

/-- A diary stays sound in an act, which is made of steps. -/
theorem Sound.act (sound : d.Sound) {a : Act ω} (within : a.Within World) : (d.act a).Sound :=
  sound.steps (steps_act within sound.vouched)

/-- What acts do to a sound diary is made of steps. -/
theorem Sound.steps_run {acts : List (Act ω)} (sound : d.Sound)
    (within : ∀ a ∈ acts, a.Within World) : Steps World d (d.run acts) := by
  induction acts generalizing d with
  | nil => exact .refl
  | cons a rest ih =>
    have first := within a List.mem_cons_self
    have others := ih (sound.act first) fun b mem => within b (List.mem_cons_of_mem a mem)
    exact (steps_act first sound.vouched).andThen others

/-- **A sound diary stays sound**, whatever is done to the core. -/
theorem Sound.run {acts : List (Act ω)} (sound : d.Sound)
    (within : ∀ a ∈ acts, a.Within World) : (d.run acts).Sound :=
  sound.steps (sound.steps_run within)

/-! ## Frames that are sent as they are -/

section AsIs

variable {frame : Packet} {core : Core ω} {reading : ω}

/-- A packet that goes by way of its next hop is not sent as it is. -/
theorem asIs_not_mem_settle (c : Core ω) (p : Packet) (hop : Ipv4) (resolution : Resolution)
    (failed : Except NetError Unit) (now : ω) :
    .sent .asIs frame core reading ∉
      (c.settleErrand p hop resolution failed).1.deeds
        (c.settleErrand p hop resolution failed).2 now := by
  cases resolution <;> simp [Core.settleErrand, Core.arpErrand, Errand.deeds]

/-- A packet that is given to the core is not sent as it is. -/
theorem asIs_not_mem_transmit (c : Core ω) (p : Packet) (now : ω) :
    .sent .asIs frame core reading ∉ (c.transmitErrand p).1.deeds (c.transmitErrand p).2 now := by
  unfold Core.transmitErrand
  cases p.disposition c.iface with
  | resolve hop q => exact asIs_not_mem_settle _ q hop _ _ now
  | _ => simp [Errand.deeds]

/-- A packet that was parked is not sent as it is. -/
theorem asIs_not_mem_retry (now : Tick) (shown : ω) (c : Core ω) (failed : List Ipv4) (p : Packet) :
    .sent .asIs frame core reading ∉ c.retryDeeds now shown failed p := by
  unfold Core.retryDeeds
  cases p.nextHop with
  | none => exact List.not_mem_nil
  | some hop =>
    dsimp only
    unfold Core.retryErrand
    split
    · exact List.not_mem_nil
    · exact asIs_not_mem_settle _ p hop _ _ shown

/-- A pass over the parked packets sends none as it is. -/
theorem asIs_not_mem_pass (now : Tick) (shown : ω) (c : Core ω) (failed : List Ipv4)
    (packets : List Packet) :
    .sent .asIs frame core reading ∉ c.passDeeds now shown failed packets := by
  induction packets generalizing c failed with
  | nil => exact List.not_mem_nil
  | cons p rest ih =>
    rw [Core.passDeeds, List.mem_append]
    exact not_or_intro (asIs_not_mem_retry now shown c failed p) (ih _ _)

/-- **Only who sends a frame as it is has it sent as it is.** -/
theorem eq_sendFrame_of_asIs (c : Core ω) {a : Act ω}
    (mem : .sent .asIs frame core reading ∈ c.deeds a) : a = .sendFrame frame := by
  cases a with
  | sendFrame p =>
    cases List.mem_singleton.mp mem
    rfl
  | transmit p =>
    rcases List.mem_cons.mp mem with same | mem
    · cases same
    · exact absurd mem (asIs_not_mem_transmit c p c.hw)
  | retry => exact absurd mem (asIs_not_mem_pass _ _ _ _ _)
  | learn a mac => cases List.mem_singleton.mp mem
  | _ => cases mem

/-- A frame that is sent as it is in a run was given to one of its acts. -/
theorem sendFrame_mem_of_asIs {acts : List (Act ω)}
    (mem : .sent .asIs frame core reading ∈ (d.run acts).deeds) :
    .sent .asIs frame core reading ∈ d.deeds ∨ .sendFrame frame ∈ acts := by
  induction acts generalizing d with
  | nil => exact .inl mem
  | cons a rest ih =>
    rcases ih mem with before | later
    · rcases List.mem_append.mp before with before | now
      · exact .inl before
      · exact .inr (eq_sendFrame_of_asIs d.core now ▸ List.mem_cons_self)
    · exact .inr (List.mem_cons_of_mem a later)

end AsIs

end Diary

end PolledNet
