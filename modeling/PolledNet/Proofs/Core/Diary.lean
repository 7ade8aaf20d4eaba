import PolledNet.Proofs.Arp.Cache
import PolledNet.Proofs.Core.Routing
import PolledNet.Proofs.Core.Silence

/-!
# A core that keeps a diary

What becomes of a packet is decided over a long time: when it is given to the core, and again with
every pass for as long as it is parked. To say afterwards where a frame comes from, a `Diary` puts
down, beside the core, the address bindings that were heard, the packets that were given to the core
with the addresses it then had, and every frame that was given to the outlet, with the reason why.

Keeping it does not change the core (`core_run`): what is put down about an act is read off the
errands that the core is left with, which are what it then does (`Core.deeds`). What can happen to a
core and its diary is said once, by `Diary.Step`: **a packet is parked, and the frame of a packet is
sent to a known station, only if the packet was once given to the core**, and the binding was there
when the clock was read (`steps_act`). The frames that are put down are those that passed the outlet
(`Steps.traffic`).
-/

namespace PolledNet

variable {ω : Type}

/-- An entry of a diary. -/
inductive Deed (ω : Type) where
  /-- A binding was heard, the hardware being as it was. -/
  | heard (a : Ipv4) (mac : Mac) (hw : ω)
  /-- An IPv4 packet was given to the core, the interface having these addresses. -/
  | given (p : Packet) (iface : InterfaceConfig)
  /-- A frame was given to the outlet of the core; for this the clock had been read, perhaps a
  little earlier. -/
  | sent (cause : Cause) (frame : Packet) (core : Core ω) (reading : ω)

/-- The frame that an entry is about. -/
def Deed.frame? : Deed ω → Option Packet
  | .heard .. | .given .. => none
  | .sent _ frame _ _ => some frame

/-- What is put down about an errand that a core does, the clock having been read. -/
def Errand.deeds (core : Core ω) (reading : ω) : Errand → List (Deed ω)
  | .answer _ => []
  | .send cause frame => [.sent cause frame core reading]

namespace Core

/-- What is put down about one packet of a pass. -/
def retryDeeds (now : Tick) (reading : ω) (c : Core ω) (failed : List Ipv4) (p : Packet) :
    List (Deed ω) :=
  match p.nextHop with
  | none => []
  | some hop =>
    let (errand, c, _) := c.retryErrand now failed p hop
    errand.deeds c reading

/-- What is put down about a pass over parked packets. -/
def passDeeds (now : Tick) (reading : ω) (c : Core ω) (failed : List Ipv4) :
    List Packet → List (Deed ω)
  | [] => []
  | p :: rest =>
    let (c', failed') := c.retryOne now failed p
    c.retryDeeds now reading failed p ++ passDeeds now reading c' failed' rest

/-- What is put down about an act. -/
def deeds (c : Core ω) : Act ω → List (Deed ω)
  | .learn a mac => [.heard a mac c.hw]
  | .sendFrame p => [.sent .asIs p c c.hw]
  | .transmit p =>
    let (errand, c') := c.transmitErrand p
    .given p c.iface :: errand.deeds c' c.hw
  | .retry => passDeeds c.now c.hw { c with parked := [] } [] c.parked
  | _ => []

end Core

/-- A core, and what happened to it, first to last. -/
structure Diary (ω : Type) where
  /-- The core. -/
  core : Core ω
  /-- The entries. -/
  deeds : List (Deed ω) := []

namespace Diary

/-! ## Keeping it -/

/-- The core and its diary after an act. -/
def act (d : Diary ω) (a : Act ω) : Diary ω := ⟨d.core.act a, d.deeds ++ d.core.deeds a⟩

/-- The core and its diary after acts, one after the other. -/
def run (d : Diary ω) (acts : List (Act ω)) : Diary ω := acts.foldl act d

/-- **A diary leaves the core alone.** -/
theorem core_run (d : Diary ω) (acts : List (Act ω)) : (d.run acts).core = d.core.run acts := by
  induction acts generalizing d with
  | nil => rfl
  | cons a rest ih => exact ih (d.act a)

/-- Acts are put down one after the other. -/
theorem run_append (d : Diary ω) (first second : List (Act ω)) :
    d.run (first ++ second) = (d.run first).run second := List.foldl_append

/-- Puts an entry down. -/
def note (d : Diary ω) (deed : Deed ω) : Diary ω := { d with deeds := d.deeds ++ [deed] }

/-- Does something to the core that is not put down. -/
def on (d : Diary ω) (f : Core ω → Core ω) : Diary ω := { d with core := f d.core }

/-- Sends a frame, and puts it down. -/
def sendFrame (d : Diary ω) (cause : Cause) (reading : ω) (frame : Packet) : Diary ω :=
  ⟨(d.core.sendFrame frame).2, d.deeds ++ [.sent cause frame d.core reading]⟩

/-- Advances the resolution of a next hop at the clock's reading. -/
def advanceResolution (d : Diary ω) (reading : ω) (hop : Ipv4) : Diary ω :=
  d.on fun c => (c.advanceResolution (c.clock reading) hop).2

/-- Does an errand that another core than that of the diary is left with, and puts it down. -/
def perform (d : Diary ω) (reading : ω) (left : Errand × Core ω) : Diary ω :=
  ⟨(left.2.perform left.1).2, d.deeds ++ left.1.deeds left.2 reading⟩

end Diary

/-! ## Moves of the hardware -/

/-- The hardware has done nothing but be offered frames. -/
def Device.Since (device : Device ω) : ω → ω → Prop :=
  Relation.ReflTransGen fun hw hw' => ∃ frame, hw' = (device.transmit frame hw).2

namespace Core

/-- What one thing done to a core does to its hardware. -/
inductive Moved (World : (ω → ω) → Prop) (c : Core ω) : ω → Prop where
  | still : Moved World c c.hw
  | offered (frame : Bytes) : Moved World c (c.device.transmit frame c.hw).2
  | moved {hw : ω} (step : c.HardwareStep World hw) : Moved World c hw

variable {c : Core ω} {p : Packet}

/-- On prompt hardware the clock stands still meanwhile. -/
theorem Prompt.since (prompt : c.Prompt) {hw hw' : ω} (since : c.device.Since hw hw') :
    c.clock hw' = c.clock hw := by
  induction since with
  | refl => rfl
  | tail _ step ih =>
    obtain ⟨frame, rfl⟩ := step
    exact (prompt.1 frame _).trans ih

/-- A frame that was not taken was offered once at most. -/
theorem NotTaken.since {hw : ω} (notTaken : c.NotTaken p hw) : c.device.Since c.hw hw := by
  rcases notTaken with rfl | ⟨e, transmitted⟩
  · exact .refl
  · exact .single ⟨p.padded.data, by rw [transmitted]⟩

/-- The device is offered the frame that is sent, or nothing. -/
theorem since_sendFrame (c : Core ω) (p : Packet) : c.device.Since c.hw (c.sendFrame p).2.hw := by
  have sent := c.sendFrame_sent p
  generalize (c.sendFrame p).1 = answer, (c.sendFrame p).2 = c' at sent
  cases sent with
  | taken hw stats transmitted => exact .single ⟨p.padded.data, by rw [transmitted]⟩
  | waits hw stats notTaken => exact notTaken.since
  | lost hw stats notTaken => exact notTaken.since

end Core

namespace Diary

variable {World : (ω → ω) → Prop} {d d' d'' : Diary ω}

/-! ## What can happen -/

/-- A packet with its next hop comes from one that was given to the core. -/
def Vouched (deeds : List (Deed ω)) (p : Packet) (hop : Ipv4) : Prop :=
  ∃ q iface, .given q iface ∈ deeds ∧ q.disposition iface = .resolve hop p

/-- There is a reason to send a frame when the clock shows `now`. -/
def Due (d : Diary ω) (now : Tick) : Cause → Packet → Prop
  | .asIs, _ => True
  | .asking hop, frame => frame =
      (ArpMessage.request d.core.mac d.core.iface.address hop).packet Mac.broadcast
  | .direct p iface, frame => .given p iface ∈ d.deeds ∧ p.disposition iface = .send frame
  | .known p hop, frame => Vouched d.deeds p hop ∧
      ∃ mac, d.core.resolution now hop = .hit mac ∧ frame = p.addressedTo mac

/-- One thing that happens to a core with its diary. -/
inductive Step (World : (ω → ω) → Prop) (d : Diary ω) : Diary ω → Prop where
  /-- Nothing that concerns the bindings, no packet is parked, and no frame given to the outlet. -/
  | quiet {core : Core ω} (setup : d.core.SameSetup core) (moved : d.core.Moved World core.hw)
      (arp : core.arp = d.core.arp) (parked : core.parked ⊆ d.core.parked)
      (gives : d.core.Gives World [] core) : Step World d { d with core }
  /-- A binding is heard. -/
  | heard (a : Ipv4) (mac : Mac) :
      Step World d ((d.note (.heard a mac d.core.hw)).on (·.act (.learn a mac)))
  /-- Expired bindings are removed. -/
  | swept : Step World d (d.on (·.act .sweep))
  /-- A packet is given to the core. -/
  | given (p : Packet) : Step World d (d.note (.given p d.core.iface))
  /-- The resolution of a next hop advances. -/
  | resolved {reading : ω} (since : d.core.device.Since reading d.core.hw) (hop : Ipv4) :
      Step World d (d.advanceResolution reading hop)
  /-- A packet is parked. -/
  | parked {p : Packet} {hop : Ipv4} (vouched : Vouched d.deeds p hop) :
      Step World d (d.on (·.park p))
  /-- A frame is sent. -/
  | sent (cause : Cause) {reading : ω} {frame : Packet}
      (since : d.core.device.Since reading d.core.hw)
      (due : d.Due (d.core.clock reading) cause frame) :
      Step World d (d.sendFrame cause reading frame)

/-- Any sequence of such things. -/
def Steps (World : (ω → ω) → Prop) : Diary ω → Diary ω → Prop :=
  Relation.ReflTransGen (Step World)

/-- One thing is a sequence of one. -/
theorem Steps.one (step : Step World d d') : Steps World d d' := .single step

/-- Two sequences make one. -/
theorem Steps.andThen (first : Steps World d d') (second : Steps World d' d'') :
    Steps World d d'' :=
  Relation.ReflTransGen.trans first second

/-- What a step does to the diary and at the outlet. -/
theorem Step.gives (step : Step World d d') :
    ∃ new, d'.deeds = d.deeds ++ new ∧
      d.core.Gives World (new.filterMap Deed.frame?) d'.core := by
  have still (iface : InterfaceConfig) (arp : ArpCache) (parked : List Packet) :
      d.core.Gives World [] { d.core with iface, arp, parked } :=
    .still (d.core.sameOutlet iface arp parked _ _ (.refl _))
  cases step with
  | quiet setup moved arp parked gives => exact ⟨[], (List.append_nil _).symm, gives⟩
  | heard a mac => exact ⟨[_], rfl, still _ _ _⟩
  | swept => exact ⟨[], (List.append_nil _).symm, still _ _ _⟩
  | given p => exact ⟨[_], rfl, still _ _ _⟩
  | resolved since hop => exact ⟨[], (List.append_nil _).symm, still _ _ _⟩
  | parked vouched => exact ⟨[], (List.append_nil _).symm, still _ _ _⟩
  | sent cause since due => exact ⟨[_], rfl, d.core.gives_sendFrame _⟩

/-- **The frames in a diary are those that senders gave to the outlet**, first to last. -/
theorem Steps.gives (steps : Steps World d d') :
    ∃ new, d'.deeds = d.deeds ++ new ∧
      d.core.Gives World (new.filterMap Deed.frame?) d'.core := by
  induction steps with
  | refl => exact ⟨[], (List.append_nil _).symm, [], .nil, rfl⟩
  | tail _ step ih =>
    obtain ⟨first, eq, gave⟩ := ih
    obtain ⟨new, eq', gives⟩ := step.gives
    refine ⟨first ++ new, ?_, ?_⟩
    · rw [eq', eq, List.append_assoc]
    · rw [List.filterMap_append]
      exact gave.trans gives

/-- Entries are not taken back. -/
theorem Step.deeds (step : Step World d d') : d.deeds <+: d'.deeds := by
  obtain ⟨new, eq, -⟩ := step.gives
  exact ⟨new, eq.symm⟩

/-- No sequence of steps takes entries back. -/
theorem Steps.deeds (steps : Steps World d d') : d.deeds <+: d'.deeds := by
  obtain ⟨new, eq, -⟩ := steps.gives
  exact ⟨new, eq.symm⟩

/-- The setup never changes. -/
theorem Step.sameSetup (step : Step World d d') : d.core.SameSetup d'.core := by
  cases step with
  | quiet setup => exact setup
  | heard => exact ⟨rfl, rfl, rfl, rfl⟩
  | swept => exact ⟨rfl, rfl, rfl, rfl⟩
  | given => exact .refl _
  | resolved => exact ⟨rfl, rfl, rfl, rfl⟩
  | parked => exact ⟨rfl, rfl, rfl, rfl⟩
  | sent => exact (d.core.undisturbed_sendFrame _).setup

/-- The setup is not changed by any sequence of steps. -/
theorem Steps.sameSetup (steps : Steps World d d') : d.core.SameSetup d'.core := by
  induction steps with
  | refl => exact .refl _
  | tail _ step ih => exact ih.trans step.sameSetup

/-- A packet that comes from one that was given still does later. -/
theorem Vouched.mono {deeds deeds' : List (Deed ω)} {p : Packet} {hop : Ipv4}
    (vouched : Vouched deeds p hop) (grown : deeds <+: deeds') : Vouched deeds' p hop := by
  obtain ⟨q, iface, given, resolves⟩ := vouched
  exact ⟨q, iface, grown.subset given, resolves⟩

/-! ## Everything is made of this -/

/-- Most of what is done to a core is one quiet step. -/
theorem steps_still (d : Diary ω) (iface : InterfaceConfig) {parked : List Packet}
    (fewer : parked ⊆ d.core.parked) (identification : UInt16) (log : List Event) {stats : Stats}
    (sent : d.core.stats.SameSent stats) :
    Steps World d { d with core := { d.core with iface, parked, identification, log, stats } } :=
  .one (.quiet ⟨rfl, rfl, rfl, rfl⟩ .still rfl fewer
    (.still (d.core.sameOutlet iface _ parked identification log sent)))

/-- What the hardware does by itself is made of steps. -/
theorem steps_hardware (d : Diary ω) {hw : ω} (step : d.core.HardwareStep World hw) :
    Steps World d { d with core := { d.core with hw } } :=
  .one (.quiet ⟨rfl, rfl, rfl, rfl⟩ (.moved step) rfl (List.Subset.refl _) (.hardware step))

/-- The operator is told. -/
theorem steps_tell (d : Diary ω) (e : Event) : Steps World d (d.on (·.tell e)) :=
  d.steps_still _ (List.Subset.refl _) _ _ (.refl _)

/-- Something is counted. -/
theorem steps_count (d : Diary ω) {f : Stats → Stats} (same : ∀ s : Stats, s.SameSent (f s)) :
    Steps World d (d.on (·.count f)) :=
  d.steps_still _ (List.Subset.refl _) _ _ (same d.core.stats)

/-- A packet is counted as dropped. -/
theorem steps_countUnanswered (d : Diary ω) : Steps World d (d.on (·.countUnanswered)) :=
  d.steps_count fun _ => ⟨rfl, rfl, rfl⟩

/-- Steps in which nothing is put down add nothing to the diary. -/
theorem Steps.unnoted (steps : Steps World d d') : Steps World d ⟨d'.core, d'.deeds ++ []⟩ := by
  rwa [List.append_nil]

section Settle

variable {reading : ω} (since : d.core.device.Since reading d.core.hw) {p : Packet} {hop : Ipv4}

include since

/-- Somebody is asked for an address. -/
theorem steps_arpErrand (hop : Ipv4) :
    Steps World d (d.perform reading (d.core.arpErrand hop)) :=
  (d.steps_tell (.arp (.asking hop d.core.iface.address))).andThen
    (.one (.sent (.asking hop) since rfl))

/-- A packet is sent by way of its next hop, or waits for it, or is given up. -/
theorem steps_settle (vouched : Vouched d.deeds p hop) (failed : Except NetError Unit) :
    Steps World d (d.perform reading ((d.advanceResolution reading hop).core.settleErrand p hop
      (d.core.resolution (d.core.clock reading) hop) failed)) := by
  have advanced : Steps World d (d.advanceResolution reading hop) := .one (.resolved since hop)
  have park : Steps World (d.advanceResolution reading hop)
      ((d.advanceResolution reading hop).on (·.park p)) :=
    .one (.parked vouched)
  cases resolution : d.core.resolution (d.core.clock reading) hop with
  | hit mac =>
    -- a binding that is found stays as it is, so it is found again
    have again : (d.advanceResolution reading hop).core.resolution (d.core.clock reading) hop =
        .hit mac := by
      show ((d.core.arp.resolve hop (d.core.clock reading) d.core.config.arpRetryInterval).2.resolve
        hop (d.core.clock reading) d.core.config.arpRetryInterval).1 = .hit mac
      rw [ArpCache.resolve_of_hit resolution]
      exact resolution
    exact advanced.andThen (.one (.sent (.known p hop) since ⟨vouched, mac, again, rfl⟩))
  | sendRequest =>
    exact (advanced.andThen park).andThen
      (steps_arpErrand (d := (d.advanceResolution reading hop).on (·.park p)) since hop)
  | wait => exact (advanced.andThen park).unnoted
  | fail =>
    have told := advanced.andThen (steps_tell _ (.arp (.unanswered hop)))
    exact (told.andThen (steps_countUnanswered _)).unnoted

/-- An errand takes no longer than what the device is offered. -/
theorem since_perform {left : Errand × Core ω} (same : left.2.hw = d.core.hw)
    (device : left.2.device = d.core.device) :
    d.core.device.Since reading (d.perform reading left).core.hw := by
  obtain ⟨errand, c⟩ := left
  dsimp only at same device
  cases errand with
  | answer told =>
    show d.core.device.Since reading c.hw
    rwa [same]
  | send cause frame =>
    have offered := c.since_sendFrame frame
    rw [same, device] at offered
    exact since.trans offered

end Settle

/-- The packets of a list come from ones that were given to the core. -/
def AllVouched (deeds : List (Deed ω)) (packets : List Packet) : Prop :=
  ∀ p ∈ packets, ∀ hop, p.nextHop = some hop → Vouched deeds p hop

/-- What is put down about one packet of a pass. -/
def retryOne (reading : ω) (d : Diary ω) (failed : List Ipv4) (p : Packet) : Diary ω :=
  ⟨(d.core.retryOne (d.core.clock reading) failed p).1,
    d.deeds ++ d.core.retryDeeds (d.core.clock reading) reading failed p⟩

/-- What a pass does with one packet is made of steps. -/
theorem steps_retryOne {reading : ω} (since : d.core.device.Since reading d.core.hw)
    (failed : List Ipv4) {p : Packet}
    (vouched : ∀ hop, p.nextHop = some hop → Vouched d.deeds p hop) :
    Steps World d (retryOne reading d failed p) ∧
      d.core.device.Since reading (retryOne reading d failed p).core.hw := by
  unfold retryOne Core.retryOne Core.retryDeeds
  cases next : p.nextHop with
  | none => exact ⟨Steps.unnoted .refl, since⟩
  | some hop =>
    unfold Core.retryErrand
    by_cases gone : failed.contains hop = true
    · dsimp only
      rw [if_pos gone]
      exact ⟨d.steps_countUnanswered.unnoted, since⟩
    · dsimp only
      rw [if_neg gone]
      have kept := (d.core.advanceResolution (d.core.clock reading) hop).2.settleErrand_kept p hop
        (d.core.advanceResolution (d.core.clock reading) hop).1 (.ok ())
      have steps : Steps World d (d.perform reading
          ((d.core.advanceResolution (d.core.clock reading) hop).2.settleErrand p hop
            (d.core.advanceResolution (d.core.clock reading) hop).1 (.ok ()))) :=
        steps_settle since (vouched hop next) (.ok ())
      generalize (d.core.advanceResolution (d.core.clock reading) hop).2.settleErrand p hop
        (d.core.advanceResolution (d.core.clock reading) hop).1 (.ok ()) = left at kept steps ⊢
      have later := since_perform since kept.1 kept.2
      dsimp only
      cases answered : left.2.perform left.1 with
      | mk answer c =>
        rw [perform, answered] at steps later
        cases answer with
        | ok => exact ⟨steps, later⟩
        | error e => exact ⟨steps.andThen (steps_tell _ (.arp (.sendFailed hop e))), later⟩

/-- A pass over packets that come from ones that were given to the core. -/
theorem steps_retryParked {reading : ω} {device : Device ω} (own : d.core.device = device)
    (since : device.Since reading d.core.hw) (failed : List Ipv4) {packets : List Packet}
    (vouched : AllVouched d.deeds packets) :
    Steps World d ⟨Core.retryParked (d.core.clock reading) d.core failed packets,
      d.deeds ++ Core.passDeeds (d.core.clock reading) reading d.core failed packets⟩ := by
  induction packets generalizing d failed with
  | nil => exact Steps.unnoted .refl
  | cons p rest ih =>
    subst own
    obtain ⟨steps, later⟩ : Steps World d _ ∧ _ :=
      steps_retryOne since failed (vouched p List.mem_cons_self)
    have setup := steps.sameSetup
    have others := ih setup.device later (d.core.retryOne (d.core.clock reading) failed p).2
      fun q mem hop next => (vouched q (List.mem_cons_of_mem p mem) hop next).mono steps.deeds
    rw [setup.clock] at others
    have all := steps.andThen others
    rwa [show (retryOne reading d failed p).deeds = d.deeds ++
      d.core.retryDeeds (d.core.clock reading) reading failed p from rfl, List.append_assoc] at all

/-- A packet that is given to the core is sent, or parked, or refused. -/
theorem steps_transmit (d : Diary ω) (p : Packet) : Steps World d (d.act (.transmit p)) := by
  have given : Steps World d (d.note (.given p d.core.iface)) := .one (.given p)
  have here : .given p d.core.iface ∈ (d.note (.given p d.core.iface)).deeds :=
    List.mem_append_right _ List.mem_cons_self
  -- what is put down first is that the packet was given
  have split : d.act (.transmit p) =
      (d.note (.given p d.core.iface)).perform d.core.hw (d.core.transmitErrand p) := by
    show Diary.mk _ (d.deeds ++ _ :: _) = Diary.mk _ ((d.deeds ++ [_]) ++ _)
    rw [List.append_assoc]
    rfl
  rw [split, Core.transmitErrand]
  cases leaves : p.disposition d.core.iface with
  | barred =>
    have counted : Steps World (d.note (.given p d.core.iface)) _ :=
      steps_count _ (f := fun s => { s with txRefused := s.txRefused + 1 }) fun _ => ⟨rfl, rfl, rfl⟩
    exact (given.andThen counted).unnoted
  | refused cause => exact given.unnoted
  | send q =>
    exact given.andThen (.one (.sent (.direct p d.core.iface) .refl ⟨here, leaves⟩))
  | resolve hop q =>
    exact given.andThen (steps_settle (d := d.note (.given p d.core.iface)) .refl
      ⟨p, d.core.iface, here, leaves⟩ _)

/-- The backlog is handed to the device frame by frame. -/
theorem steps_flush (d : Diary ω) {frames : List Packet} (waiting : d.core.backlog = frames) :
    Steps World d (d.on (·.flush frames)) := by
  induction frames generalizing d with
  | nil =>
    refine .one (.quiet ⟨rfl, rfl, rfl, rfl⟩ .still rfl (List.Subset.refl _) (.still ?_))
    exact ⟨⟨rfl, rfl, rfl, rfl⟩, rfl, waiting.symm, .refl _⟩
  | cons p rest ih =>
    by_cases room : d.core.device.canTransmit d.core.hw = true
    · obtain ⟨hw, arp, parked⟩ := d.core.release_kept p rest
      -- the first frame is offered to the device
      have first : Steps World d (d.on (·.release p rest)) := by
        refine .one (.quiet (d.core.sameSetup_release p rest) ?_ arp
          (parked ▸ List.Subset.refl _) (Core.gives_release waiting room))
        rw [hw]
        exact .offered p.data
      have others := ih (d.on (·.release p rest)) (d.core.backlog_release p rest)
      rw [show (d.on (·.flush (p :: rest))) = (d.on (·.release p rest)).on (·.flush rest) from
        congrArg (Diary.mk · d.deeds) (Core.flush_cons_of_room room p rest)]
      exact first.andThen others
    · have full := Core.flush_cons_of_full (Bool.eq_false_iff.mpr room) p rest
      rw [← waiting] at full
      have same : d.on (·.flush d.core.backlog) = d := congrArg (Diary.mk · d.deeds) full
      rw [← waiting, same]
      exact .refl

/-- **What is done to a core is made of these steps**, if what it has parked was given to it. -/
theorem steps_act {a : Act ω} (within : a.Within World)
    (vouched : AllVouched d.deeds d.core.parked) :
    Steps World d (d.act a) := by
  cases a with
  | tell e => exact (d.steps_tell e).unnoted
  | count f => exact (d.steps_count within.keepsSent).unnoted
  | identify => exact (d.steps_still _ (List.Subset.refl _) _ _ (.refl _)).unnoted
  | learn a mac => exact .one (.heard a mac)
  | sweep => exact (Steps.one .swept).unnoted
  | sendFrame p => exact .one (.sent .asIs .refl trivial)
  | transmit p => exact d.steps_transmit p
  | retry =>
    have cleared : Steps World d (d.on fun c => { c with parked := [] }) :=
      d.steps_still _ (List.nil_subset _) _ _ (.refl _)
    exact cleared.andThen (steps_retryParked rfl .refl [] vouched)
  | flush => exact (d.steps_flush rfl).unnoted
  | receive => exact (d.steps_hardware .receive).unnoted
  | service => exact (d.steps_hardware .service).unnoted
  | configure iface => exact (d.steps_still iface (List.Subset.refl _) _ _ (.refl _)).unnoted
  | elapse f => exact (d.steps_hardware (.elapse (within.world f rfl))).unnoted

end Diary

end PolledNet
