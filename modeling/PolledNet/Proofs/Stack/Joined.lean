import Mathlib.Data.Multiset.Count
import Mathlib.Logic.Function.Basic
import PolledNet.Proofs.Stack.Neighbour
import PolledNet.Proofs.Stack.Wired

/-!
# Two stacks on one wire

Two stacks with static addresses whose devices are the two ports of a wire. Datagrams are given to
either to be transmitted, either makes passes, and the clock goes on, in any order; the port of
either may also be told to wait. So requests for addresses, the answers to them, datagrams that are
parked or wait for room, and the messages that nobody wants a datagram cross each other in every
possible way.

* `Joined.Sound`: each stack is sincere (`Core.Sincere`), and all that waits for its services is
  from the other one. Whatever is done at one end keeps this at both (`Sound.step`): at this end
  because it is fair, and at the other because no frame on the wire is touched but by taking it.
* `joined_faithful`: **neither stack knows anybody but the other, by its own address and hardware
  address; and of the datagrams that it has taken from the wire none was altered, invented or
  multiplied on its way.**
-/

namespace PolledNet

open PolledNet.Core (Leads)

/-! ## The hardware -/

/-- A wire with a clock, and a record of the frames that each end has taken from it. -/
structure Cable where
  /-- The wire. -/
  wire : Wire := {}
  /-- The clock. -/
  clock : TickCounter := {}
  /-- The frames that an end has taken, oldest first. -/
  pulled : WireEnd → List Bytes := fun _ => []

namespace WireEnd

/-- The peer of the peer of an end is the end itself. -/
theorem peer_peer (e : WireEnd) : e.peer.peer = e := by
  cases e <;> rfl

/-- No end of the wire is its own peer. -/
theorem peer_ne (e : WireEnd) : e.peer ≠ e := by
  cases e <;> exact nofun

/-- The wire has two ends: one that differs from an end is its peer. -/
theorem eq_peer_of_ne {e e' : WireEnd} (other : e' ≠ e) : e' = e.peer := by
  cases e <;> cases e'
  · exact absurd rfl other
  · rfl
  · rfl
  · exact absurd rfl other

end WireEnd

namespace Cable

/-- The present tick. -/
def now (c : Cable) : Tick := c.clock.count

/-- A port of the wire as a device. -/
def device (e : WireEnd) (mac : Mac) : Device Cable :=
  let port := Wire.port e mac
  { mac, name := port.name
    start := fun c => ((port.start c.wire).1, { c with wire := (port.start c.wire).2 })
    halt := fun c => { c with wire := port.halt c.wire }
    service := fun c => { c with wire := port.service c.wire }
    transmit := fun frame c =>
      ((port.transmit frame c.wire).1, { c with wire := (port.transmit frame c.wire).2 })
    canTransmit := fun c => port.canTransmit c.wire
    receive := fun c =>
      ((port.receive c.wire).1,
        { c with wire := (port.receive c.wire).2
                 pulled := Function.update c.pulled e
                   (c.pulled e ++ (port.receive c.wire).1.toList) })
    link := fun c => port.link c.wire }

/-- What an end has put on the wire: what the other end has taken, and what is under way. -/
def sent (e : WireEnd) (c : Cable) : List Bytes := c.pulled e.peer ++ c.wire.fromPort e

variable {e : WireEnd} {mac : Mac} {frame : Bytes}

/-- The device of an end records what it has put on the wire. -/
theorem records_device (e : WireEnd) (mac : Mac) : (device e mac).Records (sent e) where
  taken {frame c c'} took := by
    obtain ⟨answer, rfl⟩ := Prod.mk.inj took
    change (c.wire.transmit e frame).1 = .ok () at answer
    show c.pulled e.peer ++ (c.wire.transmit e frame).2.fromPort e = _
    obtain ⟨cause, eq⟩ | eq := c.wire.transmit_cases e frame
    · rw [eq] at answer
      cases answer
    · rw [eq, Wire.fromPort, Wire.lane_withLane, ← List.append_assoc]
      rfl
  refused {frame c c' cause} refusal := by
    obtain ⟨answer, rfl⟩ := Prod.mk.inj refusal
    change (c.wire.transmit e frame).1 = .error cause at answer
    show c.pulled e.peer ++ (c.wire.transmit e frame).2.fromPort e = _
    obtain ⟨_, eq⟩ | eq := c.wire.transmit_cases e frame
    · rw [eq]
      rfl
    · rw [eq] at answer
      cases answer
  receive c := by
    show Function.update c.pulled e _ e.peer ++ (c.wire.receive e).2.fromPort e = _
    rw [Function.update_of_ne e.peer_ne, Wire.fromPort, Wire.receive]
    split
    · rfl
    · rw [Wire.lane_peer_withLane]
      rfl
  service _ := rfl

/-- Sending does not touch what comes from the other end. -/
theorem sent_peer_transmit (frame : Bytes) (c : Cable) :
    sent e.peer ((device e mac).transmit frame c).2 = sent e.peer c := by
  show c.pulled e.peer.peer ++ (c.wire.transmit e frame).2.fromPort e.peer = _
  obtain ⟨cause, eq⟩ | eq := c.wire.transmit_cases e frame
  · rw [eq]
    rfl
  · rw [eq, Wire.fromPort, Wire.lane_peer_withLane]
    rfl

/-- Taking a frame moves it. -/
theorem sent_peer_receive (c : Cable) :
    sent e.peer ((device e mac).receive c).2 = sent e.peer c := by
  show Function.update c.pulled e _ e.peer.peer ++ (c.wire.receive e).2.fromPort e.peer = _
  rw [sent, Wire.fromPort, Wire.fromPort, e.peer_peer, Function.update_self]
  show c.pulled e ++ (c.wire.receive e).1.toList ++ ((c.wire.receive e).2.lane e).frames = _
  rw [Wire.receive]
  split
  · rename_i none
    rw [none, List.append_nil]
    rfl
  · rename_i frame rest some
    rw [some, Wire.lane_withLane]
    exact List.append_assoc _ [frame] rest

/-- A device leaves what comes from the other end alone, but for taking it. -/
theorem keeps_sent_peer (e : WireEnd) (mac : Mac) (Holds : List Bytes → Prop) :
    (device e mac).Keeps (fun _ => False) fun c => Holds (sent e.peer c) where
  transmit frame holds := by
    rw [sent_peer_transmit]
    exact holds
  receive holds := by
    rw [sent_peer_receive]
    exact holds
  service holds := holds
  world := nofun

/-- An end faces the station at the other, as long as that puts nothing else on the wire. -/
theorem faces_device (e : WireEnd) (mac : Mac) (other : Station) :
    (device e mac).Faces other fun c => ∀ frame ∈ sent e.peer c, frame.letter.Introduces other where
  toKeeps := keeps_sent_peer e mac fun frames => ∀ frame ∈ frames, frame.letter.Introduces other
  introduces {c c' frame} holds received := by
    refine holds frame (List.mem_append_right _ ?_)
    have taken : (c.wire.receive e).1 = some frame := congrArg Prod.fst received
    rw [Wire.fromPort, e.peer_peer]
    unfold Wire.receive at taken
    dsimp only at taken
    split at taken
    · cases taken
    · rename_i first rest frames
      cases taken
      rw [frames]
      exact List.mem_cons_self

end Cable

/-! ## The stacks -/

/-- Two stacks whose devices are the ports of a wire. -/
structure Joined (η φ : Type) where
  /-- The wire. -/
  cable : Cable
  /-- The stack at each end; its hardware is the wire. -/
  stack : WireEnd → Stack Cable η φ
  /-- The datagrams that each was given to transmit. -/
  given : WireEnd → List Datagram := fun _ => []

namespace Joined

variable {η φ : Type}

/-- The stack at an end, on the wire as it is. -/
def side (j : Joined η φ) (e : WireEnd) : Stack Cable η φ :=
  { j.stack e with core := { (j.stack e).core with hw := j.cable } }

/-- The ends of a datagram from the address of an end. -/
def ends (j : Joined η φ) (e : WireEnd) (sourcePort : UInt16) (dest : Ipv4) (destPort : UInt16) :
    Endpoints :=
  ⟨(j.side e).core.mac, (j.side e).core.iface.address, sourcePort, dest, destPort⟩

/-- After something was done at an end, which has left its stack, and the wire, as `s` says. -/
def after (j : Joined η φ) (e : WireEnd) (s : Stack Cable η φ) (given : List Datagram) :
    Joined η φ :=
  { cable := s.core.hw, stack := Function.update j.stack e s
    given := Function.update j.given e given }

/-- The wire has changed by itself. -/
def onCable (j : Joined η φ) (f : Cable → Cable) : Joined η φ := { j with cable := f j.cable }

/-- One thing that is done. -/
inductive Step [FileHandle η φ] (j : Joined η φ) : Joined η φ → Prop where
  /-- A datagram is built at an end: it takes an identification. -/
  | build (e : WireEnd) :
      Step j (j.after e { j.side e with core := (j.side e).core.nextIdentification.2 } (j.given e))
  /-- A datagram from the address of an end is given to its stack, under some identification. -/
  | transmit (e : WireEnd) (sourcePort : UInt16) (dest : Ipv4) (destPort : UInt16) (payload : Bytes)
      (identification : UInt16) {answer : Except NetError Unit} {s : Stack Cable η φ}
      (sent : (j.side e).transmit ((j.ends e sourcePort dest destPort).datagram identification
        payload) = .ok (answer, s)) :
      Step j (j.after e s (j.given e ++ [⟨sourcePort, destPort, payload⟩]))
  /-- The stack at an end makes a pass. -/
  | pump (e : WireEnd) {s : Stack Cable η φ} (ran : (j.side e).pump = .ok s) :
      Step j (j.after e s (j.given e))
  /-- Time passes. -/
  | tick (n : Tick) : Step j (j.onCable fun c => { c with clock := c.clock.advance n })
  /-- A port is told whether there is room. -/
  | ready (e : WireEnd) (room : Bool) :
      Step j (j.onCable fun c => { c with wire := c.wire.setPeerReady e room })

/-- Any sequence of such things. -/
def Run [FileHandle η φ] : Joined η φ → Joined η φ → Prop := Relation.ReflTransGen Step

/-- Both stacks have come up, each with its own address, and nothing else was done yet. -/
structure Start (mac : WireEnd → Mac) (network : WireEnd → InterfaceConfig) (j : Joined η φ) :
    Prop where
  up (e : WireEnd) : ∃ config hw hw' volume, config.network = some (network e) ∧
    Stack.bringUp (Cable.device e (mac e)) Cable.now config hw volume = (.ok (j.stack e), hw')
  unsent (e : WireEnd) : j.cable.sent e = []
  ungiven (e : WireEnd) : j.given e = []

/-! ## What is kept -/

/-- A stack at an end is sincere about what it has put on the wire, and hears of nobody but its
peer. -/
structure SoundSide (station : WireEnd → Station) (e : WireEnd) (given : List Datagram)
    (s : Stack Cable η φ) : Prop where
  device : s.core.device = Cable.device e (station e).mac
  sincere : s.core.Sincere (Cable.sent e) (station e) (station e.peer) given
  hears : ∀ sink ∈ s.sinks.sinks, sink.Hears (station e.peer)

/-- Both stacks are sound. -/
def Sound (station : WireEnd → Station) (j : Joined η φ) : Prop :=
  ∀ e, SoundSide station e (j.given e) (j.side e)

variable {j j' : Joined η φ} {station : WireEnd → Station} {e e' : WireEnd}
  {s : Stack Cable η φ} {given : List Datagram}

/-- The end that was worked on has its new stack and its new list of datagrams. -/
theorem side_after (j : Joined η φ) (e : WireEnd) (s : Stack Cable η φ) (given : List Datagram) :
    (j.after e s given).side e = s ∧ (j.after e s given).given e = given := by
  unfold side after
  dsimp only
  rw [Function.update_self, Function.update_self]
  exact ⟨rfl, rfl⟩

/-- The other end keeps its stack and its list of datagrams; it only finds the cable as it now is.
-/
theorem side_after_of_ne (j : Joined η φ) (s : Stack Cable η φ) (given : List Datagram)
    (other : e' ≠ e) :
    (j.after e s given).side e' =
        { j.side e' with core := { (j.side e').core with hw := s.core.hw } } ∧
      (j.after e s given).given e' = j.given e' := by
  unfold side after
  dsimp only
  rw [Function.update_of_ne other, Function.update_of_ne other]
  exact ⟨rfl, rfl⟩

/-- The wire may change as long as what the end has put on it does not. -/
theorem SoundSide.withHardware (sound : SoundSide station e given s) (hw : Cable)
    (same : hw.sent e = s.core.hw.sent e) :
    SoundSide station e given { s with core := { s.core with hw } } :=
  ⟨sound.device, sound.sincere.withHardware hw same, sound.hears⟩

/-- Soundness asks of the cable only what each end has put on it. -/
theorem Sound.onCable (sound : j.Sound station) {f : Cable → Cable}
    (same : ∀ e, (f j.cable).sent e = j.cable.sent e) : (j.onCable f).Sound station := by
  intro e
  exact (sound e).withHardware (f j.cable) (same e)

/-- **What is done at one end does not concern the other.** -/
theorem Sound.after (sound : j.Sound station)
    (leads : Leads (Act.Within fun _ => False) (j.side e).core s.core)
    (next : SoundSide station e given s) : (j.after e s given).Sound station := by
  intro e'
  by_cases here : e' = e
  · subst here
    obtain ⟨side, gave⟩ := j.side_after e' s given
    rw [side, gave]
    exact next
  · have kept : s.core.hw.sent e' = j.cable.sent e' := by
      have keeps := Cable.keeps_sent_peer e (station e).mac (· = j.cable.sent e.peer)
      rw [← (sound e).device] at keeps
      rw [WireEnd.eq_peer_of_ne here]
      exact leads.keeps_hw keeps rfl
    obtain ⟨side, gave⟩ := j.side_after_of_ne s given here
    rw [side, gave]
    exact (sound e').withHardware s.core.hw kept

/-- **Whatever is done keeps both stacks sound.** -/
theorem Sound.step [FileHandle η φ] (sound : j.Sound station) (step : j.Step j') :
    j'.Sound station := by
  cases step with
  | build e =>
    have fair : (Act.identify : Act Cable).Fair (station e) (station e.peer) [] :=
      (Act.polling_fair _ _).identify
    have here := sound e
    exact sound.after (.one (a := .identify) fair.toWithin)
      ⟨here.device, here.sincere.leads (.one fair), here.hears⟩
  | transmit e sourcePort dest destPort payload identification sent =>
    unfold Stack.transmit at sent
    obtain ⟨⟨answer, core⟩, ran, sent⟩ := exists_ok_of_bind sent
    cases sent
    rw [Core.transmit_of_ipv4 _ (Core.ethertype?_datagram _ _ _)] at ran
    obtain rfl : (j.side e).core.act (.transmit _) = core := congrArg Prod.snd (Except.ok.inj ran)
    have fair : (Act.transmit ((j.ends e sourcePort dest destPort).datagram identification
        payload) : Act Cable).Fair (station e) (station e.peer) [⟨sourcePort, destPort, payload⟩] :=
      Act.fair_datagram (j.ends e sourcePort dest destPort) identification payload
    have here := sound e
    have leads : Leads (Act.Within fun _ => False) (j.side e).core _ := .one fair.toWithin
    exact sound.after leads
      ⟨leads.sameSetup.device.trans here.device, here.sincere.act fair, here.hears⟩
  | pump e ran =>
    have here := sound e
    have faces := Cable.faces_device e (station e).mac (station e.peer)
    rw [← here.device] at faces
    -- what the peer has put on the wire is part of what it has posted
    have incoming : ∀ frame ∈ j.cable.sent e.peer, frame.letter.Introduces (station e.peer) := by
      intro frame mem
      refine (sound e.peer).sincere.introduces frame.letter ?_
      exact List.mem_append_left _ (List.mem_append_left _ (List.mem_map_of_mem mem))
    obtain ⟨leads, hears⟩ := Stack.fair_pump here.sincere.toOf faces incoming here.hears ran
    exact sound.after (leads.mono fun _ fair => fair.toWithin)
      ⟨leads.sameSetup.device.trans here.device, here.sincere.leads leads, hears⟩
  | tick n => exact sound.onCable fun e => rfl
  | ready e room =>
    refine sound.onCable fun e' => ?_
    show j.cable.pulled e'.peer ++ (j.cable.wire.setPeerReady e room).fromPort e' = _
    rw [Wire.fromPort, Wire.setPeerReady]
    cases e <;> cases e' <;> rfl

/-- Soundness is kept by every run of the two stacks. -/
theorem Sound.run [FileHandle η φ] (sound : j.Sound station) (run : j.Run j') :
    j'.Sound station := by
  induction run with
  | refl => exact sound
  | tail _ step ih => exact ih.step step

/-- Stacks that have come up, and have done nothing yet. -/
theorem Start.sound {mac : WireEnd → Mac} {network : WireEnd → InterfaceConfig}
    (start : j.Start mac network) : j.Sound fun e => ⟨mac e, (network e).address⟩ := by
  intro e
  obtain ⟨config, hw, hw', volume, static, up⟩ := start.up e
  obtain ⟨log, core⟩ := Stack.core_bringUp up
  have fresh : (j.side e).core = { (j.stack e).core with hw := j.cable } := rfl
  rw [core, static] at fresh
  refine ⟨by rw [fresh], ?_, ?_⟩
  · rw [start.ungiven e, fresh]
    refine Core.sincere_new ⟨rfl, rfl⟩ (Cable.records_device e (mac e)) rfl ?_
    show ((j.cable.sent e).map Bytes.letter ++ [] ++ []) = []
    rw [start.unsent e]
    rfl
  · show ∀ sink ∈ (j.stack e).sinks.sinks, _
    rw [Stack.sinks_bringUp up]
    intro sink mem
    simp only [List.mem_cons, List.not_mem_nil, or_false] at mem
    rcases mem with rfl | rfl | rfl
    · exact ⟨rfl, nofun⟩
    · exact ⟨trivial, nofun⟩
    · exact ⟨rfl, nofun⟩

/-! ## What is taken from the wire -/

/-- The datagrams in frames, counted by the letters of these. -/
theorem count_datagrams (frames : List Bytes) (d : Datagram) :
    (frames.filterMap Bytes.datagram?).count d =
      (frames.map Bytes.letter).countP (Bytes.brings d) := by
  rw [List.count_filterMap, List.countP_map]
  refine List.countP_congr fun frame _ => ?_
  simp [Bytes.brings, Bytes.datagram?_toAll]

/-- The datagrams pulled at one end are among those given at the other, however often each of them
is counted. -/
theorem Sound.pulled_le (sound : j.Sound station) (e : WireEnd) :
    (((j.cable.pulled e).filterMap Bytes.datagram? : List Datagram) : Multiset Datagram) ≤
      j.given e.peer := by
  refine Multiset.le_iff_count.mpr fun d => ?_
  rw [Multiset.coe_count, Multiset.coe_count, count_datagrams]
  have sent : j.cable.sent e.peer = j.cable.pulled e ++ j.cable.wire.fromPort e.peer := by
    rw [Cable.sent, e.peer_peer]
  have posted := (sound e.peer).sincere.brings d
  rw [Core.countP_mail] at posted
  change ((j.cable.sent e.peer).map Bytes.letter).countP (Bytes.brings d) + _ + _ ≤ _ at posted
  rw [sent, List.map_append, List.countP_append] at posted
  omega

/-- What a stack takes for a datagram, its peer was given. -/
theorem Sound.mem_given (sound : j.Sound station) {frame : Bytes} (taken : frame ∈ j.cable.pulled e)
    {mac : Mac} {arrival : Arrival} (classified : Arrival.ofFrame mac frame = .ok arrival)
    (carries : arrival.info.protocol = some Ip.udp) :
    ∃ d ∈ j.given e.peer, arrival.info.sourcePort = some d.sourcePort ∧
      arrival.info.destPort = some d.destPort ∧ arrival.packet.payload? = .ok d.payload := by
  obtain ⟨d, read, agrees⟩ := Arrival.datagram?_of_ofFrame classified carries
  refine ⟨d, ?_, agrees⟩
  have pulled : d ∈ (j.cable.pulled e).filterMap Bytes.datagram? :=
    List.mem_filterMap.mpr ⟨frame, taken, read⟩
  exact Multiset.mem_of_le (sound.pulled_le e) pulled

/-- **Two stacks on one wire.** In any run, at either end, all that the address cache holds to be
valid is the binding of the peer, and the datagrams that were taken from the wire are, each as often
as it was taken, among those that the peer was given to transmit. Frames are read here by their
length fields alone; what the stack itself takes for a datagram, checksums and all, is one of these.
-/
theorem joined_faithful [FileHandle η φ] {mac : WireEnd → Mac} {network : WireEnd → InterfaceConfig}
    (start : j.Start mac network) (run : j.Run j') (e : WireEnd) :
    (j'.stack e).core.arp.KnowsOnly ⟨mac e.peer, (network e.peer).address⟩ ∧
      (((j'.cable.pulled e).filterMap Bytes.datagram? : List Datagram) : Multiset Datagram) ≤
        j'.given e.peer ∧
      ∀ frame ∈ j'.cable.pulled e, ∀ arrival, Arrival.ofFrame (mac e) frame = .ok arrival →
        arrival.info.protocol = some Ip.udp → ∃ d ∈ j'.given e.peer,
          arrival.info.sourcePort = some d.sourcePort ∧ arrival.info.destPort = some d.destPort ∧
            arrival.packet.payload? = .ok d.payload := by
  have sound := start.sound.run run
  refine ⟨(sound e).sincere.knows, sound.pulled_le e, ?_⟩
  intro frame taken arrival classified carries
  exact sound.mem_given taken classified carries

/-! ## A datagram between two stacks that do not know each other -/

/-- The hardware address of an end. -/
def macs : WireEnd → Mac
  | .a => ⟨2, 0, 0, 0, 0, 1⟩
  | .b => ⟨2, 0, 0, 0, 0, 2⟩

/-- The static address of an end. -/
def networks : WireEnd → InterfaceConfig
  | .a => ⟨⟨10, 0, 0, 1⟩, ⟨255, 255, 255, 0⟩, none, none⟩
  | .b => ⟨⟨10, 0, 0, 2⟩, ⟨255, 255, 255, 0⟩, none, none⟩

/-- Both stacks, as they come up. -/
def strangers : Joined RamFile RamVolume where
  cable := {}
  stack e := (Stack.bringUp (Cable.device e (macs e)) Cable.now { network := some (networks e) }
    {} {}).1.toOption.get (by cases e <;> rfl)

/-- The two strangers may start: both are set up as asked, and neither knows anybody. -/
theorem start_strangers : strangers.Start macs networks where
  up e := ⟨{ network := some (networks e) }, {}, {}, {}, rfl, by cases e <;> rfl⟩
  unsent e := by cases e <;> rfl
  ungiven _ := rfl

/-- After a pass at an end. -/
def pumped [FileHandle η φ] (j : Joined η φ) (e : WireEnd)
    (runs : (j.side e).pump.toOption.isSome = true) : Joined η φ :=
  j.after e ((j.side e).pump.toOption.get runs) (j.given e)

/-- A pass that runs without a fault is a step of the joined stacks. -/
theorem step_pumped [FileHandle η φ] (j : Joined η φ) (e : WireEnd)
    (runs : (j.side e).pump.toOption.isSome = true) : j.Step (j.pumped e runs) :=
  .pump e (eq_ok_get runs)

/-- The first datagram is parked, and its next hop asked for. -/
def asking : Joined RamFile RamVolume :=
  strangers.after .a (((strangers.side .a).transmit
    ((strangers.ends .a 7 ⟨10, 0, 0, 2⟩ 9).datagram 1 [1])).toOption.get (by decide +kernel)).2
    [⟨7, 9, [1]⟩]

/-- The other stack answers. -/
def answered : Joined RamFile RamVolume := asking.pumped .b (by decide +kernel)

/-- The first hears the answer. -/
def heard : Joined RamFile RamVolume := answered.pumped .a (by decide +kernel)

/-- With its next pass it sends the datagram. -/
def released : Joined RamFile RamVolume := heard.pumped .a (by decide +kernel)

/-- The other takes it from the wire. -/
def delivered : Joined RamFile RamVolume := released.pumped .b (by decide +kernel)

/-- The strangers come to their delivery by steps of the joined stacks. -/
theorem run_delivered : strangers.Run delivered := by
  have asked : strangers.Run asking := .single (.transmit .a 7 ⟨10, 0, 0, 2⟩ 9 [1] 1 rfl)
  have answering : strangers.Run answered := asked.tail (asking.step_pumped .b _)
  have hearing : strangers.Run heard := answering.tail (answered.step_pumped .a _)
  have releasing : strangers.Run released := hearing.tail (heard.step_pumped .a _)
  exact releasing.tail (released.step_pumped .b _)

/-- Two strangers find each other over ARP, and the one datagram that was given at one end comes out
at the other. -/
theorem joined_faithful_delivered :
    strangers.Start macs networks ∧ strangers.Run delivered ∧
      (delivered.cable.pulled .b).filterMap Bytes.datagram? = [⟨7, 9, [1]⟩] ∧
      (delivered.stack .b).core.arp.size = 1 ∧
      (delivered.stack .b).core.arp.KnowsOnly ⟨macs .a, (networks .a).address⟩ ∧
      (((delivered.cable.pulled .b).filterMap Bytes.datagram? : List Datagram) :
        Multiset Datagram) ≤ delivered.given .a := by
  obtain ⟨known, pulled, -⟩ := joined_faithful start_strangers run_delivered .b
  exact ⟨start_strangers, run_delivered, by decide +kernel, by decide +kernel, known, pulled⟩

end Joined

end PolledNet
