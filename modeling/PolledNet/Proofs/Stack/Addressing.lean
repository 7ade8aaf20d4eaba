import PolledNet.Proofs.Core.Addressing
import PolledNet.Proofs.Stack.Arrival
import PolledNet.Proofs.Stack.Silence

/-!
# Datagrams are addressed to the right station

A datagram that is given to a stack is sent at once, or parked and sent by a later pass, or given
up. Its frame names all stations if its destination is reached by broadcast, by the addresses that
the interface had when the datagram was given. In any other case it names the station of the next
hop, which follows from the same addresses; and this is the station heard last of the next hop, by a
binding that was valid and not expired when the clock was read for it (`datagrams_addressed`). How
long the datagram was parked, and how often its next hop was asked for again, does not matter.

The frames are those that senders give to the outlet of the core. An IPv4 packet comes there as a
datagram that was routed, unless the owner of the stack sent it as it was (`ipv4_routed`); and only
the owner does so, not the stack (`exists_acts`).
-/

namespace PolledNet

variable {ω η φ : Type} {World : (ω → ω) → Prop}

/-- The frame was routed, and neither sent as it was nor asks for an address. -/
def Cause.Routed : Cause → Prop
  | .asIs | .asking _ => False
  | .direct .. | .known .. => True

/-- The frame carries a packet that was given to a core whose interface had these addresses. -/
def Cause.Carries (cause : Cause) (p : Packet) (iface : InterfaceConfig) : Prop :=
  cause = .direct p iface ∨ ∃ q hop, cause = .known q hop ∧ p.disposition iface = .resolve hop q

namespace Diary

/-- The frame of a datagram, given to the outlet of a core after `earlier` entries of its diary, is
addressed to the right station. -/
def RightStation (earlier : List (Deed ω)) (ends : Endpoints) (iface : InterfaceConfig)
    (frame : Packet) (core : Core ω) (reading : ω) : Prop :=
  if iface.isBroadcast ends.dest then frame.dest? = .ok Mac.broadcast
  else ∃ routes hop mac e hw, iface.routes? = some routes ∧
    (if routes.isLocal ends.dest then some ends.dest else routes.gateway) = some hop ∧
      core.arp.Usable hop mac (core.clock reading) e ∧
        lastHeard earlier hop = some (mac, hw) ∧ frame.dest? = .ok mac

variable {earlier : List (Deed ω)} {cause : Cause} {frame : Packet} {core : Core ω} {reading : ω}

/-- A routed frame carries a packet that was given to the core. -/
theorem Founded.given (founded : Founded earlier (.sent cause frame core reading))
    (routed : cause.Routed) : ∃ p iface, .given p iface ∈ earlier ∧ cause.Carries p iface := by
  obtain ⟨-, founded⟩ := founded
  cases cause with
  | asIs => exact routed.elim
  | asking hop => exact routed.elim
  | direct p iface => exact ⟨p, iface, founded.1, .inl rfl⟩
  | known q hop =>
    obtain ⟨⟨p, iface, given, resolves⟩, -⟩ := founded
    exact ⟨p, iface, given, .inr ⟨q, hop, rfl, resolves⟩⟩

/-- The frame of a datagram has its station from the right binding. -/
theorem Founded.rightStation (founded : Founded earlier (.sent cause frame core reading))
    {ends : Endpoints} {identification : UInt16} {payload : Bytes} {iface : InterfaceConfig}
    (carries : cause.Carries (ends.datagram identification payload) iface) :
    RightStation earlier ends iface frame core reading := by
  obtain ⟨-, founded⟩ := founded
  obtain rfl | ⟨q, hop, rfl, resolves⟩ := carries
  · obtain ⟨-, sends⟩ := founded
    obtain ⟨header, read, -, ⟨addressed, -⟩ | ⟨-, broadcast, rfl⟩⟩ :=
      Packet.disposition_eq_send_iff.mp sends
    · cases addressed
    · rw [Endpoints.dest_of_read? read] at broadcast
      rw [RightStation, if_pos broadcast]
      exact Packet.dest?_addressedTo _ _
  · obtain ⟨-, mac, e, hw, rfl, usable, heard, -⟩ := founded
    obtain ⟨header, routes, read, -, -, other, known, leads, -⟩ :=
      Packet.disposition_eq_resolve_iff.mp resolves
    rw [Endpoints.dest_of_read? read] at other leads
    rw [RightStation, if_neg (by rw [other]; exact Bool.false_ne_true)]
    exact ⟨routes, hop, mac, e, hw, known, leads, usable, heard, Packet.dest?_addressedTo _ _⟩

/-- A frame that asks for an address carries no IPv4. -/
theorem ethertype?_request (mac : Mac) (sender target : Ipv4) :
    ((ArpMessage.request mac sender target).packet Mac.broadcast).ethertype? =
      .ok Ethernet.typeArp :=
  congrArg Except.ok (word16_octets16 Ethernet.typeArp)

/-- **An IPv4 packet was routed**, unless somebody sent it as it was. -/
theorem ipv4_routed {c : Core ω} {acts : List (Act ω)}
    (mem : .sent cause frame core reading ∈ (run ⟨c, []⟩ acts).deeds)
    (founded : Founded earlier (.sent cause frame core reading))
    (ipv4 : frame.ethertype? = .ok Ethernet.typeIpv4) :
    cause.Routed ∨ .sendFrame frame ∈ acts := by
  cases cause with
  | asIs => exact .inr ((sendFrame_mem_of_asIs mem).resolve_left List.not_mem_nil)
  | asking hop =>
    obtain ⟨-, rfl⟩ := founded
    rw [ethertype?_request] at ipv4
    exact absurd (Except.ok.inj ipv4) (by decide)
  | direct p iface => exact .inl trivial
  | known p hop => exact .inl trivial

end Diary

/-- The act is one of a stack that routes its IPv4 packets: it sends none as it is. -/
structure Act.RoutesIpv4 (World : (ω → ω) → Prop) (a : Act ω) : Prop extends a.Within World where
  frame : ∀ p, a = .sendFrame p → p.ethertype? ≠ .ok Ethernet.typeIpv4

/-- Acts that route IPv4 packets are enough for services and passes. -/
theorem Act.fullRepertoire_routesIpv4 : Core.FullRepertoire (Act.RoutesIpv4 World) where
  tell _ := ⟨⟨trivial, nofun⟩, nofun⟩
  count same := ⟨⟨same, nofun⟩, nofun⟩
  identify := ⟨⟨trivial, nofun⟩, nofun⟩
  learn _ _ := ⟨⟨trivial, nofun⟩, nofun⟩
  sweep := ⟨⟨trivial, nofun⟩, nofun⟩
  transmit _ := ⟨⟨trivial, nofun⟩, nofun⟩
  sendFrame read other := by
    refine ⟨⟨trivial, nofun⟩, ?_⟩
    rintro _ ⟨⟩ ipv4
    exact other (Except.ok.inj (read.symm.trans ipv4))
  configure _ := ⟨⟨trivial, nofun⟩, nofun⟩
  retry := ⟨⟨trivial, nofun⟩, nofun⟩
  flush := ⟨⟨trivial, nofun⟩, nofun⟩
  receive := ⟨⟨trivial, nofun⟩, nofun⟩
  service := ⟨⟨trivial, nofun⟩, nofun⟩

namespace Stack

open Diary (Founded RightStation lastHeard)

/-! ## Who sends a frame as it is -/

section Acts

variable [FileHandle η φ] {s s' s'' : Stack ω η φ} {p : Packet}

/-- In some run from the one stack to the other the owner sent this frame as it was. -/
def SendsAsIs (World : (ω → ω) → Prop) (s s' : Stack ω η φ) (p : Packet) : Prop :=
  ∃ between : Stack ω η φ, s.Operates World between ∧
    Operates World { between with core := (between.core.sendFrame p).2 } s'

/-- The run may go on. -/
theorem SendsAsIs.tail (sends : s.SendsAsIs World s' p) (operation : s'.Operation World s'') :
    s.SendsAsIs World s'' p := by
  obtain ⟨between, before, after⟩ := sends
  exact ⟨between, before, after.tail operation⟩

/-- **A run is made of acts**, and an IPv4 packet is sent as it is only by the owner. -/
theorem exists_acts (run : s.Operates World s') :
    ∃ acts, (∀ a ∈ acts, a.Within World) ∧ s'.core = s.core.run acts ∧
      ∀ p, .sendFrame p ∈ acts → p.ethertype? = .ok Ethernet.typeIpv4 →
        s.SendsAsIs World s' p := by
  induction run with
  | refl => exact ⟨[], nofun, rfl, nofun⟩
  | @tail t t' run operation ih =>
    obtain ⟨acts, within, made, owner⟩ := ih
    have carry (more : List (Act ω)) (last : t'.core = t.core.run more) :
        t'.core = s.core.run (acts ++ more) := by
      rw [Core.run_append, ← made, last]
    have able : Core.FullRepertoire (Act.RoutesIpv4 World) := Act.fullRepertoire_routesIpv4
    obtain leads | ⟨p, rfl⟩ := leads_operation_of able (fun _ => ⟨⟨trivial, nofun⟩, nofun⟩)
      (fun _ world => ⟨⟨trivial, fun _ eq => by cases eq; exact world⟩, nofun⟩) operation
    · obtain ⟨more, routes, last⟩ := leads.exists_run
      refine ⟨acts ++ more, ?_, carry more last, fun q mem ipv4 => ?_⟩
      · exact List.forall_mem_append.mpr ⟨within, fun a mem => (routes a mem).toWithin⟩
      · rcases List.mem_append.mp mem with before | now
        · exact (owner q before ipv4).tail operation
        · exact absurd ipv4 ((routes _ now).frame q rfl)
    · refine ⟨acts ++ [.sendFrame p], ?_, carry [_] rfl, fun q mem ipv4 => ?_⟩
      · exact List.forall_mem_append.mpr ⟨within, List.forall_mem_singleton.mpr ⟨trivial, nofun⟩⟩
      · rcases List.mem_append.mp mem with before | now
        · exact (owner q before ipv4).tail operation
        · cases List.mem_singleton.mp now
          exact ⟨t, run, .refl⟩

end Acts

variable [FileHandle η φ] {device : Device ω} {clock : ω → Tick} {config : StackConfig}
  {hw hw' : ω} {volume : φ} {s s' : Stack ω η φ}

/-- **Datagrams are addressed to the right station**, in any run of a stack that was brought up.

The run is made of acts on the core, in which nobody but the owner sends an IPv4 packet as it is.
Whichever acts these are, put down in a diary: the diary ends with the core that the run ends with,
and its frames are those that senders gave to the outlet on the way. An IPv4 packet among them was
routed, or is one of those that were sent as they were; each routed frame carries a packet that was
given to the core before; and if this is a datagram, the frame is addressed to the right station, by
the addresses that the interface had when the datagram was given and by the bindings heard until the
frame was sent. If sending takes no time, the clock still shows what was read when the binding was
looked up. -/
theorem datagrams_addressed (up : bringUp device clock config hw volume = (.ok s, hw'))
    (run : s.Operates World s') :
    (∃ acts, (∀ a ∈ acts, a.Within World) ∧ s'.core = s.core.run acts ∧
      ∀ p, .sendFrame p ∈ acts → p.ethertype? = .ok Ethernet.typeIpv4 →
        s.SendsAsIs World s' p) ∧
      ∀ acts, (∀ a ∈ acts, a.Within World) → s'.core = s.core.run acts →
        (Diary.run ⟨s.core, []⟩ acts).core = s'.core ∧
        s.core.Gives World ((Diary.run ⟨s.core, []⟩ acts).deeds.filterMap Deed.frame?) s'.core ∧
        ∀ earlier cause frame core reading later,
          (Diary.run ⟨s.core, []⟩ acts).deeds =
              earlier ++ .sent cause frame core reading :: later →
            (frame.ethertype? = .ok Ethernet.typeIpv4 →
              cause.Routed ∨ .sendFrame frame ∈ acts) ∧
            (cause.Routed → ∃ p iface, .given p iface ∈ earlier ∧ cause.Carries p iface) ∧
            (∀ ends identification payload iface,
              cause.Carries (Endpoints.datagram ends identification payload) iface →
                RightStation earlier ends iface frame core reading) ∧
            (core.Prompt → core.now = core.clock reading) := by
  refine ⟨exists_acts run, fun acts within made => ?_⟩
  obtain ⟨log, start⟩ := core_bringUp up
  have sound : (⟨s.core, []⟩ : Diary ω).Sound :=
    Diary.sound_new (by rw [start]) (by rw [start])
  have same : (Diary.run ⟨s.core, []⟩ acts).core = s'.core :=
    (Diary.core_run _ acts).trans made.symm
  refine ⟨same, ?_, ?_⟩
  · obtain ⟨new, deeds, gives⟩ := (sound.steps_run within).gives
    rwa [deeds, ← same]
  · intro earlier cause frame core reading later split
    have founded := (sound.run within).founded earlier _ later split
    have mem : .sent cause frame core reading ∈ (Diary.run ⟨s.core, []⟩ acts).deeds := by
      rw [split]
      exact List.mem_append_right _ List.mem_cons_self
    exact ⟨Diary.ipv4_routed mem founded, founded.given,
      fun _ _ _ _ carries => founded.rightStation carries, fun prompt => prompt.since founded.1⟩

/-! ## A datagram that waits for its next hop -/

/-- The neighbour whose hardware address is asked for tells it. -/
def neighbourAnswer : Bytes :=
  ((ArpMessage.reply ⟨2, 0, 0, 0, 0, 9⟩ ⟨10, 0, 0, 9⟩ ⟨2, 0, 0, 0, 0, 1⟩ ⟨10, 0, 0, 2⟩).packet
    ⟨2, 0, 0, 0, 0, 1⟩).data

/-- The datagram is parked, the answer comes in, and the pass after the one that reads it sends the
datagram. -/
def releasing : List (Act (Tapped Bench)) :=
  [.identify, .transmit greeting,
    .count fun n => { n with rxFrames := n.rxFrames + 1 },
    .tell (.frame (.queued neighbourAnswer.length ⟨1⟩)),
    .retry, .service, .receive, .flush, .learn ⟨10, 0, 0, 9⟩ ⟨2, 0, 0, 0, 0, 9⟩,
    .retry, .service, .receive, .flush]

/-- The neighbour answers while a datagram for it is parked. The datagram is then sent to the
station that was heard. -/
theorem datagrams_addressed_neighbourAnswers :
    ∃ hw s' earlier frame core reading later,
      bringUp observed (·.hw.now) rented { hw := {} } {} = (.ok settled, hw) ∧
      settled.Operates (fun _ => False) s' ∧
      (Diary.run ⟨settled.core, []⟩ releasing).deeds =
        earlier ++ .sent (.known { greeting.sealed with nextHop := some ⟨10, 0, 0, 9⟩ }
          ⟨10, 0, 0, 9⟩) frame core reading :: later ∧
      RightStation earlier ⟨⟨2, 0, 0, 0, 0, 1⟩, ⟨10, 0, 0, 2⟩, 7, ⟨10, 0, 0, 9⟩, 9⟩
        settled.core.iface frame core reading := by
  obtain ⟨hw, up⟩ := bringUp_settled
  obtain ⟨s', run, made⟩ : ∃ s', settled.Operates (fun _ => False) s' ∧
      s'.core = settled.core.run releasing := by
    have sent : settled.Operates (fun _ => False)
        { settled with core := (settled.core.sendDatagram 7 ⟨10, 0, 0, 9⟩ 9 [1]).2 } :=
      .single (.sendDatagram 7 ⟨10, 0, 0, 9⟩ 9 [1])
    have heard := sent.tail (.receiveFrame neighbourAnswer)
    exact ⟨_, (heard.tail (.pump rfl)).tail (.pump rfl), rfl⟩
  obtain ⟨earlier, frame, core, reading, later, deeds⟩ :
      ∃ earlier frame core reading later, (Diary.run ⟨settled.core, []⟩ releasing).deeds =
        earlier ++ .sent (.known { greeting.sealed with nextHop := some ⟨10, 0, 0, 9⟩ }
          ⟨10, 0, 0, 9⟩) frame core reading :: later :=
    ⟨[_, _, _], _, _, _, [], rfl⟩
  have within : ∀ a ∈ releasing, a.Within (fun _ => False) := by
    intro a mem
    simp only [releasing, List.mem_cons, List.not_mem_nil, or_false] at mem
    rcases mem with rfl | rfl | rfl | rfl | rfl | rfl | rfl | rfl | rfl | rfl | rfl | rfl | rfl
    case inr.inr.inl => exact ⟨fun _ => ⟨rfl, rfl, rfl⟩, nofun⟩
    all_goals exact ⟨trivial, nofun⟩
  obtain ⟨-, addressed⟩ := datagrams_addressed up run
  obtain ⟨-, -, addressed⟩ := addressed releasing within made
  have station := (addressed earlier _ frame core reading later deeds).2.2.1
  have resolves : greeting.disposition settled.core.iface = .resolve ⟨10, 0, 0, 9⟩
      { greeting.sealed with nextHop := some ⟨10, 0, 0, 9⟩ } := by decide +kernel
  exact ⟨hw, s', earlier, frame, core, reading, later, up, run, deeds,
    station ⟨⟨2, 0, 0, 0, 0, 1⟩, ⟨10, 0, 0, 2⟩, 7, ⟨10, 0, 0, 9⟩, 9⟩ 1 [1] settled.core.iface
      (.inr ⟨_, _, rfl, resolves⟩)⟩

end Stack

end PolledNet
