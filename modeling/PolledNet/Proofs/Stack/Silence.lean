import PolledNet.Proofs.Core.Silence
import PolledNet.Proofs.Stack.Safety

/-!
# Silence without an address

A stack that was brought up, and whose owner sends no loud frame past the routing, only does what
`Act.Routed` names (`leads_turns`). So while its interface has no address, the device takes no loud
frame but those that waited when the address was lost (`silence`).

These it does take (`not_silent_without_address`): neither the retries nor the backlog look at the
addresses again.
-/

namespace PolledNet

open PolledNet.Core (Leads Answerable)

variable {ω η φ : Type} {World : (ω → ω) → Prop}

/-! ## Answers -/

namespace Packet

variable {p : Packet}

/-- An echo reply has its layers where the request has them. -/
theorem offsets_of_echo {mac : Mac} {requester : Ipv4} {reply : Packet}
    (echoed : p.echo mac = .ok (.reply requester reply)) : reply.offsets = p.offsets := by
  obtain ⟨requesterMac, header, turned, message, -, -, rfl⟩ := exists_of_echo echoed
  rfl

/-- A packet that is framed can be answered by routed acts. -/
theorem Framed.answerable (framed : p.Framed) : Answerable (Act.Routed World) p :=
  fun _ _ _ echoed => Core.fullRepertoire_routed.transmit
    ((congrArg _ (offsets_of_echo echoed)).trans framed.network)

end Packet

namespace Stack

variable [FileHandle η φ] {s s' : Stack ω η φ}

/-! ## Runs -/

/-- One thing that is done with a stack, by anyone who sends no loud frame past the routing, or the
world moves on as it may. -/
inductive Turn (World : (ω → ω) → Prop) (s : Stack ω η φ) : Stack ω η φ → Prop where
  /-- The world moves on, and others use the volume. -/
  | elapse {f : ω → ω} (world : World f) (volume : φ) :
      Turn World s { s with core := { s.core with hw := f s.core.hw }, volume }
  /-- A pass. -/
  | pump {s' : Stack ω η φ} (ran : s.pump = .ok s') : Turn World s s'
  /-- A frame is handed in. -/
  | receiveFrame (frame : Bytes) : Turn World s (s.receiveFrame frame)
  /-- A datagram is built. -/
  | identify : Turn World s { s with core := s.core.nextIdentification.2 }
  /-- A packet is sent, its datagram behind the Ethernet header. -/
  | transmit {p : Packet} {answer : Except NetError Unit} {s' : Stack ω η φ}
      (behind : p.offsets.network = Ethernet.headerSize)
      (sent : s.transmit p = .ok (answer, s')) : Turn World s s'
  /-- A frame is sent as it is. -/
  | sendFrame {p : Packet} (quiet : ¬ p.data.Loud) :
      Turn World s { s with core := (s.core.sendFrame p).2 }
  /-- An address binding is told. -/
  | learn (a : Ipv4) (mac : Mac) :
      Turn World s { s with core := s.core.act (.learn a mac) }
  /-- The DHCP client is started. -/
  | startDhcp : Turn World s s.startDhcp.2
  /-- A transfer is started. -/
  | startTransfer (opener : FileOpener η φ) (job : TransferJob) :
      Turn World s (s.startTransfer opener job).2
  /-- A transfer is taken out. -/
  | finishTransfer (id : SinkId) : Turn World s (s.finishTransfer id).2
  /-- A sink is registered. -/
  | addSink {sink : Sink (SinkKind η)} (ready : sink.Ready) (empty : sink.queue = {}) :
      Turn World s (s.addSink sink).2
  /-- A sink is taken out. -/
  | removeSink {id : SinkId} {sink : Sink (SinkKind η)} {s' : Stack ω η φ}
      (removed : s.removeSink? id = some (sink, s')) : Turn World s s'
  /-- The interface gets other addresses. -/
  | configure (iface : InterfaceConfig) : Turn World s (s.configure iface)

/-- Any sequence of such things. -/
def Turns (World : (ω → ω) → Prop) : Stack ω η φ → Stack ω η φ → Prop :=
  Relation.ReflTransGen (Turn World)

/-- A sane stack stays sane in every turn. -/
theorem Sane.turn (sane : s.Sane) (turn : s.Turn World s') : s'.Sane := by
  cases turn with
  | elapse world volume => exact sane.entry (.elapse _ volume)
  | pump ran => exact sane.entry (.pump ran)
  | receiveFrame frame => exact sane.entry (.receiveFrame frame)
  | identify => exact ⟨sane.core.of_eq rfl rfl, sane.sinks⟩
  | transmit behind sent =>
    unfold Stack.transmit at sent
    obtain ⟨result, ran, done⟩ := exists_ok_of_bind sent
    cases done
    exact ⟨(Core.plain_transmit ran).sane sane.core, sane.sinks⟩
  | sendFrame quiet => exact ⟨sane.core.sendFrame _, sane.sinks⟩
  | learn a mac => exact ⟨Core.sane_act sane.core (.learn a mac), sane.sinks⟩
  | startDhcp => exact sane.entry .startDhcp
  | startTransfer opener job => exact sane.entry (.startTransfer opener job)
  | finishTransfer id => exact sane.entry (.finishTransfer id)
  | addSink ready empty =>
    exact sane.of_admits (sane.core.of_eq rfl rfl) (admits_addSink ready empty)
  | removeSink removed => exact sane.entry (.removeSink removed)
  | configure iface => exact sane.entry (.configure iface)

/-- What happens in a turn is done by routed acts. -/
theorem leads_turn (sane : s.Sane) (turn : s.Turn World s') :
    Leads (Act.Routed World) s.core s'.core := by
  have able : Core.FullRepertoire (Act.Routed World) := Core.fullRepertoire_routed
  cases turn with
  | @elapse f world volume =>
    exact .one (a := .elapse f) ⟨⟨trivial, fun g eq => by cases eq; exact world⟩, nofun, nofun⟩
  | pump ran =>
    refine leads_pump able (fun sink mem p waits => ?_) ran
    exact ((sane.collected.sinks sink mem).waiting p waits).framed.answerable
  | receiveFrame frame => exact leads_receiveFrame_of able.toRoutine s frame
  | identify => exact able.leads_nextIdentification s.core
  | transmit behind sent =>
    unfold Stack.transmit at sent
    obtain ⟨result, ran, done⟩ := exists_ok_of_bind sent
    cases done
    exact (able.sendable (able.transmit behind)).leads_transmit ran
  | @sendFrame p quiet =>
    exact .one (a := .sendFrame p)
      ⟨⟨trivial, nofun⟩, fun q eq => by cases eq; exact quiet, nofun⟩
  | learn a mac => exact .one (a := .learn a mac) (able.learn a mac)
  | startDhcp => exact leads_startDhcp able.toRepertoire s
  | startTransfer opener job => exact (leads_startTransfer able.toRepertoire opener job).1
  | finishTransfer id => exact (leads_finishTransfer able.toRepertoire id).1
  | addSink => exact able.leads_tell s.core _
  | removeSink removed => exact leads_removeSink? able.toRepertoire removed
  | configure iface =>
    exact (able.leads_tell s.core _).andThen (a := .configure iface) (able.configure iface)

/-- **What is done with a stack is routed.** -/
theorem leads_turns (sane : s.Sane) (turns : s.Turns World s') :
    s'.Sane ∧ Leads (Act.Routed World) s.core s'.core := by
  induction turns with
  | refl => exact ⟨sane, .refl _⟩
  | tail _ turn ih => exact ⟨ih.1.turn turn, ih.2.trans (leads_turn ih.1 turn)⟩

/-! ## Silence -/

omit [FileHandle η φ] in
/-- A stack that is brought up is on the device it was given. -/
theorem device_bringUp {device : Device ω} {clock : ω → Tick} {config : StackConfig} {hw hw' : ω}
    {volume : φ} {s : Stack ω η φ} (up : bringUp device clock config hw volume = (.ok s, hw')) :
    s.core.device = device := by
  unfold bringUp at up
  split at up
  · cases up
  · obtain ⟨rfl⟩ := Except.ok.inj (Prod.mk.inj up).1
    split <;> rfl

/-- **What is sent without an address**, in any run of a stack that was brought up on a device under
observation, and from any moment of it on for as long as the interface has no address.

Whichever acts the run is made of: over a stretch of them without an address, the device takes no
loud frame more often than it waited when the stretch began. If nothing loud waited then, every IPv4
packet that the device takes is a UDP datagram from `unconfiguredPort`. -/
theorem silence {d : Device ω} {clock : Tapped ω → Tick} {config : StackConfig}
    {hw hw' : Tapped ω} {volume : φ} {s s' : Stack (Tapped ω) η φ}
    (up : bringUp d.tapped clock config hw volume = (.ok s, hw'))
    (turns : s.Turns Tapped.Honest s') :
    (∃ acts, (∀ a ∈ acts, a.Routed Tapped.Honest) ∧ s'.core = s.core.run acts) ∧
      ∀ before stretch after, (∀ a ∈ before ++ stretch ++ after, a.Routed Tapped.Honest) →
        s'.core = s.core.run (before ++ stretch ++ after) → (s.core.run before).Down stretch →
          ∃ new, (s.core.run (before ++ stretch)).hw.taken = (s.core.run before).hw.taken ++ new ∧
            (∀ frame : Bytes, frame.Loud →
              (new.map Bytes.letter).count frame.letter ≤
                (s.core.run before).heldBack frame.letter) ∧
            ((∀ p ∈ (s.core.run before).backlog ++ (s.core.run before).parked, ¬ p.data.Loud) →
              ∀ frame ∈ new, frame.wordAt 12 = Ethernet.typeIpv4 →
                frame.From unconfiguredPort) := by
  have sane := sane_bringUp up
  refine ⟨(leads_turns sane turns).2.exists_run, fun before stretch after routed _ down => ?_⟩
  have earlier : ∀ a ∈ before, a.Routed Tapped.Honest :=
    fun a mem => routed a (List.mem_append_left _ (List.mem_append_left _ mem))
  have during : ∀ a ∈ stretch, a.Routed Tapped.Honest :=
    fun a mem => routed a (List.mem_append_left _ (List.mem_append_right _ mem))
  have tapped : (s.core.run before).device = d.tapped :=
    (Core.leads_run earlier).sameSetup.device.trans (device_bringUp up)
  rw [Core.run_append]
  exact Core.taken_run tapped during down

/-! ## A packet that is sent without an address -/

/-- A device on a bench, under observation. -/
def observed : Device (Tapped Bench) := (Bench.device .a ⟨2, 0, 0, 0, 0, 1⟩ none 0).tapped

/-- A static address. -/
def rented : StackConfig :=
  { network := some ⟨⟨10, 0, 0, 2⟩, ⟨255, 255, 255, 0⟩, none, none⟩ }

/-- A stack with this address, as it comes up. -/
def settled : Stack (Tapped Bench) RamFile RamVolume :=
  (bringUp observed (·.hw.now) rented { hw := {} } {}).1.toOption.get rfl

/-- The stack with the rented address comes up. -/
theorem bringUp_settled :
    ∃ hw, bringUp observed (·.hw.now) rented { hw := {} } {} = (.ok settled, hw) := ⟨_, rfl⟩

/-- A datagram to a neighbour whose hardware address is not known. -/
def greeting : Packet := (settled.core.datagram 7 ⟨10, 0, 0, 9⟩ 9 [1]).1

/-- The datagram is parked, and the interface loses its address. -/
def evicting : List (Act (Tapped Bench)) :=
  [.identify, .transmit greeting,
    .tell (.stack (.configured Ipv4.unspecified Ipv4.unspecified none)),
    .configure InterfaceConfig.unconfigured]

/-- The neighbour is heard, and a pass is made. -/
def passing : List (Act (Tapped Bench)) :=
  [.learn ⟨10, 0, 0, 9⟩ ⟨2, 0, 0, 0, 0, 9⟩, .retry, .service, .receive, .flush]

/-- The acts of the eviction and of the pass after it are routed. -/
theorem routed_passing : ∀ a ∈ evicting ++ passing ++ [], a.Routed Tapped.Honest := by
  have able : Core.FullRepertoire (Act.Routed (Tapped.Honest (ω := Bench))) :=
    Core.fullRepertoire_routed
  intro a mem
  simp only [evicting, passing, List.cons_append, List.nil_append, List.mem_cons,
    List.not_mem_nil, or_false] at mem
  rcases mem with rfl | rfl | rfl | rfl | rfl | rfl | rfl | rfl | rfl
  · exact able.identify
  · exact able.transmit rfl
  · exact able.tell _
  · exact able.configure _
  · exact able.learn _ _
  · exact able.retry
  · exact able.service
  · exact able.receive
  · exact able.flush

/-- The interface has no address during the pass. -/
theorem down_passing : (settled.core.run evicting).Down passing := by
  refine Core.down_of_keepsAddress rfl fun a mem => ?_
  simp only [passing, List.mem_cons, List.not_mem_nil, or_false] at mem
  rcases mem with rfl | rfl | rfl | rfl | rfl <;> trivial

/-- All of this is done by a stack and its owner. -/
theorem turns_passing : ∃ s', settled.Turns Tapped.Honest s' ∧
    s'.core = settled.core.run (evicting ++ passing ++ []) := by
  have built : settled.Turns Tapped.Honest
      { settled with core := settled.core.nextIdentification.2 } := .single .identify
  have sent := built.tail (.transmit (p := greeting) rfl rfl)
  have evicted := (sent.tail (.configure InterfaceConfig.unconfigured)).tail
    (.learn ⟨10, 0, 0, 9⟩ ⟨2, 0, 0, 0, 0, 9⟩)
  exact ⟨_, evicted.tail (.pump rfl), rfl⟩

/-- The datagram that was held back leaves in a pass without an address, once its neighbour is
heard, and nothing else does. -/
theorem silence_neighbourHeard :
    ∃ hw s', bringUp observed (·.hw.now) rented { hw := {} } {} = (.ok settled, hw) ∧
      settled.Turns Tapped.Honest s' ∧
      s'.core = settled.core.run (evicting ++ passing ++ []) ∧
      (settled.core.run evicting).Down passing ∧
      ∃ new, s'.core.hw.taken = (settled.core.run evicting).hw.taken ++ new ∧ new.length = 1 ∧
        ∀ frame : Bytes, frame.Loud → (new.map Bytes.letter).count frame.letter ≤
          (settled.core.run evicting).heldBack frame.letter := by
  obtain ⟨s', turns, made⟩ := turns_passing
  obtain ⟨hw, up⟩ := bringUp_settled
  obtain ⟨-, silent⟩ := silence (d := Bench.device .a ⟨2, 0, 0, 0, 0, 1⟩ none 0) up turns
  obtain ⟨new, taken, bounded, -⟩ := silent evicting passing [] routed_passing made down_passing
  have held : s'.core.hw.taken = (settled.core.run evicting).hw.taken ++ new := by
    rw [made, List.append_nil, taken]
  refine ⟨hw, s', up, turns, made, down_passing, new, held, ?_, bounded⟩
  have total : (settled.core.run (evicting ++ passing)).hw.taken.length = 2 := by decide +kernel
  have before : (settled.core.run evicting).hw.taken.length = 1 := by decide +kernel
  rw [taken, List.length_append, before] at total
  omega

/-- **A datagram from another port is sent without an address.** It was parked while the interface
had one; the interface lost it, the neighbour was heard, and the next pass sent the datagram. -/
theorem not_silent_without_address :
    ¬ ∀ (s s' : Stack (Tapped Bench) RamFile RamVolume) (hw hw' : Tapped Bench)
        (before stretch : List (Act (Tapped Bench))) (new : List Bytes),
      bringUp observed (·.hw.now) rented hw {} = (.ok s, hw') → s.Turns Tapped.Honest s' →
        (∀ a ∈ before ++ stretch ++ [], a.Routed Tapped.Honest) →
          s'.core = s.core.run (before ++ stretch ++ []) → (s.core.run before).Down stretch →
            (s.core.run (before ++ stretch)).hw.taken = (s.core.run before).hw.taken ++ new →
              ∀ frame ∈ new, frame.wordAt 12 = Ethernet.typeIpv4 →
                frame.From unconfiguredPort := by
  intro silent
  obtain ⟨hw, up⟩ := bringUp_settled
  obtain ⟨s', turns, made⟩ := turns_passing
  have sent : ∃ frame : Bytes, (settled.core.run (evicting ++ passing)).hw.taken =
      (settled.core.run evicting).hw.taken ++ [frame] ∧ frame.Loud :=
    ⟨(settled.core.run (evicting ++ passing)).hw.taken.getD 1 [], by decide +kernel⟩
  obtain ⟨frame, taken, loud⟩ := sent
  exact loud.other (silent settled s' _ hw evicting passing [frame] up turns routed_passing made
    down_passing taken frame List.mem_cons_self loud.ipv4)

end Stack

end PolledNet
