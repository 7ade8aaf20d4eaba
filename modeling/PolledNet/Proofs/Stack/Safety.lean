import PolledNet.Link.Bench
import PolledNet.Proofs.Access.Passes
import PolledNet.Proofs.Sink.Order

/-!
# No received frame brings the stack down

A stack that was brought up and then used through its entry points (`Stack.Reached`) is sane: its
address bindings and parked packets are fit for use, and so is all that waits for its sinks
(`Stack.sane_of_reached`). So any octets at all may be received as a frame, then and whenever
something else has happened since, and no handler that runs because of it looks outside what it was
given, takes away more than there is, or divides by zero (`Stack.no_fault_of_reached`).
-/

namespace PolledNet

open PolledNet.Core (Leads)

variable {ω η φ : Type}

namespace Stack

/-! ## New sinks -/

section Sinks

variable {s s' s'' : Stack ω η φ}

/-- Sinks may go, and those that come are ready and have nothing waiting. -/
def Admits (s s' : Stack ω η φ) : Prop :=
  ∀ sink ∈ s'.sinks.sinks, sink ∈ s.sinks.sinks ∨ sink.Ready ∧ sink.queue = {}

/-- A stack with the same sinks admits no new ones. -/
theorem Admits.of_eq (same : s'.sinks = s.sinks) : s.Admits s' :=
  fun _ mem => .inl (same ▸ mem)

/-- What is admitted first or later is admitted. -/
theorem Admits.trans (first : s.Admits s') (second : s'.Admits s'') : s.Admits s'' := by
  intro sink mem
  rcases second sink mem with old | new
  · exact first sink old
  · exact .inr new

/-- A sane stack that only admits sinks that are ready stays sane, if its core does. -/
theorem Sane.of_admits (sane : s.Sane) (core : s'.core.Sane) (admits : s.Admits s') : s'.Sane := by
  refine ⟨core, ?_⟩
  intro sink mem
  rcases admits sink mem with old | ⟨ready, empty⟩
  · exact sane.sinks sink old
  · exact ⟨ready, by rw [empty]; nofun⟩

/-- Registering a sink that is ready, and for which nothing waits, is no more than admitting it. -/
theorem admits_addSink {core : Core ω} {sink : Sink (SinkKind η)} (ready : sink.Ready)
    (empty : sink.queue = {}) : s.Admits ({ s with core }.addSink sink).2 := by
  intro other mem
  rcases (mem_place_iff _ _ _).mp mem with rfl | old
  · exact .inr ⟨ready, empty⟩
  · exact .inl old

/-- Removing a sink admits none. -/
theorem admits_removeSink? {id : SinkId} {sink : Sink (SinkKind η)}
    (removed : s.removeSink? id = some (sink, s')) : s.Admits s' := by
  unfold removeSink? SinkTable.remove? at removed
  obtain ⟨⟨found, sinks⟩, taken, eq⟩ := Option.map_eq_some_iff.mp removed
  obtain ⟨_, -, eq'⟩ := Option.map_eq_some_iff.mp taken
  cases eq
  cases eq'
  exact fun other mem => .inl (List.mem_of_mem_eraseP mem)

/-- Removing several sinks admits none. -/
theorem admits_removeSinks (ids : List SinkId) :
    s.Admits (ids.foldl (fun s id => ((s.removeSink? id).map (·.2)).getD s) s) := by
  induction ids generalizing s with
  | nil => exact .of_eq rfl
  | cons id rest ih =>
    rw [List.foldl_cons]
    refine Admits.trans ?_ ih
    cases removed : s.removeSink? id with
    | none => exact .of_eq rfl
    | some result => exact admits_removeSink? removed

/-- A DHCP client that is started is ready. -/
theorem admits_startDhcp (s : Stack ω η φ) : s.Admits s.startDhcp.2 := by
  have cleared := admits_removeSinks (s := s) ((s.sinks.sinks.filter isDhcp).map (·.id))
  unfold startDhcp
  dsimp only
  generalize List.foldl _ s _ = s₁ at cleared ⊢
  generalize DhcpClient.Session.start (Core.uplink ω) _ = started
  obtain ⟨answer, session⟩ := started
  exact cleared.trans (admits_addSink trivial rfl)

variable [FileHandle η φ]

/-- A transfer that is started is ready, and if none is started no sink comes. -/
theorem admits_startTransfer (opener : FileOpener η φ) (job : TransferJob) :
    s.Admits (s.startTransfer opener job).2 := by
  unfold startTransfer
  split
  · exact .of_eq rfl
  · obtain ⟨nextPort, allocated⟩ := s.allocatePortWithin_eq
      (Udp.ephemeralLast.toNat - Udp.ephemeralFirst.toNat + 1)
    split
    · rename_i s₁ eq
      have eq₁ : s₁ = { s with nextPort } := by rw [← allocated, ← allocatePort, eq]
      rw [eq₁]
      exact .of_eq rfl
    · rename_i port s₁ eq
      have eq₁ : s₁ = { s with nextPort } := by rw [← allocated, ← allocatePort, eq]
      rw [eq₁]
      dsimp only
      split
      · exact .of_eq rfl
      · rename_i file volume _
        have begun := Transfer.Session.start_transfer (Core.uplink ω)
          ⟨job.transfer file volume port s.core.config.transfer s.core.now, Timer.idle, s.core,
            volume⟩
        generalize Transfer.Session.start (Core.uplink ω) (Transfer.Session.mk
          (job.transfer file volume port s.core.config.transfer s.core.now) Timer.idle s.core
            volume) = started at begun ⊢
        obtain ⟨answer, transfer, timer, core, volume⟩ := started
        dsimp only at begun
        subst begun
        intro sink mem
        rcases (mem_place_iff _ _ _).mp mem with rfl | old
        · exact .inr ⟨Nat.le_refl 1, rfl⟩
        · exact .inl old

/-- Finishing a transfer admits no sink. -/
theorem admits_finishTransfer (id : SinkId) : s.Admits (s.finishTransfer id).2 := by
  unfold finishTransfer
  split
  · rename_i removed
    have out := admits_removeSink? removed
    split
    · exact out
    · exact out.trans (.of_eq rfl)
  · exact .of_eq rfl

end Sinks

/-! ## Bringing a stack up -/

section Start

variable {s : Stack ω η φ}

/-- A note to the operator keeps a stack sane. -/
theorem Sane.tell (sane : s.Sane) (e : StackEvent) : (s.tell e).Sane :=
  ⟨sane.core.of_eq rfl rfl, sane.sinks⟩

/-- Registering sinks that are ready, one after the other, keeps a stack sane. -/
theorem Sane.addSinks {sinks : List (Sink (SinkKind η))} (sane : s.Sane)
    (new : ∀ sink ∈ sinks, sink.Ready ∧ sink.queue = {}) :
    (sinks.foldl (fun s sink => (s.addSink sink).2) s).Sane := by
  induction sinks generalizing s with
  | nil => exact sane
  | cons sink rest ih =>
    obtain ⟨ready, empty⟩ := new sink List.mem_cons_self
    have added : (s.addSink sink).2.Sane :=
      sane.of_admits (sane.core.of_eq rfl rfl) (admits_addSink ready empty)
    exact ih added fun other mem => new other (List.mem_cons_of_mem sink mem)

/-- The services that every stack has are ready, and nothing waits for them. -/
theorem ready_builtinSinks (now interval : Tick) :
    ∀ sink ∈ builtinSinks (η := η) now interval, sink.Ready ∧ sink.queue = {} := by
  intro sink mem
  simp only [builtinSinks, List.mem_cons, List.not_mem_nil, or_false] at mem
  rcases mem with rfl | rfl | rfl
  · exact ⟨trivial, rfl⟩
  · exact ⟨rfl, rfl⟩
  · exact ⟨rfl, rfl⟩

/-- Nothing is known, parked or registered yet. -/
theorem sane_of_blank (arp : s.core.arp = .empty) (parked : s.core.parked = [])
    (sinks : s.sinks = {}) : s.Sane where
  core :=
    { arp := by rw [arp]; exact ArpCache.distinct_empty
      parked := by rw [parked]; exact List.forall_mem_nil _ }
  sinks := by rw [sinks]; exact List.forall_mem_nil _

/-- A stack starts sane. -/
theorem sane_bringUp {device : Device ω} {clock : ω → Tick} {config : StackConfig} {hw hw' : ω}
    {volume : φ} (up : bringUp device clock config hw volume = (.ok s, hw')) : s.Sane := by
  unfold bringUp at up
  split at up
  · cases up
  · obtain ⟨rfl⟩ := Except.ok.inj (Prod.mk.inj up).1
    split
    · refine Sane.addSinks ?_ (ready_builtinSinks _ _)
      apply Sane.tell
      exact sane_of_blank rfl rfl rfl
    · apply Sane.tell
      refine Sane.addSinks ?_ (ready_builtinSinks _ _)
      apply Sane.tell
      exact sane_of_blank rfl rfl rfl

end Start

/-! ## Using a stack -/

variable [FileHandle η φ]

/-- A use of a stack through one of its entry points, or what the world does between two of them. -/
inductive Entry (s : Stack ω η φ) : Stack ω η φ → Prop where
  /-- Time passes, frames come and go, and others use the volume. -/
  | elapse (f : ω → ω) (volume : φ) :
      Entry s { s with core := { s.core with hw := f s.core.hw }, volume }
  /-- A pass. -/
  | pump {s' : Stack ω η φ} (ran : s.pump = .ok s') : Entry s s'
  /-- A frame is handed in. -/
  | receiveFrame (frame : Bytes) : Entry s (s.receiveFrame frame)
  /-- The DHCP client is started. -/
  | startDhcp : Entry s s.startDhcp.2
  /-- A transfer is started. -/
  | startTransfer (opener : FileOpener η φ) (job : TransferJob) :
      Entry s (s.startTransfer opener job).2
  /-- A transfer is taken out. -/
  | finishTransfer (id : SinkId) : Entry s (s.finishTransfer id).2
  /-- A sink is taken out. -/
  | removeSink {id : SinkId} {sink : Sink (SinkKind η)} {s' : Stack ω η φ}
      (removed : s.removeSink? id = some (sink, s')) : Entry s s'
  /-- The interface gets other addresses. -/
  | configure (iface : InterfaceConfig) : Entry s (s.configure iface)
  /-- A datagram from our address is built. -/
  | datagram (sourcePort : UInt16) (dest : Ipv4) (destPort : UInt16) (payload : Bytes) :
      Entry s { s with core := (s.core.datagram sourcePort dest destPort payload).2 }
  /-- A datagram is built that answers what a filter selects. -/
  | datagramFor {f : Filter} {payload : Bytes} {p : Packet} {core : Core ω}
      (built : s.core.datagramFor? f payload = some (p, core)) : Entry s { s with core }
  /-- A datagram that was built, then or before, is sent. -/
  | transmit {ends : Endpoints} {identification : UInt16} {payload : Bytes}
      {answer : Except NetError Unit} {s' : Stack ω η φ}
      (sent : s.transmit (ends.datagram identification payload) = .ok (answer, s')) : Entry s s'

/-- Any sequence of uses. -/
def Used : Stack ω η φ → Stack ω η φ → Prop := Relation.ReflTransGen Entry

/-- A stack that was brought up, on any hardware and with any configuration, and then used. -/
inductive Reached : Stack ω η φ → Prop where
  | intro {device : Device ω} {clock : ω → Tick} {config : StackConfig} {hw hw' : ω} {volume : φ}
      {s s' : Stack ω η φ} (up : bringUp device clock config hw volume = (.ok s, hw'))
      (used : s.Used s') : Reached s'

variable {s s' : Stack ω η φ}

/-- Every use keeps a stack sane. -/
theorem Sane.entry (sane : s.Sane) (entry : s.Entry s') : s'.Sane := by
  cases entry with
  | elapse f volume => exact ⟨sane.core.of_eq rfl rfl, sane.sinks⟩
  | pump ran => exact sane.pump ran
  | receiveFrame frame => exact sane.receiveFrame frame
  | startDhcp =>
    have leads := leads_startDhcp Core.repertoire_plain s
    exact sane.of_admits (leads.sane sane.core) s.admits_startDhcp
  | startTransfer opener job =>
    exact sane.of_admits ((leads_startTransfer Core.repertoire_plain opener job).1.sane sane.core)
      (admits_startTransfer opener job)
  | finishTransfer id =>
    exact sane.of_admits ((leads_finishTransfer Core.repertoire_plain id).1.sane sane.core)
      (admits_finishTransfer id)
  | removeSink removed =>
    exact sane.of_admits ((leads_removeSink? Core.repertoire_plain removed).sane sane.core)
      (admits_removeSink? removed)
  | configure iface => exact ⟨sane.core.of_eq rfl rfl, sane.sinks⟩
  | datagram => exact ⟨sane.core.of_eq rfl rfl, sane.sinks⟩
  | @datagramFor f payload p core built =>
    refine ⟨?_, sane.sinks⟩
    unfold Core.datagramFor? at built
    split at built
    · cases built
      exact sane.core.of_eq rfl rfl
    · cases built
  | transmit sent =>
    unfold Stack.transmit at sent
    obtain ⟨result, ran, done⟩ := exists_ok_of_bind sent
    cases done
    exact ⟨(Core.plain_transmit ran).sane sane.core, sane.sinks⟩

/-- Each use of a stack keeps it sane. -/
theorem Sane.used (sane : s.Sane) (used : s.Used s') : s'.Sane := by
  induction used with
  | refl => exact sane
  | tail _ entry ih => exact ih.entry entry

/-- Every stack that can be reached is sane. -/
theorem sane_of_reached (reached : s.Reached) : s.Sane := by
  obtain ⟨up, used⟩ := reached
  exact (sane_bringUp up).used used

/-- **No received frame brings the stack down.** Whatever octets a stack that was brought up and
used in any way receives as a frame, to classify and queue them does not fault. Nor does any pass
after that, whatever else has happened since: the handlers of all that waits and of all timers that
are due, taken one access, one difference and one quotient after the other, come to what the pass
comes to. -/
theorem no_fault_of_reached [FileHandle.Bounded η φ] (reached : s.Reached) (frame : Bytes) :
    s.checkedReceiveFrame frame = .ok (s.receiveFrame frame) ∧
      ∀ later, (s.receiveFrame frame).Used later →
        ∃ s', later.checkedPump = .ok s' ∧ later.pump = .ok s' := by
  have received := (sane_of_reached reached).receiveFrame frame
  exact ⟨s.checkedReceiveFrame_eq frame, fun _ used => checkedPump_agrees (received.used used)⟩

/-- A stack on a bench, as it comes up. -/
def stationed : Except NetError (Stack Bench RamFile RamVolume) × Bench :=
  bringUp (Bench.device .a ⟨2, 0, 0, 0, 0, 1⟩ none 0) Bench.now {} {} {}

/-- A stack that is given an address and hears another station announce its own does not fault. -/
theorem no_fault_of_reached_announcement :
    let iface : InterfaceConfig := { address := ⟨192, 168, 1, 1⟩, netmask := ⟨255, 255, 255, 0⟩ }
    let frame := ((ArpMessage.request ⟨2, 0, 0, 0, 0, 9⟩ ⟨192, 168, 1, 9⟩ ⟨192, 168, 1, 9⟩).packet
      Mac.broadcast).data
    ∃ s hw s₁ s₂, stationed = (.ok s, hw) ∧ (s.configure iface).checkedReceiveFrame frame = .ok s₁ ∧
      s₁.core.stats.rxFrames = 1 ∧ s₁.checkedPump = .ok s₂ ∧ s₂.core.arp.size = 1 := by
  intro iface frame
  obtain ⟨s, hw, s', up, counted, ran, learned⟩ : ∃ s hw s', stationed = (.ok s, hw) ∧
      ((s.configure iface).receiveFrame frame).core.stats.rxFrames = 1 ∧
      ((s.configure iface).receiveFrame frame).pump = .ok s' ∧ s'.core.arp.size = 1 :=
    ⟨_, _, _, rfl, rfl, rfl, rfl⟩
  obtain ⟨received, passes⟩ := no_fault_of_reached (.intro up (.single (.configure iface))) frame
  obtain ⟨s₂, checked, plain⟩ := passes _ .refl
  obtain rfl : s' = s₂ := Except.ok.inj (ran.symm.trans plain)
  exact ⟨s, hw, _, s', up, received, counted, checked, learned⟩

end Stack

end PolledNet
