import PolledNet.Proofs.Stack.Operation

/-!
# Runs as lists of commands

A `Command` is one thing that the owner of a stack asks of it, or what the world does in between; a
run is a list of them, and `performAll` says what it comes to. Lists of commands can be told apart
and taken apart, so that what happens in a run can be computed along it (`recorded`).

To the core a command is made of acts (`leads_perform`), and so is a run (`leads_performAll`).
-/

namespace PolledNet

open PolledNet.Core (Leads FullRepertoire)

variable {ω η φ : Type} {World : (ω → ω) → Prop}

/-- One thing that is asked of a stack, or that the world does in between. -/
inductive Command (ω η φ : Type) where
  /-- Time passes, frames come and go, and others use the volume. -/
  | elapse (world : ω → ω) (others : φ → φ)
  /-- A pass. -/
  | pump
  /-- A frame is handed in. -/
  | receiveFrame (frame : Bytes)
  /-- A fully addressed frame is sent. -/
  | sendFrame (p : Packet)
  /-- A packet is sent. -/
  | transmit (p : Packet)
  /-- A datagram takes its identification. -/
  | identify
  /-- A datagram is built and sent. -/
  | sendDatagram (sourcePort : UInt16) (dest : Ipv4) (destPort : UInt16) (payload : Bytes)
  /-- The interface gets other addresses. -/
  | configure (iface : InterfaceConfig)
  /-- The operator is told. -/
  | tell (e : Event)
  /-- A sink is registered. -/
  | addSink (sink : Sink (SinkKind η))
  /-- The sink of a name is taken out. -/
  | removeSink (id : SinkId)
  /-- A local port is picked. -/
  | allocatePort
  /-- The DHCP client is started. -/
  | startDhcp
  /-- A transfer is started. -/
  | startTransfer (opener : FileOpener η φ) (job : TransferJob)
  /-- A transfer is taken out. -/
  | finishTransfer (id : SinkId)

/-- Passes, and what the world does between them. -/
def Command.Waits : Command ω η φ → Prop
  | .elapse _ _ | .pump => True
  | _ => False

/-- The world moves on only as it may. -/
def Command.Within (World : (ω → ω) → Prop) : Command ω η φ → Prop
  | .elapse world _ => World world
  | _ => True

namespace Stack

/-- The stack without the sink of a name. -/
def withoutSink (s : Stack ω η φ) (id : SinkId) : Stack ω η φ :=
  ((s.removeSink? id).map (·.2)).getD s

variable [FileHandle η φ]

/-- The stack after a command. -/
def perform (s : Stack ω η φ) : Command ω η φ → Except Fault (Stack ω η φ)
  | .elapse world others =>
    .ok { s with core := { s.core with hw := world s.core.hw }, volume := others s.volume }
  | .pump => s.pump
  | .receiveFrame frame => .ok (s.receiveFrame frame)
  | .sendFrame p => .ok { s with core := (s.core.sendFrame p).2 }
  | .transmit p => do return (← s.transmit p).2
  | .identify => .ok { s with core := s.core.nextIdentification.2 }
  | .sendDatagram sourcePort dest destPort payload =>
    .ok { s with core := (s.core.sendDatagram sourcePort dest destPort payload).2 }
  | .configure iface => .ok (s.configure iface)
  | .tell e => .ok { s with core := s.core.tell e }
  | .addSink sink => .ok (s.addSink sink).2
  | .removeSink id => .ok (s.withoutSink id)
  | .allocatePort => .ok s.allocatePort.2
  | .startDhcp => .ok s.startDhcp.2
  | .startTransfer opener job => .ok (s.startTransfer opener job).2
  | .finishTransfer id => .ok (s.finishTransfer id).2

/-- The stack after a run. -/
def performAll (s : Stack ω η φ) : List (Command ω η φ) → Except Fault (Stack ω η φ)
  | [] => .ok s
  | command :: rest => do performAll (← s.perform command) rest

/-- What is to be recorded of each command of a run, in turn. -/
def recorded {α : Type} (record : Stack ω η φ → Command ω η φ → List α) (s : Stack ω η φ) :
    List (Command ω η φ) → List α
  | [] => []
  | command :: rest =>
    record s command ++
      match s.perform command with
      | .ok s => recorded record s rest
      | .error _ => []

/-- Something holds before, between and after the commands of a run. -/
def Always (Holds : Stack ω η φ → Prop) (s : Stack ω η φ) : List (Command ω η φ) → Prop
  | [] => Holds s
  | command :: rest => Holds s ∧ ∀ s', s.perform command = .ok s' → Always Holds s' rest

variable {s s' s'' : Stack ω η φ} {command : Command ω η φ} {commands more : List (Command ω η φ)}
  {Holds : Stack ω η φ → Prop}

/-! ## One command after another -/

/-- A run begins with its first command. -/
theorem exists_of_performAll_cons (ran : s.performAll (command :: commands) = .ok s'') :
    ∃ s', s.perform command = .ok s' ∧ s'.performAll commands = .ok s'' :=
  exists_ok_of_bind ran

/-- A record begins with what is recorded of the first command. -/
theorem recorded_cons {α : Type} (record : Stack ω η φ → Command ω η φ → List α)
    (first : s.perform command = .ok s') :
    s.recorded record (command :: commands) =
      record s command ++ s'.recorded record commands := by
  rw [recorded, first]

/-- What always holds holds now. -/
theorem Always.here (always : s.Always Holds commands) : Holds s := by
  cases commands with
  | nil => exact always
  | cons => exact always.1

/-- What each command keeps is kept by the run. -/
theorem performAll_keeps (Holds : Stack ω η φ → Prop)
    (step : ∀ s command s', command ∈ commands → Holds s → s.perform command = .ok s' → Holds s')
    (start : Holds s) (ran : s.performAll commands = .ok s') : Holds s' := by
  induction commands generalizing s with
  | nil =>
    cases ran
    exact start
  | cons command rest ih =>
    obtain ⟨s₁, done, ran⟩ := exists_of_performAll_cons ran
    have held := step s command s₁ List.mem_cons_self start done
    exact ih (fun s command s' mem => step s command s' (List.mem_cons_of_mem _ mem)) held ran

/-- Picking a local port moves the cursor, and nothing else. -/
theorem perform_allocatePort (done : s.perform .allocatePort = .ok s') :
    ∃ nextPort, s' = { s with nextPort } := by
  obtain ⟨nextPort, allocated⟩ := s.allocatePortWithin_eq
    (Udp.ephemeralLast.toNat - Udp.ephemeralFirst.toNat + 1)
  have done : Except.ok s.allocatePort.2 = Except.ok s' := done
  rw [allocatePort, allocated] at done
  exact ⟨nextPort, (Except.ok.inj done).symm⟩

/-! ## Commands and the core -/

/-- **To the core a command is made of acts.** -/
theorem leads_perform (within : command.Within World) (done : s.perform command = .ok s') :
    Leads (Act.Within World) s.core s'.core := by
  have able : FullRepertoire (Act.Within World) := fullRepertoire_within
  cases command with
  | elapse world others =>
    cases done
    exact leads_operation (.elapse within (others s.volume))
  | pump => exact leads_operation (.pump done)
  | receiveFrame frame => cases done; exact leads_operation (.receiveFrame frame)
  | sendFrame p => cases done; exact leads_operation (.sendFrame p)
  | transmit p =>
    obtain ⟨⟨answer, s₁⟩, sent, done⟩ := exists_ok_of_bind done
    cases done
    exact leads_operation (.transmit sent)
  | identify => cases done; exact able.leads_nextIdentification s.core
  | sendDatagram => cases done; exact leads_operation (.sendDatagram _ _ _ _)
  | configure iface => cases done; exact leads_operation (.configure iface)
  | tell e => cases done; exact able.leads_tell s.core e
  | addSink sink => cases done; exact leads_operation (.addSink sink)
  | removeSink id =>
    cases done
    unfold withoutSink
    cases removed : s.removeSink? id with
    | none => exact .refl _
    | some result => exact leads_operation (.removeSink removed)
  | allocatePort =>
    obtain ⟨nextPort, rfl⟩ := perform_allocatePort done
    exact .refl _
  | startDhcp =>
    rw [← Except.ok.inj done]
    exact leads_operation .startDhcp
  | startTransfer opener job =>
    rw [← Except.ok.inj done]
    exact leads_operation (.startTransfer opener job)
  | finishTransfer id =>
    rw [← Except.ok.inj done]
    exact leads_operation (.finishTransfer id)

/-- **To the core a run is made of acts.** -/
theorem leads_performAll (within : ∀ command ∈ commands, command.Within World)
    (ran : s.performAll commands = .ok s') : Leads (Act.Within World) s.core s'.core := by
  refine performAll_keeps (fun s' => Leads (Act.Within World) s.core s'.core) ?_ (.refl _) ran
  intro s₁ command s₂ mem before done
  exact before.trans (leads_perform (within command mem) done)

end Stack

end PolledNet
