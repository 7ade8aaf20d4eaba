import PolledNet.Proofs.Stack.Roster

/-!
# Sinks that come and go

What the commands do to the table of sinks that do not merely tend it. Starting a transfer has four
outcomes (`Stack.Starts`) and taking one out has three (`Stack.Finishes`). Taken together, a command
leaves the sinks as they are, except that some may be taken out, and then one may be put in, of
which the command says which it is (`Stack.turnover_perform`).
-/

namespace PolledNet

variable {ω η φ : Type}

/-- Some sinks are taken out, and then one that is fresh may be put in, under the next name. -/
def Turnover (Fresh : Sink (SinkKind η) → Prop) (t t' : SinkTable (SinkKind η)) : Prop :=
  ∃ kept : List (Sink (SinkKind η)), kept.Sublist t.sinks ∧
    (t' = { t with sinks := kept } ∨
      ∃ sink, sink.id = ⟨t.nextNumber⟩ ∧ Fresh sink ∧
        t' = ⟨SinkTable.place sink kept, max (t.nextNumber + 1) 1⟩)

namespace Turnover

variable {Fresh : Sink (SinkKind η) → Prop} {t t' : SinkTable (SinkKind η)}

/-- A table that stays the same has the least turnover. -/
theorem refl (t : SinkTable (SinkKind η)) : Turnover Fresh t t :=
  ⟨t.sinks, List.Sublist.refl t.sinks, .inl rfl⟩

/-- Sinks may be taken out, with none put in. -/
theorem out {kept : List (Sink (SinkKind η))} (less : kept.Sublist t.sinks) :
    Turnover Fresh t { t with sinks := kept } := ⟨kept, less, .inl rfl⟩

/-- A fresh sink may be put in once others are taken out. -/
theorem put {sink : Sink (SinkKind η)} (fresh : Fresh { sink with id := ⟨t.nextNumber⟩ })
    {kept : List (Sink (SinkKind η))} (less : kept.Sublist t.sinks) :
    Turnover Fresh t (SinkTable.insert { t with sinks := kept } sink).2 :=
  ⟨kept, less, .inr ⟨_, rfl, fresh, rfl⟩⟩

/-- The order of the sinks stays. -/
theorem falling (turnover : Turnover Fresh t t')
    (sorted : t.sinks.Pairwise fun x y => y.specificity ≤ x.specificity) :
    t'.sinks.Pairwise fun x y => y.specificity ≤ x.specificity := by
  obtain ⟨kept, less, rfl | ⟨new, -, -, rfl⟩⟩ := turnover
  · exact sorted.sublist less
  · exact pairwise_place new (sorted.sublist less)

end Turnover

/-- A sink is put somewhere between the others. -/
theorem exists_place_eq (sink : Sink (SinkKind η)) (sinks : List (Sink (SinkKind η))) :
    ∃ before after, sinks = before ++ after ∧
      SinkTable.place sink sinks = before ++ sink :: after := by
  induction sinks with
  | nil => exact ⟨[], [], rfl, rfl⟩
  | cons first rest ih =>
    unfold SinkTable.place
    split
    · exact ⟨[], first :: rest, rfl, rfl⟩
    · obtain ⟨before, after, split, placed⟩ := ih
      exact ⟨first :: before, after, by rw [split]; rfl, by rw [placed]; rfl⟩

namespace Stack

variable {s s' : Stack ω η φ} {id : SinkId}

/-! ## Taking sinks out -/

/-- One sink is erased from the table, and the cursor of the ports stays. -/
theorem withoutSink_sinks (s : Stack ω η φ) (id : SinkId) :
    (s.withoutSink id).sinks = { s.sinks with sinks := s.sinks.sinks.eraseP (·.id = id) } ∧
      (s.withoutSink id).nextPort = s.nextPort := by
  unfold withoutSink
  cases found : s.sinks.sinks.find? (·.id = id) with
  | some sink =>
    rw [removeSink?_of_found found]
    exact ⟨rfl, rfl⟩
  | none =>
    have unknown : s.removeSink? id = Option.none := by
      rw [removeSink?, SinkTable.remove?, SinkTable.get?, found]
      rfl
    rw [unknown, List.eraseP_of_forall_not (List.find?_eq_none.mp found)]
    exact ⟨rfl, rfl⟩

/-- Sinks go from the table, and the cursor of the ports stays. -/
theorem withoutSinks_sinks (s : Stack ω η φ) (ids : List SinkId) :
    ∃ kept : List (Sink (SinkKind η)), kept.Sublist s.sinks.sinks ∧
      (ids.foldl withoutSink s).sinks = { s.sinks with sinks := kept } ∧
      (ids.foldl withoutSink s).nextPort = s.nextPort := by
  induction ids generalizing s with
  | nil => exact ⟨_, List.Sublist.refl _, rfl, rfl⟩
  | cons id rest ih =>
    obtain ⟨kept, less, sinks, port⟩ := ih (s.withoutSink id)
    obtain ⟨sinks', port'⟩ := s.withoutSink_sinks id
    rw [sinks'] at less sinks
    exact ⟨kept, less.trans List.eraseP_sublist, sinks, port.trans port'⟩

/-- The first names go to the built-in sinks, and no port is in use. -/
theorem next_bringUp {device : Device ω} {clock : ω → Tick} {config : StackConfig} {hw hw' : ω}
    {volume : φ} (up : bringUp device clock config hw volume = (.ok s, hw')) :
    s.sinks.nextNumber = 4 ∧ s.nextPort = Udp.ephemeralFirst := by
  unfold bringUp at up
  split at up
  · cases up
  · obtain ⟨rfl⟩ := Except.ok.inj (Prod.mk.inj up).1
    split <;> exact ⟨rfl, rfl⟩

/-! ## The DHCP client -/

/-- Other clients are taken out, and the new one is put in. -/
theorem startDhcp_sinks (s : Stack ω η φ) :
    ∃ (kept : List (Sink (SinkKind η))) (sink : Sink (SinkKind η)), kept.Sublist s.sinks.sinks ∧
      sink.kind.service = .dhcp ∧
      s.startDhcp.2.sinks = (SinkTable.insert { s.sinks with sinks := kept } sink).2 ∧
      s.startDhcp.2.nextPort = s.nextPort := by
  have cleared := s.withoutSinks_sinks ((s.sinks.sinks.filter isDhcp).map (·.id))
  unfold startDhcp
  dsimp only
  change ∃ kept : List (Sink (SinkKind η)), kept.Sublist s.sinks.sinks ∧
    (List.foldl (fun s id => ((s.removeSink? id).map (·.2)).getD s) s _).sinks = _ ∧
      (List.foldl (fun s id => ((s.removeSink? id).map (·.2)).getD s) s _).nextPort = _ at cleared
  generalize List.foldl _ s _ = s₁ at cleared ⊢
  generalize DhcpClient.Session.start (Core.uplink ω) _ = started
  obtain ⟨answer, session⟩ := started
  obtain ⟨kept, less, sinks, port⟩ := cleared
  refine ⟨kept, _, less, ?_, congrArg (fun t => (SinkTable.insert t _).2) sinks, port⟩
  rfl

/-! ## Transfers -/

variable [FileHandle η φ]

/-- What the sink of a transfer wants to receive. -/
def transferFilter (ours server : Ipv4) (port : UInt16) : Filter :=
  { ethertype := some Ethernet.typeIpv4, protocol := some Ip.udp, localAddress := some ours
    remoteAddress := some server, localPort := some port }

/-- What comes of starting a transfer. -/
inductive Starts (s : Stack ω η φ) (opener : FileOpener η φ) (job : TransferJob) :
    Except TransferError SinkId → Stack ω η φ → Prop where
  /-- There is no address to send from. -/
  | unconfigured (down : s.core.address? = none) : Starts s opener job (.error .notConfigured) s
  /-- There is no local port left. -/
  | crowded {nextPort : UInt16} (full : s.allocatePort = (none, { s with nextPort })) :
      Starts s opener job (.error .noPortAvailable) { s with nextPort }
  /-- The file cannot be opened. -/
  | unopened {port nextPort : UInt16} {e : FileError} {volume : φ}
      (free : s.allocatePort = (some port, { s with nextPort }))
      (failed : opener job.file job.mode s.volume = (.error e, volume)) :
      Starts s opener job (.error (.file e)) { s with nextPort, volume }
  /-- The transfer is registered. -/
  | started {ours : Ipv4} {port nextPort : UInt16} {file : η} {volume : φ} {core : Core ω}
      {sink : Sink (SinkKind η)} (up : s.core.address? = some ours)
      (free : s.allocatePort = (some port, { s with nextPort }))
      (opened : opener job.file job.mode s.volume = (.ok file, volume))
      (filter : sink.filter = transferFilter ours job.server port)
      (kind : sink.kind =
        .tftp (job.transfer file volume port s.core.config.transfer s.core.now)) :
      Starts s opener job (.ok ⟨s.sinks.nextNumber⟩)
        { s with core, volume, nextPort, sinks := (s.sinks.insert sink).2 }

/-- Starting a transfer has one of these outcomes. -/
theorem starts_startTransfer (s : Stack ω η φ) (opener : FileOpener η φ) (job : TransferJob) :
    s.Starts opener job (s.startTransfer opener job).1 (s.startTransfer opener job).2 := by
  unfold startTransfer
  split
  · rename_i down
    exact .unconfigured down
  · rename_i ours up
    obtain ⟨nextPort, moved⟩ := s.allocatePortWithin_eq
      (Udp.ephemeralLast.toNat - Udp.ephemeralFirst.toNat + 1)
    change s.allocatePort.2 = _ at moved
    split
    · rename_i s₁ full
      rw [full] at moved
      dsimp only at moved
      subst moved
      exact .crowded full
    · rename_i port s₁ free
      rw [free] at moved
      dsimp only at moved
      subst moved
      dsimp only
      split
      · rename_i failed
        exact .unopened free failed
      · rename_i file volume opened
        have transfer := Transfer.Session.start_transfer (Core.uplink ω)
          ⟨job.transfer file volume port s.core.config.transfer s.core.now, Timer.idle, s.core,
            volume⟩
        have same := Transfer.Session.start_volume (Core.uplink ω)
          ⟨job.transfer file volume port s.core.config.transfer s.core.now, Timer.idle, s.core,
            volume⟩
        generalize Transfer.Session.start (Core.uplink ω) (Transfer.Session.mk
          (job.transfer file volume port s.core.config.transfer s.core.now) Timer.idle s.core
            volume) = begun at transfer same ⊢
        obtain ⟨answer, transfer', timer, core, volume'⟩ := begun
        dsimp only at transfer same
        subst transfer same
        exact .started up free opened rfl rfl

/-- What comes of taking a transfer out. -/
inductive Finishes (s : Stack ω η φ) (id : SinkId) :
    Except TransferError TransferReport → Stack ω η φ → Prop where
  /-- There is no such transfer. -/
  | unknown (none : s.transfer? id = none) : Finishes s id (.error .unknownTransfer) s
  /-- It is over. -/
  | ended {before after : List (Sink (SinkKind η))} {sink : Sink (SinkKind η)} {t : Transfer η}
      (known : s.transfer? id = some t) (split : s.sinks.sinks = before ++ sink :: after)
      (first : ∀ x ∈ before, x.id ≠ id) (named : sink.id = id) (kind : sink.kind = .tftp t)
      (done : t.isFinished = true) :
      Finishes s id (t.outcome.getD (.error .cancelled))
        ({ s with sinks := { s.sinks with sinks := before ++ after } }.tell (.removed id .tftp))
  /-- It is abandoned. -/
  | abandoned {before after : List (Sink (SinkKind η))} {sink : Sink (SinkKind η)} {t : Transfer η}
      {x : Transfer.Session η (Core ω) φ}
      (known : s.transfer? id = some t) (split : s.sinks.sinks = before ++ sink :: after)
      (first : ∀ x ∈ before, x.id ≠ id) (named : sink.id = id) (kind : sink.kind = .tftp t)
      (running : t.isFinished = false) (cancelled : x = Transfer.Session.cancel (Core.uplink ω)
        ⟨t, Timer.idle, s.core.tell (.stack (.removed id .tftp)), s.volume⟩) :
      Finishes s id (x.transfer.outcome.getD (.error .cancelled))
        { s with core := x.link, volume := x.volume
                 sinks := { s.sinks with sinks := before ++ after } }

omit [FileHandle η φ] in
/-- The sink of a transfer is the first of its name. -/
theorem split_of_transfer {t : Transfer η} (known : s.transfer? id = some t) :
    ∃ before sink after, s.sinks.sinks = before ++ sink :: after ∧ (∀ x ∈ before, x.id ≠ id) ∧
      sink.id = id ∧ sink.kind = .tftp t ∧
        s.removeSink? id = some (sink,
          { s with sinks := { s.sinks with sinks := before ++ after } }.tell
            (.removed id .tftp)) := by
  obtain ⟨sink, hit, kind⟩ := Option.bind_eq_some_iff.mp known
  obtain ⟨named, before, after, split, others⟩ := List.find?_eq_some_iff_append.mp hit
  have first : ∀ x ∈ before, x.id ≠ id := fun x mem => by simpa using others x mem
  have named : sink.id = id := of_decide_eq_true named
  have kind : sink.kind = .tftp t := by
    split at kind
    · rename_i eq
      cases kind
      exact eq
    · cases kind
  refine ⟨before, sink, after, split, first, named, kind, ?_⟩
  rw [removeSink?_of_found hit, split, List.eraseP_append_right _ (by simpa using first),
    List.eraseP_cons_of_pos (by simpa using named), kind]
  rfl

/-- Finishing a transfer has one of these outcomes. -/
theorem finishes_finishTransfer (s : Stack ω η φ) (id : SinkId) :
    s.Finishes id (s.finishTransfer id).1 (s.finishTransfer id).2 := by
  cases known : s.transfer? id with
  | none =>
    have unknown : s.finishTransfer id = (.error .unknownTransfer, s) := by
      unfold finishTransfer
      rw [known]
    rw [unknown]
    exact .unknown known
  | some t =>
    obtain ⟨before, sink, after, split, first, named, kind, removed⟩ := split_of_transfer known
    unfold finishTransfer
    rw [known, removed]
    dsimp only
    split
    · rename_i done
      exact .ended known split first named kind done
    · rename_i running
      exact .abandoned known split first named kind (by simpa using running) rfl

/-! ## Commands -/

end Stack

/-- A command that tends the sinks. -/
def Command.Tends : Command ω η φ → Prop
  | .pump | .receiveFrame _ => True
  | _ => False

/-- A command that may register a sink. -/
def Command.registers : Command ω η φ → Bool
  | .addSink _ | .startDhcp | .startTransfer _ _ => true
  | _ => false

/-- What is known of the sink that a command puts into the table. -/
def Command.Brings (s : Stack ω η φ) : Command ω η φ → Sink (SinkKind η) → Prop
  | .addSink sink, new => new = { sink with id := ⟨s.sinks.nextNumber⟩ }
  | .startDhcp, new => new.kind.service = .dhcp
  | .startTransfer _ _, new => ∃ (port : UInt16) (t : Transfer η), s.allocatePort.1 = some port ∧
      new.filter.localPort = some port ∧ new.kind = .tftp t ∧ t.localPort = port
  | _, _ => False

/-- Only a command that may register a sink puts one in. -/
theorem Command.Brings.registers {s : Stack ω η φ} {command : Command ω η φ}
    {new : Sink (SinkKind η)} (brings : command.Brings s new) : command.registers = true := by
  cases command with
  | addSink | startDhcp | startTransfer => rfl
  | _ => exact brings.elim

namespace Stack

variable [FileHandle η φ] {s s' : Stack ω η φ} {command : Command ω η φ}

/-- The commands that only tend the stack tend it. -/
theorem tends_perform (tends : command.Tends) (done : s.perform command = .ok s') : s.Tends s' := by
  cases command with
  | pump => exact tends_pump done
  | receiveFrame frame =>
    cases done
    exact s.tends_receiveFrame frame
  | _ => exact tends.elim

/-- **All other commands leave the sinks as they are**, except that some may be taken out and one
may be put in. -/
theorem turnover_perform (other : ¬ command.Tends) (done : s.perform command = .ok s') :
    Turnover (command.Brings s) s.sinks s'.sinks := by
  cases command with
  | pump | receiveFrame => exact absurd trivial other
  | elapse | sendFrame | identify | sendDatagram | configure | tell =>
    cases done
    exact .refl _
  | transmit p =>
    obtain ⟨⟨answer, s₁⟩, sent, done⟩ := exists_ok_of_bind done
    cases done
    obtain ⟨result, -, sent⟩ := exists_ok_of_bind sent
    cases sent
    exact .refl _
  | addSink sink =>
    cases done
    exact ⟨_, List.Sublist.refl _, .inr ⟨_, rfl, rfl, rfl⟩⟩
  | removeSink id =>
    cases done
    rw [(s.withoutSink_sinks id).1]
    exact .out List.eraseP_sublist
  | allocatePort =>
    obtain ⟨nextPort, rfl⟩ := perform_allocatePort done
    exact .refl _
  | startDhcp =>
    obtain ⟨kept, sink, less, service, sinks, -⟩ := s.startDhcp_sinks
    rw [← Except.ok.inj done, sinks]
    exact .put service less
  | startTransfer opener job =>
    rw [← Except.ok.inj done]
    have starts := s.starts_startTransfer opener job
    generalize (s.startTransfer opener job).1 = answer,
      (s.startTransfer opener job).2 = s' at starts
    cases starts with
    | unconfigured | crowded | unopened => exact .refl _
    | @started ours port nextPort file volume core sink up free opened filter kind =>
      refine .put (t := s.sinks) ⟨port, _, by rw [free], ?_, kind, rfl⟩ (List.Sublist.refl _)
      rw [filter]
      rfl
  | finishTransfer id =>
    rw [← Except.ok.inj done]
    have finishes := s.finishes_finishTransfer id
    generalize (s.finishTransfer id).1 = answer, (s.finishTransfer id).2 = s' at finishes
    cases finishes with
    | unknown => exact .refl _
    | ended _ split | abandoned _ split =>
      refine .out ?_
      rw [split]
      exact List.Sublist.append_left (List.sublist_cons_self _ _) _

end Stack

end PolledNet
