import Mathlib.Data.List.Iterate
import PolledNet.Proofs.Stack.Silence
import PolledNet.Proofs.Stack.Turnover

/-!
# Local ports

The cursor over the local ports goes through its range in turn, and after as many steps as the range
has ports it has been at every one of them (`Stack.mem_portsFrom_iff`). Picking a port is looking
for the first of them that no sink names (`Stack.allocatePortWithin_fst`). So a port is found unless
all are named, wherever the cursor was.

A transfer is registered under a port that no sink names, and its sink names it. So no two transfers
have the same local port, in whichever order they come and go (`Stack.ports_exclusive`).
-/

namespace PolledNet

namespace Stack

variable {ω η φ : Type} {s s' : Stack ω η φ}

/-! ## The cursor -/

/-- A local port of the range that transfers use. -/
def Ephemeral (port : UInt16) : Prop := Udp.ephemeralFirst ≤ port ∧ port ≤ Udp.ephemeralLast

/-- The ports that the cursor is at in turn. -/
def portsFrom (cursor : UInt16) (count : Nat) : List UInt16 := List.iterate portAfter cursor count

/-- The range of the ports that transfers use begins at 49152 and goes to the end. -/
theorem ephemeral_iff {port : UInt16} : Ephemeral port ↔ 49152 ≤ port.toNat := by
  have below : port.toNat < 2 ^ 16 := port.toNat_lt
  unfold Ephemeral
  rw [UInt16.le_iff_toNat_le, UInt16.le_iff_toNat_le]
  change 49152 ≤ port.toNat ∧ port.toNat ≤ 65535 ↔ _
  omega

/-- The cursor goes round the range: it moves by one, modulo the 16384 ports that there are. -/
theorem toNat_portAfter {port : UInt16} (ephemeral : Ephemeral port) :
    (portAfter port).toNat = 49152 + (port.toNat - 49152 + 1) % 16384 := by
  have first : 49152 ≤ port.toNat := ephemeral_iff.mp ephemeral
  have below : port.toNat < 2 ^ 16 := port.toNat_lt
  unfold portAfter
  split
  · rename_i last
    subst last
    rfl
  · rename_i inner
    have notLast : port.toNat ≠ 65535 := fun eq => inner (UInt16.toNat_inj.mp eq)
    rw [UInt16.toNat_add]
    change (port.toNat + 1) % 2 ^ 16 = _
    omega

/-- The cursor never leaves its range. -/
theorem ephemeral_portAfter {port : UInt16} (ephemeral : Ephemeral port) :
    Ephemeral (portAfter port) := by
  rw [ephemeral_iff, toNat_portAfter ephemeral]
  exact Nat.le_add_right _ _

/-- After `k` steps the cursor is `k` ports further, past the end of the range from its start. -/
theorem toNat_iterate_portAfter {cursor : UInt16} (ephemeral : Ephemeral cursor) (k : Nat) :
    Ephemeral (portAfter^[k] cursor) ∧
      (portAfter^[k] cursor).toNat = 49152 + (cursor.toNat - 49152 + k) % 16384 := by
  induction k with
  | zero =>
    have first : 49152 ≤ cursor.toNat := ephemeral_iff.mp ephemeral
    have below : cursor.toNat < 2 ^ 16 := cursor.toNat_lt
    refine ⟨ephemeral, ?_⟩
    change cursor.toNat = _
    omega
  | succ k ih =>
    obtain ⟨inside, position⟩ := ih
    rw [Function.iterate_succ_apply']
    refine ⟨ephemeral_portAfter inside, ?_⟩
    rw [toNat_portAfter inside, position]
    omega

/-- **The cursor visits the whole range.** -/
theorem mem_portsFrom_iff {cursor port : UInt16} (ephemeral : Ephemeral cursor) :
    port ∈ portsFrom cursor 16384 ↔ Ephemeral port := by
  unfold portsFrom
  rw [List.mem_iterate]
  constructor
  · rintro ⟨k, -, rfl⟩
    exact (toNat_iterate_portAfter ephemeral k).1
  · intro wanted
    have first : 49152 ≤ cursor.toNat := ephemeral_iff.mp ephemeral
    have first' : 49152 ≤ port.toNat := ephemeral_iff.mp wanted
    have below : cursor.toNat < 2 ^ 16 := cursor.toNat_lt
    have below' : port.toNat < 2 ^ 16 := port.toNat_lt
    -- how far the cursor has to go, past the end of the range if it stands behind `port`
    refine ⟨(port.toNat + 16384 - cursor.toNat) % 16384, Nat.mod_lt _ (by decide), ?_⟩
    apply UInt16.toNat_inj.mp
    rw [(toNat_iterate_portAfter ephemeral _).2]
    omega

/-! ## Picking a port -/

/-- Picking a port is to look for the first that no sink names. -/
theorem allocatePortWithin_fst (s : Stack ω η φ) (count : Nat) :
    (s.allocatePortWithin count).1 = (portsFrom s.nextPort count).find? (!s.portTaken ·) := by
  induction count generalizing s with
  | zero => rfl
  | succ count ih =>
    unfold allocatePortWithin portsFrom
    rw [List.iterate]
    dsimp only
    cases taken : s.portTaken s.nextPort with
    | true =>
      rw [List.find?_cons_of_neg (by simp [taken]), if_pos (by exact taken)]
      exact ih { s with nextPort := portAfter s.nextPort }
    | false =>
      rw [List.find?_cons_of_pos (by simp [taken]), if_neg (by simpa [portTaken] using taken)]

/-- Picking a port leaves the cursor in its range. -/
theorem ephemeral_allocatePortWithin (s : Stack ω η φ) (count : Nat)
    (cursor : Ephemeral s.nextPort) : Ephemeral (s.allocatePortWithin count).2.nextPort := by
  induction count generalizing s with
  | zero => exact cursor
  | succ count ih =>
    unfold allocatePortWithin
    dsimp only
    split
    · exact ih { s with nextPort := portAfter s.nextPort } (ephemeral_portAfter cursor)
    · exact ephemeral_portAfter cursor

/-- A port is taken iff some sink names it in its filter. -/
theorem portTaken_iff {port : UInt16} :
    s.portTaken port = true ↔ ∃ sink ∈ s.sinks.sinks, sink.filter.localPort = some port := by
  unfold portTaken
  rw [List.any_eq_true]
  exact exists_congr fun sink => and_congr_right fun _ => decide_eq_true_iff

/-- The port that is picked is of the range, and no sink names it. -/
theorem free_of_allocatePort {port : UInt16} (cursor : Ephemeral s.nextPort)
    (free : s.allocatePort.1 = some port) :
    Ephemeral port ∧ ∀ sink ∈ s.sinks.sinks, sink.filter.localPort ≠ some port := by
  have found := (s.allocatePortWithin_fst 16384).symm.trans free
  refine ⟨(mem_portsFrom_iff cursor).mp (List.mem_of_find?_eq_some found), ?_⟩
  intro sink mem names
  have taken : s.portTaken port = true := portTaken_iff.mpr ⟨sink, mem, names⟩
  have untaken := List.find?_some found
  rw [taken] at untaken
  exact absurd untaken (by decide)

/-- If no port is picked, some sink names each port of the range. -/
theorem named_of_allocatePort {port : UInt16} (cursor : Ephemeral s.nextPort)
    (full : s.allocatePort.1 = none) (ephemeral : Ephemeral port) :
    ∃ sink ∈ s.sinks.sinks, sink.filter.localPort = some port := by
  have missing := List.find?_eq_none.mp ((s.allocatePortWithin_fst 16384).symm.trans full)
  have taken := missing port ((mem_portsFrom_iff cursor).mpr ephemeral)
  exact portTaken_iff.mp (by simpa using taken)

/-! ## The ports of the transfers -/

/-- The transfers that are registered. -/
def transfers (s : Stack ω η φ) : List (Transfer η) :=
  s.sinks.sinks.filterMap (·.kind.transfer?)

end Stack

/-- The local ports of transfers in a list of sinks, by what they are registered with. -/
def Enrolment.ports (roster : List Enrolment) : List UInt16 := roster.filterMap (·.port)

/-- Each transfer has its port to itself, and its sink names it. -/
structure Enrolment.Exclusive (roster : List Enrolment) : Prop where
  named : ∀ e ∈ roster, ∀ port, e.port = some port → e.filter.localPort = some port
  distinct : (ports roster).Nodup

namespace Enrolment.Exclusive

variable {η : Type} {roster roster' : List Enrolment} {e : Enrolment}

/-- Transfers of which some are dropped still have their ports to themselves. -/
theorem sublist (exclusive : Exclusive roster) (less : roster'.Sublist roster) :
    Exclusive roster' :=
  ⟨fun e mem => exclusive.named e (less.subset mem), exclusive.distinct.sublist (less.filterMap _)⟩

/-- A sink without a transfer may be put anywhere. -/
theorem put_other {before after : List Enrolment} (exclusive : Exclusive (before ++ after))
    (other : e.port = none) : Exclusive (before ++ e :: after) := by
  have same : ports (before ++ e :: after) = ports (before ++ after) := by
    simp [ports, other]
  refine ⟨?_, by rw [same]; exact exclusive.distinct⟩
  intro e' mem port has
  rcases List.mem_append.mp mem with mem | mem
  · exact exclusive.named e' (List.mem_append_left _ mem) port has
  · rcases List.mem_cons.mp mem with rfl | mem
    · rw [other] at has
      cases has
    · exact exclusive.named e' (List.mem_append_right _ mem) port has

/-- A sink with a transfer may come, if nobody names its port. -/
theorem put_transfer {before after : List Enrolment} {port : UInt16}
    (exclusive : Exclusive (before ++ after)) (new : e.port = some port)
    (names : e.filter.localPort = some port)
    (free : ∀ e ∈ before ++ after, e.filter.localPort ≠ some port) :
    Exclusive (before ++ e :: after) := by
  have unused : port ∉ ports (before ++ after) := by
    intro used
    obtain ⟨e', mem, has⟩ := List.mem_filterMap.mp used
    exact free e' mem (exclusive.named e' mem port has)
  have split : ports (before ++ e :: after) = ports before ++ port :: ports after := by
    simp [ports, new]
  have whole : ports (before ++ after) = ports before ++ ports after := List.filterMap_append
  constructor
  · intro e' mem port' has
    rcases List.mem_append.mp mem with mem | mem
    · exact exclusive.named e' (List.mem_append_left _ mem) port' has
    · rcases List.mem_cons.mp mem with rfl | mem
      · rw [names, ← new, has]
      · exact exclusive.named e' (List.mem_append_right _ mem) port' has
  · rw [split, List.nodup_middle, ← whole]
    exact List.nodup_cons.mpr ⟨unused, exclusive.distinct⟩

end Enrolment.Exclusive

/-- A sink that is registered by hand moves no file. -/
def Command.SparesTransfers {ω η φ : Type} : Command ω η φ → Prop
  | .addSink sink => sink.kind.service ≠ .tftp
  | _ => True

namespace Stack

variable {ω η φ : Type} {s s₀ s' : Stack ω η φ}

/-- The local ports of the transfers are those that the roster lists. -/
theorem map_localPort_transfers (s : Stack ω η φ) :
    s.transfers.map (·.localPort) = Enrolment.ports s.roster := by
  unfold transfers Enrolment.ports roster
  rw [List.map_filterMap, List.filterMap_map]
  rfl

variable [FileHandle η φ] {command : Command ω η φ} {commands : List (Command ω η φ)}

/-- The cursor moves only when a port is picked. -/
theorem nextPort_perform (other : ¬ command.Tends) (done : s.perform command = .ok s') :
    s'.nextPort = s.nextPort ∨ s'.nextPort = s.allocatePort.2.nextPort := by
  cases command with
  | pump | receiveFrame => exact absurd trivial other
  | elapse | sendFrame | identify | sendDatagram | configure | tell | addSink =>
    cases done
    exact .inl rfl
  | transmit p =>
    obtain ⟨⟨answer, s₁⟩, sent, done⟩ := exists_ok_of_bind done
    cases done
    obtain ⟨result, -, sent⟩ := exists_ok_of_bind sent
    cases sent
    exact .inl rfl
  | removeSink id =>
    cases done
    exact .inl (s.withoutSink_sinks id).2
  | allocatePort =>
    cases done
    exact .inr rfl
  | startDhcp =>
    obtain ⟨kept, sink, -, -, -, port⟩ := s.startDhcp_sinks
    rw [← Except.ok.inj done]
    exact .inl port
  | startTransfer opener job =>
    rw [← Except.ok.inj done]
    have starts := s.starts_startTransfer opener job
    generalize (s.startTransfer opener job).1 = answer,
      (s.startTransfer opener job).2 = s' at starts
    cases starts with
    | unconfigured => exact .inl rfl
    | crowded full => exact .inr (by rw [full])
    | unopened free => exact .inr (by rw [free])
    | started _ free => exact .inr (by rw [free])
  | finishTransfer id =>
    rw [← Except.ok.inj done]
    have finishes := s.finishes_finishTransfer id
    generalize (s.finishTransfer id).1 = answer, (s.finishTransfer id).2 = s' at finishes
    cases finishes with
    | unknown | ended | abandoned => exact .inl rfl

/-- The local ports are well kept: the cursor is in its range, and each transfer has its port to
itself. -/
structure PortsKept (s : Stack ω η φ) : Prop where
  cursor : Ephemeral s.nextPort
  exclusive : Enrolment.Exclusive s.roster

/-- **Each command keeps the ports**, if it registers no transfer by hand. -/
theorem PortsKept.perform (kept : s.PortsKept) (spares : command.SparesTransfers)
    (done : s.perform command = .ok s') : s'.PortsKept := by
  by_cases tends : command.Tends
  · have tended := tends_perform tends done
    exact ⟨by rw [tended.nextPort]; exact kept.cursor, by rw [tended.roster]; exact kept.exclusive⟩
  constructor
  · rcases nextPort_perform tends done with same | moved
    · rw [same]
      exact kept.cursor
    · rw [moved]
      exact s.ephemeral_allocatePortWithin _ kept.cursor
  obtain ⟨sinks, less, left | ⟨new, -, brings, put⟩⟩ := turnover_perform tends done
  · rw [roster, left]
    exact kept.exclusive.sublist (less.map _)
  obtain ⟨before, after, rfl, placed⟩ := exists_place_eq new sinks
  have rest : Enrolment.Exclusive (before.map Sink.enrolment ++ after.map Sink.enrolment) := by
    rw [← List.map_append]
    exact kept.exclusive.sublist (less.map _)
  rw [roster, put, placed, List.map_append, List.map_cons]
  have unmoved : new.kind.service ≠ .tftp → new.enrolment.port = none := fun other => by
    rw [Sink.enrolment, SinkKind.transfer?_eq_none_iff.mpr other]
    rfl
  cases command with
  | addSink sink =>
    cases brings
    exact rest.put_other (unmoved spares)
  | startDhcp =>
    refine rest.put_other (unmoved ?_)
    rw [show new.kind.service = .dhcp from brings]
    decide
  | startTransfer opener job =>
    obtain ⟨port, t, free, names, kind, rfl⟩ := brings
    have own : new.enrolment.port = some t.localPort := by
      rw [Sink.enrolment, kind]
      rfl
    refine rest.put_transfer own names ?_
    intro e mem
    rw [← List.map_append] at mem
    obtain ⟨sink, old, rfl⟩ := List.mem_map.mp mem
    exact (free_of_allocatePort kept.cursor free).2 sink (less.subset old)
  | _ => exact brings.elim

omit [FileHandle η φ] in
/-- The ports of a stack that is brought up are well kept, as there are no transfers. -/
theorem portsKept_bringUp {device : Device ω} {clock : ω → Tick} {config : StackConfig}
    {hw hw' : ω} {volume : φ} (up : bringUp device clock config hw volume = (.ok s, hw')) :
    s.PortsKept := by
  constructor
  · rw [(next_bringUp up).2]
    exact ⟨by decide, by decide⟩
  · rw [roster, sinks_bringUp up]
    constructor
    · intro e mem port has
      simp only [List.map_cons, List.map_nil, List.mem_cons, List.not_mem_nil, or_false] at mem
      rcases mem with rfl | rfl | rfl <;> cases has
    · exact List.nodup_nil

/-- **Local ports are exclusive**, at any moment of any run of a stack that was brought up, if no
transfer is registered by hand.

Picking a port gives one of the range that no sink names, and it gives none only if some sink names
each port of the range; this wherever the cursor stands in the range, and it does stand in it. No
two of the transfers that are registered have the same local port. -/
theorem ports_exclusive {device : Device ω} {clock : ω → Tick} {config : StackConfig} {hw hw' : ω}
    {volume : φ} (up : bringUp device clock config hw volume = (.ok s₀, hw'))
    (spared : ∀ command ∈ commands, command.SparesTransfers)
    (ran : s₀.performAll commands = .ok s) :
    Ephemeral s.nextPort ∧
      (∀ cursor, Ephemeral cursor →
        (∀ port, { s with nextPort := cursor }.allocatePort.1 = some port →
          Ephemeral port ∧ ∀ sink ∈ s.sinks.sinks, sink.filter.localPort ≠ some port) ∧
        ({ s with nextPort := cursor }.allocatePort.1 = none →
          ∀ port, Ephemeral port → ∃ sink ∈ s.sinks.sinks, sink.filter.localPort = some port)) ∧
      s.transfers.Pairwise fun t t' => t.localPort ≠ t'.localPort := by
  have kept : s.PortsKept :=
    performAll_keeps PortsKept (fun _ _ _ mem kept => kept.perform (spared _ mem))
      (portsKept_bringUp up) ran
  refine ⟨kept.cursor, fun cursor ephemeral => ⟨?_, ?_⟩, ?_⟩
  · intro port free
    exact free_of_allocatePort (s := { s with nextPort := cursor }) ephemeral free
  · intro full port wanted
    exact named_of_allocatePort (s := { s with nextPort := cursor }) ephemeral full wanted
  · have distinct := kept.exclusive.distinct
    rw [← map_localPort_transfers] at distinct
    exact List.pairwise_map.mp distinct

/-- A file that a neighbour has. -/
def image : TransferJob := ⟨.get, ⟨10, 0, 0, 9⟩, "boot", "boot"⟩

/-- Two transfers are started; the second has the port after that of the first. -/
theorem ports_exclusive_two :
    ∃ hw s, bringUp observed (·.hw.now) rented { hw := {} } {} = (.ok settled, hw) ∧
      settled.performAll [.startTransfer RamFile.open? image, .startTransfer RamFile.open? image] =
        .ok s ∧
      s.transfers.map (·.localPort) = [49152, 49153] ∧
      Ephemeral s.nextPort ∧ (s.transfers.Pairwise fun t t' => t.localPort ≠ t'.localPort) ∧
      ∀ port, { s with nextPort := 65535 }.allocatePort.1 = some port →
        Ephemeral port ∧ ∀ sink ∈ s.sinks.sinks, sink.filter.localPort ≠ some port := by
  obtain ⟨hw, up⟩ := bringUp_settled
  obtain ⟨s, ran, ports⟩ : ∃ s, settled.performAll
      [.startTransfer RamFile.open? image, .startTransfer RamFile.open? image] = .ok s ∧
        s.transfers.map (·.localPort) = [49152, 49153] := ⟨_, rfl, rfl⟩
  have spared : ∀ command ∈ ([.startTransfer RamFile.open? image,
      .startTransfer RamFile.open? image] : List (Command (Tapped Bench) RamFile RamVolume)),
      command.SparesTransfers := by
    intro command mem
    simp only [List.mem_cons, List.not_mem_nil, or_false, or_self] at mem
    rw [mem]
    trivial
  obtain ⟨cursor, picks, distinct⟩ := ports_exclusive up spared ran
  exact ⟨hw, s, up, ran, ports, cursor, distinct, (picks 65535 ⟨by decide, by decide⟩).1⟩

end Stack

end PolledNet
