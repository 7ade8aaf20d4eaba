import PolledNet.Proofs.Stack.Operation

/-!
# Frames that wait for the device

A frame that has to wait leaves the backlog only by being offered to the device, in the order in
which the frames entered it (`backlog_conduct`). Sending a frame treats an answer that says "later"
as a reason to wait. Offering one that has waited does not: a frame refused in this way is lost like
any other (`not_kept_for_later`), and what loses nothing is a device that never answers so after it
has said that it has room (`Device.Candid`).
-/

namespace PolledNet

open PolledNet.Core (Traffic)

namespace Stack

variable {ω η φ : Type} [FileHandle η φ] {World : (ω → ω) → Prop} {s s' : Stack ω η φ}

/-- **What becomes of the frames that wait**, on any device and in any run.

They are a queue: those that waited and those that entered are those that were offered and those
that still wait. All that is lost is counted. A frame is lost to a refusal that says "later" exactly
if the device, having said that it has room, gives one to an offer; a candid device loses none. -/
theorem backlog_conduct (run : s.Operates World s') :
    ∃ trace, Traffic World s.core trace s'.core ∧
      ∀ trace, Traffic World s.core trace s'.core →
        s.core.backlog ++ trace.filterMap Passage.queued? =
            trace.filterMap Passage.offered? ++ s'.core.backlog ∧
          s'.core.stats.txBacklogDrops =
            s.core.stats.txBacklogDrops + trace.countP Passage.isDrop ∧
          ((∃ p e, .offered p (.error e) ∈ trace ∧ e.isTransient = true) ↔
            ∃ p e, Core.Offers World s.core trace p (.error e) ∧ e.isTransient = true) ∧
          (s.core.device.Candid →
            ∀ p e, .offered p (.error e) ∈ trace → e.isTransient = false) := by
  obtain ⟨trace, traffic⟩ := traffic_of_operates run
  refine ⟨trace, traffic, fun trace traffic => ?_⟩
  refine ⟨traffic.backlog, traffic.drops, traffic.lost_to_transient_iff, ?_⟩
  intro candid p e mem
  exact traffic.permanent candid mem

/-! ## A frame that is lost -/

/-- A stack without sinks on a bench. The device has no room at first. -/
def shut : Stack Bench RamFile RamVolume :=
  { core :=
      { device := Bench.device .a ⟨2, 0, 0, 0, 0, 1⟩ none 0, clock := Bench.now
        hw := { wire := { toB := { ready := false } } }, config := {}
        iface := InterfaceConfig.unconfigured, mac := ⟨2, 0, 0, 0, 0, 1⟩ }
    volume := {} }

/-- The device has room again, but its next transmission meets a full buffer. -/
def reopen (b : Bench) : Bench :=
  { b with wire := b.wire.setPeerReady .b true }.refuse .a [.bufferFull]

/-- The frame that is sent. -/
def lostFrame : Packet := Packet.zeroed Ethernet.minFrameSize

/-- The stack while the frame waits. -/
def waiting : Stack Bench RamFile RamVolume :=
  let core := (shut.core.sendFrame lostFrame).2
  { shut with core := { core with hw := reopen core.hw } }

/-- The stack a pass later. -/
def bereft : Stack Bench RamFile RamVolume :=
  { waiting with core := waiting.core.release lostFrame [] }

/-- The frame is sent, the device finds room, and a pass is made. -/
theorem operates_bereft : shut.Operates (fun _ => True) bereft := by
  have sent : shut.Operates (fun _ => True)
      { shut with core := (shut.core.sendFrame lostFrame).2 } := .single (.sendFrame lostFrame)
  have opened : shut.Operates (fun _ => True) waiting :=
    sent.tail (.elapse (f := reopen) trivial shut.volume)
  exact opened.tail (.pump rfl)

/-- The frame is queued, and then offered to a device that has no room after all. -/
theorem traffic_bereft :
    Traffic (fun _ => True) shut.core [.queued lostFrame, .offered lostFrame (.error .bufferFull)]
      bereft.core := by
  have sent : Traffic (fun _ => True) shut.core [.queued lostFrame]
      (shut.core.sendFrame lostFrame).2 := .pass .nil (.queued rfl rfl)
  have opened : Traffic (fun _ => True) shut.core [.queued lostFrame] waiting.core :=
    sent.hardware (.elapse (f := reopen) trivial)
  have alone : waiting.core.backlog = lostFrame :: [] := rfl
  exact opened.pass (.offered alone rfl)

/-- The frame is lost: it is neither sent nor waits any longer, although the device would have taken
it later. -/
theorem backlog_conduct_bufferFull :
    shut.Operates (fun _ => True) bereft ∧ bereft.core.backlog = [] ∧
      bereft.core.stats.txFrames = 0 ∧
      ∃ p e, Core.Offers (fun _ => True) shut.core
        [.queued lostFrame, .offered lostFrame (.error .bufferFull)] p (.error e) ∧
          e.isTransient = true := by
  obtain ⟨-, -, conduct⟩ := backlog_conduct operates_bereft
  obtain ⟨-, -, lost, -⟩ := conduct _ traffic_bereft
  exact ⟨operates_bereft, rfl, rfl, lost.mp ⟨lostFrame, .bufferFull, by simp, rfl⟩⟩

/-- **A frame that could be taken later is lost.** It was accepted, it waited, and the only answer
the device ever gave to it was that its buffer was full. -/
theorem not_kept_for_later :
    ¬ ∀ (s s' : Stack Bench RamFile RamVolume) (trace : List Passage),
      s.Operates (fun _ => True) s' → Traffic (fun _ => True) s.core trace s'.core →
        ∀ p e, .offered p (.error e) ∈ trace → e.isTransient = false := by
  intro kept
  have permanent := kept shut bereft _ operates_bereft traffic_bereft lostFrame .bufferFull
    (by simp)
  exact absurd permanent (by decide)

end Stack

end PolledNet
