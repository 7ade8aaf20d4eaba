import PolledNet.Proofs.Core.Attendance
import PolledNet.Proofs.Stack.Command
import PolledNet.Proofs.Stack.Silence

/-!
# No resolution without a packet

The core of a stack that comes up is attended, and a run of commands is made of acts on the core, so
it is attended between any two of them (`no_orphans`). The first thing that a pass does is to retry
the parked packets. So no address is in the cache as being resolved with nothing left to ask for it
again or to give it up.
-/

namespace PolledNet

variable {ω η φ : Type} [FileHandle η φ] {s s₀ : Stack ω η φ} {commands : List (Command ω η φ)}

namespace Stack

/-- **Whatever is done with a stack**, an address that is being resolved has a packet that waits for
it. -/
theorem attended_performAll (attended : s₀.core.Attended) (ran : s₀.performAll commands = .ok s) :
    s.core.Attended := by
  have within : ∀ command ∈ commands, command.Within (fun _ => True) := by
    intro command _
    cases command <;> trivial
  exact attended.leads (leads_performAll within ran)

/-- **No orphaned resolution**, at any moment of any run of a stack that was brought up. For every
entry of the cache that is being resolved a packet is parked whose next hop is that address; and
whatever the hardware goes through before the next pass, if the next request for the address is due
by then, the pass sends it or gives the address up. Every packet that is parked has a next hop, and
is not addressed yet. -/
theorem no_orphans {device : Device ω} {clock : ω → Tick} {config : StackConfig} {hw hw' : ω}
    {volume : φ} (up : bringUp device clock config hw volume = (.ok s₀, hw'))
    (ran : s₀.performAll commands = .ok s) :
    (∀ e ∈ s.core.arp.entries, e.state ≠ .valid →
      s.core.waiting e.address ≠ [] ∧
        ∀ hw, Tick.reached (s.core.clock hw) e.stamp = true →
          s.core.asked e.address < { s.core with hw }.serviceParked.asked e.address ∨
            s.core.GivesUp { s.core with hw }.serviceParked e.address) ∧
      ∀ p ∈ s.core.parked, p.nextHop.isSome = true ∧ p.addressed = false := by
  have start : s₀.core.Attended := by
    obtain ⟨log, made⟩ := core_bringUp up
    rw [made]
    exact Core.attended_new rfl rfl
  have attended := attended_performAll start ran
  refine ⟨?_, attended.waits⟩
  intro e mem resolving
  constructor
  · obtain ⟨p, parked, next⟩ := attended.awaited.awaited e mem resolving
    apply List.ne_nil_of_mem
    exact List.mem_filter.mpr ⟨parked, decide_eq_true next⟩
  · intro hw due
    have moved : ({ s.core with hw } : Core ω).Attended := attended.of_eq rfl rfl
    exact moved.advances mem resolving due

/-- A datagram goes to a neighbour who does not answer; its address is being resolved, the datagram
is parked, and after a second the next request is due. -/
theorem no_orphans_greeting :
    ∃ hw s e, bringUp observed (·.hw.now) rented { hw := {} } {} = (.ok settled, hw) ∧
      settled.performAll [.transmit greeting] = .ok s ∧ e ∈ s.core.arp.entries ∧
        e.state = .resolving 1 ∧ s.core.waiting e.address ≠ [] ∧
          (∀ hw, Tick.reached (s.core.clock hw) e.stamp = true →
            s.core.asked e.address < { s.core with hw }.serviceParked.asked e.address ∨
              s.core.GivesUp { s.core with hw }.serviceParked e.address) ∧
            Tick.reached (s.core.clock { s.core.hw with hw := s.core.hw.hw.advance Tick.perSecond })
              e.stamp = true := by
  obtain ⟨hw, up⟩ := bringUp_settled
  obtain ⟨s, e, ran, mem, state, due⟩ : ∃ s e,
      settled.performAll [.transmit greeting] = .ok s ∧ e ∈ s.core.arp.entries ∧
        e.state = .resolving 1 ∧
          Tick.reached (s.core.clock { s.core.hw with hw := s.core.hw.hw.advance Tick.perSecond })
            e.stamp = true :=
    ⟨_, _, rfl, List.mem_singleton_self _, rfl, rfl⟩
  obtain ⟨attended, -⟩ := no_orphans up ran
  obtain ⟨waits, advances⟩ := attended e mem (by rw [state]; nofun)
  exact ⟨hw, s, e, up, ran, mem, state, waits, advances, due⟩

end Stack

end PolledNet
