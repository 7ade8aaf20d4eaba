import PolledNet.Link.Bench
import PolledNet.Proofs.Dhcp.Renewal

/-!
# When timers expire

A timer compares counts of ticks, which wrap. In true time it waits for the delay it was armed with,
as far as it can hold it, is then due for half the tick space, and after that reads as ahead for the
other half, again and again (`Timer.isDue_arm_after_iff`). So as long as it is looked at within half
the tick space of its expiry, it is due exactly if its delay is over (`Timer.due_in_true_time`).

The first renewal of a lease is always within what a timer can hold, and never at once. So a client
that has just been bound is not told to renew before that time has passed
(`DhcpClient.Session.early_bind`).
-/

namespace PolledNet

open Tick (clamped)

namespace Timer

/-- An armed timer is due once the clock reads as past its deadline. -/
theorem isDue_arm (start delay now : Tick) :
    (arm start delay).isDue now = Tick.reached now (start.after delay.clamped) := by
  rw [arm, isDue, Option.any_some, Tick.deadline_eq]

/-- **What a timer says, at every moment.** -/
theorem isDue_arm_after_iff (start delay : Tick) (e : Nat) :
    (arm start delay).isDue (start.after e) = true ↔
      delay.clamped ≤ e ∧ (e - delay.clamped) % UInt32.size ≤ Tick.maxDelay.toNat := by
  rw [isDue_arm, Tick.reached_after_iff_mod start delay.clamped_le]

/-- A timer that can hold its delay is not due before it is over. -/
theorem not_isDue_of_lt {delay : Tick} (holds : delay ≤ Tick.maxDelay) (start : Tick) {e : Nat}
    (early : e < delay.toNat) : (arm start delay).isDue (start.after e) = false := by
  have whole : delay.clamped = delay.toNat :=
    Nat.min_eq_left (UInt32.le_iff_toNat_le.mp holds)
  apply Bool.eq_false_iff.mpr
  intro due
  have passed := ((isDue_arm_after_iff start delay e).mp due).1
  omega

end Timer

/-! ## Renewals -/

namespace Lease

/-- **The first renewal is within what a timer can hold.** -/
theorem renewAfter_le (l : Lease) : l.renewAfter ≤ Tick.maxDelay := by
  rw [UInt32.le_iff_toNat_le, toNat_renewAfter]
  exact Nat.min_le_right _ _

/-- The renewal of a lease is at least a second away. -/
theorem perSecond_le_renewAfter (l : Lease) : Tick.perSecond ≤ l.renewAfter := by
  have second : Tick.perSecond.toNat = 100 := rfl
  rw [UInt32.le_iff_toNat_le, toNat_renewAfter, second]
  omega

end Lease

namespace DhcpClient

namespace Session

variable {ω : Type} {x : Session (Core ω)}

/-- **A client that has just been bound is not told to renew** until the time for it has passed. -/
theorem early_bind {former : Lease} (held : x.client.lease = some former) (m : DhcpMessage) :
    ∃ lease, (x.bind (Core.uplink ω) m).client.lease = some lease ∧
      ∀ e < lease.renewAfter.toNat,
        (x.bind (Core.uplink ω) m).timer.isDue (x.link.now.after e) = false := by
  obtain ⟨client, timer, -⟩ := bind_of_held (m := m) held
  refine ⟨_, by rw [client], ?_⟩
  intro e early
  rw [timer]
  exact Timer.not_isDue_of_lt (Lease.renewAfter_le _) x.link.now early

end Session

end DhcpClient

/-! ## True time -/

/-- **Timers tell true time.** A timer that is looked at less than half the tick space after its
delay is over is due exactly if that is over, at whatever count it was armed and wherever the count
has wrapped since; a delay that it cannot hold counts as the longest that it can. The first renewal
of a lease can be held in full, so it is due at its time and not before, and a client that is bound
waits for it. -/
theorem Timer.due_in_true_time (start delay : Tick) {e : Nat}
    (near : e < 2147483648 + min delay.toNat Tick.maxDelay.toNat) :
    ((Timer.arm start delay).isDue (start.after e) = true ↔
      min delay.toNat Tick.maxDelay.toNat ≤ e) ∧
    (∀ lease : Lease, lease.renewAfter ≤ Tick.maxDelay ∧
      (Timer.arm start lease.renewAfter).isDue start = false ∧
      ∀ e < 2147483648 + lease.renewAfter.toNat,
        ((Timer.arm start lease.renewAfter).isDue (start.after e) = true ↔
          lease.renewAfter.toNat ≤ e)) ∧
    ∀ {ω : Type} (x : DhcpClient.Session (Core ω)) (m : DhcpMessage), x.client.lease ≠ none →
      ∃ lease, (x.bind (Core.uplink ω) m).client.lease = some lease ∧
        ∀ e < lease.renewAfter.toNat,
          (x.bind (Core.uplink ω) m).timer.isDue (x.link.now.after e) = false := by
  have tells (delay : Tick) (e : Nat) (near : e < 2147483648 + delay.clamped) :
      (Timer.arm start delay).isDue (start.after e) = true ↔ delay.clamped ≤ e := by
    rw [isDue_arm]
    exact Tick.reached_after_iff start delay.clamped_le (by omega)
  refine ⟨tells delay e near, fun lease => ?_, fun x m bound => ?_⟩
  · have holds := lease.renewAfter_le
    have whole : lease.renewAfter.clamped = lease.renewAfter.toNat :=
      Nat.min_eq_left (UInt32.le_iff_toNat_le.mp holds)
    have later := UInt32.le_iff_toNat_le.mp lease.perSecond_le_renewAfter
    have second : Tick.perSecond.toNat = 100 := rfl
    refine ⟨holds, ?_, ?_⟩
    · have early := not_isDue_of_lt holds start (e := 0) (by omega)
      rwa [Tick.after_zero] at early
    · intro e near
      have iff := tells lease.renewAfter e (by omega)
      rwa [whole] at iff
  · obtain ⟨former, held⟩ := Option.ne_none_iff_exists'.mp bound
    exact DhcpClient.Session.early_bind held m

/-- A client on a bench that has asked for an address for good. -/
def DhcpClient.settling : DhcpClient.Session (Core Bench) where
  client :=
    { DhcpClient.ofMac ⟨2, 0, 0, 0, 0, 1⟩ with
      state := .request
      lease := some ⟨⟨10, 0, 0, 1⟩, ⟨10, 0, 0, 5⟩, ⟨255, 0, 0, 0⟩, ⟨10, 0, 0, 1⟩, ⟨10, 0, 0, 1⟩,
        4294967295⟩ }
  timer := Timer.idle
  link :=
    { device := Bench.device .a ⟨2, 0, 0, 0, 0, 1⟩ none 0, clock := Bench.now, hw := {}
      config := {}, iface := InterfaceConfig.unconfigured, mac := ⟨2, 0, 0, 0, 0, 1⟩ }

/-- A timer for longer than it can hold, armed just before the count wraps, is due at the last
moment of its half of the tick space and is not just before its first. A client that is bound for
good waits just as long. -/
theorem Timer.due_in_true_time_clamped :
    4294967294 < 2147483648 + min (4294967295 : Tick).toNat Tick.maxDelay.toNat ∧
    (Timer.arm 4294967290 4294967295).isDue (Tick.after 4294967290 4294967294) = true ∧
    (Timer.arm 4294967290 4294967295).isDue (Tick.after 4294967290 2147483646) = false ∧
    DhcpClient.settling.client.lease ≠ none ∧
    (DhcpClient.settling.bind (Core.uplink Bench)
      { type := .ack, xid := 1, clientMac := ⟨2, 0, 0, 0, 0, 1⟩ }).timer.isDue
        (DhcpClient.settling.link.now.after 2147483646) = false := by
  have near : 4294967294 < 2147483648 + min (4294967295 : Tick).toNat Tick.maxDelay.toNat := by
    decide
  have soon : 2147483646 < 2147483648 + min (4294967295 : Tick).toNat Tick.maxDelay.toNat := by
    decide
  have holds : DhcpClient.settling.client.lease ≠ none := nofun
  obtain ⟨late, -, bound⟩ := Timer.due_in_true_time 4294967290 4294967295 near
  obtain ⟨early, -⟩ := Timer.due_in_true_time 4294967290 4294967295 soon
  obtain ⟨lease, held, waits⟩ := bound DhcpClient.settling
    { type := .ack, xid := 1, clientMac := ⟨2, 0, 0, 0, 0, 1⟩ } holds
  refine ⟨near, late.mpr (by decide), ?_, holds, ?_⟩
  · apply Bool.eq_false_iff.mpr
    intro due
    exact absurd (early.mp due) (by decide)
  · cases held
    apply waits
    decide

end PolledNet
