import PolledNet.Time

/-!
# Deadlines in true time

Ticks wrap, true time does not. `Tick.after t n` is the tick count that is read `n` ticks after `t`
was read. Of two moments after `t`, a deadline set at the one is seen as reached at the other
exactly if it is not later in true time (`reached_after_iff`), as long as the delay is one that a
timer can hold and the deadline is looked at before half the tick space has gone by since. Later
it reads as ahead again, so that what rests on a deadline has to be looked at often enough
(`lt_of_not_reached`).
-/

namespace PolledNet

namespace Tick

/-- The tick count `n` ticks after `t`. -/
def after (t : Tick) (n : Nat) : Tick := t + UInt32.ofNat n

/-- No time goes by in no time. -/
theorem after_zero (t : Tick) : t.after 0 = t := by
  exact UInt32.add_zero t

/-- Times that go by one after the other add up. -/
theorem after_after (t : Tick) (m n : Nat) : (t.after m).after n = t.after (m + n) := by
  rw [after, after, after, UInt32.ofNat_add, UInt32.add_assoc]

/-- What a clock shows later is known up to its size. -/
theorem toNat_after (t : Tick) (n : Nat) : (t.after n).toNat = (t.toNat + n) % UInt32.size := by
  rw [after, UInt32.toNat_add, UInt32.toNat_ofNat', Nat.add_mod_mod]

/-- A delay as true time, once it is clamped to what a timer can hold. -/
def clamped (delay : Tick) : Nat := min delay.toNat maxDelay.toNat

/-- No delay is longer than the longest. -/
theorem clamped_le (delay : Tick) : delay.clamped ≤ maxDelay.toNat := Nat.min_le_right _ _

/-- A delay is not lost by its limit. -/
theorem clamped_pos {delay : Tick} (some : delay ≠ 0) : 0 < delay.clamped := by
  have pos : 0 < delay.toNat := Nat.pos_of_ne_zero fun zero => some (UInt32.toNat_inj.mp zero)
  exact Nat.lt_min.mpr ⟨pos, by decide⟩

/-- The lesser of two ticks as a number. -/
theorem toNat_min (a b : Tick) : (min a b).toNat = min a.toNat b.toNat := by
  show (if a ≤ b then a else b).toNat = _
  split
  · rename_i le
    exact (Nat.min_eq_left (UInt32.le_iff_toNat_le.mp le)).symm
  · rename_i gt
    exact (Nat.min_eq_right (Nat.le_of_not_le (mt UInt32.le_iff_toNat_le.mpr gt))).symm

/-- The greater of two ticks as a number. -/
theorem toNat_max (a b : Tick) : (max a b).toNat = max a.toNat b.toNat := by
  show (if a ≤ b then b else a).toNat = _
  split
  · rename_i le
    exact (Nat.max_eq_right (UInt32.le_iff_toNat_le.mp le)).symm
  · rename_i gt
    exact (Nat.max_eq_left (Nat.le_of_not_le (mt UInt32.le_iff_toNat_le.mpr gt))).symm

/-- A deadline is what the clock shows once the delay has gone by. -/
theorem deadline_eq (t delay : Tick) : deadline t delay = t.after delay.clamped := by
  rw [deadline, after, clamped, ← toNat_min, UInt32.ofNat_toNat]

/-- **What a deadline reads as, at every moment**: ahead until it is reached, then as reached for
half the tick space and as ahead for the other half, in turn. -/
theorem reached_after_iff_mod (t : Tick) {d : Nat} (short : d ≤ maxDelay.toNat) (e : Nat) :
    reached (t.after e) (t.after d) = true ↔
      d ≤ e ∧ (e - d) % UInt32.size ≤ maxDelay.toNat := by
  have most : maxDelay.toNat = 2147483647 := rfl
  have all : UInt32.size = 4294967296 := rfl
  have bound := t.toNat_lt
  rw [reached, decide_eq_true_iff, UInt32.le_iff_toNat_le, UInt32.toNat_sub, toNat_after,
    toNat_after, all, most]
  omega

/-- **A deadline is reached in true time exactly if it reads as reached**, also across a wrap. -/
theorem reached_after_iff (t : Tick) {d e : Nat} (short : d ≤ maxDelay.toNat)
    (near : e < d + 2147483648) : reached (t.after e) (t.after d) = true ↔ d ≤ e := by
  have most : maxDelay.toNat = 2147483647 := rfl
  have all : UInt32.size = 4294967296 := rfl
  rw [reached_after_iff_mod t short, all, most]
  omega

/-- On a clock that shows true time modulo its size, too, a deadline is reached just if it reads as
reached. -/
theorem reached_deadline_iff {set now : Nat} (delay : Tick) (later : set ≤ now)
    (near : now < set + delay.clamped + 2147483648) :
    reached (UInt32.ofNat now) (deadline (UInt32.ofNat set) delay) = true ↔
      set + delay.clamped ≤ now := by
  obtain ⟨e, rfl⟩ := Nat.exists_eq_add_of_le later
  have iff := reached_after_iff (UInt32.ofNat set) delay.clamped_le (e := e) (by omega)
  rw [UInt32.ofNat_add, deadline_eq]
  exact iff.trans (by omega)

/-- What does not read as reached is in fact not reached, unless it was so long ago that it reads as
ahead again. -/
theorem lt_of_not_reached {set now : Nat} {delay : Tick}
    (near : now < set + delay.clamped + 2147483648)
    (ahead : reached (UInt32.ofNat now) (deadline (UInt32.ofNat set) delay) = false) :
    now < set + delay.clamped := by
  by_cases later : set ≤ now
  · rw [← Nat.not_le, ← reached_deadline_iff delay later near, ahead]
    exact Bool.false_ne_true
  · omega

end Tick

end PolledNet
