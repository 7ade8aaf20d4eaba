import PolledNet.Config

/-!
# Block numbers on the wire

A transfer counts its blocks without bound; the wire has sixteen bits. Blocks 1 to 65535 go by
their own number, and after 65535 the number starts again at what the rollover rule says. The main
statement, `wireBlock_succ`, is that rule as one step of the wire's counter.
-/

namespace PolledNet

/-- The number on the wire of block `n`. -/
def wireBlock (n : Nat) : Rollover → UInt16
  | .zero => UInt16.ofNat n
  | .one => if n < 65536 then UInt16.ofNat n else UInt16.ofNat ((n - 65536) % 65535 + 1)

/-- Without a gap the number of a block counts on modulo the size of a word. -/
theorem toNat_wireBlock_zero (n : Nat) : (wireBlock n .zero).toNat = n % 65536 := by
  simp [wireBlock]

/-- With rollover to one, block zero alone has the number zero. -/
theorem toNat_wireBlock_one (n : Nat) :
    (wireBlock n .one).toNat = if n = 0 then 0 else (n - 1) % 65535 + 1 := by
  have value : (wireBlock n .one).toNat =
      (if n < 65536 then n else (n - 65536) % 65535 + 1) % 65536 := by
    rw [wireBlock]
    split <;> simp
  rw [value]
  split <;> split <;> omega

/-- **The wire's counter, step by step.** It counts up, and after 65535 comes the first block of
the rollover rule. -/
theorem wireBlock_succ (n : Nat) (r : Rollover) :
    wireBlock (n + 1) r =
      if wireBlock n r = 65535 then r.firstBlock else wireBlock n r + 1 := by
  have full (w : UInt16) : w = 65535 ↔ w.toNat = 65535 := UInt16.toNat_inj.symm
  have value : (if wireBlock n r = 65535 then r.firstBlock else wireBlock n r + 1).toNat =
      if (wireBlock n r).toNat = 65535 then r.firstBlock.toNat
      else ((wireBlock n r).toNat + 1) % 65536 := by
    simp only [full]
    split
    · rfl
    · exact UInt16.toNat_add _ _
  apply UInt16.toNat_inj.mp
  rw [value]
  cases r with
  | zero =>
    simp only [toNat_wireBlock_zero]
    split
    · show (n + 1) % 65536 = 0
      omega
    · omega
  | one =>
    have one : Rollover.one.firstBlock.toNat = 1 := rfl
    rw [one, toNat_wireBlock_one, toNat_wireBlock_one]
    rcases n with _ | m
    · rfl
    · have next : m + 1 + 1 - 1 = m + 1 := rfl
      have here : m + 1 - 1 = m := rfl
      simp only [next, here, Nat.add_one_ne_zero, if_false]
      split <;> omega

end PolledNet
