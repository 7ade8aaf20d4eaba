import PolledNet.Tftp.Block

/-!
# Near blocks have different numbers

The number on the wire names a block only up to the wrap of the counter. Two blocks fewer than 65535
apart have different numbers under either rollover rule (`eq_of_wireBlock_eq`), so a number together
with a rough idea of where the transfer stands names one block. Under the rule that leaves out 0,
two blocks exactly 65535 apart have the same number (`wireBlock_add_iff`).
-/

namespace PolledNet

/-- Block 0 has its own number. -/
theorem wireBlock_zero (r : Rollover) : wireBlock 0 r = 0 := by
  cases r <;> rfl

/-- Numbers repeat at the earliest after 65535 blocks. -/
theorem wireBlock_ne_of_lt {m n : Nat} {r : Rollover} (lt : m < n) (near : n < m + 65535) :
    wireBlock m r ≠ wireBlock n r := by
  intro same
  have value : (wireBlock m r).toNat = (wireBlock n r).toNat := congrArg UInt16.toNat same
  cases r with
  | zero =>
    rw [toNat_wireBlock_zero, toNat_wireBlock_zero] at value
    omega
  | one =>
    rw [toNat_wireBlock_one, toNat_wireBlock_one, if_neg (by omega : n ≠ 0)] at value
    split at value
    · -- only block 0 has the number 0
      omega
    · have apart : (n - 1) % 65535 = (m - 1) % 65535 := by omega
      omega

/-- **A number names one block of any 65535 in a row.** -/
theorem eq_of_wireBlock_eq {m n : Nat} {r : Rollover} (above : m < n + 65535)
    (below : n < m + 65535) (same : wireBlock m r = wireBlock n r) : m = n := by
  rcases Nat.lt_trichotomy m n with lt | eq | gt
  · exact absurd same (wireBlock_ne_of_lt lt below)
  · exact eq
  · exact absurd same.symm (wireBlock_ne_of_lt gt above)

/-- **After 65535 blocks the numbers start again under one of the rules**, except that of block
0. -/
theorem wireBlock_add_iff (m : Nat) (r : Rollover) :
    wireBlock (m + 65535) r = wireBlock m r ↔ r = .one ∧ 0 < m := by
  rw [← UInt16.toNat_inj]
  cases r with
  | zero =>
    rw [toNat_wireBlock_zero, toNat_wireBlock_zero]
    constructor
    · omega
    · rintro ⟨⟨⟩, -⟩
  | one =>
    rw [toNat_wireBlock_one, toNat_wireBlock_one, if_neg (by omega : m + 65535 ≠ 0)]
    split
    · omega
    · have turn : (m + 65535 - 1) % 65535 = (m - 1) % 65535 := by omega
      exact iff_of_true (by rw [turn]) ⟨rfl, by omega⟩

end PolledNet
