import Mathlib.Logic.Function.Iterate
import PolledNet.Proofs.Tftp.Numbering

/-!
# The counter on the wire

Either end of a transfer could keep the number of its block in sixteen bits: it would count up from
zero, and after 65535 go on with the first block of the rollover rule (`Rollover.next`). Transfers
keep the block itself instead and compute its number. That comes to the same however often the
counter wraps, since a counter that starts at zero shows nothing but those numbers
(`Counts.eq_wireBlock`). So what is known of the numbers is known of the counter: it does not show
a number again within 65535 blocks (`wireBlock_follows_counter`).
-/

namespace PolledNet

/-- The number that the counter shows after `w`. -/
def Rollover.next (r : Rollover) (w : UInt16) : UInt16 :=
  if w = 65535 then r.firstBlock else w + 1

/-- What a counter shows that starts at zero and is counted up once for each block. -/
structure Counts (r : Rollover) (shown : Nat → UInt16) : Prop where
  /-- Before the first block it shows zero. -/
  start : shown 0 = 0
  /-- Each block counts it up. -/
  step : ∀ n, shown (n + 1) = r.next (shown n)

/-- The numbers of the blocks are what a counter shows. -/
theorem counts_wireBlock (r : Rollover) : Counts r fun n => wireBlock n r where
  start := wireBlock_zero r
  step n := wireBlock_succ n r

variable {r : Rollover}

/-- **A counter shows the numbers of the blocks**, and nothing else. -/
theorem Counts.eq_wireBlock {shown : Nat → UInt16} (counts : Counts r shown) (n : Nat) :
    shown n = wireBlock n r := by
  induction n with
  | zero => rw [counts.start, wireBlock_zero]
  | succ n ih => rw [counts.step, ih, (counts_wireBlock r).step]

/-- Iterating the successor counts. -/
theorem counts_iterate (r : Rollover) : Counts r fun n => r.next^[n] 0 where
  start := rfl
  step n := Function.iterate_succ_apply' r.next n 0

/-- **Block numbers follow the counter on the wire.** The first is zero, and each other comes from
the one before it by counting up, or from 65535 by going to the first block of the rollover rule;
so the number of block `n` is what the counter shows after `n` steps. Two blocks fewer than 65535
apart have different numbers. -/
theorem wireBlock_follows_counter (r : Rollover) :
    wireBlock 0 r = 0 ∧
    (∀ n, wireBlock (n + 1) r =
      if wireBlock n r = 65535 then r.firstBlock else wireBlock n r + 1) ∧
    (∀ n, wireBlock n r = r.next^[n] 0) ∧
    ∀ m n : Nat, m ≠ n → ((m : Int) - n).natAbs < 65535 → wireBlock m r ≠ wireBlock n r := by
  refine ⟨wireBlock_zero r, fun n => wireBlock_succ n r, fun n => ?_, ?_⟩
  · exact ((counts_iterate r).eq_wireBlock n).symm
  · intro m n distinct near same
    apply distinct
    exact eq_of_wireBlock_eq (by omega) (by omega) same

/-- Two blocks on either side of the second wrap, where the first block is one. -/
theorem wireBlock_follows_counter_secondWrap :
    (131070 ≠ 65537 ∧ ((131070 : Nat) - (65537 : Nat) : Int).natAbs < 65535) ∧
    wireBlock 131070 .one = 65535 ∧ wireBlock 131071 .one = 1 ∧
    wireBlock 131070 .one ≠ wireBlock 65537 .one := by
  obtain ⟨-, step, -, different⟩ := wireBlock_follows_counter .one
  have last : wireBlock 131070 .one = 65535 := by decide
  refine ⟨by decide, last, ?_, different 131070 65537 (by decide) (by decide)⟩
  rw [step 131070, if_pos last]
  rfl

end PolledNet
