import Mathlib.Data.Nat.ModEq
import PolledNet.Proofs.Inet.Corruption

/-!
# The 32 bits of a checksum

The sum behind a checksum is kept in 32 bits and carried early. `checkedAddWords` spells it out
again with every addition checked, and none of them overflows, however long the octets are, if the
sum starts at 0xFFFF0000 or below (`checkedAddWords_eq`). The sums that datagrams start with do
(`pseudoSum_le`).

What comes out is known from the words alone (`words`): nothing if there is nothing to add, and else
the number from 1 to 65535 that is congruent to their sum (`fold_addWords`). The octets may be
summed in parts, as long as no word is cut in two (`addWords_parts`).
-/

namespace PolledNet.Checksum

/-! ## Checked sums -/

/-- A sum, unless it does not fit into 32 bits. -/
def plus? (a b : UInt32) : Option UInt32 :=
  if a.toNat + b.toNat < UInt32.size then some (a + b) else none

/-- Moves the high half of a sum down onto its low half. -/
def checkedCarry (sum : UInt32) : Option UInt32 := plus? (sum % 65536) (sum / 65536)

/-- Adds the words of the octets to a running sum, carrying as soon as the next word might not
fit. -/
def checkedAddWords : Bytes → UInt32 → Option UInt32
  | hi :: lo :: rest, sum => do
    let sum ← plus? sum (word16 hi lo).toUInt32
    if sum > 0xFFFF0000 then checkedAddWords rest (← checkedCarry sum)
    else checkedAddWords rest sum
  | [last], sum => plus? sum (word16 last 0).toUInt32
  | [], sum => some sum

/-- A sum that fits is the sum. -/
theorem plus?_eq {a b : UInt32} (fits : a.toNat + b.toNat < UInt32.size) :
    plus? a b = some (a + b) := if_pos fits

/-- Two halves fit. -/
theorem checkedCarry_eq (sum : UInt32) : checkedCarry sum = some (carry sum) := by
  apply plus?_eq
  have bound := sum.toNat_lt
  have all : UInt32.size = 4294967296 := rfl
  simp only [UInt32.toNat_mod, UInt32.toNat_div, UInt32.reduceToNat, all]
  omega

/-- A word fits. -/
theorem plus?_word {sum : UInt32} (room : sum.toNat ≤ 0xFFFF0000) (w : UInt16) :
    plus? sum w.toUInt32 = some (sum + w.toUInt32) := by
  apply plus?_eq
  have word := w.toNat_lt
  have all : UInt32.size = 4294967296 := rfl
  rw [UInt16.toNat_toUInt32, all]
  omega

/-- What is carried leaves room for a word. -/
theorem carry_le (sum : UInt32) : (carry sum).toNat ≤ 0xFFFF0000 := by
  have bound := sum.toNat_lt
  rw [toNat_carry]
  omega

/-- A sum that need not be carried leaves room for a word. -/
theorem toNat_le_of_not_gt {sum : UInt32} (low : ¬ sum > 0xFFFF0000) : sum.toNat ≤ 0xFFFF0000 := by
  rwa [gt_iff_lt, UInt32.lt_iff_toNat_lt, Nat.not_lt] at low

/-- **No sum of words overflows.** -/
theorem checkedAddWords_eq (b : Bytes) {sum : UInt32} (room : sum.toNat ≤ 0xFFFF0000) :
    checkedAddWords b sum = some (addWords b sum) := by
  induction b using wordSum.induct generalizing sum with
  | case1 hi lo rest ih =>
    rw [checkedAddWords, addWords, plus?_word room, Option.bind_eq_bind, Option.bind_some]
    split
    · rw [checkedCarry_eq, Option.bind_some, ih (carry_le _)]
    · rename_i low
      exact ih (toNat_le_of_not_gt low)
  | case2 last => exact plus?_word room _
  | case3 => rfl

/-- Folds a sum, carrying until its high half is empty. -/
def checkedFold (sum : UInt32) : Option UInt16 :=
  if sum / 65536 = 0 then some sum.toUInt16
  else
    match _carried : checkedCarry sum with
    | some lower => checkedFold lower
    | none => none
termination_by sum.toNat
decreasing_by
  rename_i more
  rw [checkedCarry_eq] at _carried
  cases _carried
  rw [toNat_carry]
  have high : sum.toNat / 65536 ≠ 0 := fun none => more (UInt32.toNat_inj.mp none)
  omega

/-- **Folding ends after two carries at most**, and none of them overflows. -/
theorem checkedFold_eq (sum : UInt32) : checkedFold sum = some (fold sum) := by
  fun_induction checkedFold sum with
  | case1 sum done =>
    have low : sum.toNat / 65536 = 0 := congrArg UInt32.toNat done
    congr 1
    apply UInt16.toNat_inj.mp
    rw [toNat_fold, residue_of_le (by omega), UInt32.toNat_toUInt16]
    omega
  | case2 sum more lower carried ih =>
    rw [checkedCarry_eq] at carried
    cases carried
    rw [ih]
    congr 1
    apply UInt16.toNat_inj.mp
    rw [toNat_fold, toNat_fold, residue_carry]
  | case3 sum more overflows =>
    rw [checkedCarry_eq] at overflows
    cases overflows

/-! ## Parts -/

/-- **Octets may be summed in parts.** -/
theorem addWords_append {a : Bytes} (even : a.length % 2 = 0) (b : Bytes) (sum : UInt32) :
    addWords (a ++ b) sum = addWords b (addWords a sum) := by
  induction a, even using whole_induction generalizing sum with
  | empty => rfl
  | word hi lo rest _ _ ih =>
    rw [List.cons_append, List.cons_append, addWords, addWords, ih]

/-- The sum of a part leaves room for the next. -/
theorem addWords_le {a : Bytes} (even : a.length % 2 = 0) {sum : UInt32}
    (room : sum.toNat ≤ 0xFFFF0000) : (addWords a sum).toNat ≤ 0xFFFF0000 := by
  induction a, even using whole_induction generalizing sum with
  | empty => exact room
  | word hi lo rest _ _ ih =>
    rw [addWords]
    apply ih
    split
    · exact carry_le _
    · rename_i low
      exact toNat_le_of_not_gt low

/-- **Octets that are cut between two words** may be added one part after the other. -/
theorem addWords_parts (b : Bytes) {n : Nat} (even : n % 2 = 0) (sum : UInt32) :
    addWords (b.drop n) (addWords (b.take n) sum) = addWords b sum := by
  by_cases inside : n ≤ b.length
  · have even : (b.take n).length % 2 = 0 := by rwa [List.length_take_of_le inside]
    rw [← addWords_append even, List.take_append_drop]
  · rw [List.take_of_length_le (Nat.le_of_not_le inside),
      List.drop_eq_nil_of_le (Nat.le_of_not_le inside)]
    rfl

/-- The second part does not overflow either. -/
theorem checkedAddWords_parts (b : Bytes) {n : Nat} (even : n % 2 = 0) {sum : UInt32}
    (room : sum.toNat ≤ 0xFFFF0000) :
    checkedAddWords (b.drop n) (addWords (b.take n) sum) = some (addWords b sum) := by
  rw [← addWords_parts b even]
  by_cases inside : n ≤ b.length
  · apply checkedAddWords_eq
    apply addWords_le _ room
    rwa [List.length_take_of_le inside]
  · rw [List.drop_eq_nil_of_le (Nat.le_of_not_le inside)]
    rfl

/-! ## Words -/

/-- The words of the octets, with an odd last octet padded by zero. -/
def words (b : Bytes) : List UInt16 :=
  (List.range ((b.length + 1) / 2)).map fun i => wordAt b (2 * i)

/-- The first two octets are the first word. -/
theorem words_cons (hi lo : UInt8) (rest : Bytes) :
    words (hi :: lo :: rest) = word16 hi lo :: words rest := by
  have more : ((hi :: lo :: rest).length + 1) / 2 = (rest.length + 1) / 2 + 1 := by
    rw [List.length_cons, List.length_cons]
    omega
  rw [words, words, more, List.range_succ_eq_map, List.map_cons, List.map_map]
  rfl

/-- The sum of the octets is that of their words. -/
theorem wordSum_eq_sum (b : Bytes) : wordSum b = ((words b).map UInt16.toNat).sum := by
  induction b using wordSum.induct with
  | case1 hi lo rest ih => rw [wordSum, words_cons, List.map_cons, List.sum_cons, ih]
  | case2 last => simp [wordSum, words, wordAt]
  | case3 => rfl

/-- Words sum up to zero only if all are zero. -/
theorem wordSum_eq_zero_iff (b : Bytes) : wordSum b = 0 ↔ ∀ w ∈ words b, w = 0 := by
  rw [wordSum_eq_sum, List.sum_eq_zero_iff_forall_eq_nat]
  simp [← UInt16.toNat_inj]

/-- A sum is zero in one's complement only if it is zero. -/
theorem residue_eq_zero_iff (n : Nat) : residue n = 0 ↔ n = 0 := by
  unfold residue
  split <;> omega

/-- The one's-complement value of a sum is congruent to it. -/
theorem residue_modEq (n : Nat) : residue n ≡ n [MOD 65535] := by
  unfold residue Nat.ModEq
  split <;> omega

/-- **What comes out is zero if there is nothing but zero to add**, and else the number from 1 to
65535 that is congruent to the sum. -/
theorem fold_addWords (b : Bytes) {sum : UInt32} (room : sum.toNat ≤ 0xFFFF0000) :
    (fold (addWords b sum) = 0 ↔ sum = 0 ∧ ∀ w ∈ words b, w = 0) ∧
    (fold (addWords b sum)).toNat ≡ sum.toNat + ((words b).map UInt16.toNat).sum [MOD 65535] := by
  have value : (fold (addWords b sum)).toNat = residue (sum.toNat + wordSum b) := by
    rw [toNat_fold, residue_addWords b room]
  constructor
  · rw [← UInt16.toNat_inj, value, UInt16.toNat_zero, residue_eq_zero_iff, Nat.add_eq_zero_iff,
      wordSum_eq_zero_iff, ← UInt32.toNat_inj, UInt32.toNat_zero]
  · rw [value, ← wordSum_eq_sum]
    exact residue_modEq _

/-! ## The accumulator -/

/-- **The accumulator is exact.** Started low enough, it overflows neither while words are added nor
while it is folded. What comes out is zero exactly if it was started at zero and all words are zero;
in any case it is congruent, modulo 65535, to what it was started with and the sum of the words.
Octets that are cut between two words give the same if they are added one part after the other. -/
theorem accumulator_exact (b : Bytes) {s : UInt32} (room : s.toNat ≤ 0xFFFF0000) :
    checkedAddWords b s = some (addWords b s) ∧
    checkedFold (addWords b s) = some (fold (addWords b s)) ∧
    (fold (addWords b s) = 0 ↔ s = 0 ∧ ∀ w ∈ words b, w = 0) ∧
    (fold (addWords b s)).toNat ≡ s.toNat + ((words b).map UInt16.toNat).sum [MOD 65535] ∧
    ∀ n, n % 2 = 0 →
      (checkedAddWords (b.take n) s).bind (checkedAddWords (b.drop n)) = some (addWords b s) ∧
      fold (addWords (b.drop n) (addWords (b.take n) s)) = fold (addWords b s) := by
  obtain ⟨zero, congruent⟩ := fold_addWords b room
  refine ⟨checkedAddWords_eq b room, checkedFold_eq _, zero, congruent, ?_⟩
  intro n even
  constructor
  · rw [checkedAddWords_eq _ room, Option.bind_some]
    exact checkedAddWords_parts b even room
  · rw [addWords_parts b even]

/-- Three octets on top of the highest sum that leaves room for them, at once and in two parts. The
first word makes the accumulator carry. -/
theorem accumulator_exact_highest :
    ((0xFFFF0000 : UInt32).toNat ≤ 0xFFFF0000 ∧ 2 % 2 = 0) ∧
    checkedAddWords [0xff, 0xff, 1] 0xFFFF0000 = some 0x200fe ∧
    words [0xff, 0xff, 1] = [0xffff, 0x0100] ∧
    (fold (addWords [0xff, 0xff, 1] 0xFFFF0000)).toNat ≡
      0xFFFF0000 + (0xffff + 0x0100) [MOD 65535] ∧
    fold (addWords [1] (addWords [0xff, 0xff] 0xFFFF0000)) = 0x0100 := by
  have room : (0xFFFF0000 : UInt32).toNat ≤ 0xFFFF0000 := by decide
  obtain ⟨checked, -, -, congruent, parts⟩ := accumulator_exact [0xff, 0xff, 1] room
  obtain ⟨-, chained⟩ := parts 2 rfl
  refine ⟨⟨room, rfl⟩, ?_, by decide, congruent, ?_⟩
  · rw [checked]
    decide
  · refine chained.trans ?_
    decide

end PolledNet.Checksum
