import PolledNet.Bytes

/-!
# Content in blocks

A content of octets is cut into blocks of one size, counted from one. All blocks are full but the
last, which is shorter and may be empty (`length_blockAt`). So there is always a short block to end
with, and as many blocks as full ones and one more.
-/

namespace PolledNet

namespace Content

/-- The number of blocks of a content. -/
def blockCount (content : Bytes) (size : Nat) : Nat := content.length / size + 1

/-- A block of a content. -/
def blockAt (content : Bytes) (size n : Nat) : Bytes := (content.drop ((n - 1) * size)).take size

/-- The octets of all blocks before one. -/
def blocksBefore (content : Bytes) (size n : Nat) : Bytes :=
  (List.range' 1 (n - 1)).flatMap (blockAt content size)

/-- Blocks up to a number are those before it and one more. -/
theorem mul_eq_before_add (size : Nat) {n : Nat} (positive : 1 ≤ n) :
    n * size = (n - 1) * size + size := by
  rw [← Nat.succ_mul, Nat.succ_eq_add_one, Nat.sub_add_cancel positive]

/-- A block has the size of a block, or what is left of the content. -/
theorem length_blockAt (content : Bytes) (size n : Nat) :
    (blockAt content size n).length = min size (content.length - (n - 1) * size) := by
  rw [blockAt, List.length_take, List.length_drop]

/-- A block continues what comes before it. -/
theorem take_append_blockAt (content : Bytes) (size : Nat) {n : Nat} (positive : 1 ≤ n) :
    content.take ((n - 1) * size) ++ blockAt content size n = content.take (n * size) := by
  have split := mul_eq_before_add size positive
  rw [blockAt, split, List.take_add]

/-- **The blocks before one are a leading part of the content.** -/
theorem blocksBefore_eq_take (content : Bytes) (size n : Nat) :
    blocksBefore content size n = content.take ((n - 1) * size) := by
  unfold blocksBefore
  generalize n - 1 = count
  induction count with
  | zero => simp
  | succ count ih =>
    rw [List.range'_concat, List.flatMap_append, ih, Nat.one_mul, Nat.add_comm 1 count,
      List.flatMap_singleton]
    exact take_append_blockAt content size (Nat.le_add_left 1 count)

/-- Up to a short block it is the whole content. -/
theorem take_eq_self_of_short {content : Bytes} {size n : Nat} (positive : 1 ≤ n)
    (short : (blockAt content size n).length < size) : content.take (n * size) = content := by
  have split := mul_eq_before_add size positive
  rw [length_blockAt] at short
  exact List.take_of_length_le (by omega)

end Content

end PolledNet
