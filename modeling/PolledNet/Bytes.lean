/-!
# Octets and words

Frames, datagrams and messages are lists of octets. This module holds the few operations every
codec needs: big-endian words, slices that refuse a range outside the octets, and overwriting.

**Faults are not errors.** An access outside the octets at hand is a `Fault`, and so is a difference
below zero or a quotient by zero: the step that asked for it has no result at all. Errors that a
caller is meant to handle have types of their own.

The laws at the end say that the words read back what was written.
-/

namespace PolledNet

/-- The octets of a frame, a datagram or a message, first octet first. -/
abbrev Bytes := List UInt8

/-- Why a step has no result. -/
inductive Fault where
  /-- An octet or a range of octets was asked for that does not exist. -/
  | outOfRange
  /-- A difference below zero was asked for. -/
  | belowZero
  /-- A quotient by zero was asked for. -/
  | byZero
  deriving DecidableEq, Repr

/-! ## Words -/

/-- The 16-bit word of two octets, high octet first. -/
def word16 (hi lo : UInt8) : UInt16 :=
  UInt16.ofNat (hi.toNat * 256 + lo.toNat)

/-- The 32-bit word of four octets, highest octet first. -/
def word32 (a b c d : UInt8) : UInt32 :=
  UInt32.ofNat (((a.toNat * 256 + b.toNat) * 256 + c.toNat) * 256 + d.toNat)

/-- The two octets of a 16-bit word, high octet first. -/
def octets16 (w : UInt16) : Bytes :=
  [UInt8.ofNat (w.toNat / 256), w.toUInt8]

/-- The four octets of a 32-bit word, highest octet first. -/
def octets32 (w : UInt32) : Bytes :=
  [UInt8.ofNat (w.toNat / 16777216), UInt8.ofNat (w.toNat / 65536), UInt8.ofNat (w.toNat / 256),
    w.toUInt8]

/-! ## Slices -/

namespace Bytes

/-- The octets from `start` on; `start` may be the very end. -/
def suffix? (b : Bytes) (start : Nat) : Except Fault Bytes :=
  if start ≤ b.length then .ok (b.drop start) else .error .outOfRange

/-- The octets from `start` up to, not including, `stop`. -/
def slice? (b : Bytes) (start stop : Nat) : Except Fault Bytes :=
  if start ≤ stop ∧ stop ≤ b.length then .ok ((b.drop start).take (stop - start))
  else .error .outOfRange

/-- The octet at position `i`. -/
def octet? (b : Bytes) (i : Nat) : Except Fault UInt8 :=
  match b[i]? with
  | some x => .ok x
  | none => .error .outOfRange

/-- The octets with those from `start` on replaced by `content`, where `content` fits. -/
def overwrite (b : Bytes) (start : Nat) (content : Bytes) : Bytes :=
  b.take start ++ content ++ b.drop (start + content.length)

/-- Overwriting that refuses content reaching past the end. -/
def overwrite? (b : Bytes) (start : Nat) (content : Bytes) : Except Fault Bytes :=
  if start + content.length ≤ b.length then .ok (b.overwrite start content)
  else .error .outOfRange

/-! ## Laws -/

/-- Overwriting does not change the length. -/
theorem length_overwrite {b : Bytes} {start : Nat} {content : Bytes}
    (fits : start + content.length ≤ b.length) :
    (b.overwrite start content).length = b.length := by
  simp only [overwrite, List.length_append, List.length_take, List.length_drop]
  omega

/-- A slice whose ends lie inside in this order is there. -/
theorem slice?_eq_ok {b : Bytes} {start stop : Nat} (ordered : start ≤ stop)
    (inside : stop ≤ b.length) :
    b.slice? start stop = .ok ((b.drop start).take (stop - start)) := by
  simp [slice?, ordered, inside]

end Bytes

/-- The word of the two octets of a word is that word. -/
theorem word16_octets16 (w : UInt16) :
    word16 (UInt8.ofNat (w.toNat / 256)) w.toUInt8 = w := by
  apply UInt16.toNat_inj.mp
  have := w.toNat_lt
  simp only [word16, UInt16.toNat_ofNat', UInt8.toNat_ofNat', UInt16.toNat_toUInt8]
  omega

/-- The word of the four octets of a word is that word. -/
theorem word32_octets32 (w : UInt32) :
    word32 (UInt8.ofNat (w.toNat / 16777216)) (UInt8.ofNat (w.toNat / 65536))
      (UInt8.ofNat (w.toNat / 256)) w.toUInt8 = w := by
  apply UInt32.toNat_inj.mp
  have := w.toNat_lt
  simp only [word32, UInt32.toNat_ofNat', UInt8.toNat_ofNat', UInt32.toNat_toUInt8]
  omega

/-- A word takes two octets. -/
@[simp] theorem length_octets16 (w : UInt16) : (octets16 w).length = 2 := rfl

/-- A double word takes four octets. -/
@[simp] theorem length_octets32 (w : UInt32) : (octets32 w).length = 4 := rfl

end PolledNet
