import PolledNet.Link.Mac
import PolledNet.Inet.Address
import PolledNet.Proofs.Computations

/-!
# Checked steps

Reading what the network sends is safe only if every octet that is looked at exists. The modules
beside this one spell the work of the stack out anew, one access after the other, in computations
that fault at the first octet that does not exist, the first difference below zero and the first
quotient by zero; and they show that these computations never fault and come to what the stack comes
to. Here are the single steps, each with the condition under which it does not fault.
-/

namespace PolledNet

/-! ## Numbers -/

/-- A difference that must not be below zero. -/
def minus? (a b : Nat) : Except Fault Nat := if b ≤ a then .ok (a - b) else .error .belowZero

/-- A quotient that must not be by zero. -/
def divide? (a b : Nat) : Except Fault Nat := if b = 0 then .error .byZero else .ok (a / b)

/-- A difference that is not below zero is one of natural numbers. -/
theorem minus?_eq {a b : Nat} (le : b ≤ a) : minus? a b = .ok (a - b) := if_pos le

/-- A quotient that is not by zero is one of natural numbers. -/
theorem divide?_eq (a : Nat) {b : Nat} (pos : 0 < b) : divide? a b = .ok (a / b) :=
  if_neg (Nat.ne_of_gt pos)

/-! ## Entries -/

section Entries

variable {α : Type}

/-- The entry at a position. -/
def entryAt? (l : List α) (i : Nat) : Except Fault α :=
  match l[i]? with
  | some x => .ok x
  | none => .error .outOfRange

/-- The entries with the one at a position replaced. -/
def setEntryAt? (l : List α) (i : Nat) (x : α) : Except Fault (List α) :=
  if i < l.length then .ok (l.set i x) else .error .outOfRange

/-- The entries without the one at a position. -/
def removeEntryAt? (l : List α) (i : Nat) : Except Fault (List α) :=
  if i < l.length then .ok (l.eraseIdx i) else .error .outOfRange

variable (before after : List α) (x : α)

/-- The entry behind so many others is at that position. -/
theorem entryAt?_append : entryAt? (before ++ x :: after) before.length = .ok x := by
  simp [entryAt?]

/-- The entry behind so many others can be replaced. -/
theorem setEntryAt?_append (y : α) :
    setEntryAt? (before ++ x :: after) before.length y = .ok (before ++ y :: after) := by
  rw [setEntryAt?, if_pos (by simp), List.set_append_right _ _ (Nat.le_refl _), Nat.sub_self]
  rfl

/-- The entry behind so many others can be removed. -/
theorem removeEntryAt?_append :
    removeEntryAt? (before ++ x :: after) before.length = .ok (before ++ after) := by
  rw [removeEntryAt?, if_pos (by simp), List.eraseIdx_append_of_length_le (Nat.le_refl _),
    Nat.sub_self]
  rfl

end Entries

/-! ## Octets -/

namespace Bytes

variable {b : Bytes} {i n : Nat}

/-- The word at a position. -/
def word16? (b : Bytes) (i : Nat) : Except Fault UInt16 := do
  let hi ← b.octet? i
  let lo ← b.octet? (i + 1)
  return word16 hi lo

/-- The double word at a position. -/
def word32? (b : Bytes) (i : Nat) : Except Fault UInt32 := do
  let o0 ← b.octet? i
  let o1 ← b.octet? (i + 1)
  let o2 ← b.octet? (i + 2)
  let o3 ← b.octet? (i + 3)
  return word32 o0 o1 o2 o3

/-- The address at a position. -/
def address? (b : Bytes) (i : Nat) : Except Fault Ipv4 := do
  let o0 ← b.octet? i
  let o1 ← b.octet? (i + 1)
  let o2 ← b.octet? (i + 2)
  let o3 ← b.octet? (i + 3)
  return ⟨o0, o1, o2, o3⟩

/-- The hardware address at a position. -/
def station? (b : Bytes) (i : Nat) : Except Fault Mac := do Mac.ofBytes? (← b.slice? i (i + 6))

/-- The octets with the range from `start` to `stop` replaced by content of the same length. -/
def replace? (b : Bytes) (start stop : Nat) (content : Bytes) : Except Fault Bytes :=
  if start ≤ stop ∧ stop ≤ b.length ∧ stop - start = content.length then
    .ok (b.overwrite start content)
  else .error .outOfRange

/-- A suffix that begins in the octets, or at their end, exists. -/
theorem suffix?_eq (le : i ≤ b.length) : b.suffix? i = .ok (b.drop i) := if_pos le

/-- An octet before the end exists. -/
theorem octet?_eq (lt : i < b.length) : b.octet? i = .ok b[i] := by
  unfold octet?
  rw [List.getElem?_eq_getElem lt]

/-- The first octet is at position zero. -/
theorem octet?_cons_zero (x : UInt8) (rest : Bytes) : octet? (x :: rest) 0 = .ok x := rfl

/-- The octets behind the first are one position further on. -/
theorem octet?_cons_succ (x : UInt8) (rest : Bytes) (i : Nat) :
    octet? (x :: rest) (i + 1) = octet? rest i := rfl

/-- What is stored stands behind what was there before it. -/
theorem take_overwrite {content : Bytes} (inside : i ≤ b.length) :
    (b.overwrite i content).take (i + content.length) = b.take i ++ content := by
  have length : (b.take i ++ content).length = i + content.length := by
    rw [List.length_append, List.length_take_of_le inside]
  rw [overwrite, ← length, List.take_left]

/-- Writing nothing changes nothing. -/
theorem overwrite_nil (b : Bytes) (i : Nat) : b.overwrite i [] = b := by
  rw [overwrite, List.append_nil, List.length_nil, Nat.add_zero, List.take_append_drop]

/-- What is stored behind what was stored is stored with it. -/
theorem overwrite_append {content : Bytes} (inside : i ≤ b.length) (more : Bytes) :
    (b.overwrite i content).overwrite (i + content.length) more =
      b.overwrite i (content ++ more) := by
  have behind : (b.overwrite i content).drop (i + content.length + more.length) =
      b.drop (i + (content ++ more).length) := by
    have length : (b.take i ++ content).length = i + content.length := by
      rw [List.length_append, List.length_take_of_le inside]
    rw [overwrite, ← List.drop_drop, ← length, List.drop_left, List.drop_drop, length,
      List.length_append, Nat.add_assoc]
  rw [overwrite, behind, take_overwrite inside, overwrite, List.append_assoc (b.take i)]

/-- A range that exists can be replaced by as many octets. -/
theorem replace?_eq {start stop : Nat} {content : Bytes} (length : stop - start = content.length)
    (ordered : start ≤ stop) (inside : stop ≤ b.length) :
    b.replace? start stop content = .ok (b.overwrite start content) :=
  if_pos ⟨ordered, inside, length⟩

/-- Replacing a part in the middle. -/
theorem replace?_append (before old after content : Bytes)
    (length : content.length = old.length) :
    (before ++ old ++ after).replace? before.length (before.length + old.length) content =
      .ok (before ++ content ++ after) := by
  rw [replace?_eq (by omega) (by omega) (by simp), overwrite, length]
  simp [List.append_assoc]

/-- Stores fields one behind the other, from a position on. -/
def fill? (b : Bytes) (start : Nat) : List Bytes → Except Fault Bytes
  | [] => .ok b
  | field :: rest => do
    let b ← b.replace? start (start + field.length) field
    fill? b (start + field.length) rest

/-- Fields that fill a part of the octets exactly. -/
theorem fill?_append (before old after : Bytes) (fields : List Bytes)
    (length : fields.flatten.length = old.length) :
    (before ++ old ++ after).fill? before.length fields =
      .ok (before ++ fields.flatten ++ after) := by
  induction fields generalizing before old with
  | nil =>
    have none : old = [] := List.eq_nil_of_length_eq_zero length.symm
    rw [none]
    rfl
  | cons field rest ih =>
    rw [List.flatten_cons, List.length_append] at length
    have first : (old.take field.length).length = field.length :=
      List.length_take_of_le (by omega)
    have stored : (before ++ old ++ after).replace? before.length (before.length + field.length)
        field = .ok ((before ++ field) ++ old.drop field.length ++ after) := by
      have parts := replace?_append before (old.take field.length)
        (old.drop field.length ++ after) field first.symm
      rw [first] at parts
      rw [← List.append_assoc, List.append_assoc before, List.take_append_drop] at parts
      rw [parts, ← List.append_assoc]
    have others := ih (before ++ field) (old.drop field.length) (by
      rw [List.length_drop]
      omega)
    rw [fill?, stored, ok_bind, ← List.length_append, others, List.flatten_cons]
    simp only [List.append_assoc]

/-- Fields that fill the octets exactly. -/
theorem fill?_eq (b : Bytes) (fields : List Bytes) (length : fields.flatten.length = b.length) :
    b.fill? 0 fields = .ok fields.flatten := by
  have stored := fill?_append [] b [] fields length
  rwa [List.nil_append, List.append_nil, List.append_nil] at stored

/-- Works on a part of the octets in its place. -/
def update? (b : Bytes) (start stop : Nat) (f : Bytes → Except Fault Bytes) :
    Except Fault Bytes := do
  let part ← b.slice? start stop
  b.replace? start stop (← f part)

/-- Work that keeps the length of the part. -/
theorem update?_append (before old after : Bytes) {f : Bytes → Except Fault Bytes} {new : Bytes}
    (worked : f old = .ok new) (length : new.length = old.length) :
    (before ++ old ++ after).update? before.length (before.length + old.length) f =
      .ok (before ++ new ++ after) := by
  have inside : before.length + old.length ≤ (before ++ old ++ after).length := by simp
  have part : ((before ++ old ++ after).drop before.length).take old.length = old := by
    simp [List.append_assoc]
  rw [update?, slice?_eq_ok (Nat.le_add_right _ _) inside, Nat.add_sub_cancel_left, part, ok_bind,
    worked, ok_bind, replace?_append before old after new length]

end Bytes

end PolledNet
