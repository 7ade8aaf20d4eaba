import PolledNet.File.RamVolume
import Mathlib.Algebra.GroupWithZero.Nat
import Mathlib.Algebra.Order.BigOperators.Group.List
import Mathlib.Algebra.Order.Group.Nat

/-!
# Writing a file of a volume in memory

Octets are laid into a file at any position: they stand there afterwards, zeros fill the gap before
them, and all else is kept (`FileContent.Lays`). A write does this or nothing, and the volume stays
within its capacity (`RamFile.write_cases`).
-/

namespace PolledNet

/-! ## Laying octets anywhere -/

namespace FileContent

variable {content : Array UInt8} {position : Nat} {data : Bytes}

/-- What becomes of octets when others are laid in at a position. -/
structure Lays (old : Array UInt8) (position : Nat) (data : Bytes) (new : Array UInt8) : Prop where
  /-- They reach as far as they did, or as far as what is laid in. -/
  size : new.size = max old.size (position + data.length)
  /-- What is laid in stands at the position. -/
  written : ∀ i < data.length, new[position + i]? = data[i]?
  /-- A gap before it is filled with zeros. -/
  gap : ∀ i, old.size ≤ i → i < position → new[i]? = some 0
  /-- All else is kept. -/
  kept : ∀ i < old.size, i < position ∨ position + data.length ≤ i → new[i]? = old[i]?

/-- One octet is laid in where there is one. -/
theorem lays_setIfInBounds (inside : position < content.size) (b : UInt8) :
    Lays content position [b] (content.setIfInBounds position b) := by
  refine ⟨?_, fun i here => ?_, fun i past before => ?_, fun i _ other => ?_⟩
  · rw [Array.size_setIfInBounds, List.length_singleton]
    omega
  · cases Nat.lt_one_iff.mp here
    rw [Nat.add_zero, Array.getElem?_setIfInBounds, if_pos rfl, if_pos inside]
    rfl
  · omega
  · rw [List.length_singleton] at other
    rw [Array.getElem?_setIfInBounds, if_neg (by omega)]

/-- One octet is laid in at the end. -/
theorem lays_push (content : Array UInt8) (b : UInt8) :
    Lays content content.size [b] (content.push b) := by
  refine ⟨?_, fun i here => ?_, fun i past before => ?_, fun i inside _ => ?_⟩
  · rw [Array.size_push, List.length_singleton]
    omega
  · cases Nat.lt_one_iff.mp here
    rw [Nat.add_zero, Array.getElem?_push, if_pos rfl]
    rfl
  · omega
  · rw [Array.getElem?_push, if_neg (Nat.ne_of_lt inside)]

/-- The other octets are laid in behind the first. -/
theorem Lays.cons {old mid new : Array UInt8} {b : UInt8} (inside : position ≤ old.size)
    (first : Lays old position [b] mid) (rest : Lays mid (position + 1) data new) :
    Lays old position (b :: data) new := by
  have reach : mid.size = max old.size (position + 1) := first.size
  refine ⟨?_, fun i here => ?_, fun i past before => ?_, fun i within other => ?_⟩
  · rw [rest.size, reach, List.length_cons]
    omega
  · cases i with
    | zero =>
      have here : position < mid.size := by omega
      exact (rest.kept position here (.inl (Nat.lt_succ_self _))).trans
        (first.written 0 Nat.zero_lt_one)
    | succ i =>
      rw [List.length_cons] at here
      rw [← Nat.succ_add_eq_add_succ, rest.written i (by omega)]
      rfl
  · omega
  · rw [List.length_cons] at other
    rw [rest.kept i (by omega) (by omega),
      first.kept i within (by rw [List.length_singleton]; omega)]

/-- Up to the end of the content there is no gap to fill. -/
theorem lays_overlay (inside : position ≤ content.size) (data : Bytes) :
    Lays content position data (overlay content position data) := by
  induction data generalizing content position with
  | nil =>
    refine ⟨(Nat.max_eq_left inside).symm, fun i none => absurd none (Nat.not_lt_zero i),
      fun i past before => ?_, fun i _ _ => rfl⟩
    omega
  | cons b rest ih =>
    rw [overlay]
    split
    · rename_i here
      exact (lays_setIfInBounds here b).cons inside (ih (by rwa [Array.size_setIfInBounds]))
    · rename_i past
      obtain rfl : position = content.size := by omega
      exact (lays_push content b).cons inside (ih (Nat.le_of_eq (Array.size_push b).symm))

/-- A content is padded up to a size, and never cut. -/
theorem size_padTo (content : Array UInt8) (size : Nat) :
    (padTo content size).size = max content.size size := by
  rw [padTo, Array.size_append, Array.size_replicate]
  omega

/-- **Octets can be laid in anywhere**, once the content is extended to where they go. -/
theorem lays_overlay_padTo (content : Array UInt8) (position : Nat) (data : Bytes) :
    Lays content position data (overlay (padTo content position) position data) := by
  have size := size_padTo content position
  have laid := lays_overlay (size ▸ Nat.le_max_right ..) data
  refine ⟨?_, laid.written, fun i past before => ?_, fun i within other => ?_⟩
  · rw [laid.size, size]
    omega
  · rw [laid.kept i (by omega) (.inl before), padTo, Array.getElem?_append,
      if_neg (Nat.not_lt.mpr past), Array.getElem?_replicate, if_pos (by omega)]
  · rw [laid.kept i (by omega) other, padTo, Array.getElem?_append, if_pos within]

/-- Octets laid in where the content ends are appended. -/
theorem Lays.eq_append {old new : Array UInt8} (lays : Lays old old.size data new) :
    new = old ++ data.toArray := by
  apply Array.ext_getElem?
  intro i
  rw [Array.getElem?_append]
  split
  · rename_i before
    exact lays.kept i before (.inl before)
  · rename_i behind
    obtain ⟨k, rfl⟩ := Nat.exists_eq_add_of_le (Nat.le_of_not_lt behind)
    have same : new[old.size + k]? = data[k]? := by
      by_cases within : k < data.length
      · exact lays.written k within
      · have size := lays.size
        rw [List.getElem?_eq_none (Nat.le_of_not_lt within), Array.getElem?_eq_none (by omega)]
    rw [Nat.add_sub_cancel_left, same, List.getElem?_toArray]

end FileContent

/-! ## The volume -/

namespace RamVolume

variable {v v' : RamVolume} {path : String}

/-- A file is modified in its content, if it is there. -/
theorem find?_modifyFile (path : String) (f : Array UInt8 → Array UInt8) (files : List RamEntry) :
    ((modifyFile path f files).find? (·.path = path)).map (·.content) =
      ((files.find? (·.path = path)).map (·.content)).map f := by
  induction files with
  | nil => rfl
  | cons e rest ih =>
    obtain ⟨p, content⟩ := e
    rw [modifyFile]
    by_cases here : p = path
    · rw [if_pos here]
      simp [here]
    · rw [if_neg here]
      simpa only [List.find?_cons, here, decide_false] using ih

/-- The volume then has the modified content for the file. -/
theorem contents?_modifyFile (v : RamVolume) (path : String) (f : Array UInt8 → Array UInt8) :
    contents? { v with files := modifyFile path f v.files } path = (v.contents? path).map f :=
  find?_modifyFile path f v.files

/-- The size of a file is that of its content. -/
theorem size?_eq (v : RamVolume) (path : String) :
    v.size? path = (v.contents? path).map (·.size) := by
  rw [size?, contents?, Option.map_map]
  rfl

/-- The octets stored are those of all files. -/
theorem used_eq_sum (v : RamVolume) : v.used = (v.files.map (·.content.size)).sum := by
  rw [used, List.sum_eq_foldl, List.foldl_map]

/-- Changing a file changes what is stored by what it changes the file by. -/
theorem sum_modifyFile {f : Array UInt8 → Array UInt8} {files : List RamEntry}
    {content : Array UInt8}
    (holds : (files.find? (·.path = path)).map (·.content) = some content) :
    ((modifyFile path f files).map (·.content.size)).sum + content.size =
      (files.map (·.content.size)).sum + (f content).size := by
  induction files with
  | nil => cases holds
  | cons e rest ih =>
    obtain ⟨p, old⟩ := e
    rw [modifyFile]
    by_cases here : p = path
    · rw [List.find?_cons_of_pos (by simpa using here)] at holds
      cases holds
      rw [if_pos here]
      simp only [List.map_cons, List.sum_cons]
      omega
    · rw [List.find?_cons_of_neg (by simpa using here)] at holds
      have behind := ih holds
      rw [if_neg here]
      simp only [List.map_cons, List.sum_cons]
      omega

/-- To modify a file leaves all paths. -/
theorem paths_modifyFile (path : String) (f : Array UInt8 → Array UInt8) (files : List RamEntry) :
    (modifyFile path f files).map (·.path) = files.map (·.path) := by
  induction files with
  | nil => rfl
  | cons e rest ih =>
    obtain ⟨p, content⟩ := e
    rw [modifyFile]
    split
    · rfl
    · rw [List.map_cons, ih, List.map_cons]

/-- Changing a file leaves the others as they are. -/
theorem find?_modifyFile_of_ne {other : String} (ne : other ≠ path)
    (f : Array UInt8 → Array UInt8) (files : List RamEntry) :
    (modifyFile path f files).find? (·.path = other) = files.find? (·.path = other) := by
  induction files with
  | nil => rfl
  | cons e rest ih =>
    obtain ⟨p, content⟩ := e
    rw [modifyFile]
    split
    · rename_i here
      have miss : ¬ p = other := fun same => ne (same.symm.trans here)
      rw [List.find?_cons_of_neg (by simpa using miss),
        List.find?_cons_of_neg (by simpa using miss)]
    · rw [List.find?_cons, List.find?_cons, ih]

/-- What is stored does not exceed the capacity. -/
def Within (v : RamVolume) : Prop := ∀ capacity, v.capacity = some capacity → v.used ≤ capacity

/-- A volume stays within its capacity, which stays the same. -/
structure Keeps (v v' : RamVolume) : Prop where
  capacity : v'.capacity = v.capacity
  within : v.Within → v'.Within

/-- A volume keeps what it has. -/
theorem Keeps.refl (v : RamVolume) : v.Keeps v := ⟨rfl, id⟩

/-- A volume that was kept twice was kept. -/
theorem Keeps.trans {v'' : RamVolume} (first : v.Keeps v') (second : v'.Keeps v'') : v.Keeps v'' :=
  ⟨second.capacity.trans first.capacity, second.within ∘ first.within⟩

/-- Where nothing is added, the volume stays within its capacity. -/
theorem Keeps.of_le (capacity : v'.capacity = v.capacity) (le : v'.used ≤ v.used) : v.Keeps v' :=
  ⟨capacity, fun within most bound => Nat.le_trans le (within most (capacity ▸ bound))⟩

/-- The octets `data` were laid into a file of a volume, and nothing else was done. -/
structure Written (path : String) (position : Nat) (data : Bytes) (v v' : RamVolume) : Prop where
  /-- They were laid in at the position. -/
  laid : ∃ old new, v.contents? path = some old ∧ v'.contents? path = some new ∧
    FileContent.Lays old position data new
  /-- All other files hold what they held. -/
  others : ∀ other ≠ path, v'.contents? other = v.contents? other
  /-- No file came or went. -/
  paths : v'.paths = v.paths
  /-- The capacity is the same. -/
  capacity : v'.capacity = v.capacity

end RamVolume

namespace RamFile

open RamVolume

/-- A write is accepted: the file was opened for writing and is still there, and the volume has room
for what the write adds. -/
def Accepts (file : RamFile) (data : Bytes) (v : RamVolume) : Prop :=
  file.mode = .create ∧ ∃ old, v.contents? file.path = some old ∧
    ∀ capacity, v.capacity = some capacity →
      v.used + (file.position + data.length - old.size) ≤ capacity

/-- **A write takes effect as a whole or not at all**, and it does if it is accepted. -/
theorem write_cases (file : RamFile) (data : Bytes) (v : RamVolume) :
    (∃ e, FileHandle.write file data v = (.error e, file, v) ∧ ¬ file.Accepts data v) ∨
      ∃ v', FileHandle.write file data v =
          (.ok data.length, { file with position := file.position + data.length }, v') ∧
        file.Accepts data v ∧ Written file.path file.position data v v' ∧ v.Keeps v' := by
  show (∃ e, write file data v = _ ∧ _) ∨ ∃ v', write file data v = _ ∧ _
  unfold write
  split
  · rename_i other
    exact .inl ⟨_, rfl, fun accepts => other accepts.1⟩
  · rename_i create
    split
    · rename_i missing
      refine .inl ⟨_, rfl, ?_⟩
      rintro ⟨-, old, found, -⟩
      rw [size?_eq, found] at missing
      cases missing
    · rename_i size holds
      rw [size?_eq] at holds
      obtain ⟨old, found, rfl⟩ := Option.map_eq_some_iff.mp holds
      dsimp only
      split
      · rename_i full
        refine .inl ⟨_, rfl, ?_⟩
        rintro ⟨-, old', found', room⟩
        cases found.symm.trans found'
        obtain ⟨capacity, bound, exceeds⟩ := (Option.any_eq_true _ _).mp full
        exact Nat.not_lt.mpr (room capacity bound) (of_decide_eq_true exceeds)
      · rename_i room
        have fits : ∀ capacity, v.capacity = some capacity →
            v.used + (file.position + data.length - old.size) ≤ capacity := fun capacity bound => by
          rw [bound, Option.any_some, decide_eq_true_iff] at room
          exact Nat.not_lt.mp room
        let f := fun content =>
          FileContent.overlay (FileContent.padTo content file.position) file.position data
        have lays : FileContent.Lays old file.position data (f old) :=
          FileContent.lays_overlay_padTo old file.position data
        refine .inr ⟨{ v with files := modifyFile file.path f v.files }, rfl,
          ⟨Decidable.not_not.mp create, old, found, fits⟩,
          ⟨⟨old, f old, found, ?_, lays⟩, fun other ne => ?_, paths_modifyFile _ _ _, rfl⟩,
          rfl, fun _ capacity bound => ?_⟩
        · rw [contents?_modifyFile, found]
          rfl
        · exact congrArg _ (find?_modifyFile_of_ne ne f v.files)
        · have added := sum_modifyFile (f := f) found
          have reach := lays.size
          have least := fits capacity bound
          rw [used_eq_sum] at least ⊢
          dsimp only
          omega

end RamFile

end PolledNet
