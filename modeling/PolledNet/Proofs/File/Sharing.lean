import PolledNet.Proofs.File.Watch
import PolledNet.Proofs.File.Writing

/-!
# Files that share a volume

Any number of files may be open on a volume at once, and files may be emptied or deleted while they
are open, so that a position comes to lie past the end. Still no operation ever takes the volume
beyond its capacity, and a write takes effect as a whole or not at all
(`OpenVolume.writes_bounded_atomic`): it fails and leaves everything as it is, or its octets stand
at the position, zeros fill the gap before them, and all else is kept.
-/

namespace PolledNet

namespace RamVolume

variable {v v' : RamVolume} {path : String}

/-- Emptying a file, or adding an empty one, stores nothing. -/
theorem sum_place_le (path : String) (files : List RamEntry) :
    ((place path #[] files).map (·.content.size)).sum ≤ (files.map (·.content.size)).sum := by
  induction files with
  | nil => exact Nat.le_refl 0
  | cons e rest ih =>
    rw [place]
    split
    · simp
    · split
      · simp
      · simpa using ih

/-- To open a file, even to empty it, keeps the volume within its capacity. -/
theorem keeps_open? (path : String) (mode : OpenMode) (v : RamVolume) :
    v.Keeps (RamFile.open? path mode v).2 := by
  unfold RamFile.open?
  split
  · exact .refl v
  · split
    · split <;> exact .refl v
    · refine .of_le rfl ?_
      rw [used_eq_sum, used_eq_sum]
      exact sum_place_le path v.files

/-- To delete a file keeps the volume within its capacity. -/
theorem keeps_delete (deleted : v.delete path = .ok v') : v.Keeps v' := by
  unfold delete at deleted
  split at deleted
  · cases deleted
    refine .of_le rfl ?_
    rw [used_eq_sum, used_eq_sum]
    exact (List.eraseP_sublist.map _).sum_le_sum fun _ _ => Nat.zero_le _
  · cases deleted

end RamVolume

/-- **No open file takes a volume beyond its capacity.** -/
theorem RamFile.moves_keeps : FileHandle.Moves RamFile RamVolume.Keeps where
  refl := .refl
  trans := .trans
  read file want v := by
    show v.Keeps (read file want v).2.2
    unfold read
    split
    · exact .refl v
    · split <;> exact .refl v
  write file data v := by
    rcases file.write_cases data v with ⟨e, refused, -⟩ | ⟨v', taken, -, -, keeps⟩
    · rw [refused]
      exact .refl v
    · rw [taken]
      exact keeps
  seek _ _ v := .refl v

/-! ## Open files -/

/-- A volume with the files that are open on it. -/
structure OpenVolume where
  /-- The volume. -/
  volume : RamVolume
  /-- The open files, each by the handle that it is known by. -/
  opened : Nat → Option RamFile := fun _ => none

namespace OpenVolume

/-- What is done with a volume and the files open on it. -/
inductive Operation where
  /-- Opens a file. -/
  | opens (handle : Nat) (path : String) (mode : OpenMode)
  /-- Reads octets from an open file. -/
  | reads (handle : Nat) (want : Nat)
  /-- Writes octets to an open file. -/
  | writes (handle : Nat) (data : Bytes)
  /-- Moves the position of an open file. -/
  | seeks (handle : Nat) (position : Nat)
  /-- Releases an open file. -/
  | closes (handle : Nat)
  /-- Deletes a file, open or not. -/
  | deletes (path : String)
  deriving Repr

/-- Works with an open file, if the handle has one. -/
def work (s : OpenVolume) (handle : Nat) (f : RamFile → RamVolume → RamFile × RamVolume) :
    OpenVolume :=
  match s.opened handle with
  | none => s
  | some file =>
    let (file, volume) := f file s.volume
    { volume, opened := Function.update s.opened handle (some file) }

/-- The volume and the open files after an operation. -/
def perform (s : OpenVolume) : Operation → OpenVolume
  | .opens handle path mode =>
    match RamFile.open? path mode s.volume with
    | (.error _, volume) => { s with volume }
    | (.ok file, volume) => { volume, opened := Function.update s.opened handle (some file) }
  | .reads handle want => s.work handle fun file v => (FileHandle.read file want v).2
  | .writes handle data => s.work handle fun file v => (FileHandle.write file data v).2
  | .seeks handle position => s.work handle fun file v => (FileHandle.seek file position v).2
  | .closes handle =>
    match s.opened handle with
    | none => s
    | some file =>
      { volume := (FileHandle.close file s.volume).2
        opened := Function.update s.opened handle none }
  | .deletes path =>
    match s.volume.delete path with
    | .error _ => s
    | .ok volume => { s with volume }

/-- What they are after any number of operations. -/
def performAll (s : OpenVolume) (operations : List Operation) : OpenVolume :=
  operations.foldl perform s

/-- What keeps the volume for every file keeps it for the one behind a handle. -/
theorem keeps_work {s : OpenVolume} {handle : Nat} {f : RamFile → RamVolume → RamFile × RamVolume}
    (keeps : ∀ file, s.volume.Keeps (f file s.volume).2) :
    s.volume.Keeps (s.work handle f).volume := by
  unfold work
  split
  · exact .refl _
  · exact keeps _

/-- **No operation takes the volume beyond its capacity.** -/
theorem keeps_perform (s : OpenVolume) (operation : Operation) :
    s.volume.Keeps (s.perform operation).volume := by
  cases operation with
  | opens handle path mode =>
    have keeps := RamVolume.keeps_open? path mode s.volume
    dsimp only [perform]
    split <;> rename_i eq <;> rw [eq] at keeps <;> exact keeps
  | reads handle want => exact keeps_work fun file => RamFile.moves_keeps.read file want _
  | writes handle data => exact keeps_work fun file => RamFile.moves_keeps.write file data _
  | seeks handle position => exact keeps_work fun file => RamFile.moves_keeps.seek file position _
  | closes handle =>
    dsimp only [perform]
    split <;> exact .refl _
  | deletes path =>
    dsimp only [perform]
    split
    · exact .refl _
    · rename_i deleted
      exact RamVolume.keeps_delete deleted

/-- **A volume stays within its capacity**, whatever is done through any handles. -/
theorem keeps_performAll (s : OpenVolume) (operations : List Operation) :
    s.volume.Keeps (s.performAll operations).volume := by
  induction operations generalizing s with
  | nil => exact .refl _
  | cons operation rest ih => exact (keeps_perform s operation).trans (ih _)

/-- The octets `data` were written to an open file at its position, which moved behind them; no
other open file was touched. -/
structure Writes (s : OpenVolume) (handle : Nat) (file : RamFile) (data : Bytes) (s' : OpenVolume) :
    Prop where
  volume : RamVolume.Written file.path file.position data s.volume s'.volume
  opened : s'.opened =
    Function.update s.opened handle (some { file with position := file.position + data.length })

/-- **Writes are atomic, and the capacity is never exceeded**, whatever was done by way of any
number of open files. A write that fails was not accepted, and it leaves the files and the positions
as they are; one that does not fail writes all its octets at the position, and nothing else. -/
theorem writes_bounded_atomic {start s : OpenVolume} {operations : List Operation}
    (reached : start.performAll operations = s) {capacity : Nat}
    (bounded : start.volume.capacity = some capacity) (within : start.volume.used ≤ capacity) :
    s.volume.capacity = some capacity ∧ s.volume.used ≤ capacity ∧
      ∀ handle file data, s.opened handle = some file →
        (∀ e, (FileHandle.write file data s.volume).1 = .error e →
          ¬ file.Accepts data s.volume ∧ s.perform (.writes handle data) = s) ∧
        (∀ taken, (FileHandle.write file data s.volume).1 = .ok taken →
          file.Accepts data s.volume ∧ taken = data.length ∧
            s.Writes handle file data (s.perform (.writes handle data))) := by
  have keeps := keeps_performAll start operations
  rw [reached] at keeps
  have same := keeps.capacity.trans bounded
  have startWithin : start.volume.Within := fun most bound => by
    cases bounded.symm.trans bound
    exact within
  refine ⟨same, keeps.within startWithin capacity same, fun handle file data opened => ?_⟩
  have performed : s.perform (.writes handle data) =
      { volume := (FileHandle.write file data s.volume).2.2
        opened := Function.update s.opened handle
          (some (FileHandle.write file data s.volume).2.1) } := by
    rw [perform, work, opened]
  rcases file.write_cases data s.volume with ⟨e, refused, unfit⟩ | ⟨v', taken, fit, written, -⟩
  · rw [performed, refused]
    refine ⟨fun _ _ => ⟨unfit, ?_⟩, fun _ answered => by cases answered⟩
    rw [← opened, Function.update_eq_self]
  · rw [performed, taken]
    refine ⟨fun _ answered => (by cases answered), fun _ answered => ?_⟩
    cases answered
    exact ⟨fit, rfl, written, rfl⟩

/-- A volume with room for eight octets. -/
def roomForEight : OpenVolume := { volume := { capacity := some 8 } }

/-- A file is written, and then emptied and written by way of another handle. -/
def rewriting : List Operation :=
  [.opens 0 "log" .create, .writes 0 [1, 2, 3], .opens 1 "log" .create, .writes 1 [4]]

/-- The first handle stands past the end of the file then. -/
def rewritten : OpenVolume := roomForEight.performAll rewriting

/-- The first handle stands two octets past the end of the file. From there six octets find no room
and change nothing; a single octet is laid in. -/
theorem writes_bounded_atomic_rewritten :
    (roomForEight.performAll rewriting = rewritten ∧
      roomForEight.volume.capacity = some 8 ∧ roomForEight.volume.used ≤ 8) ∧
    rewritten.volume.used ≤ 8 ∧ rewritten.opened 0 = some ⟨"log", .create, 3⟩ ∧
      rewritten.perform (.writes 0 [4, 5, 6, 7, 8, 9]) = rewritten ∧
      rewritten.Writes 0 ⟨"log", .create, 3⟩ [9] (rewritten.perform (.writes 0 [9])) := by
  have empty : roomForEight.volume.used ≤ 8 := by decide
  have opened : rewritten.opened 0 = some ⟨"log", .create, 3⟩ := by decide +kernel
  have reached : roomForEight.performAll rewriting = rewritten := rfl
  obtain ⟨-, within, atomic⟩ := writes_bounded_atomic reached rfl empty
  obtain ⟨refused, -⟩ := atomic 0 _ [4, 5, 6, 7, 8, 9] opened
  obtain ⟨-, taken⟩ := atomic 0 _ [9] opened
  refine ⟨⟨reached, rfl, empty⟩, within, opened, ?_, ?_⟩
  · exact (refused .diskFull (by decide +kernel)).2
  · exact (taken 1 (by decide +kernel)).2.2

/-- The gap is filled with zeros. -/
example : (rewritten.perform (.writes 0 [9])).volume.contents? "log" = some #[4, 0, 0, 9] := by
  decide +kernel

end OpenVolume

end PolledNet
