import PolledNet.File.Handle

/-!
# Files under observation

What is done with an open file can only be observed at the file. A `Watched` volume works as another
one and keeps a record of every operation on the file that is open.

A transfer reads, writes and seeks, and nothing else moves the volume before it closes the file
(`FileHandle.Moves`). So a relation that holds between the volumes before and after each single
operation holds between those before and after a whole block.
-/

namespace PolledNet

namespace FileHandle

variable {η φ : Type} [FileHandle η φ]

/-- Whatever is done with an open file `η`, short of closing it, moves the volume by `R`. -/
structure Moves (η : Type) {φ : Type} [FileHandle η φ] (R : φ → φ → Prop) : Prop where
  refl (volume : φ) : R volume volume
  trans {volume volume' volume'' : φ} : R volume volume' → R volume' volume'' → R volume volume''
  read (file : η) (want : Nat) (volume : φ) : R volume (FileHandle.read file want volume).2.2
  write (file : η) (data : Bytes) (volume : φ) : R volume (FileHandle.write file data volume).2.2
  seek (file : η) (position : Nat) (volume : φ) :
    R volume (FileHandle.seek file position volume).2.2

variable {R : φ → φ → Prop}

/-- What reads move a volume by, reading until enough has come moves it by. -/
theorem Moves.readFull (moves : Moves η R) (file : η) (want : Nat) (volume : φ) :
    R volume (FileHandle.readFull file want volume).2.2.2 := by
  fun_induction FileHandle.readFull file want volume with
  | case1 => exact moves.refl _
  | case2 file want volume _ e file' volume' eq =>
    have moved := moves.read file want volume
    rwa [eq] at moved
  | case3 file want volume _ got file' volume' eq =>
    have moved := moves.read file want volume
    rwa [eq] at moved
  | case4 file want volume _ got file' volume' eq _ answer rest file'' volume'' done ih =>
    have moved := moves.read file want volume
    rw [eq] at moved
    rw [done] at ih
    exact moves.trans moved ih

/-- What writes move a volume by, writing all of something moves it by. -/
theorem Moves.writeAll (moves : Moves η R) (file : η) (data : Bytes) (volume : φ) :
    R volume (FileHandle.writeAll file data volume).2.2 := by
  fun_induction FileHandle.writeAll file data volume with
  | case1 => exact moves.refl _
  | case2 file data volume _ e file' volume' eq =>
    have moved := moves.write file data volume
    rwa [eq] at moved
  | case3 file data volume _ file' volume' eq =>
    have moved := moves.write file data volume
    rwa [eq] at moved
  | case4 file data volume _ taken file' volume' eq _ ih =>
    have moved := moves.write file data volume
    rw [eq] at moved
    exact moves.trans moved ih

/-- All relations hold between all volumes if one holds of any two. -/
theorem moves_any : Moves η fun _ _ : φ => True :=
  ⟨fun _ => trivial, fun _ _ => trivial, fun _ _ _ => trivial, fun _ _ _ => trivial,
    fun _ _ _ => trivial⟩

end FileHandle

/-! ## A volume with a record -/

/-- What is done with an open file. -/
inductive FileCall where
  | read
  | write
  | seek
  | close
  deriving DecidableEq

/-- A volume with a record. -/
structure Watched (φ : Type) where
  /-- The volume. -/
  volume : φ
  /-- What was done with the open file so far, oldest first. -/
  calls : List FileCall := []

/-- A file of a volume with a record. -/
structure WatchedFile (η : Type) where
  /-- The file. -/
  file : η

/-- A file that works as another one, on a volume that keeps a record. -/
instance {η φ : Type} [FileHandle η φ] : FileHandle (WatchedFile η) (Watched φ) where
  read f want v :=
    let (answer, file, volume) := FileHandle.read f.file want v.volume
    (answer, ⟨file⟩, ⟨volume, v.calls ++ [.read]⟩)
  write f data v :=
    let (answer, file, volume) := FileHandle.write f.file data v.volume
    (answer, ⟨file⟩, ⟨volume, v.calls ++ [.write]⟩)
  seek f position v :=
    let (answer, file, volume) := FileHandle.seek f.file position v.volume
    (answer, ⟨file⟩, ⟨volume, v.calls ++ [.seek]⟩)
  size f v := FileHandle.size f.file v.volume
  close f v :=
    let (answer, volume) := FileHandle.close f.file v.volume
    (answer, ⟨volume, v.calls ++ [.close]⟩)

namespace Watched

variable {η φ : Type} [FileHandle η φ]

/-- A file that is not closed in one volume is not closed in the other. -/
def Unclosed (v v' : Watched φ) : Prop := .close ∉ v.calls → .close ∉ v'.calls

/-- A call that closes nothing leaves a file unclosed. -/
theorem not_mem_append {calls : List FileCall} {call : FileCall} (other : call ≠ .close)
    (unclosed : .close ∉ calls) : .close ∉ calls ++ [call] := by
  rw [List.mem_append, List.mem_singleton]
  exact fun mem => mem.elim unclosed fun same => other same.symm

/-- **Only closing closes.** -/
theorem moves_unclosed : FileHandle.Moves (WatchedFile η) (Unclosed (φ := φ)) where
  refl _ unclosed := unclosed
  trans first second unclosed := second (first unclosed)
  read _ _ _ := not_mem_append (by decide)
  write _ _ _ := not_mem_append (by decide)
  seek _ _ _ := not_mem_append (by decide)

/-- To close a file goes on record. -/
theorem close_calls (file : WatchedFile η) (v : Watched φ) :
    (FileHandle.close file v).2.calls = v.calls ++ [.close] := rfl

end Watched

end PolledNet
