import Mathlib.Logic.Relation
import PolledNet.File.Handle

/-!
# Files with numbers

Whether a file is closed once cannot be seen at the volume, which may be used by many. In a volume
with a `Register` every file that is opened gets the next number, and the number of every file that
is closed is written down. In all else the files and the volume work as those they stand for.

Reading, writing and seeking make another file value of an open file (`FileHandle.Uses`). Whatever
is done with a numbered file in this way, it keeps its number, and the register stays as it is
(`Numbered.kept_uses`).
-/

namespace PolledNet

namespace FileHandle

variable {η φ : Type} [FileHandle η φ]

/-- Something is done with an open file, short of closing it. -/
inductive Use : η × φ → η × φ → Prop where
  | read (file : η) (want : Nat) (volume : φ) :
      Use (file, volume) (FileHandle.read file want volume).2
  | write (file : η) (data : Bytes) (volume : φ) :
      Use (file, volume) (FileHandle.write file data volume).2
  | seek (file : η) (position : Nat) (volume : φ) :
      Use (file, volume) (FileHandle.seek file position volume).2

/-- Any number of such things. -/
def Uses : η × φ → η × φ → Prop := Relation.ReflTransGen Use

/-- To do nothing with a file is to use it no times. -/
theorem Uses.refl (x : η × φ) : Uses x x := Relation.ReflTransGen.refl

/-- To do one thing with it is to use it. -/
theorem Uses.one {x y : η × φ} (use : Use x y) : Uses x y := Relation.ReflTransGen.single use

/-- What is used twice is used. -/
theorem Uses.trans {x y z : η × φ} (first : Uses x y) (second : Uses y z) : Uses x z :=
  Relation.ReflTransGen.trans first second

/-- To read a file until enough has come is to use it. -/
theorem uses_readFull (file : η) (want : Nat) (volume : φ) :
    Uses (file, volume) (FileHandle.readFull file want volume).2.2 := by
  fun_induction FileHandle.readFull file want volume with
  | case1 => exact .refl _
  | case2 file want volume _ e file' volume' eq =>
    have used : Uses _ _ := .one (.read file want volume)
    rwa [eq] at used
  | case3 file want volume _ got file' volume' eq =>
    have used : Uses _ _ := .one (.read file want volume)
    rwa [eq] at used
  | case4 file want volume _ got file' volume' eq _ answer rest file'' volume'' done ih =>
    have used : Uses _ _ := .one (.read file want volume)
    rw [eq] at used
    rw [done] at ih
    exact used.trans ih

/-- To write all of something to a file is to use it. -/
theorem uses_writeAll (file : η) (data : Bytes) (volume : φ) :
    Uses (file, volume) (FileHandle.writeAll file data volume).2 := by
  fun_induction FileHandle.writeAll file data volume with
  | case1 => exact .refl _
  | case2 file data volume _ e file' volume' eq =>
    have used : Uses _ _ := .one (.write file data volume)
    rwa [eq] at used
  | case3 file data volume _ file' volume' eq =>
    have used : Uses _ _ := .one (.write file data volume)
    rwa [eq] at used
  | case4 file data volume _ taken file' volume' eq _ ih =>
    have used : Uses _ _ := .one (.write file data volume)
    rw [eq] at used
    exact used.trans ih

end FileHandle

/-! ## A volume with a register -/

/-- A volume with a register of its files. -/
structure Register (φ : Type) where
  /-- The volume. -/
  volume : φ
  /-- How many files were opened so far. -/
  opened : Nat := 0
  /-- The numbers of the files that were closed, in turn. -/
  closed : List Nat := []

/-- A file of a volume with a register. -/
structure Numbered (η : Type) where
  /-- The file. -/
  file : η
  /-- How many files were opened before it. -/
  number : Nat

/-- A file that works as another one, and is written down when it is closed. -/
instance {η φ : Type} [FileHandle η φ] : FileHandle (Numbered η) (Register φ) where
  read f want v :=
    let (answer, file, volume) := FileHandle.read f.file want v.volume
    (answer, { f with file }, { v with volume })
  write f data v :=
    let (answer, file, volume) := FileHandle.write f.file data v.volume
    (answer, { f with file }, { v with volume })
  seek f position v :=
    let (answer, file, volume) := FileHandle.seek f.file position v.volume
    (answer, { f with file }, { v with volume })
  size f v := FileHandle.size f.file v.volume
  close f v :=
    let (answer, volume) := FileHandle.close f.file v.volume
    (answer, { v with volume, closed := v.closed ++ [f.number] })

/-- How files are opened with the next number. -/
def FileOpener.numbered {η φ : Type} (opener : FileOpener η φ) :
    FileOpener (Numbered η) (Register φ) :=
  fun name mode v =>
    match opener name mode v.volume with
    | (.ok file, volume) => (.ok ⟨file, v.opened⟩, { v with volume, opened := v.opened + 1 })
    | (.error e, volume) => (.error e, { v with volume })

namespace Numbered

variable {η φ : Type} [FileHandle η φ] {file file' : Numbered η} {v v' : Register φ}

/-- A file that is closed is written down with its number. -/
theorem close_closed (file : Numbered η) (v : Register φ) :
    (FileHandle.close file v).2.closed = v.closed ++ [file.number] := rfl

/-- To close a file opens none. -/
theorem close_opened (file : Numbered η) (v : Register φ) :
    (FileHandle.close file v).2.opened = v.opened := rfl

/-- **Whatever is done with a file, its number stays**, and nothing is written down. -/
theorem kept_uses (uses : FileHandle.Uses (file, v) (file', v')) :
    file'.number = file.number ∧ v'.opened = v.opened ∧ v'.closed = v.closed := by
  have kept : ∀ x y : Numbered η × Register φ, FileHandle.Uses x y →
      y.1.number = x.1.number ∧ y.2.opened = x.2.opened ∧ y.2.closed = x.2.closed := by
    intro x y uses
    induction uses with
    | refl => exact ⟨rfl, rfl, rfl⟩
    | tail _ use ih =>
      obtain ⟨number, opened, closed⟩ := ih
      cases use <;> exact ⟨number, opened, closed⟩
  exact kept _ _ uses

omit [FileHandle η φ] in
/-- A file that is opened gets the next number. -/
theorem opened_numbered {opener : FileOpener η φ} {name : String} {mode : OpenMode}
    (opened : opener.numbered name mode v = (.ok file, v')) :
    file.number = v.opened ∧ v'.opened = v.opened + 1 ∧ v'.closed = v.closed := by
  unfold FileOpener.numbered at opened
  split at opened <;> cases opened
  exact ⟨rfl, rfl, rfl⟩

omit [FileHandle η φ] in
/-- A file that cannot be opened gets no number. -/
theorem not_opened_numbered {opener : FileOpener η φ} {name : String} {mode : OpenMode}
    {e : FileError} (failed : opener.numbered name mode v = (.error e, v')) :
    v'.opened = v.opened := by
  unfold FileOpener.numbered at failed
  split at failed <;> cases failed
  rfl

end Numbered

end PolledNet
