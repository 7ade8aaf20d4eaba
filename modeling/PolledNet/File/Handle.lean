import PolledNet.Bytes

/-!
# Files

What the stack asks of the volume that holds boot images. An open file is a value `η`, and the
volume is a state `φ`; each operation gives its answer and both states anew. One file is open at a
time, for a transfer.

A handle may transfer fewer octets than asked. `readFull` and `writeAll` make up for that.
-/

namespace PolledNet

/-- How a file is opened. -/
inductive OpenMode where
  /-- An existing file, read from its start. -/
  | read
  /-- A new or emptied file, written from its start. -/
  | create
  deriving DecidableEq, Repr

/-- Why a file operation failed. -/
inductive FileError where
  | notFound
  | alreadyExists
  | notAFile
  | invalidPath
  /-- The file was opened in the other mode. -/
  | badMode
  | diskFull
  | ioError
  deriving DecidableEq, Repr

/-- What to tell the operator. -/
def FileError.message : FileError → String
  | .notFound => "File or directory not found"
  | .alreadyExists => "File or directory already exists"
  | .notAFile => "Not a file"
  | .invalidPath => "Invalid path"
  | .badMode => "Operation not allowed in this open mode"
  | .diskFull => "Disk full"
  | .ioError => "I/O error"

/-- An error is shown by what the operator is told. -/
instance : ToString FileError := ⟨FileError.message⟩

/-- The operations on an open file `η` of a volume in state `φ`. -/
class FileHandle (η : Type) (φ : outParam Type) where
  /-- Reads at most so many octets from the position on; none at the end of the file. -/
  read : η → Nat → φ → Except FileError Bytes × η × φ
  /-- Writes at the position and says how many octets were taken. -/
  write : η → Bytes → φ → Except FileError Nat × η × φ
  /-- Moves the position. -/
  seek : η → Nat → φ → Except FileError Unit × η × φ
  /-- The number of octets in the file. -/
  size : η → φ → Nat
  /-- Releases the file. -/
  close : η → φ → Except FileError Unit × φ

/-- How files of a volume in state `φ` are opened. -/
abbrev FileOpener (η φ : Type) := String → OpenMode → φ → Except FileError η × φ

namespace FileHandle

variable {η φ : Type} [FileHandle η φ]

/-- Reads `want` octets from the position on, stopping early only at the end of the file. The
octets read before an error are kept beside it. -/
def readFull (file : η) (want : Nat) (volume : φ) :
    Except FileError Unit × Bytes × η × φ :=
  if want = 0 then (.ok (), [], file, volume)
  else
    match read file want volume with
    | (.error e, file, volume) => (.error e, [], file, volume)
    | (.ok got, file, volume) =>
      if got.length = 0 then (.ok (), [], file, volume)
      else
        let (answer, rest, file, volume) := readFull file (want - got.length) volume
        (answer, got ++ rest, file, volume)
termination_by want

/-- Writes all octets at the position. A handle that takes none has no room left. -/
def writeAll (file : η) (data : Bytes) (volume : φ) : Except FileError Unit × η × φ :=
  if data.length = 0 then (.ok (), file, volume)
  else
    match write file data volume with
    | (.error e, file, volume) => (.error e, file, volume)
    | (.ok taken, file, volume) =>
      if taken = 0 then (.error .diskFull, file, volume)
      else writeAll file (data.drop taken) volume
termination_by data.length
decreasing_by simp only [List.length_drop]; omega

end FileHandle

end PolledNet
