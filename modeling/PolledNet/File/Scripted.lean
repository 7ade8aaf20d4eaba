import PolledNet.File.Handle

/-!
# Files that follow a script

Files for trying out what is done through a handle. A script says, one operation after the other,
whether it goes through, is cut short or fails, so that every path of a reader or a writer can be
walked without a disk that misbehaves.
-/

namespace PolledNet

/-- What happens to one operation on a file. -/
inductive FileTurn where
  /-- It goes through. -/
  | pass
  /-- It moves at most so many octets. -/
  | atMost (most : Nat)
  /-- It fails. -/
  | fail (cause : FileError)
  deriving DecidableEq, Repr

/-- How many of the octets asked for an operation may move. -/
def FileTurn.limit (want : Nat) : FileTurn → Except FileError Nat
  | .pass => .ok want
  | .atMost most => .ok (min most want)
  | .fail cause => .error cause

/-- What an operation that moves no octets answers when its turn is this one. -/
def FileTurn.refusal? : FileTurn → Option FileError
  | .fail cause => some cause
  | _ => none

/-! ## A file without a volume -/

/-- A file that is nothing but its script. Once the script is over, no operation moves an octet. -/
structure ScriptedFile where
  /-- What happens to the operations to come. -/
  turns : List FileTurn
  /-- The lengths asked for so far, oldest first. -/
  asked : List Nat := []
  deriving DecidableEq, Repr

namespace ScriptedFile

/-- Asks for `want` octets. -/
def ask (f : ScriptedFile) (want : Nat) : Except FileError Nat × ScriptedFile :=
  ((f.turns.headD (.atMost 0)).limit want, ⟨f.turns.tail, f.asked ++ [want]⟩)

/-- The octets of the first read are ones, those of the second twos, and so on. -/
instance : FileHandle ScriptedFile Unit where
  read f want v :=
    let (answer, f) := f.ask want
    (answer.map fun n => List.replicate n (UInt8.ofNat f.asked.length), f, v)
  write f data v :=
    let (answer, f) := f.ask data.length
    (answer, f, v)
  seek f _ v := (.ok (), f, v)
  size _ _ := 0
  close _ v := (.ok (), v)

end ScriptedFile

/-! ## A file with faults -/

/-- What goes wrong with a file. Once a list is over, its operations go through. -/
structure FileFaults where
  /-- Why it cannot be opened at all. -/
  opening : Option FileError := none
  /-- What happens to its reads. -/
  reads : List FileTurn := []
  /-- What happens to its writes. -/
  writes : List FileTurn := []
  /-- What happens to its seeks. -/
  seeks : List FileTurn := []
  /-- What happens when it is closed. -/
  closes : List FileTurn := []
  deriving DecidableEq, Repr

/-- A file `η` with faults. -/
structure FaultyFile (η : Type) where
  /-- The file that does what goes through. -/
  file : η
  /-- What goes wrong with it. -/
  faults : FileFaults

variable {η φ : Type}

/-- Opens a file with faults. -/
def FileFaults.opener (faults : FileFaults) (inner : FileOpener η φ) :
    FileOpener (FaultyFile η) φ := fun path mode v =>
  match faults.opening with
  | some cause => (.error cause, v)
  | none =>
    let (answer, v) := inner path mode v
    (answer.map fun file => ⟨file, faults⟩, v)

/-- A file with faults is a file. -/
instance [FileHandle η φ] : FileHandle (FaultyFile η) φ where
  read f want v :=
    let faults := { f.faults with reads := f.faults.reads.tail }
    match (f.faults.reads.headD .pass).limit want with
    | .error cause => (.error cause, { f with faults }, v)
    | .ok want =>
      let (answer, file, v) := FileHandle.read f.file want v
      (answer, ⟨file, faults⟩, v)
  write f data v :=
    let faults := { f.faults with writes := f.faults.writes.tail }
    match (f.faults.writes.headD .pass).limit data.length with
    | .error cause => (.error cause, { f with faults }, v)
    | .ok most =>
      let (answer, file, v) := FileHandle.write f.file (data.take most) v
      (answer, ⟨file, faults⟩, v)
  seek f position v :=
    let faults := { f.faults with seeks := f.faults.seeks.tail }
    match (f.faults.seeks.headD .pass).refusal? with
    | some cause => (.error cause, { f with faults }, v)
    | none =>
      let (answer, file, v) := FileHandle.seek f.file position v
      (answer, ⟨file, faults⟩, v)
  size f v := FileHandle.size f.file v
  close f v :=
    match (f.faults.closes.headD .pass).refusal? with
    | some cause => (.error cause, v)
    | none => FileHandle.close f.file v

end PolledNet
