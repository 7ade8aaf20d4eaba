import PolledNet.File.RamVolume
import PolledNet.Proofs.Access.Octets

/-!
# Checked files

A handle is given a part of a buffer and says how much of it was used. What it says decides where
the next part starts, so whether a file is read without a fault depends on the handle: one that
never reports more octets than were asked for (`FileHandle.Bounded`) fills a buffer as `readFull`
does (`checkedReadInto_eq`). Writing needs no such promise (`checkedWriteFrom_eq`).
-/

namespace PolledNet

namespace FileHandle

variable {η φ : Type} [FileHandle η φ]

/-- A handle that reads at most what it was asked for. -/
class Bounded (η φ : Type) [FileHandle η φ] : Prop where
  read_le {file file' : η} {want : Nat} {volume volume' : φ} {got : Bytes} :
    read file want volume = (.ok got, file', volume') → got.length ≤ want

/-- Files in memory read at most what they are asked for. -/
instance : Bounded RamFile RamVolume where
  read_le := by
    intro file file' want volume volume' got done
    change file.read want volume = _ at done
    unfold RamFile.read at done
    split at done
    · cases done
    · split at done
      · cases done
      · cases done
        rw [Array.length_toList, Array.size_extract]
        omega

/-! ## Writing -/

/-- Writes the octets from a position on. -/
def checkedWriteFrom (file : η) (data : Bytes) (written : Nat) (volume : φ) :
    Except Fault (Except FileError Unit × η × φ) :=
  if data.length ≤ written then .ok (.ok (), file, volume)
  else do
    match write file (← data.suffix? written) volume with
    | (.error e, file, volume) => return (.error e, file, volume)
    | (.ok taken, file, volume) =>
      if taken = 0 then return (.error .diskFull, file, volume)
      else checkedWriteFrom file data (written + taken) volume
termination_by data.length - written

/-- What is left of the data is sliced without a fault, however often a file takes a part of it
only. -/
theorem checkedWriteFrom_eq (file : η) (data : Bytes) (written : Nat) (volume : φ) :
    checkedWriteFrom file data written volume =
      .ok (writeAll file (data.drop written) volume) := by
  fun_induction checkedWriteFrom file data written volume with
  | case1 file written volume all =>
    rw [writeAll, if_pos (by rw [List.length_drop]; omega)]
  | case2 file written volume left ih =>
    rw [writeAll, if_neg (by rw [List.length_drop]; omega),
      Bytes.suffix?_eq (Nat.le_of_not_le left), ok_bind]
    rcases write file (data.drop written) volume with ⟨e | taken, file, volume⟩
    · rfl
    · dsimp only
      by_cases none : taken = 0
      · rw [if_pos none, if_pos none]
        rfl
      · rw [if_neg none, if_neg none, ih taken file volume none, List.drop_drop]

/-! ## Reading -/

/-- Fills a buffer from a position on. Gives the buffer and how far it is filled. -/
def checkedReadInto (file : η) (buffer : Bytes) (filled : Nat) (volume : φ) :
    Except Fault (Except FileError Unit × Bytes × Nat × η × φ) :=
  if buffer.length ≤ filled then .ok (.ok (), buffer, filled, file, volume)
  else do
    let room ← buffer.suffix? filled
    match read file room.length volume with
    | (.error e, file, volume) => return (.error e, buffer, filled, file, volume)
    | (.ok got, file, volume) =>
      if got.length = 0 then return (.ok (), buffer, filled, file, volume)
      else
        -- what a handle reports beyond the room it was given it cannot have stored
        checkedReadInto file (buffer.overwrite filled (got.take room.length)) (filled + got.length)
          volume
termination_by buffer.length - filled
decreasing_by
  simp only [Bytes.overwrite, List.length_append, List.length_take, List.length_drop]
  omega

/-- Among these files no read gives more than it was asked for. -/
def BoundedOn (Among : η → φ → Prop) : Prop :=
  ∀ {file file' : η} {want : Nat} {volume volume' : φ} {got : Bytes}, Among file volume →
    read file want volume = (.ok got, file', volume') → got.length ≤ want ∧ Among file' volume'

/-- **A full read stores the octets that it gives**, in room that the buffer has for them, and
nothing else. -/
theorem checkedReadInto_of_boundedOn {Among : η → φ → Prop} (bounded : BoundedOn Among) {file : η}
    {volume : φ} (among : Among file volume) (buffer : Bytes) {filled : Nat}
    (inside : filled ≤ buffer.length) :
    ∃ answer octets file' volume',
      readFull file (buffer.length - filled) volume = (answer, octets, file', volume') ∧
      checkedReadInto file buffer filled volume =
        .ok (answer, buffer.overwrite filled octets, filled + octets.length, file', volume') ∧
      filled + octets.length ≤ buffer.length := by
  have nothing (buffer : Bytes) (filled : Nat) : buffer.overwrite filled [] = buffer :=
    buffer.overwrite_nil filled
  fun_induction checkedReadInto file buffer filled volume with
  | case1 file buffer filled volume full =>
    rw [readFull, if_pos (by omega)]
    exact ⟨_, [], _, _, rfl, by rw [nothing]; rfl, inside⟩
  | case2 file buffer filled volume left ih =>
    have room : (buffer.drop filled).length = buffer.length - filled := List.length_drop
    rw [readFull, if_neg (by omega), Bytes.suffix?_eq inside, ok_bind, room]
    rcases taken : read file (buffer.length - filled) volume with ⟨e | got, next, nextVolume⟩
    · exact ⟨_, [], _, _, rfl, by rw [nothing]; rfl, inside⟩
    dsimp only
    by_cases none : got.length = 0
    · rw [if_pos none, if_pos none]
      exact ⟨_, [], _, _, rfl, by rw [nothing]; rfl, inside⟩
    obtain ⟨most, further⟩ := bounded among taken
    have fits : filled + got.length ≤ buffer.length := by omega
    have more := ih (buffer.drop filled) got next nextVolume none further
    rw [room, List.take_of_length_le most, Bytes.length_overwrite fits] at more
    obtain ⟨answer, octets, file', volume', plain, checked, within⟩ := more fits
    rw [Bytes.overwrite_append inside] at checked
    rw [if_neg none, if_neg none, List.take_of_length_le most, Nat.sub_sub, plain, checked]
    refine ⟨answer, got ++ octets, file', volume', rfl, ?_, ?_⟩
    · rw [List.length_append, Nat.add_assoc]
    · rw [List.length_append, ← Nat.add_assoc]
      exact within

/-- **A full read fills the buffer** with the octets that it gives, and the buffer has room for
them. -/
theorem checkedReadInto_eq [Bounded η φ] (file : η) (buffer : Bytes) (filled : Nat) (volume : φ)
    (inside : filled ≤ buffer.length) :
    ∃ answer octets file' volume' buffer',
      readFull file (buffer.length - filled) volume = (answer, octets, file', volume') ∧
      checkedReadInto file buffer filled volume =
        .ok (answer, buffer', filled + octets.length, file', volume') ∧
      buffer'.length = buffer.length ∧ filled + octets.length ≤ buffer.length ∧
      buffer'.take (filled + octets.length) = buffer.take filled ++ octets := by
  let Any : η → φ → Prop := fun _ _ => True
  have bounded : BoundedOn Any := fun _ done => ⟨Bounded.read_le done, trivial⟩
  have among : Any file volume := trivial
  obtain ⟨answer, octets, file', volume', plain, checked, fits⟩ :=
    checkedReadInto_of_boundedOn bounded among buffer inside
  exact ⟨answer, octets, file', volume', _, plain, checked, Bytes.length_overwrite fits, fits,
    Bytes.take_overwrite inside⟩

end FileHandle

end PolledNet
