import PolledNet.File.Handle

/-!
# What may be relied on of a file

A transfer sees its file through a handle that may move fewer octets than asked for, and may fail at
any call. What it can rely on is stated here for a handle `η` of a volume in any state `φ`.

* `WriteView`: the volume holds exactly the octets that the handle reported written, in order.
  `writeAll` then adds a leading part of its data, and all of it when it goes through
  (`WriteView.writeAll`).
* `ShortReads`: each read gives some of the octets that come next, or fails. `readFull` then gives
  exactly what was asked for, as far as the file goes, unless a read fails (`ShortReads.readFull`).
* `ReadView`: the same of a file that does not change, with its size and its seeks.
* `Obliging`: a handle that takes what it is given and closes without complaint.
* `Lending`: a handle that can be read anywhere without complaint.
-/

namespace PolledNet

variable {η φ : Type} [FileHandle η φ]

/-! ## Writing -/

/-- How a volume shows a file that is being written through a handle. -/
structure WriteView (η φ : Type) [FileHandle η φ] where
  /-- The octets of the file. -/
  stored : φ → Bytes
  /-- The handle is open and writes at the end of the file. -/
  Appends : η → φ → Prop
  /-- The octets reported written are those that are added, and no more than were given. -/
  write_ok : ∀ {file file' : η} {volume volume' : φ} {data : Bytes} {taken : Nat},
    Appends file volume → FileHandle.write file data volume = (.ok taken, file', volume') →
      taken ≤ data.length ∧ stored volume' = stored volume ++ data.take taken ∧
        Appends file' volume'
  /-- A write that fails adds nothing. -/
  write_error : ∀ {file file' : η} {volume volume' : φ} {data : Bytes} {e : FileError},
    Appends file volume → FileHandle.write file data volume = (.error e, file', volume') →
      stored volume' = stored volume ∧ Appends file' volume'
  /-- Closing adds nothing. -/
  close : ∀ {file : η} {volume : φ},
    Appends file volume → stored (FileHandle.close file volume).2 = stored volume

namespace WriteView

variable (view : WriteView η φ)

/-- **A write of all octets adds a leading part of them**, and all of them when it goes through. -/
theorem writeAll {file file' : η} {volume volume' : φ} {data : Bytes}
    {answer : Except FileError Unit} (appends : view.Appends file volume)
    (written : FileHandle.writeAll file data volume = (answer, file', volume')) :
    view.Appends file' volume' ∧
      ∃ kept, kept <+: data ∧ view.stored volume' = view.stored volume ++ kept ∧
        (answer = .ok () → kept = data) := by
  fun_induction FileHandle.writeAll file data volume with
  | case1 file data volume nothing =>
    cases written
    rw [List.length_eq_zero_iff.mp nothing]
    exact ⟨appends, [], List.prefix_refl [], (List.append_nil _).symm, fun _ => rfl⟩
  | case2 file data volume _ e next volumeNext failed =>
    cases written
    obtain ⟨same, appends⟩ := view.write_error appends failed
    refine ⟨appends, [], List.nil_prefix, ?_, fun ok => nomatch ok⟩
    rw [same, List.append_nil]
  | case3 file data volume _ next volumeNext took =>
    cases written
    obtain ⟨-, added, appends⟩ := view.write_ok appends took
    refine ⟨appends, [], List.nil_prefix, ?_, fun ok => nomatch ok⟩
    rw [added, List.take_zero]
  | case4 file data volume _ taken next volumeNext took _ ih =>
    obtain ⟨-, added, appends⟩ := view.write_ok appends took
    obtain ⟨appends, kept, part, stored, whole⟩ := ih appends written
    refine ⟨appends, data.take taken ++ kept, ?_, ?_, ?_⟩
    · obtain ⟨rest, split⟩ := part
      refine ⟨rest, ?_⟩
      rw [List.append_assoc, split, List.take_append_drop]
    · rw [stored, added, List.append_assoc]
    · intro ok
      rw [whole ok, List.take_append_drop]

end WriteView

/-- A handle that takes an octet at least of what it is given, and that closes, as long as it is
`Usable`. -/
structure Obliging (Usable : η → φ → Prop) : Prop where
  /-- A write takes some octets. -/
  write : ∀ {file : η} {volume : φ} {data : Bytes}, Usable file volume → data ≠ [] →
    ∃ taken file' volume', FileHandle.write file data volume = (.ok taken, file', volume') ∧
      taken ≠ 0 ∧ Usable file' volume'
  /-- Closing goes through. -/
  close : ∀ {file : η} {volume : φ}, Usable file volume →
    (FileHandle.close file volume).1 = .ok ()

namespace Obliging

variable {Usable : η → φ → Prop}

/-- A write of all octets to an obliging handle goes through. -/
theorem writeAll (obliging : Obliging Usable) {file : η} {volume : φ} (data : Bytes)
    (usable : Usable file volume) :
    ∃ file' volume', FileHandle.writeAll file data volume = (.ok (), file', volume') ∧
      Usable file' volume' := by
  fun_induction FileHandle.writeAll file data volume with
  | case1 file data volume => exact ⟨file, volume, rfl, usable⟩
  | case2 file data volume nonempty e next volumeNext failed =>
    obtain ⟨taken, file', volume', took, -, -⟩ :=
      obliging.write usable fun empty => nonempty (List.length_eq_zero_iff.mpr empty)
    rw [took] at failed
    cases failed
  | case3 file data volume nonempty next volumeNext nothing =>
    obtain ⟨taken, file', volume', took, nonzero, -⟩ :=
      obliging.write usable fun empty => nonempty (List.length_eq_zero_iff.mpr empty)
    rw [took] at nothing
    cases nothing
    exact absurd rfl nonzero
  | case4 file data volume nonempty taken next volumeNext took _ ih =>
    obtain ⟨taken', file', volume', took', -, usable⟩ :=
      obliging.write usable fun empty => nonempty (List.length_eq_zero_iff.mpr empty)
    rw [took'] at took
    cases took
    exact ih usable

end Obliging

/-! ## Reading -/

/-- A file that is read in pieces of any length. A read fails with one of the errors that it may
fail with, or gives some of the octets that come next: one at least, unless none is wanted or
left. -/
structure ShortReads (η φ : Type) [FileHandle η φ] (Fails : FileError → Prop) where
  /-- The octets of the file. -/
  content : Bytes
  /-- The handle is open and reads from a position on. -/
  At : η → φ → Nat → Prop
  /-- What a read gives. -/
  read : ∀ {file : η} {volume : φ} {position : Nat} (want : Nat), At file volume position →
    (∃ e file' volume', FileHandle.read file want volume = (.error e, file', volume') ∧ Fails e) ∨
    ∃ n file' volume',
      FileHandle.read file want volume = (.ok ((content.drop position).take n), file', volume') ∧
      n ≤ min want (content.length - position) ∧
      (n = 0 → want = 0 ∨ content.length ≤ position) ∧
      At file' volume' (position + n)

/-- **A full read gives what was asked for, as far as the file goes**, however long the pieces are.
If a read fails, it gives what was read before. -/
theorem ShortReads.readFull {Fails : FileError → Prop} (source : ShortReads η φ Fails) {file : η}
    {volume : φ} {position : Nat} (want : Nat) (readsAt : source.At file volume position) :
    ∃ answer n file' volume',
      FileHandle.readFull file want volume =
        (answer, (source.content.drop position).take n, file', volume') ∧
      n ≤ min want (source.content.length - position) ∧
      (answer = .ok () ∧ n = min want (source.content.length - position) ∧
          source.At file' volume' (position + n) ∨
        ∃ e, answer = .error e ∧ Fails e) := by
  fun_induction FileHandle.readFull file want volume generalizing position with
  | case1 file volume =>
    refine ⟨_, 0, file, volume, rfl, Nat.zero_le _, .inl ⟨rfl, ?_, readsAt⟩⟩
    rw [Nat.zero_min]
  | case2 file want volume _ e next volumeNext failed =>
    refine ⟨_, 0, next, volumeNext, rfl, Nat.zero_le _, .inr ⟨e, rfl, ?_⟩⟩
    rcases source.read want readsAt with ⟨e', _, _, failed', fails⟩ | ⟨_, _, _, gave, -⟩
    · cases failed.symm.trans failed'
      exact fails
    · cases failed.symm.trans gave
  | case3 file want volume some got next volumeNext gave empty =>
    rcases source.read want readsAt with ⟨_, _, _, failed, -⟩ | ⟨n, _, _, gave', most, ended, after⟩
    · cases gave.symm.trans failed
    cases gave.symm.trans gave'
    have none : n = 0 := by
      rw [List.length_take, List.length_drop] at empty
      omega
    subst none
    refine ⟨_, 0, next, volumeNext, rfl, Nat.zero_le _, .inl ⟨rfl, ?_, after⟩⟩
    have all := ended rfl
    omega
  | case4 file want volume some got next volumeNext gave more answer rest last volumeLast further
    ih =>
    rcases source.read want readsAt with ⟨_, _, _, failed, -⟩ | ⟨n, _, _, gave', most, -, after⟩
    · cases gave.symm.trans failed
    cases gave.symm.trans gave'
    have length : ((source.content.drop position).take n).length = n := by
      rw [List.length_take, List.length_drop]
      omega
    obtain ⟨_, m, _, _, read, fits, ends⟩ := ih after
    rw [length] at further read fits ends
    cases further.symm.trans read
    refine ⟨answer, n + m, last, volumeLast, ?_, by omega, ?_⟩
    · rw [List.take_add, List.drop_drop]
    · refine ends.imp_left fun ⟨ok, whole, at'⟩ => ⟨ok, by omega, ?_⟩
      rwa [← Nat.add_assoc]

/-- How a volume shows a file that is being read through a handle and does not change. -/
structure ReadView (η φ : Type) [FileHandle η φ] where
  /-- The octets of the file. -/
  content : Bytes
  /-- Sizes and positions have 64 bits. -/
  length_lt : content.length < UInt64.size
  /-- The handle is open and reads from a position on. -/
  ReadsAt : η → φ → Nat → Prop
  /-- The size is that of the content. -/
  size : ∀ {file : η} {volume : φ} {position : Nat}, ReadsAt file volume position →
    FileHandle.size file volume = content.length
  /-- A seek moves to the position asked for. -/
  seek : ∀ {file file' : η} {volume volume' : φ} {position target : Nat},
    ReadsAt file volume position →
      FileHandle.seek file target volume = (.ok (), file', volume') → ReadsAt file' volume' target
  /-- A read gives octets from the position on, none only when there are none. -/
  read : ∀ {file file' : η} {volume volume' : φ} {position want : Nat} {got : Bytes},
    ReadsAt file volume position →
      FileHandle.read file want volume = (.ok got, file', volume') →
        got <+: (content.drop position).take want ∧
          (got = [] → (content.drop position).take want = []) ∧
          ReadsAt file' volume' (position + got.length)

/-- Such a file is read in pieces, whatever its reads fail with. -/
def ReadView.shortReads (view : ReadView η φ) {Fails : FileError → Prop}
    (fails : ∀ {file file' : η} {volume volume' : φ} {position want : Nat} {e : FileError},
      view.ReadsAt file volume position →
        FileHandle.read file want volume = (.error e, file', volume') → Fails e) :
    ShortReads η φ Fails where
  content := view.content
  At := view.ReadsAt
  read {file volume position} want readsAt := by
    rcases done : FileHandle.read file want volume with ⟨e | got, file', volume'⟩
    · exact .inl ⟨e, file', volume', rfl, fails readsAt done⟩
    · obtain ⟨part, ended, after⟩ := view.read readsAt done
      have length := part.length_le
      rw [List.length_take, List.length_drop] at length
      have piece : got = (view.content.drop position).take got.length :=
        List.prefix_iff_eq_take.mp (part.trans (List.take_prefix _ _))
      refine .inr ⟨got.length, file', volume', by rw [← piece], length, ?_, after⟩
      intro none
      have nothing := congrArg List.length (ended (List.length_eq_zero_iff.mp none))
      rw [List.length_take, List.length_drop, List.length_nil] at nothing
      omega

/-- **A full read gives what was asked for, as far as the file goes.** -/
theorem ReadView.readFull (view : ReadView η φ) {file file' : η} {volume volume' : φ}
    {position want : Nat} {octets : Bytes} (readsAt : view.ReadsAt file volume position)
    (done : FileHandle.readFull file want volume = (.ok (), octets, file', volume')) :
    octets = (view.content.drop position).take want ∧
      view.ReadsAt file' volume' (position + octets.length) := by
  let source : ShortReads η φ fun _ => True := view.shortReads fun _ _ => trivial
  obtain ⟨answer, n, _, _, read, -, ends⟩ := source.readFull want readsAt
  cases done.symm.trans read
  rcases ends with ⟨-, rfl, after⟩ | ⟨e, failed, -⟩
  · have whole : (view.content.drop position).take (min want (view.content.length - position)) =
        (view.content.drop position).take want := by
      rw [← List.length_drop, ← List.take_take, List.take_length]
    refine ⟨whole, ?_⟩
    rw [List.length_take, List.length_drop, Nat.min_assoc, Nat.min_self]
    exact after
  · cases failed

/-- A handle that can be read from anywhere, as long as it is `Usable`. -/
structure Lending (Usable : η → φ → Prop) : Prop where
  /-- A seek goes through. -/
  seek : ∀ {file : η} {volume : φ} (target : Nat), Usable file volume →
    ∃ file' volume', FileHandle.seek file target volume = (.ok (), file', volume') ∧
      Usable file' volume'
  /-- So does a read. -/
  read : ∀ {file : η} {volume : φ} (want : Nat), Usable file volume →
    ∃ got file' volume', FileHandle.read file want volume = (.ok got, file', volume') ∧
      Usable file' volume'

/-- A full read from a lending handle goes through. -/
theorem Lending.readFull {Usable : η → φ → Prop} (lending : Lending Usable) {file : η}
    {volume : φ} (want : Nat) (usable : Usable file volume) :
    ∃ octets file' volume',
      FileHandle.readFull file want volume = (.ok (), octets, file', volume') ∧
        Usable file' volume' := by
  fun_induction FileHandle.readFull file want volume with
  | case1 file volume => exact ⟨[], file, volume, rfl, usable⟩
  | case2 file want volume _ e next volumeNext failed =>
    obtain ⟨got, file', volume', read, -⟩ := lending.read want usable
    rw [read] at failed
    cases failed
  | case3 file want volume _ got next volumeNext read =>
    obtain ⟨got', file', volume', read', usable⟩ := lending.read want usable
    rw [read'] at read
    cases read
    exact ⟨[], _, _, rfl, usable⟩
  | case4 file want volume _ got next volumeNext read _ answer rest last volumeLast more ih =>
    obtain ⟨got', file', volume', read', usable⟩ := lending.read want usable
    rw [read'] at read
    cases read
    obtain ⟨octets, file'', volume'', done, usable⟩ := ih usable
    rw [more] at done
    cases done
    exact ⟨_, _, _, rfl, usable⟩

end PolledNet
