import PolledNet.Proofs.Access.Files
import PolledNet.Proofs.File.Volume

/-!
# Files in pieces

A handle may move fewer octets than it was asked to, and how many it moves may be different each
time. Whoever reads or writes through `readFull` and `writeAll` does not see that.

What passes through a handle can be seen on a `Tape`: a volume that works as another one and keeps
what each call has moved. Reading gives what the calls have moved, in turn (`readFull_taped`), and
writing goes through exactly if they have moved all there was to write, and else they have moved a
leading part of it (`writeAll_taped`), which is what the file has gained (`stored_taped`). Neither
makes more calls than there are octets to move, so neither can wait for ever on a handle that makes
no progress.

Together with what is known of a file that is read in pieces (`ShortReads.readFull`) and of the
buffer that it is read into (`checkedReadInto_of_boundedOn`), this is `pieces_invisible`.
-/

namespace PolledNet

/-! ## A volume with a tape -/

/-- A volume with a tape. -/
structure Tape (φ : Type) where
  /-- The volume. -/
  volume : φ
  /-- The octets that each call has moved, first call first. -/
  moved : List Bytes := []

/-- A file of a volume with a tape. -/
structure Taped (η : Type) where
  /-- The file. -/
  file : η

/-- A file that works as another one. What was read or written, as far as the call says that it
was, goes to the tape. -/
instance {η φ : Type} [FileHandle η φ] : FileHandle (Taped η) (Tape φ) where
  read f want v :=
    let (answer, file, volume) := FileHandle.read f.file want v.volume
    (answer, ⟨file⟩, ⟨volume, v.moved ++ [answer.toOption.getD []]⟩)
  write f data v :=
    let (answer, file, volume) := FileHandle.write f.file data v.volume
    (answer, ⟨file⟩, ⟨volume, v.moved ++ [data.take (answer.toOption.getD 0)]⟩)
  seek f position v :=
    let (answer, file, volume) := FileHandle.seek f.file position v.volume
    (answer, ⟨file⟩, { v with volume })
  size f v := FileHandle.size f.file v.volume
  close f v :=
    let (answer, volume) := FileHandle.close f.file v.volume
    (answer, { v with volume })

namespace FileHandle

variable {η φ : Type} [FileHandle η φ]

/-- A tape takes down what a read gave, and nothing if the read failed. -/
theorem read_taped {file file' : η} {want : Nat} {volume volume' : φ}
    {answer : Except FileError Bytes} (gave : read file want volume = (answer, file', volume'))
    (before : List Bytes) :
    read (⟨file⟩ : Taped η) want ⟨volume, before⟩ =
      (answer, ⟨file'⟩, ⟨volume', before ++ [answer.toOption.getD []]⟩) := by
  have call : read (⟨file⟩ : Taped η) want ⟨volume, before⟩ =
      ((read file want volume).1, ⟨(read file want volume).2.1⟩,
        ⟨(read file want volume).2.2,
          before ++ [(read file want volume).1.toOption.getD []]⟩) := rfl
  rw [call, gave]

/-- A tape takes down how much of its octets a write took, and nothing if the write failed. -/
theorem write_taped {file file' : η} {data : Bytes} {volume volume' : φ}
    {answer : Except FileError Nat} (took : write file data volume = (answer, file', volume'))
    (before : List Bytes) :
    write (⟨file⟩ : Taped η) data ⟨volume, before⟩ =
      (answer, ⟨file'⟩, ⟨volume', before ++ [data.take (answer.toOption.getD 0)]⟩) := by
  have call : write (⟨file⟩ : Taped η) data ⟨volume, before⟩ =
      ((write file data volume).1, ⟨(write file data volume).2.1⟩,
        ⟨(write file data volume).2.2,
          before ++ [data.take ((write file data volume).1.toOption.getD 0)]⟩) := rfl
  rw [call, took]

/-- **A full read gives what its calls have moved**, and makes no more calls than there are octets
wanted. -/
theorem readFull_taped {file file' : η} {want : Nat} {volume volume' : φ}
    {answer : Except FileError Unit} {octets : Bytes}
    (done : readFull file want volume = (answer, octets, file', volume')) (before : List Bytes) :
    ∃ pieces, readFull (⟨file⟩ : Taped η) want ⟨volume, before⟩ =
        (answer, octets, ⟨file'⟩, ⟨volume', before ++ pieces⟩) ∧
      pieces.flatten = octets ∧ pieces.length ≤ want := by
  fun_induction readFull file want volume generalizing before octets with
  | case1 file volume =>
    cases done
    refine ⟨[], ?_, rfl, Nat.le_refl _⟩
    rw [readFull, if_pos rfl, List.append_nil]
  | case2 file want volume some e next volumeNext failed =>
    cases done
    refine ⟨[[]], ?_, rfl, Nat.one_le_iff_ne_zero.mpr some⟩
    rw [readFull, if_neg some, read_taped failed]
    rfl
  | case3 file want volume some got next volumeNext gave empty =>
    cases done
    refine ⟨[got], ?_, ?_, Nat.one_le_iff_ne_zero.mpr some⟩
    · rw [readFull, if_neg some, read_taped gave]
      exact if_pos empty
    · rw [List.length_eq_zero_iff.mp empty]
      rfl
  | case4 file want volume some got next volumeNext gave more answer rest last volumeLast further
    ih =>
    cases done
    obtain ⟨pieces, taped, flatten, length⟩ := ih further (before ++ [got])
    have call : read (⟨file⟩ : Taped η) want ⟨volume, before⟩ =
        (.ok got, ⟨next⟩, ⟨volumeNext, before ++ [got]⟩) := read_taped gave before
    refine ⟨got :: pieces, ?_, ?_, ?_⟩
    · rw [readFull, if_neg some, call]
      dsimp only
      rw [if_neg more, taped, List.append_assoc]
      rfl
    · rw [List.flatten_cons, flatten]
    · rw [List.length_cons]
      omega

/-- **A write of all octets goes through exactly if its calls have moved them all**, and they never
move anything else: each piece continues where the one before it ended. -/
theorem writeAll_taped {file file' : η} {data : Bytes} {volume volume' : φ}
    {answer : Except FileError Unit}
    (done : writeAll file data volume = (answer, file', volume')) (before : List Bytes) :
    ∃ pieces, writeAll (⟨file⟩ : Taped η) data ⟨volume, before⟩ =
        (answer, ⟨file'⟩, ⟨volume', before ++ pieces⟩) ∧
      pieces.flatten <+: data ∧ (answer = .ok () ↔ pieces.flatten = data) ∧
      pieces.length ≤ data.length := by
  -- a call that moves nothing is the last, and leaves something to write
  have stuck {data : Bytes} (some : ¬ data.length = 0) (e : FileError) :
      [([] : Bytes)].flatten <+: data ∧
      ((.error e : Except FileError Unit) = .ok () ↔ [([] : Bytes)].flatten = data) ∧
      [([] : Bytes)].length ≤ data.length := by
    refine ⟨List.nil_prefix, ⟨nofun, ?_⟩, Nat.one_le_iff_ne_zero.mpr some⟩
    intro all
    exact absurd (congrArg List.length all).symm some
  fun_induction writeAll file data volume generalizing before with
  | case1 file data volume empty =>
    cases done
    have nothing := List.length_eq_zero_iff.mp empty
    refine ⟨[], ?_, List.nil_prefix, ⟨fun _ => nothing.symm, fun _ => rfl⟩, Nat.zero_le _⟩
    rw [writeAll, if_pos empty, List.append_nil]
  | case2 file data volume some e next volumeNext failed =>
    cases done
    refine ⟨[[]], ?_, stuck some e⟩
    rw [writeAll, if_neg some, write_taped failed]
    rfl
  | case3 file data volume some next volumeNext took =>
    cases done
    refine ⟨[[]], ?_, stuck some .diskFull⟩
    rw [writeAll, if_neg some, write_taped took]
    exact if_pos rfl
  | case4 file data volume some taken next volumeNext took more ih =>
    obtain ⟨pieces, taped, part, whole, length⟩ := ih done (before ++ [data.take taken])
    have call : write (⟨file⟩ : Taped η) data ⟨volume, before⟩ =
        (.ok taken, ⟨next⟩, ⟨volumeNext, before ++ [data.take taken]⟩) := write_taped took before
    have split : data.take taken ++ data.drop taken = data := List.take_append_drop taken data
    refine ⟨data.take taken :: pieces, ?_, ?_, ?_, ?_⟩
    · rw [writeAll, if_neg some, call]
      dsimp only
      rw [if_neg more, taped, List.append_assoc]
      rfl
    · obtain ⟨rest, eq⟩ := part
      refine ⟨rest, ?_⟩
      rw [List.flatten_cons, List.append_assoc, eq, split]
    · rw [whole, List.flatten_cons]
      constructor
      · intro eq
        rw [eq, split]
      · intro eq
        exact List.append_cancel_left (eq.trans split.symm)
    · rw [List.length_drop] at length
      rw [List.length_cons]
      omega

end FileHandle

/-- A file that is written, with a tape of all that was added to `base`. -/
def WriteView.taped {η φ : Type} [FileHandle η φ] (view : WriteView η φ) (base : Bytes) :
    WriteView (Taped η) (Tape φ) where
  stored v := view.stored v.volume
  Appends file v :=
    view.Appends file.file v.volume ∧ view.stored v.volume = base ++ v.moved.flatten
  write_ok {file file' v v' data taken} := by
    rintro ⟨appends, kept⟩ took
    rcases behind : FileHandle.write file.file data v.volume with ⟨answer, next, volume⟩
    cases (FileHandle.write_taped behind v.moved).symm.trans took
    obtain ⟨fits, added, appends'⟩ := view.write_ok appends behind
    refine ⟨fits, added, appends', ?_⟩
    rw [added, kept, List.flatten_append, List.append_assoc]
    simp [Except.toOption]
  write_error {file file' v v' data e} := by
    rintro ⟨appends, kept⟩ failed
    rcases behind : FileHandle.write file.file data v.volume with ⟨answer, next, volume⟩
    cases (FileHandle.write_taped behind v.moved).symm.trans failed
    obtain ⟨same, appends'⟩ := view.write_error appends behind
    refine ⟨same, appends', ?_⟩
    rw [same, kept, List.flatten_append]
    simp [Except.toOption]
  close := by
    rintro file v ⟨appends, -⟩
    exact view.close appends

namespace FileHandle

variable {η φ : Type} [FileHandle η φ]

/-- **What the calls have moved is what the file holds in the end**, behind what it held before. -/
theorem stored_taped {file file' : η} {data : Bytes} {volume volume' : φ} {pieces : List Bytes}
    {answer : Except FileError Unit} (view : WriteView η φ) (appends : view.Appends file volume)
    (taped : writeAll (⟨file⟩ : Taped η) data ⟨volume, []⟩ =
      (answer, ⟨file'⟩, ⟨volume', pieces⟩)) :
    view.stored volume' = view.stored volume ++ pieces.flatten := by
  have start : (view.taped (view.stored volume)).Appends ⟨file⟩ ⟨volume, []⟩ :=
    ⟨appends, (List.append_nil _).symm⟩
  obtain ⟨⟨-, kept⟩, -⟩ := (view.taped (view.stored volume)).writeAll start taped
  exact kept

/-! ## Pieces do not show -/

/-- Where a file can be read in pieces, no read gives more than it was asked for. -/
theorem boundedOn_shortReads {Fails : FileError → Prop} (source : ShortReads η φ Fails) :
    BoundedOn fun file volume => ∃ position, source.At file volume position := by
  rintro file file' want volume volume' got ⟨position, readsAt⟩ done
  rcases source.read want readsAt with ⟨_, _, _, failed, -⟩ | ⟨n, _, _, gave, most, -, after⟩
  · cases done.symm.trans failed
  · cases done.symm.trans gave
    refine ⟨?_, _, after⟩
    rw [List.length_take]
    omega

/-- **Whole transfers do not show their pieces.** However a file gives its octets, the buffer that
is read into holds at its front exactly those that come next, as many as fit and are left, and
behind them what it held before; only an error of the handle ends that early. However a file takes
octets, a write of all of them goes through exactly if it took them all, and else it has taken a
leading part, in turn and each once, which is what a file that is written at its end has gained.
Neither makes more calls than there are octets to move. -/
theorem pieces_invisible :
    (∀ {Fails : FileError → Prop} (source : ShortReads η φ Fails) {file : η} {volume : φ}
        {position : Nat} (buffer : Bytes), source.At file volume position →
      ∃ answer n file' volume' pieces,
        checkedReadInto file buffer 0 volume =
          .ok (answer, (source.content.drop position).take n ++ buffer.drop n, n, file',
            volume') ∧
        (answer = .ok () ∧ n = min buffer.length (source.content.length - position) ∧
            source.At file' volume' (position + n) ∨
          ∃ e, answer = .error e ∧ Fails e ∧
            n ≤ min buffer.length (source.content.length - position)) ∧
        readFull file buffer.length volume =
          (answer, (source.content.drop position).take n, file', volume') ∧
        readFull (⟨file⟩ : Taped η) buffer.length ⟨volume, []⟩ =
          (answer, (source.content.drop position).take n, ⟨file'⟩, ⟨volume', pieces⟩) ∧
        pieces.flatten = (source.content.drop position).take n ∧
        pieces.length ≤ buffer.length) ∧
    ∀ (file : η) (data : Bytes) (volume : φ),
      ∃ answer file' volume' pieces,
        checkedWriteFrom file data 0 volume = .ok (answer, file', volume') ∧
        writeAll file data volume = (answer, file', volume') ∧
        writeAll (⟨file⟩ : Taped η) data ⟨volume, []⟩ = (answer, ⟨file'⟩, ⟨volume', pieces⟩) ∧
        pieces.flatten <+: data ∧ (answer = .ok () ↔ pieces.flatten = data) ∧
        pieces.length ≤ data.length ∧
        ∀ view : WriteView η φ, view.Appends file volume →
          view.stored volume' = view.stored volume ++ pieces.flatten := by
  constructor
  · intro Fails source file volume position buffer readsAt
    obtain ⟨answer, n, file', volume', read, fits, ends⟩ :=
      source.readFull buffer.length readsAt
    have length : ((source.content.drop position).take n).length = n := by
      rw [List.length_take, List.length_drop]
      omega
    obtain ⟨_, _, _, _, plain, stored, -⟩ :=
      checkedReadInto_of_boundedOn (boundedOn_shortReads source) ⟨position, readsAt⟩ buffer
        (Nat.zero_le _)
    cases read.symm.trans plain
    obtain ⟨pieces, taped, flatten, few⟩ := readFull_taped read []
    refine ⟨answer, n, file', volume', pieces, ?_, ?_, read, taped, flatten, few⟩
    · rw [stored, Bytes.overwrite, List.take_zero, List.nil_append, Nat.zero_add, length]
    · apply ends.imp_right
      rintro ⟨e, failed, fails⟩
      exact ⟨e, failed, fails, fits⟩
  · intro file data volume
    rcases done : writeAll file data volume with ⟨answer, file', volume'⟩
    obtain ⟨pieces, taped, part, whole, few⟩ := writeAll_taped done []
    refine ⟨answer, file', volume', pieces, ?_, rfl, taped, part, whole, few, ?_⟩
    · rw [checkedWriteFrom_eq, List.drop_zero, done]
    · intro view appends
      exact stored_taped view appends taped

end FileHandle

/-! ## Ten octets in pieces -/

/-- Ten octets. -/
def tenOctets : Bytes := [0, 1, 2, 3, 4, 5, 6, 7, 8, 9]

/-- A volume with a file of them, and an empty one. -/
def tenOctetsVolume : RamVolume := ⟨[⟨"full", tenOctets.toArray⟩, ⟨"new", #[]⟩], none⟩

/-- The first file, open behind its second octet. Its next read gives three octets and the one after
that a single one. -/
def choppy : FaultyFile RamFile := ⟨⟨"full", .read, 2⟩, { reads := [.atMost 3, .atMost 1] }⟩

/-- A file that is read in pieces, with no read that fails. -/
def choppySource : ShortReads (FaultyFile RamFile) RamVolume fun _ => False :=
  (RamVolume.shortReads "full" tenOctets (by decide)).faulty

/-- The second file, open to be written. It takes three octets and then fails. -/
def stubborn : FaultyFile RamFile :=
  ⟨⟨"new", .create, 0⟩, { writes := [.atMost 3, .fail .ioError] }⟩

/-- All eight octets that are left of the first file reach the front of a buffer for twelve. The
second file holds what it has taken. -/
theorem FileHandle.pieces_invisible_choppy :
    choppySource.At choppy tenOctetsVolume 2 ∧
    (∃ file' volume',
      FileHandle.checkedReadInto choppy (List.replicate 12 0xee) 0 tenOctetsVolume =
        .ok (.ok (), [2, 3, 4, 5, 6, 7, 8, 9, 0xee, 0xee, 0xee, 0xee], 8, file', volume')) ∧
    (RamVolume.writeView "new").faulty.Appends stubborn tenOctetsVolume ∧
    ∃ answer file' volume', ∃ pieces : List Bytes,
      FileHandle.writeAll stubborn tenOctets tenOctetsVolume = (answer, file', volume') ∧
      pieces.flatten <+: tenOctets ∧ (answer = .ok () ↔ pieces.flatten = tenOctets) ∧
      RamVolume.octetsOf "new" volume' = pieces.flatten := by
  have readsAt : choppySource.At choppy tenOctetsVolume 2 := by
    refine ⟨⟨rfl, rfl, rfl, rfl⟩, ?_⟩
    intro turn mem
    simp only [choppy, List.mem_cons, List.not_mem_nil, or_false] at mem
    rcases mem with rfl | rfl <;> exact nofun
  have appends : (RamVolume.writeView "new").faulty.Appends stubborn tenOctetsVolume :=
    ⟨rfl, rfl, #[], rfl, rfl⟩
  obtain ⟨reading, writing⟩ := @FileHandle.pieces_invisible (FaultyFile RamFile) RamVolume _
  obtain ⟨answer, n, file', volume', -, filled, ends, -⟩ :=
    reading choppySource (List.replicate 12 0xee) readsAt
  obtain ⟨answer', file'', volume'', pieces, -, written, -, part, whole, -, stored⟩ :=
    writing stubborn tenOctets tenOctetsVolume
  refine ⟨readsAt, ⟨file', volume', ?_⟩, appends, answer', file'', volume'', pieces, written, part,
    whole, stored _ appends⟩
  rcases ends with ⟨rfl, rfl, -⟩ | ⟨_, _, ⟨⟩, _⟩
  exact filled

end PolledNet
