import PolledNet.File.RamVolume
import PolledNet.File.Scripted
import PolledNet.Proofs.File.Contract
import PolledNet.Proofs.File.Writing

/-!
# Volumes that keep the contract

A file of a volume in memory keeps what is asked of a file in `Contract`, for writing
(`RamVolume.writeView`) and for reading (`RamVolume.readView`), and without a capacity the volume
takes everything (`RamVolume.obliging`). A file with faults keeps it as far as the file behind it
does, however its writes are cut short or fail (`WriteView.faulty`) and however its reads are
(`ShortReads.faulty`).
-/

namespace PolledNet

namespace RamVolume

/-! ## Writing a file of a volume in memory -/

/-- The octets of a file, none when there is no such file. -/
def octetsOf (path : String) (v : RamVolume) : Bytes := ((v.contents? path).map (·.toList)).getD []

/-- The octets of a file that is there are its content. -/
theorem octetsOf_eq {path : String} {v : RamVolume} {content : Array UInt8}
    (holds : v.contents? path = some content) : octetsOf path v = content.toList := by
  rw [octetsOf, holds]
  rfl

/-- An open file of a volume, written at its end. -/
def AppendsTo (path : String) (file : RamFile) (v : RamVolume) : Prop :=
  file.path = path ∧ file.mode = .create ∧
    ∃ content, v.contents? path = some content ∧ file.position = content.size

/-- A write at the end appends all its data, or fails and changes nothing. -/
theorem write_appends {file file' : RamFile} {v v' : RamVolume} {path : String} {data : Bytes}
    {answer : Except FileError Nat} (appends : AppendsTo path file v)
    (written : RamFile.write file data v = (answer, file', v')) :
    (answer = .ok data.length ∧ octetsOf path v' = octetsOf path v ++ data ∧
        AppendsTo path file' v') ∨
      ((∃ e, answer = .error e) ∧ file' = file ∧ v' = v) := by
  obtain ⟨rfl, mode, content, holds, position⟩ := appends
  rcases file.write_cases data v with ⟨e, refused, -⟩ | ⟨w, taken, -, ⟨laid, -, -, -⟩, -⟩
  · cases refused.symm.trans written
    exact .inr ⟨⟨_, rfl⟩, rfl, rfl⟩
  · cases taken.symm.trans written
    obtain ⟨old, new, found, stored, lays⟩ := laid
    cases holds.symm.trans found
    rw [position] at lays
    refine .inl ⟨rfl, ?_, rfl, mode, new, stored, ?_⟩
    · rw [octetsOf_eq stored, octetsOf_eq holds, lays.eq_append]
      simp
    · rw [lays.eq_append]
      simp [position]

/-- A volume in memory as the view of one of its files while it is written. -/
def writeView (path : String) : WriteView RamFile RamVolume where
  stored := octetsOf path
  Appends := AppendsTo path
  write_ok {file file' v v' data taken} appends written := by
    rcases write_appends appends written with ⟨whole, added, appends'⟩ | ⟨⟨e, failed⟩, -, -⟩
    · cases whole
      rw [List.take_length]
      exact ⟨Nat.le_refl _, added, appends'⟩
    · cases failed
  write_error {file file' v v' data e} appends written := by
    rcases write_appends appends written with ⟨whole, -, -⟩ | ⟨-, rfl, rfl⟩
    · cases whole
    · exact ⟨rfl, appends⟩
  close _ := rfl

/-- A file that is only appended to, of a volume without a capacity. -/
def Roomy (path : String) (file : RamFile) (v : RamVolume) : Prop :=
  AppendsTo path file v ∧ v.capacity = none

/-- Where there is room, a write goes through. -/
theorem write_roomy {file : RamFile} {v : RamVolume} {path : String} (data : Bytes)
    (roomy : Roomy path file v) :
    ∃ file' v', RamFile.write file data v = (.ok data.length, file', v') ∧ Roomy path file' v' := by
  obtain ⟨appends, room⟩ := roomy
  obtain ⟨rfl, mode, content, holds, position⟩ := id appends
  have accepts : file.Accepts data v :=
    ⟨mode, content, holds, fun capacity bound => by cases room.symm.trans bound⟩
  rcases file.write_cases data v with ⟨e, -, unfit⟩ | ⟨v', taken, -, written, -⟩
  · exact absurd accepts unfit
  · rcases write_appends appends taken with ⟨-, -, appends'⟩ | ⟨⟨e, failed⟩, -, -⟩
    · exact ⟨_, _, taken, appends', written.capacity.trans room⟩
    · cases failed

/-- A volume contains a file that has a content. -/
theorem contains_of_contents? {v : RamVolume} {path : String} {content : Array UInt8}
    (holds : v.contents? path = some content) : v.contains path = true := by
  obtain ⟨e, found, -⟩ := Option.map_eq_some_iff.mp holds
  have here := List.find?_some found
  exact List.any_eq_true.mpr ⟨e, List.mem_of_find?_eq_some found, here⟩

/-- A volume without a capacity takes everything. -/
theorem obliging (path : String) : Obliging (Roomy path) where
  write {file v data} roomy nonempty := by
    obtain ⟨file', v', written, roomy'⟩ := write_roomy data roomy
    exact ⟨data.length, file', v', written, fun zero => nonempty (List.length_eq_zero_iff.mp zero),
      roomy'⟩
  close {file v} roomy := by
    obtain ⟨⟨rfl, -, content, holds, -⟩, -⟩ := roomy
    exact if_pos (contains_of_contents? holds)

/-! ## Reading a file of a volume in memory -/

/-- An open file of a volume, read from a position on. -/
structure ReadsFrom (path : String) (content : Bytes) (file : RamFile) (v : RamVolume)
    (position : Nat) : Prop where
  path_eq : file.path = path
  mode_eq : file.mode = .read
  holds : v.contents? path = some content.toArray
  position_eq : file.position = position

/-- A volume in memory as the view of one of its files while it is read. -/
def readView (path : String) (content : Bytes) (length_lt : content.length < UInt64.size) :
    ReadView RamFile RamVolume where
  content := content
  length_lt := length_lt
  ReadsAt := ReadsFrom path content
  size {file v position} reads := by
    show (v.size? file.path).getD 0 = content.length
    rw [reads.path_eq, size?_eq, reads.holds]
    rfl
  seek {file file' v v' position target} reads moved := by
    cases moved
    exact ⟨reads.path_eq, reads.mode_eq, reads.holds, rfl⟩
  read {file file' v v' position want got} reads done := by
    obtain ⟨rfl, mode, holds, rfl⟩ := reads
    change RamFile.read file want v = _ at done
    rw [RamFile.read, if_neg (by simp [mode]), holds] at done
    cases done
    have got_eq : (content.toArray.extract file.position (file.position + want)).toList =
        (content.drop file.position).take want := by
      simp [List.extract_eq_take_drop]
    rw [got_eq]
    exact ⟨List.prefix_refl _, id, rfl, mode, holds, rfl⟩

/-- A file of a volume can be read from anywhere. -/
theorem lending (path : String) (content : Bytes) :
    Lending fun file v => ∃ position, ReadsFrom path content file v position where
  seek := by
    rintro file v target ⟨position, reads⟩
    exact ⟨_, _, rfl, target, reads.path_eq, reads.mode_eq, reads.holds, rfl⟩
  read := by
    rintro file v want ⟨position, rfl, mode, holds, rfl⟩
    let got := (content.toArray.extract file.position (file.position + want)).toList
    refine ⟨got, { file with position := file.position + got.length }, v, ?_, _, rfl, mode, holds,
      rfl⟩
    show RamFile.read file want v = _
    rw [RamFile.read, if_neg (by simp [mode]), holds]

/-- The reads of a file of a volume do not fail. -/
def shortReads (path : String) (content : Bytes) (length_lt : content.length < UInt64.size) :
    ShortReads RamFile RamVolume fun _ => False :=
  (readView path content length_lt).shortReads fun reads failed => by
    obtain ⟨got, _, _, gave, -⟩ := (lending path content).read _ ⟨_, reads⟩
    cases gave.symm.trans failed

end RamVolume

/-! ## Files with faults -/

namespace FaultyFile

variable {η φ : Type} [FileHandle η φ]

/-- What a fault holds back of a write does not reach the file behind it. -/
theorem write_cases {file file' : FaultyFile η} {volume volume' : φ} {data : Bytes}
    {answer : Except FileError Nat}
    (written : FileHandle.write file data volume = (answer, file', volume')) :
    ((∃ e, answer = .error e) ∧ file'.file = file.file ∧ volume' = volume) ∨
      ∃ most, FileHandle.write file.file (data.take most) volume =
        (answer, file'.file, volume') := by
  cases turn : (file.faults.writes.headD .pass).limit data.length with
  | error cause =>
    simp only [FileHandle.write, turn] at written
    cases written
    exact .inl ⟨⟨cause, rfl⟩, rfl, rfl⟩
  | ok most =>
    simp only [FileHandle.write, turn] at written
    cases written
    exact .inr ⟨most, rfl⟩

/-- What a fault holds back of a read is not asked of the file behind it. -/
theorem read_cases (file : FaultyFile η) (want : Nat) (volume : φ) :
    (∃ cause, file.faults.reads.headD .pass = .fail cause ∧
      FileHandle.read file want volume =
        (.error cause, { file with faults.reads := file.faults.reads.tail }, volume)) ∨
      ∃ most answer behind volume', (file.faults.reads.headD .pass).limit want = .ok most ∧
        FileHandle.read file.file most volume = (answer, behind, volume') ∧
        FileHandle.read file want volume =
          (answer, ⟨behind, { file.faults with reads := file.faults.reads.tail }⟩, volume') := by
  cases held : (file.faults.reads.headD .pass).limit want with
  | error cause =>
    refine .inl ⟨cause, ?_, by simp only [FileHandle.read, held]⟩
    cases turn : file.faults.reads.headD .pass <;> rw [turn] at held <;> cases held
    rfl
  | ok most =>
    refine .inr ⟨most, _, _, _, rfl, rfl, ?_⟩
    simp only [FileHandle.read, held]
    rfl

end FaultyFile

/-- A file with faults as the view of the file behind it: what a fault holds back is neither
reported nor written. -/
def WriteView.faulty {η φ : Type} [FileHandle η φ] (view : WriteView η φ) :
    WriteView (FaultyFile η) φ where
  stored := view.stored
  Appends file := view.Appends file.file
  write_ok {file file' volume volume' data taken} appends written := by
    rcases FaultyFile.write_cases written with ⟨⟨e, failed⟩, -, -⟩ | ⟨most, behind⟩
    · cases failed
    · obtain ⟨fits, added, appends'⟩ := view.write_ok appends behind
      rw [List.length_take] at fits
      rw [List.take_take, Nat.min_eq_left (by omega)] at added
      exact ⟨by omega, added, appends'⟩
  write_error {file file' volume volume' data e} appends written := by
    rcases FaultyFile.write_cases written with ⟨-, same, rfl⟩ | ⟨most, behind⟩
    · exact ⟨rfl, same ▸ appends⟩
    · exact view.write_error appends behind
  close {file volume} appends := by
    cases turn : (file.faults.closes.headD .pass).refusal? with
    | some cause => simp only [FileHandle.close, turn]
    | none =>
      simp only [FileHandle.close, turn]
      exact view.close appends

/-- A turn that lets an operation move some octets, or fails it as allowed. -/
def FileTurn.Yields (Fails : FileError → Prop) : FileTurn → Prop
  | .pass => True
  | .atMost most => most ≠ 0
  | .fail cause => Fails cause

/-- Some octets are left of those asked for. -/
theorem FileTurn.Yields.of_limit {Fails : FileError → Prop} {turn : FileTurn}
    (yields : turn.Yields Fails) {want most : Nat} (held : turn.limit want = .ok most) :
    most ≤ want ∧ (most = 0 → want = 0) := by
  cases turn with
  | pass =>
    cases held
    exact ⟨Nat.le_refl _, id⟩
  | atMost limit =>
    cases held
    have some : limit ≠ 0 := yields
    omega
  | fail => cases held

/-- A file with faults as the file behind it, read in shorter pieces: every schedule of what reads
give, and of how they fail, is one of faults. -/
def ShortReads.faulty {η φ : Type} [FileHandle η φ] {Fails : FileError → Prop}
    (source : ShortReads η φ Fails) : ShortReads (FaultyFile η) φ Fails where
  content := source.content
  At file volume position :=
    source.At file.file volume position ∧ ∀ turn ∈ file.faults.reads, turn.Yields Fails
  read {file volume position} want := by
    rintro ⟨readsAt, yields⟩
    have later : ∀ turn ∈ file.faults.reads.tail, turn.Yields Fails :=
      fun turn mem => yields turn (List.mem_of_mem_tail mem)
    have here : (file.faults.reads.headD .pass).Yields Fails := by
      rcases turns : file.faults.reads with _ | ⟨turn, rest⟩
      · trivial
      · exact yields turn (turns ▸ List.mem_cons_self)
    rcases file.read_cases want volume with
      ⟨cause, turn, failed⟩ | ⟨most, answer, behind, volume', held, asked, same⟩
    · rw [turn] at here
      exact .inl ⟨cause, _, _, failed, here⟩
    · obtain ⟨fits, some⟩ := here.of_limit held
      rcases source.read most readsAt with
        ⟨e, _, _, failed, fails⟩ | ⟨n, _, _, gave, le, ended, after⟩
      · cases asked.symm.trans failed
        exact .inl ⟨e, _, _, same, fails⟩
      · cases asked.symm.trans gave
        refine .inr ⟨n, _, _, same, by omega, ?_, after, later⟩
        intro none
        exact (ended none).imp_left some

end PolledNet
