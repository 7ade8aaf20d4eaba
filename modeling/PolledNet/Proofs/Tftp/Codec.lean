import Mathlib.Control.Monad.Basic
import PolledNet.Proofs.Tftp.Octets

/-!
# Writing and reading a transfer's packets

What is written reads back, and what can be read is what can be written. A string field ends with
its first zero octet, so a name that is to be read back must hold no NUL; no other character has a
zero octet (`Text.zero_mem_octets_iff`). Numbers are written in decimal, and the least number of
digits reads back as the number (`number?_toString`).

`WellFormed` says which packets may be written. They are exactly the ones that read back as
themselves, and whatever is read is one of them (`parse_octets_iff`), also when it was not written
here: with options in another order or another case, with unknown ones between them, or with leading
zeros.
-/

namespace PolledNet

/-! ## Zero octets -/

namespace Text

/-- Only the character NUL is written with a zero octet. -/
theorem zero_mem_utf8EncodeChar_iff (c : Char) :
    (0 : UInt8) ∈ String.utf8EncodeChar c ↔ c = '\x00' := by
  have value : c = '\x00' ↔ c.val.toNat = 0 := by
    rw [← Char.val_inj, ← UInt32.toNat_inj]
    rfl
  rw [value]
  -- every octet of a character that takes several has its highest bit set
  fun_cases String.utf8EncodeChar c
  all_goals
    simp only [List.mem_cons, List.not_mem_nil, or_false, ← UInt8.toNat_inj, UInt8.toNat_ofNat',
      UInt8.toNat_zero]
    omega

/-- The octets of a text are those of its characters, one after the other. -/
theorem octets_eq_flatMap (s : String) : octets s = s.toList.flatMap String.utf8EncodeChar := by
  rw [octets, ← String.utf8Encode_toList, List.utf8Encode, List.toList_data_toByteArray]

/-- A text has a zero octet exactly if it holds NUL. -/
theorem zero_mem_octets_iff (s : String) : (0 : UInt8) ∈ octets s ↔ '\x00' ∈ s.toList := by
  simp [octets_eq_flatMap, zero_mem_utf8EncodeChar_iff]

end Text

namespace Tftp

/-! ## String fields -/

/-- A text that a string field can hold. -/
def FitsField (s : String) : Prop := '\x00' ∉ s.toList

variable {s : String} {b rest : Bytes}

/-- What was written as a field reads back, and what follows it is left. -/
theorem nextField_field (fits : FitsField s) (rest : Bytes) :
    nextField (field s ++ rest) = .ok (some (s, rest)) := by
  have nonzero : ∀ o ∈ Text.octets s, decide (o ≠ 0) = true := by
    intro o mem
    refine decide_eq_true fun zero => fits ?_
    rwa [← Text.zero_mem_octets_iff, ← zero]
  have written : field s ++ rest = Text.octets s ++ 0 :: rest := by simp [field]
  have taken : (field s ++ rest).takeWhile (· ≠ 0) = Text.octets s := by
    rw [written, List.takeWhile_append_of_pos nonzero]
    simp
  have dropped : (field s ++ rest).dropWhile (· ≠ 0) = 0 :: rest := by
    rw [written, List.dropWhile_append_of_pos nonzero]
    simp
  have some : (field s ++ rest).isEmpty = false := by simp [field]
  rw [nextField, some, if_neg Bool.false_ne_true, dropped, taken]
  simp only [Text.ofOctets?_octets]

/-- A field that was read holds no NUL. -/
theorem fitsField_of_nextField (taken : nextField b = .ok (some (s, rest))) : FitsField s := by
  unfold nextField at taken
  split at taken
  · cases taken
  · split at taken
    · cases taken
    · split at taken
      · cases taken
      · rename_i read
        cases taken
        rw [FitsField, ← Text.zero_mem_octets_iff, Text.octets_of_ofOctets? read]
        intro zero
        have nonzero := List.all_eq_true.mp List.all_takeWhile _ zero
        simp at nonzero

/-! ## Numbers -/

/-- Digits hold no NUL. -/
theorem fitsField_toString (n : Nat) : FitsField (toString n) := by
  rw [FitsField, Nat.toString_eq_ofList_toDigits, String.toList_ofList]
  intro nul
  have digit := Nat.isDigit_of_mem_toDigits (by decide) (by decide) nul
  revert digit
  decide

/-- **What was written as a number reads back**, if it is not too large for the reader. -/
theorem number?_toString {most n : Nat} (le : n ≤ most) : number? most (toString n) = .ok n := by
  have digits : (toString n).toList = Nat.toDigits 10 n := by
    rw [Nat.toString_eq_ofList_toDigits, String.toList_ofList]
  have all : (Nat.toDigits 10 n).all Char.isDigit = true :=
    List.all_eq_true.mpr fun c mem => Nat.isDigit_of_mem_toDigits (by decide) (by decide) mem
  have some : (toString n).isEmpty = false := by
    rw [← Bool.not_eq_true, String.isEmpty_iff, ← String.toList_inj, digits]
    exact Nat.toDigits_ne_nil
  have value : (Nat.toDigits 10 n).foldl (fun n c => n * 10 + (c.toNat - '0'.toNat)) 0 = n := by
    have read := Nat.ofDigitChars_ten_toDigits (n := n)
    rw [Nat.ofDigitChars_eq_foldl] at read
    simpa only [Nat.mul_comm] using read
  rw [number?, some, digits, all]
  simp only [Bool.not_true, Bool.or_self, Bool.false_eq_true, if_false, value, if_pos le]

end Tftp

/-! ## Options -/

namespace TftpOptions

open Tftp (FitsField)

/-- A pair of fields is taken down, and reading goes on behind it. -/
theorem read_pair (o : TftpOptions) {name value : String} (named : FitsField name)
    (valued : FitsField value) (rest : Bytes) :
    o.read (Tftp.field name ++ Tftp.field value ++ rest) =
      (o.record name value).bind (·.read rest) := by
  rw [List.append_assoc, read]
  split <;> rename_i first <;> rw [Tftp.nextField_field named] at first <;> cases first
  split <;> rename_i second <;> rw [Tftp.nextField_field valued] at second <;> cases second
  cases o.record name value <;> rfl

/-- An option that was written, or left out, is `set` in the options. -/
theorem read_option {α : Type} {name : String} {value : α → Nat} {x : Option α}
    (named : FitsField name) (set : Option α → TftpOptions)
    (recorded : ∀ a ∈ x, (set none).record name (toString (value a)) = .ok (set (some a)))
    (rest : Bytes) : (set none).read (option name value x ++ rest) = (set x).read rest := by
  cases x with
  | none => rw [option, List.nil_append]
  | some a =>
    rw [option, Tftp.numberField, read_pair _ named (Tftp.fitsField_toString _), recorded a rfl]
    rfl

/-- The number of a block size is taken down. -/
theorem record_blockSize (o : TftpOptions) {size : UInt16}
    (inRange : Tftp.minBlockSize ≤ size.toNat ∧ size.toNat ≤ Tftp.maxBlockSize) :
    o.record "blksize" (toString size.toNat) = .ok { o with blockSize := some size } := by
  have lower : "blksize".toLower = "blksize" := by decide +kernel
  have inside : ¬ (size.toNat < Tftp.minBlockSize ∨ size.toNat > Tftp.maxBlockSize) := by omega
  rw [record, lower]
  simp only [if_true, Tftp.number?_toString (Nat.le_of_lt_succ size.toNat_lt), ok_bind,
    if_neg inside, UInt16.ofNat_toNat]
  rfl

/-- The number of a file's size is taken down. -/
theorem record_transferSize (o : TftpOptions) (size : UInt64) :
    o.record "tsize" (toString size.toNat) = .ok { o with transferSize := some size } := by
  have lower : "tsize".toLower = "tsize" := by decide +kernel
  have fits : size.toNat ≤ UInt64.size - 1 := Nat.le_of_lt_succ size.toNat_lt
  rw [record, lower]
  simp only [String.reduceEq, if_false, if_true, Tftp.number?_toString fits, ok_bind,
    UInt64.ofNat_toNat]
  rfl

/-- The number of a window size is taken down. -/
theorem record_windowSize (o : TftpOptions) {size : UInt16} (nonzero : size ≠ 0) :
    o.record "windowsize" (toString size.toNat) = .ok { o with windowSize := some size } := by
  have lower : "windowsize".toLower = "windowsize" := by decide +kernel
  have inside : ¬ size.toNat = 0 := fun zero => nonzero (UInt16.toNat_inj.mp zero)
  rw [record, lower]
  simp only [String.reduceEq, if_false, if_true,
    Tftp.number?_toString (Nat.le_of_lt_succ size.toNat_lt), ok_bind, if_neg inside,
    UInt16.ofNat_toNat]
  rfl

/-- The number of a rollover rule is taken down. -/
theorem record_rollover (o : TftpOptions) (rule : Rollover) :
    o.record "rollover" (toString rule.firstBlock.toNat) =
      .ok { o with rollover := some rule } := by
  have lower : "rollover".toLower = "rollover" := by decide +kernel
  have fits : rule.firstBlock.toNat ≤ 255 := by cases rule <;> decide
  rw [record, lower]
  simp only [String.reduceEq, if_false, if_true, Tftp.number?_toString fits, ok_bind]
  cases rule <;> rfl

/-- **Options in range read back as they were written.** -/
theorem read_octets {o : TftpOptions} (inRange : o.InRange) : read {} o.octets = .ok o := by
  obtain ⟨blockSize, transferSize, windowSize, rollover⟩ := o
  have fits : ∀ name ∈ ["blksize", "tsize", "windowsize", "rollover"], FitsField name := by
    unfold FitsField
    decide +kernel
  have first := read_option (fits "blksize" (by simp)) (fun blockSize => { blockSize })
    fun size written => record_blockSize _ (inRange.blockSize size written)
  have second := read_option (fits "tsize" (by simp))
    (fun transferSize => { blockSize, transferSize })
    fun size (_ : size ∈ transferSize) => record_transferSize _ size
  have third := read_option (fits "windowsize" (by simp))
    (fun windowSize => { blockSize, transferSize, windowSize })
    fun size written => record_windowSize _ (inRange.windowSize size written)
  have fourth := read_option (fits "rollover" (by simp))
    (fun rollover => { blockSize, transferSize, windowSize, rollover })
    (fun rule (_ : rule ∈ rollover) => record_rollover _ rule) []
  rw [List.append_nil] at fourth
  rw [octets, List.append_assoc, List.append_assoc, first, second, third, fourth, read]
  rfl

end TftpOptions

/-! ## Packets -/

namespace TftpPacket

open Tftp (FitsField)

/-- A packet that may be written: its names hold no NUL, and its options are in range. -/
def WellFormed : TftpPacket → Prop
  | .readRequest filename mode options | .writeRequest filename mode options =>
    FitsField filename ∧ FitsField mode ∧ options.InRange
  | .optionAck options => options.InRange
  | .data .. | .ack _ | .error .. => True

/-- What follows the opcode of a request reads back. -/
theorem parseRequest_octets {filename mode : String} {options : TftpOptions}
    (named : FitsField filename) (moded : FitsField mode) (inRange : options.InRange) :
    parseRequest (Tftp.field filename ++ (Tftp.field mode ++ options.octets)) =
      .ok (filename, mode, options) := by
  rw [parseRequest, Tftp.nextField_field named, ok_bind]
  dsimp only
  rw [Tftp.nextField_field moded, ok_bind]
  dsimp only
  rw [TftpOptions.read_octets inRange]
  rfl

/-- The message of an error packet may be any text: only the last zero octet ends it. -/
theorem errorMessage_field (message : String) : errorMessage (Tftp.field message) = message := by
  rw [errorMessage, Tftp.field, List.getLast?_concat, if_pos rfl, List.dropLast_concat,
    Text.ofOctetsPrefix_octets]

/-- **What was written reads back.** -/
theorem parse_octets_of_wellFormed {p : TftpPacket} (wellFormed : p.WellFormed) :
    parse p.octets = .ok p := by
  cases p with
  | readRequest filename mode options =>
    obtain ⟨named, moded, inRange⟩ := wellFormed
    rw [octets, List.append_assoc, List.append_assoc, parse_octets16, if_pos rfl,
      parseRequest_octets named moded inRange]
    rfl
  | writeRequest filename mode options =>
    obtain ⟨named, moded, inRange⟩ := wellFormed
    rw [octets, List.append_assoc, List.append_assoc, parse_octets16, if_neg (by decide),
      if_pos rfl, parseRequest_octets named moded inRange]
    rfl
  | data block content => exact parse_octets_data block content
  | ack block => exact parse_octets_ack block
  | error code message =>
    rw [octets, List.append_assoc, parse_octets16, if_neg (by decide), if_neg (by decide),
      if_neg (by decide), if_pos (by decide)]
    simp only [octets16, List.cons_append, List.nil_append, word16_octets16, errorMessage_field]
    rfl
  | optionAck options =>
    rw [octets, parse_octets16, if_neg (by decide), if_neg (by decide), if_pos rfl,
      TftpOptions.read_octets wellFormed]
    rfl

/-- A request that can be read has names that fit their fields, and options in range. -/
theorem wellFormed_of_parseRequest {b : Bytes} {filename mode : String} {options : TftpOptions}
    (read : parseRequest b = .ok (filename, mode, options)) :
    FitsField filename ∧ FitsField mode ∧ options.InRange := by
  unfold parseRequest at read
  obtain ⟨first, taken, read⟩ := exists_ok_of_bind read
  split at read
  · obtain ⟨second, taken', read⟩ := exists_ok_of_bind read
    split at read
    · obtain ⟨options, inRange, read⟩ := exists_ok_of_bind read
      cases read
      exact ⟨Tftp.fitsField_of_nextField taken, Tftp.fitsField_of_nextField taken',
        TftpOptions.inRange_empty.read inRange⟩
    · cases read
  · cases read

/-- **Whatever is read may be written.** -/
theorem wellFormed_of_parse {b : Bytes} {p : TftpPacket} (read : parse b = .ok p) :
    p.WellFormed := by
  rcases b with _ | ⟨hi, _ | ⟨lo, body⟩⟩
  · cases read
  · cases read
  simp only [parse] at read
  split at read
  · obtain ⟨⟨filename, mode, options⟩, request, rfl⟩ := exists_ok_of_map read
    exact wellFormed_of_parseRequest request
  split at read
  · obtain ⟨⟨filename, mode, options⟩, request, rfl⟩ := exists_ok_of_map read
    exact wellFormed_of_parseRequest request
  split at read
  · obtain ⟨options, taken, rfl⟩ := exists_ok_of_map read
    exact TftpOptions.inRange_empty.read taken
  -- nothing is asked of blocks, acknowledgements and error messages
  split at read
  · split at read
    · cases read
      split
      · trivial
      · split <;> trivial
    · cases read
  · cases read

/-- **The packets that may be written are exactly those that read back as themselves**, and whatever
octets are read as a packet, it is one of them. -/
theorem parse_octets_iff (p : TftpPacket) :
    (parse p.octets = .ok p ↔ p.WellFormed) ∧
      ∀ b, parse b = .ok p → p.WellFormed ∧ parse p.octets = .ok p := by
  refine ⟨⟨wellFormed_of_parse, parse_octets_of_wellFormed⟩, fun b read => ?_⟩
  have wellFormed := wellFormed_of_parse read
  exact ⟨wellFormed, parse_octets_of_wellFormed wellFormed⟩

/-- A server's answer with an unknown option, another case and leading zeros. -/
def foreignAnswer : Bytes :=
  octets16 Tftp.opOptionAck ++ Tftp.field "WindowSize" ++ Tftp.field "004" ++
    Tftp.field "multicast" ++ Tftp.field "" ++ Tftp.field "BLKSIZE" ++ Tftp.field "65464"

/-- An answer with options in another order and case reads as the usual one does, and is not how
that is written. -/
theorem parse_octets_iff_foreignAnswer :
    parse foreignAnswer = .ok (.optionAck { blockSize := some 65464, windowSize := some 4 }) ∧
      foreignAnswer ≠ (optionAck { blockSize := some 65464, windowSize := some 4 }).octets ∧
      parse (optionAck { blockSize := some 65464, windowSize := some 4 }).octets =
        .ok (.optionAck { blockSize := some 65464, windowSize := some 4 }) := by
  have read : parse foreignAnswer =
      .ok (.optionAck { blockSize := some 65464, windowSize := some 4 }) := by decide +kernel
  exact ⟨read, by decide +kernel, ((parse_octets_iff _).2 foreignAnswer read).2⟩

end TftpPacket

end PolledNet
