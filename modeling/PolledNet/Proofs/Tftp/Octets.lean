import PolledNet.Proofs.Computations
import PolledNet.Tftp.Packet

/-!
# What a transfer's packets read back as

A transfer writes requests, blocks, acknowledgements and error messages. An observer of the wire
reads them with `TftpPacket.parse`; `blockOf?` is what he takes for a block of the file. Only what
was written as a block reads as one (`blockOf?_octets`), with its number and content.

Options that were read are in range (`inRange_of_parse`): a block has at least eight octets and a
window at least one block.
-/

namespace PolledNet

namespace TftpPacket

/-! ## Reading back -/

/-- What follows the opcode decides, once the opcode is taken off. -/
theorem parse_octets16 (opcode : UInt16) (body : Bytes) :
    parse (octets16 opcode ++ body) =
      if opcode = Tftp.opReadRequest then
        (parseRequest body).map fun (filename, mode, options) =>
          .readRequest filename mode options
      else if opcode = Tftp.opWriteRequest then
        (parseRequest body).map fun (filename, mode, options) =>
          .writeRequest filename mode options
      else if opcode = Tftp.opOptionAck then (TftpOptions.read {} body).map .optionAck
      else if opcode = Tftp.opData ∨ opcode = Tftp.opAck ∨ opcode = Tftp.opError then
        match body with
        | w0 :: w1 :: rest =>
          .ok (if opcode = Tftp.opData then .data (word16 w0 w1) rest
            else if opcode = Tftp.opAck then .ack (word16 w0 w1)
            else .error (word16 w0 w1) (errorMessage rest))
        | _ => .error .packetTooShort
      else .error (.unknownOpcode opcode) := by
  simp only [octets16, List.cons_append, List.nil_append, parse, word16_octets16]
  rfl

/-- A data packet is read back as it was written. -/
theorem parse_octets_data (number : UInt16) (content : Bytes) :
    parse (data number content).octets = .ok (.data number content) := by
  rw [octets, List.append_assoc, parse_octets16, if_neg (by decide), if_neg (by decide),
    if_neg (by decide), if_pos (by decide)]
  simp only [octets16, List.cons_append, List.nil_append, word16_octets16]
  rfl

/-- An acknowledgement is read back as it was written. -/
theorem parse_octets_ack (number : UInt16) : parse (ack number).octets = .ok (.ack number) := by
  rw [octets, parse_octets16, if_neg (by decide), if_neg (by decide), if_neg (by decide),
    if_pos (by decide)]
  simp only [octets16, word16_octets16]
  rfl

/-- The opcode that a packet is written with. -/
def opcode : TftpPacket → UInt16
  | .readRequest .. => Tftp.opReadRequest
  | .writeRequest .. => Tftp.opWriteRequest
  | .data .. => Tftp.opData
  | .ack _ => Tftp.opAck
  | .error .. => Tftp.opError
  | .optionAck _ => Tftp.opOptionAck

/-- Every packet begins with its opcode. -/
theorem octets_eq (p : TftpPacket) : ∃ body, p.octets = octets16 p.opcode ++ body := by
  cases p with
  | data | error => exact ⟨_, List.append_assoc ..⟩
  | ack | optionAck => exact ⟨_, rfl⟩
  | readRequest | writeRequest =>
    exact ⟨_, (List.append_assoc ..).trans (List.append_assoc ..)⟩

/-- What is read is of the kind that the opcode says. -/
theorem opcode_of_parse {opcode : UInt16} {body : Bytes} {p : TftpPacket}
    (read : parse (octets16 opcode ++ body) = .ok p) : p.opcode = opcode := by
  rw [parse_octets16] at read
  split at read
  · rename_i request
    obtain ⟨_, -, rfl⟩ := exists_ok_of_map read
    exact request.symm
  split at read
  · rename_i request
    obtain ⟨_, -, rfl⟩ := exists_ok_of_map read
    exact request.symm
  split at read
  · rename_i acknowledged
    obtain ⟨_, -, rfl⟩ := exists_ok_of_map read
    exact acknowledged.symm
  split at read
  · rename_i one
    split at read
    · cases read
      split
      · exact Eq.symm ‹_›
      · split
        · exact Eq.symm ‹_›
        · exact (one.resolve_left ‹_›).resolve_left ‹_› |>.symm
    · cases read
  · cases read

/-- A packet reads as one of its own kind, if it reads as one at all. -/
theorem opcode_of_parse_octets {p q : TftpPacket} (read : parse p.octets = .ok q) :
    q.opcode = p.opcode := by
  obtain ⟨body, eq⟩ := p.octets_eq
  rw [eq] at read
  exact opcode_of_parse read

/-- The number and the content of a block, if the octets are one. -/
def blockOf? (b : Bytes) : Option (UInt16 × Bytes) :=
  match parse b with
  | .ok (.data number content) => some (number, content)
  | _ => none

/-- The number of an acknowledgement, if the octets are one. -/
def ackOf? (b : Bytes) : Option UInt16 :=
  match parse b with
  | .ok (.ack number) => some number
  | _ => none

/-- Only a data packet shows a block. -/
theorem blockOf?_octets_of_ne {p : TftpPacket} (other : p.opcode ≠ Tftp.opData) :
    blockOf? p.octets = none := by
  unfold blockOf?
  split
  · rename_i read
    exact absurd (opcode_of_parse_octets read).symm other
  · rfl

/-- Only an acknowledgement shows the number of one. -/
theorem ackOf?_octets_of_ne {p : TftpPacket} (other : p.opcode ≠ Tftp.opAck) :
    ackOf? p.octets = none := by
  unfold ackOf?
  split
  · rename_i read
    exact absurd (opcode_of_parse_octets read).symm other
  · rfl

/-- Error messages acknowledge nothing. -/
theorem opcode_error_ne (code : UInt16) (text : String) :
    (error code text).opcode ≠ Tftp.opAck := by
  rw [opcode]
  decide

/-- An acknowledgement shows its number. -/
theorem ackOf?_octets_ack (number : UInt16) : ackOf? (ack number).octets = some number := by
  rw [ackOf?, parse_octets_ack]

/-- **Only blocks read as blocks**, and they read as themselves. -/
theorem blockOf?_octets (p : TftpPacket) :
    blockOf? p.octets =
      match p with
      | .data number content => some (number, content)
      | _ => none := by
  cases p with
  | data number content => rw [blockOf?, parse_octets_data]
  | _ =>
    apply blockOf?_octets_of_ne
    rw [opcode]
    decide

end TftpPacket

/-! ## Options in range -/

namespace TftpOptions

/-- Options that may be agreed on. -/
structure InRange (o : TftpOptions) : Prop where
  /-- A block has a size within the limits. -/
  blockSize : ∀ size ∈ o.blockSize,
    Tftp.minBlockSize ≤ size.toNat ∧ size.toNat ≤ Tftp.maxBlockSize
  /-- A window has a block. -/
  windowSize : ∀ size ∈ o.windowSize, size ≠ 0

/-- No options at all are in range. -/
theorem inRange_empty : InRange {} := ⟨by simp, by simp⟩

/-- A window has a block, also one that nobody asked for. -/
theorem InRange.window_pos {o : TftpOptions} (h : o.InRange) :
    0 < (o.windowSize.getD 1).toNat := by
  cases chosen : o.windowSize with
  | none => decide
  | some size =>
    apply Nat.pos_of_ne_zero
    intro zero
    exact h.windowSize size chosen (UInt16.toNat_inj.mp zero)

/-- Digits that were read as a number are no more than allowed. -/
theorem le_of_number? {most n : Nat} {s : String} (read : Tftp.number? most s = .ok n) :
    n ≤ most := by
  simp only [Tftp.number?] at read
  split at read
  · cases read
  · split at read
    · cases read
      assumption
    · cases read

/-- Taking down an option keeps the options in range. -/
theorem InRange.record {o o' : TftpOptions} (h : o.InRange) {name value : String}
    (taken : o.record name value = .ok o') : o'.InRange := by
  unfold TftpOptions.record at taken
  dsimp only at taken
  split at taken
  · obtain ⟨n, read, taken⟩ := exists_ok_of_bind taken
    have fits := le_of_number? read
    split at taken
    · cases taken
    · rename_i inside
      cases taken
      rw [not_or, Nat.not_lt, Nat.not_lt] at inside
      refine ⟨?_, h.windowSize⟩
      rintro size ⟨⟩
      rwa [UInt16.toNat_ofNat', Nat.mod_eq_of_lt (by omega)]
  · split at taken
    · obtain ⟨n, -, taken⟩ := exists_ok_of_bind taken
      cases taken
      exact ⟨h.blockSize, h.windowSize⟩
    · split at taken
      · obtain ⟨n, read, taken⟩ := exists_ok_of_bind taken
        have fits := le_of_number? read
        split at taken
        · cases taken
        · rename_i nonzero
          cases taken
          refine ⟨h.blockSize, ?_⟩
          rintro size ⟨⟩ zero
          have value := congrArg UInt16.toNat zero
          rw [UInt16.toNat_ofNat', Nat.mod_eq_of_lt (by omega)] at value
          exact nonzero value
      · split at taken
        · obtain ⟨n, -, taken⟩ := exists_ok_of_bind taken
          split at taken <;> cases taken <;> exact ⟨h.blockSize, h.windowSize⟩
        · cases taken
          exact h

/-- **Options that were read are in range.** -/
theorem InRange.read {o o' : TftpOptions} {b : Bytes} (h : o.InRange)
    (done : o.read b = .ok o') : o'.InRange := by
  fun_induction TftpOptions.read o b with
  | case1 => cases done
  | case2 => cases done; exact h
  | case3 => cases done
  | case4 => cases done
  | case5 => cases done
  | case6 _ _ _ _ _ _ _ _ _ taken ih => exact ih (h.record taken) done

end TftpOptions

/-- Options that a server acknowledged are in range. -/
theorem TftpPacket.inRange_of_parse {b : Bytes} {o : TftpOptions}
    (acknowledged : TftpPacket.parse b = .ok (.optionAck o)) : o.InRange := by
  rcases b with _ | ⟨hi, _ | ⟨lo, body⟩⟩
  · cases acknowledged
  · cases acknowledged
  simp only [TftpPacket.parse] at acknowledged
  split at acknowledged
  · obtain ⟨⟨_, _, _⟩, -, request⟩ := exists_ok_of_map acknowledged
    cases request
  split at acknowledged
  · obtain ⟨⟨_, _, _⟩, -, request⟩ := exists_ok_of_map acknowledged
    cases request
  split at acknowledged
  · obtain ⟨options, read, same⟩ := exists_ok_of_map acknowledged
    cases same
    exact TftpOptions.inRange_empty.read read
  -- what is left are blocks, acknowledgements, error messages and mistakes
  split at acknowledged
  · split at acknowledged
    · split at acknowledged
      · cases acknowledged
      · split at acknowledged
        · cases acknowledged
        · cases acknowledged
    · cases acknowledged
  · cases acknowledged

end PolledNet
