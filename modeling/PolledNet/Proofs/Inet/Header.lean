import PolledNet.Proofs.Access.Frames
import PolledNet.Proofs.Inet.Checksum

/-!
# Headers as they were received

A header that was read stood in the octets field by field, an Ethernet header as it would be written
(`EthernetHeader.eq_octets_append_of_parse`), an IPv4 header with its options behind it
(`IpHeader.eq_written_of_parse`). Such octets are read back, if the lengths fit them and they sum up
(`IpHeader.parse_written`). Sealing such an IPv4 header changes its checksum and nothing else
(`sealIpv4_written`).
-/

namespace PolledNet

/-- The octets of a word are those that it was made of. -/
theorem octets16_word16 (hi lo : UInt8) : octets16 (word16 hi lo) = [hi, lo] := by
  have high := hi.toNat_lt
  have low := lo.toNat_lt
  have value : (word16 hi lo).toNat = hi.toNat * 256 + lo.toNat := by
    rw [word16, UInt16.toNat_ofNat', Nat.mod_eq_of_lt (by omega)]
  have first : UInt8.ofNat ((word16 hi lo).toNat / 256) = hi := by
    apply UInt8.toNat_inj.mp
    rw [UInt8.toNat_ofNat', value]
    omega
  have second : (word16 hi lo).toUInt8 = lo := by
    apply UInt8.toNat_inj.mp
    rw [UInt16.toNat_toUInt8, value]
    omega
  rw [octets16, first, second]

/-- A frame whose header was read starts with the octets of the header, and it is not too long. -/
theorem EthernetHeader.eq_octets_append_of_parse {frame : Bytes} {h : EthernetHeader}
    (read : parse frame = .ok h) :
    frame = h.octets ++ frame.drop Ethernet.headerSize ∧
      frame.length ≤ Ethernet.maxFrameSize + Ethernet.checkSize := by
  unfold parse at read
  split at read
  · cases read
  · rename_i fields
    split at read
    · cases read
    · rename_i fits
      cases read
      refine ⟨?_, Nat.le_of_not_lt fits⟩
      unfold read? at fields
      split at fields
      · cases fields
        simp only [octets, Mac.octets, octets16_word16, List.cons_append, List.nil_append]
        rfl
      · cases fields

namespace IpHeader

variable {b : Bytes} {h : IpHeader}

/-! ## The first octet -/

/-- The version is the high half of the first octet. -/
theorem toNat_version (first : UInt8) : (first >>> 4).toNat = first.toNat / 16 := by
  rw [UInt8.toNat_shiftRight, Nat.shiftRight_eq_div_pow]
  congr 1

/-- The number of words is its low half. -/
theorem toNat_words (first : UInt8) : (first &&& 0x0F).toNat = first.toNat % 16 := by
  rw [UInt8.toNat_and]
  exact Nat.and_two_pow_sub_one_eq_mod first.toNat 4

/-- The first octet of a header is its version, which is 4, and its number of words. -/
theorem first_eq_iff {first words : UInt8} :
    first >>> 4 = 4 ∧ first &&& 0x0F = words ↔ first = 0x40 + words ∧ words.toNat ≤ 15 := by
  have bound := first.toNat_lt
  have four : (4 : UInt8).toNat = 4 := rfl
  have version : (0x40 : UInt8).toNat = 64 := rfl
  simp only [← UInt8.toNat_inj, toNat_version, toNat_words, UInt8.toNat_add, four, version]
  omega

/-- The length of a header can be read back from its first octet. -/
theorem headerLength_first (most : h.headerWords.toNat ≤ 15) :
    (0x40 + h.headerWords).toNat % 16 * 4 = h.headerLength := by
  rw [← toNat_words, (first_eq_iff.mpr ⟨rfl, most⟩).2, headerLength]

/-! ## The octets of a header -/

/-- The octets of a header as it was received, with what follows its first twenty. -/
def written (h : IpHeader) (rest : Bytes) : Bytes :=
  [0x40 + h.headerWords, h.tos] ++ octets16 h.totalLength ++ octets16 h.identification ++
    octets16 h.flagsFragment ++ [h.ttl, h.protocol] ++ octets16 h.checksum ++ h.source.octets ++
    h.dest.octets ++ rest

/-- A header may be written with some of what follows it, or with all. -/
theorem written_append (h : IpHeader) (rest more : Bytes) :
    h.written rest ++ more = h.written (rest ++ more) := rfl

/-- What is written is a header of the least length, and what follows it. -/
theorem length_written (h : IpHeader) (rest : Bytes) :
    (h.written rest).length = Ip.headerSize + rest.length := by
  rw [written, List.length_append]
  rfl

/-- The octets are at least as many as the lengths in a header say, and the header sums up. -/
structure Fits (h : IpHeader) (b : Bytes) : Prop where
  least : Ip.headerSize ≤ h.headerLength
  most : h.headerWords.toNat ≤ 15
  header : h.headerLength ≤ h.totalLength.toNat
  total : h.totalLength.toNat ≤ b.length
  sums : Checksum.verifyIpv4 (b.take h.headerLength) = true

/-- What is read from the octets of a header. -/
theorem parse_written {rest : Bytes} (fits : h.Fits (h.written rest)) :
    parse (h.written rest) = .ok h := by
  obtain ⟨version, words⟩ := first_eq_iff.mpr ⟨rfl, fits.most⟩
  have least := fits.least
  have header := fits.header
  have total := fits.total
  have five : ¬ h.headerWords < 5 := by
    rw [UInt8.lt_iff_toNat_lt]
    simp only [headerLength, Ip.headerSize] at least
    show ¬ h.headerWords.toNat < 5
    omega
  have read : parse (h.written rest) =
      if (0x40 + h.headerWords) >>> 4 ≠ 4 then
        .error (.invalidVersion ((0x40 + h.headerWords) >>> 4))
      else if h.headerWords < 5 then .error (.invalidIhl h.headerWords)
      else if (h.written rest).length < h.headerLength then .error .packetTooShort
      else if h.totalLength.toNat < h.headerLength ∨
          h.totalLength.toNat > (h.written rest).length then .error .invalidLength
      else if !Checksum.verifyIpv4 ((h.written rest).take h.headerLength) then
        .error .checksumMismatch
      else .ok h := by
    simp only [written, octets16, Ipv4.octets, List.cons_append, List.nil_append, parse,
      word16_octets16, words]
    rfl
  rw [read, if_neg fun other => other version, if_neg five, if_neg (by omega), if_neg (by omega),
    fits.sums]
  rfl

/-- What was read are the octets of a header. -/
theorem eq_written_of_parse (read : parse b = .ok h) :
    b = h.written (b.drop Ip.headerSize) ∧ h.headerWords.toNat ≤ 15 ∧
      Checksum.verifyIpv4 (b.take h.headerLength) = true := by
  unfold parse at read
  split at read
  · dsimp only at read
    split at read
    · cases read
    · rename_i version
      obtain ⟨first, most⟩ := first_eq_iff.mp ⟨Decidable.not_not.mp version, rfl⟩
      repeat' split at read
      all_goals cases read
      rename_i sums
      refine ⟨?_, most, by simpa using sums⟩
      simp only [written, octets16_word16, Ipv4.octets, List.cons_append, List.nil_append]
      rw [← first]
      rfl
  · cases read

/-- A header that was read is followed by its options, as many as it says. -/
theorem exists_options_of_parse (read : parse b = .ok h) :
    ∃ options, h.headerLength = Ip.headerSize + options.length ∧
      b.take h.headerLength = h.written options := by
  obtain ⟨least, header, total⟩ := lengths_of_parse read
  obtain ⟨extra, words⟩ := Nat.exists_eq_add_of_le' least
  refine ⟨(b.drop Ip.headerSize).take extra, ?_, ?_⟩
  · rw [List.length_take, List.length_drop]
    omega
  · rw [(eq_written_of_parse read).1, words]
    rfl

/-! ## Sealing -/

/-- What is stored in the checksum field is the checksum. -/
theorem store_written (h : IpHeader) (options : Bytes) (checksum : UInt16) :
    Checksum.store (h.written options) Checksum.ipv4Offset checksum =
      { h with checksum }.written options := rfl

/-- **Sealing a header changes its checksum and nothing else**, and it sums up then. -/
theorem sealIpv4_written (h : IpHeader) (options : Bytes) :
    ∃ checksum, Checksum.sealIpv4 (h.written options) = { h with checksum }.written options ∧
      Checksum.verifyIpv4 ({ h with checksum }.written options) = true := by
  have long : Checksum.ipv4Offset + 2 ≤ (h.written options).length := by
    rw [length_written]
    exact Nat.le_trans (by decide) (Nat.le_add_right Ip.headerSize options.length)
  have verifies := Checksum.verifyIpv4_sealIpv4 long
  rw [Checksum.sealIpv4, Checksum.store_store long, store_written] at verifies
  refine ⟨_, ?_, verifies⟩
  rw [Checksum.sealIpv4, Checksum.store_store long, store_written]

end IpHeader

end PolledNet
