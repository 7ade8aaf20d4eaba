import PolledNet.Proofs.Inet.Checksum

/-!
# What a checksum notices

Octets that verify add up to a multiple of 65535. If one word among them has become another, the sum
has changed by less than 65535, unless the word was all zeros and is all ones now, or the other way
round. So every other change of a word is noticed, and every change of a bit, since no bit turns all
zeros into all ones (`corruption_detected`). What is not noticed is just that exchange, as long as
anything is left that is not zero (`AgreeOutside.residue_eq_full_iff`).
-/

namespace PolledNet

/-- Words of different octets are different. -/
theorem word16_inj {hi lo hi' lo' : UInt8} :
    word16 hi lo = word16 hi' lo' ↔ hi = hi' ∧ lo = lo' := by
  have := hi.toNat_lt
  have := lo.toNat_lt
  have := hi'.toNat_lt
  have := lo'.toNat_lt
  simp only [word16, ← UInt16.toNat_inj, ← UInt8.toNat_inj, UInt16.toNat_ofNat']
  omega

namespace Checksum

variable {b b' : Bytes} {offset : Nat}

/-! ## One word of a sum -/

/-- A word adds its value to the sum of the words before it and behind it. -/
theorem wordSum_eq_add_wordAt (even : offset % 2 = 0) (b : Bytes) :
    wordSum b =
      wordSum (b.take offset) + (wordAt b offset).toNat + wordSum (b.drop (offset + 2)) := by
  induction b using wordSum.induct generalizing offset with
  | case1 hi lo rest ih =>
    rcases offset with _ | _ | offset
    · simp [wordSum, wordAt]
    · cases even
    · have even : offset % 2 = 0 := by omega
      have further := ih even
      simp only [wordSum, wordAt, List.take_succ_cons, List.drop_succ_cons,
        List.getElem?_cons_succ] at further ⊢
      omega
  | case2 last =>
    rcases offset with _ | _ | offset
    · simp [wordSum, wordAt]
    · cases even
    · simp [wordSum, wordAt, word16]
  | case3 => simp [wordSum, wordAt, word16]

/-- Sums of octets that agree outside a word differ by that word. -/
theorem AgreeOutside.exists_wordSum_eq (agree : AgreeOutside offset b b') (even : offset % 2 = 0) :
    ∃ rest, wordSum b = rest + (wordAt b offset).toNat ∧
      wordSum b' = rest + (wordAt b' offset).toNat := by
  have before : b'.take offset = b.take offset := by
    apply List.ext_getElem?
    intro i
    by_cases early : i < offset
    · rw [List.getElem?_take_of_lt early, List.getElem?_take_of_lt early,
        agree.others i (.inl early)]
    · rw [List.getElem?_take_eq_none (Nat.le_of_not_lt early),
        List.getElem?_take_eq_none (Nat.le_of_not_lt early)]
  have behind : b'.drop (offset + 2) = b.drop (offset + 2) := by
    apply List.ext_getElem?
    intro i
    rw [List.getElem?_drop, List.getElem?_drop, agree.others _ (.inr (Nat.le_add_right _ _))]
  refine ⟨wordSum (b.take offset) + wordSum (b.drop (offset + 2)), ?_, ?_⟩
  · rw [wordSum_eq_add_wordAt even b]
    omega
  · rw [wordSum_eq_add_wordAt even b', before, behind]
    omega

/-! ## What is not noticed -/

/-- All zeros have become all ones, or the other way round. One's-complement sums cannot tell. -/
def Exchanged (w w' : UInt16) : Prop := w = 0 ∧ w' = 0xFFFF ∨ w = 0xFFFF ∧ w' = 0

/-- Whether words were exchanged can be computed. -/
instance (w w' : UInt16) : Decidable (Exchanged w w') := inferInstanceAs (Decidable (_ ∨ _))

/-- A sum has all ones for its value if it is a multiple of them, and not zero. -/
theorem residue_eq_full_iff {n : Nat} : residue n = 65535 ↔ n ≠ 0 ∧ n % 65535 = 0 := by
  unfold residue
  split <;> omega

/-- **Which words complete a sum as one of them does**: only this one, and the other of the two that
cannot be told apart. -/
theorem AgreeOutside.residue_eq_full_iff (agree : AgreeOutside offset b b') (even : offset % 2 = 0)
    {others : Nat} (full : residue (others + wordSum b) = 65535) :
    residue (others + wordSum b') = 65535 ↔
      (wordAt b' offset = wordAt b offset ∨ Exchanged (wordAt b offset) (wordAt b' offset)) ∧
        others + wordSum b' ≠ 0 := by
  obtain ⟨rest, sum, sum'⟩ := agree.exists_wordSum_eq even
  have small := (wordAt b offset).toNat_lt
  have small' := (wordAt b' offset).toNat_lt
  have none : (0 : UInt16).toNat = 0 := rfl
  have all : (0xFFFF : UInt16).toNat = 65535 := rfl
  rw [Checksum.residue_eq_full_iff, sum] at full
  rw [Checksum.residue_eq_full_iff, sum', Exchanged]
  simp only [← UInt16.toNat_inj, none, all]
  omega

/-! ## Damage -/

/-- An octet with one bit the opposite of what it was; the lowest bit has the number 0. -/
def flipBit (x : UInt8) (k : Fin 8) : UInt8 := x ^^^ (1 <<< UInt8.ofNat k)

/-- Octets that were damaged in the word at `offset`. -/
inductive Damaged (offset : Nat) : Bytes → Bytes → Prop where
  /-- The word has become another, which is told apart from it. -/
  | word {b b' : Bytes} (agree : AgreeOutside offset b b')
      (other : wordAt b' offset ≠ wordAt b offset)
      (apart : ¬ Exchanged (wordAt b offset) (wordAt b' offset)) : Damaged offset b b'
  /-- One bit of one of its octets is the opposite of what it was. -/
  | bit {b : Bytes} {i : Nat} {x : UInt8} (k : Fin 8) (inside : i = offset ∨ i = offset + 1)
      (found : b[i]? = some x) : Damaged offset b (b.set i (flipBit x k))

/-- An octet with the opposite of a bit is another. -/
theorem flipBit_ne (x : UInt8) (k : Fin 8) : flipBit x k ≠ x := by
  intro same
  have bit : ∀ k : Fin 8, (1 : UInt8) <<< UInt8.ofNat k ≠ 0 := by decide
  apply bit k
  calc (1 : UInt8) <<< UInt8.ofNat k = x ^^^ flipBit x k := by
        rw [flipBit, ← UInt8.xor_assoc, UInt8.xor_self, UInt8.zero_xor]
    _ = 0 := by rw [same, UInt8.xor_self]

/-- Octets of which one is another now agree outside its word, and the word is told apart. -/
theorem damaged_of_set {i : Nat} {x y : UInt8} (inside : i = offset ∨ i = offset + 1)
    (found : b[i]? = some x) (other : y ≠ x) : AgreeOutside offset b (b.set i y) ∧
      wordAt (b.set i y) offset ≠ wordAt b offset ∧
        ¬ Exchanged (wordAt b offset) (wordAt (b.set i y) offset) := by
  have lt : i < b.length := (List.getElem?_eq_some_iff.mp found).1
  have zeros : (0 : UInt16) = word16 0 0 := rfl
  have ones : (0xFFFF : UInt16) = word16 255 255 := rfl
  have clash : (0 : UInt8) ≠ 255 := by decide
  refine ⟨⟨List.length_set, fun j outside => List.getElem?_set_ne (by omega)⟩, ?_⟩
  rcases inside with rfl | rfl
  · have high : wordAt b i = word16 x (b[i + 1]?.getD 0) := by rw [wordAt, found, Option.getD_some]
    have high' : wordAt (b.set i y) i = word16 y (b[i + 1]?.getD 0) := by
      rw [wordAt, List.getElem?_set_self lt, List.getElem?_set_ne (by omega), Option.getD_some]
    rw [high, high', Exchanged, zeros, ones]
    simp only [word16_inj, ne_eq]
    grind
  · have low : wordAt b offset = word16 (b[offset]?.getD 0) x := by
      rw [wordAt, found, Option.getD_some]
    have low' : wordAt (b.set (offset + 1) y) offset = word16 (b[offset]?.getD 0) y := by
      rw [wordAt, List.getElem?_set_self lt, List.getElem?_set_ne (by omega), Option.getD_some]
    rw [low, low', Exchanged, zeros, ones]
    simp only [word16_inj, ne_eq]
    grind

/-- What was damaged agrees outside the word, and the word is told apart. -/
theorem Damaged.told (damaged : Damaged offset b b') :
    AgreeOutside offset b b' ∧ wordAt b' offset ≠ wordAt b offset ∧
      ¬ Exchanged (wordAt b offset) (wordAt b' offset) := by
  cases damaged with
  | word agree other apart => exact ⟨agree, other, apart⟩
  | bit k inside found => exact damaged_of_set inside found (flipBit_ne _ k)

/-- **A damaged sum is not complete.** -/
theorem Damaged.residue_ne_full (damaged : Damaged offset b b') (even : offset % 2 = 0)
    {others : Nat} (full : residue (others + wordSum b) = 65535) :
    residue (others + wordSum b') ≠ 65535 := by
  obtain ⟨agree, other, apart⟩ := damaged.told
  intro complete
  rcases ((agree.residue_eq_full_iff even full).mp complete).1 with same | exchanged
  · exact other same
  · exact apart exchanged

/-! ## Datagrams -/

/-- The octets that the checksum of a datagram covers: the addresses, eight octets, and the
datagram. -/
def covered (source dest : Ipv4) (datagram : Bytes) : Bytes :=
  source.octets ++ dest.octets ++ datagram

variable {source dest : Ipv4}

/-- The checksum covers eight octets of addresses, and the datagram. -/
theorem length_covered : (covered source dest b).length = 8 + b.length := by
  rw [covered, List.length_append]
  rfl

/-- The words of a datagram stand eight octets further in what is covered. -/
theorem wordAt_covered : wordAt (covered source dest b) (8 + offset) = wordAt b offset := by
  have addresses : (source.octets ++ dest.octets).length = 8 := rfl
  have behind (i : Nat) : (covered source dest b)[8 + i]? = b[i]? := by
    rw [covered, List.getElem?_append_right (by rw [addresses]; omega), addresses,
      Nat.add_sub_cancel_left]
  rw [wordAt, wordAt, behind, Nat.add_assoc, behind]

/-- The sum behind a checksum is that over what is covered, and two numbers. -/
theorem wordSum_covered :
    pseudoWordSum source dest b.length + wordSum b =
      udpProtocol.toNat + b.length + wordSum (covered source dest b) := by
  have addresses : (source.octets ++ dest.octets).length = 8 := rfl
  rw [covered, wordSum_append (by rw [addresses]), wordSum_append (by rw [Ipv4.length_octets]),
    pseudoWordSum]
  omega

/-- A datagram verifies if it says that it has no checksum, or if all that is covered adds up, with
the protocol and the length, to a multiple of 65535. -/
theorem verifyUdp_iff (fits : b.length < 65536) :
    verifyUdp source dest b = true ↔
      udpOffset + 2 ≤ b.length ∧ (wordAt b udpOffset = 0 ∨
        residue (udpProtocol.toNat + b.length + wordSum (covered source dest b)) = 65535) := by
  by_cases long : udpOffset + 2 ≤ b.length
  · have holds : udpOffset + 1 < b.length := long
    have high := List.getElem?_eq_getElem (Nat.lt_of_succ_lt holds)
    have low := List.getElem?_eq_getElem holds
    rw [verifyUdp, wordAt, high, low]
    simp only [Option.getD_some, Bool.or_eq_true, decide_eq_true_iff, long, true_and, eq_full_iff,
      toNat_fold_udpSum source dest fits, wordSum_covered]
  · have none : b[udpOffset + 1]? = none := List.getElem?_eq_none (by omega)
    have refused : verifyUdp source dest b = false := by
      rw [verifyUdp, none]
      cases b[udpOffset]? <;> rfl
    simp [refused, long]

/-! ## What is noticed -/

/-- **A checksum notices every other word and every other bit.** An IPv4 header or an ICMP message
that verifies does so no more once it is damaged in one of its words. A datagram with a checksum,
whose addresses or octets are damaged in a word that is not the checksum itself, does not
either. -/
theorem corruption_detected (even : offset % 2 = 0) :
    (∀ header header', verifyIpv4 header = true → Damaged offset header header' →
      verifyIpv4 header' = false) ∧
    (∀ message message', verifyIcmp message = true → Damaged offset message message' →
      verifyIcmp message' = false) ∧
    ∀ (source dest source' dest' : Ipv4) (datagram datagram' : Bytes), datagram.length < 65536 →
      wordAt datagram udpOffset ≠ 0 → verifyUdp source dest datagram = true →
      offset ≠ 8 + udpOffset →
      Damaged offset (covered source dest datagram) (covered source' dest' datagram') →
      verifyUdp source' dest' datagram' = false := by
  have alone {b b' : Bytes} (damaged : Damaged offset b b')
      (full : residue (wordSum b) = 65535) : residue (wordSum b') ≠ 65535 := by
    rw [← Nat.zero_add (wordSum b)] at full
    rw [← Nat.zero_add (wordSum b')]
    exact damaged.residue_ne_full even full
  refine ⟨fun header header' verifies damaged => ?_, fun message message' verifies damaged => ?_,
    fun source dest source' dest' datagram datagram' fits present verifies elsewhere damaged => ?_⟩
  · rw [← Bool.not_eq_true, verifyIpv4_iff]
    exact alone damaged (verifyIpv4_iff.mp verifies)
  · rw [← Bool.not_eq_true, verifyIcmp_iff]
    exact alone damaged (verifyIcmp_iff.mp verifies)
  · have agree := damaged.told.1
    have length : datagram'.length = datagram.length := by
      have lengths := agree.length
      rw [length_covered, length_covered] at lengths
      omega
    -- the checksum is there as before, so it is still looked at
    have field : wordAt datagram' udpOffset = wordAt datagram udpOffset := by
      have kept : wordAt (covered source' dest' datagram') (8 + udpOffset) =
          wordAt (covered source dest datagram) (8 + udpOffset) := by
        have aligned : udpOffset % 2 = 0 := rfl
        rw [wordAt, wordAt, agree.others _ (by omega), agree.others _ (by omega)]
      rwa [wordAt_covered, wordAt_covered] at kept
    rw [← Bool.not_eq_true, verifyUdp_iff (by omega), field, length]
    rintro ⟨-, absent | complete⟩
    · exact present absent
    · rcases ((verifyUdp_iff fits).mp verifies).2 with absent | full
      · exact present absent
      · exact damaged.residue_ne_full even full complete

/-- `evenedOut`, sealed. -/
def completed : Bytes := [0, 9, 0, 7, 0, 13, 0xff, 0xff, 1, 2, 231, 183, 3]

/-- One bit of the last octet is flipped, which stands alone in its word, and this is noticed. -/
theorem corruption_detected_lastOctet :
    (20 % 2 = 0 ∧ completed.length < 65536 ∧ wordAt completed udpOffset ≠ 0 ∧
      verifyUdp ⟨10, 0, 0, 9⟩ ⟨10, 0, 0, 2⟩ completed = true ∧ 20 ≠ 8 + udpOffset ∧
      Damaged 20 (covered ⟨10, 0, 0, 9⟩ ⟨10, 0, 0, 2⟩ completed)
        (covered ⟨10, 0, 0, 9⟩ ⟨10, 0, 0, 2⟩ (completed.set 12 131))) ∧
    verifyUdp ⟨10, 0, 0, 9⟩ ⟨10, 0, 0, 2⟩ (completed.set 12 131) = false := by
  have damaged : Damaged 20 (covered ⟨10, 0, 0, 9⟩ ⟨10, 0, 0, 2⟩ completed)
      (covered ⟨10, 0, 0, 9⟩ ⟨10, 0, 0, 2⟩ (completed.set 12 131)) := by
    have flipped : covered ⟨10, 0, 0, 9⟩ ⟨10, 0, 0, 2⟩ (completed.set 12 131) =
        (covered ⟨10, 0, 0, 9⟩ ⟨10, 0, 0, 2⟩ completed).set 20 (flipBit 3 7) := by decide
    rw [flipped]
    exact .bit 7 (.inl rfl) rfl
  have holds : completed.length < 65536 ∧ wordAt completed udpOffset ≠ 0 ∧
      verifyUdp ⟨10, 0, 0, 9⟩ ⟨10, 0, 0, 2⟩ completed = true ∧ 20 ≠ 8 + udpOffset := by decide
  obtain ⟨fits, present, verifies, elsewhere⟩ := holds
  exact ⟨⟨rfl, fits, present, verifies, elsewhere, damaged⟩,
    (corruption_detected rfl).2.2 _ _ _ _ _ _ fits present verifies elsewhere damaged⟩

/-- The header of a datagram from one host of a home network to another. -/
def domestic : Bytes :=
  [0x45, 0, 0, 0x73, 0, 0, 0x40, 0, 0x40, 0x11, 0xb8, 0x61, 192, 168, 0, 1, 192, 168, 0, 199]

/-- An exchange is not noticed, any other word is. -/
example : verifyIpv4 domestic = true ∧
    verifyIpv4 ((domestic.set 4 0xff).set 5 0xff) = true ∧
    verifyIpv4 ((domestic.set 4 0xff).set 5 0xfe) = false := by decide

end Checksum

end PolledNet
