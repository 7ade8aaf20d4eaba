import PolledNet.Inet.Checksum

/-!
# The sum behind the Internet checksum

The checksum folds a sum of words down to 16 bits, at once or in between. However it does so, what
comes out depends only on the sum in naturals (`wordSum`): it is zero for zero, and else the number
from 1 to 65535 that has the same remainder modulo 65535 (`residue`). So the sum of octets in two
parts is that of the parts, if the first is of even length, and storing a word adds it to the sum.

Sealing stores what is missing to 65535. So whatever is sealed verifies, and only the word of the
checksum has changed (`seal_verifies`).
-/

namespace PolledNet.Checksum

/-! ## One's-complement values -/

/-- The one's-complement value of a sum. -/
def residue (n : Nat) : Nat := if n = 0 then 0 else (n - 1) % 65535 + 1

/-- A sum that fits into a word is its own one's-complement value. -/
theorem residue_of_le {n : Nat} (le : n ≤ 65535) : residue n = n := by
  unfold residue
  split <;> omega

/-- One's-complement values fit into a word. -/
theorem residue_le (n : Nat) : residue n ≤ 65535 := by
  unfold residue
  split <;> omega

/-- Values that agree still do when something is added to both sums. -/
theorem residue_add_congr {m n : Nat} (same : residue m = residue n) (k : Nat) :
    residue (m + k) = residue (n + k) := by
  unfold residue at same ⊢
  split at same <;> split at same <;> split <;> split <;> omega

/-- What is missing to 65535 completes a sum. -/
theorem residue_add_complement (n : Nat) : residue (n + (65535 - residue n)) = 65535 := by
  unfold residue
  split <;> split <;> omega

/-- A value of 65535 is that of a sum without a remainder, but not of zero. -/
theorem residue_add_of_full {n : Nat} (full : residue n = 65535) : residue (n + 65535) = 65535 := by
  unfold residue at full ⊢
  split at full <;> split <;> omega

/-! ## Folding -/

/-- To carry adds the high half of a sum to the low half. -/
theorem toNat_carry (sum : UInt32) :
    (carry sum).toNat = sum.toNat % 65536 + sum.toNat / 65536 := by
  have bound := sum.toNat_lt
  simp only [carry, UInt32.toNat_add, UInt32.toNat_mod, UInt32.toNat_div, UInt32.reduceToNat]
  omega

/-- Carrying keeps the value. -/
theorem residue_carry (sum : UInt32) : residue (carry sum).toNat = residue sum.toNat := by
  rw [toNat_carry]
  unfold residue
  split <;> split <;> omega

/-- **Folding gives the value of the sum.** -/
theorem toNat_fold (sum : UInt32) : (fold sum).toNat = residue sum.toNat := by
  have bound := sum.toNat_lt
  have once := toNat_carry sum
  have twice := toNat_carry (carry sum)
  rw [fold, UInt32.toNat_toUInt16, Nat.mod_eq_of_lt (by omega), ← residue_carry,
    ← residue_carry, residue_of_le (by omega)]

/-! ## Adding words -/

/-- The sum of the words of the octets, in naturals. -/
def wordSum : Bytes → Nat
  | hi :: lo :: rest => (word16 hi lo).toNat + wordSum rest
  | [last] => (word16 last 0).toNat
  | [] => 0

/-- **Carrying early does not change the value**, and the sum never outgrows its 32 bits. -/
theorem residue_addWords (b : Bytes) {sum : UInt32} (room : sum.toNat ≤ 0xFFFF0000) :
    residue (addWords b sum).toNat = residue (sum.toNat + wordSum b) := by
  have added (w : UInt16) {sum : UInt32} (room : sum.toNat ≤ 0xFFFF0000) :
      (sum + w.toUInt32).toNat = sum.toNat + w.toNat := by
    have word := w.toNat_lt
    rw [UInt32.toNat_add, UInt16.toNat_toUInt32, Nat.mod_eq_of_lt (by omega)]
  induction b using wordSum.induct generalizing sum with
  | case1 hi lo rest ih =>
    have word := (word16 hi lo).toNat_lt
    have next := added (word16 hi lo) room
    rw [addWords, wordSum, ← Nat.add_assoc, ← next]
    split
    · have small := toNat_carry (sum + (word16 hi lo).toUInt32)
      rw [ih (by omega)]
      exact residue_add_congr (residue_carry _) _
    · rename_i fits
      rw [gt_iff_lt, UInt32.lt_iff_toNat_lt, Nat.not_lt] at fits
      exact ih fits
  | case2 last => rw [addWords, wordSum, added _ room]
  | case3 => rw [addWords, wordSum, Nat.add_zero]

/-- The value of the octets alone. -/
theorem toNat_fold_addWords (b : Bytes) : (fold (addWords b 0)).toNat = residue (wordSum b) := by
  rw [toNat_fold, residue_addWords b (by decide)]
  exact congrArg residue (Nat.zero_add _)

/-- Octets that are whole words, one word at a time. -/
theorem whole_induction {P : (a : Bytes) → a.length % 2 = 0 → Prop} (empty : P [] rfl)
    (word : ∀ hi lo rest even more, P rest even → P (hi :: lo :: rest) more) (a : Bytes)
    (even : a.length % 2 = 0) : P a even := by
  induction a using wordSum.induct with
  | case1 hi lo rest ih =>
    have shorter : rest.length % 2 = 0 := by
      rw [List.length_cons, List.length_cons] at even
      omega
    exact word hi lo rest shorter even (ih shorter)
  | case2 last => cases even
  | case3 => exact empty

/-- Sums over octets add up, if no word is cut in two. -/
theorem wordSum_append {a : Bytes} (even : a.length % 2 = 0) (b : Bytes) :
    wordSum (a ++ b) = wordSum a + wordSum b := by
  induction a, even using whole_induction with
  | empty => rw [List.nil_append, wordSum, Nat.zero_add]
  | word hi lo rest _ _ ih =>
    rw [List.cons_append, List.cons_append, wordSum, wordSum, ih, Nat.add_assoc]

/-- A word that stands in octets adds itself. -/
theorem wordSum_octets16 (w : UInt16) : wordSum (octets16 w) = w.toNat := by
  rw [octets16, wordSum, word16_octets16, wordSum, Nat.add_zero]

/-! ## Storing -/

variable {b : Bytes} {offset : Nat}

/-- What is stored replaces two octets. -/
theorem store_eq (w : UInt16) :
    store b offset w = b.take offset ++ (octets16 w ++ b.drop (offset + 2)) :=
  List.append_assoc ..

/-- What is stored twice is stored the last time. -/
theorem store_store (fits : offset + 2 ≤ b.length) (v w : UInt16) :
    store (store b offset v) offset w = store b offset w := by
  have front : (b.take offset).length = offset := List.length_take_of_le (by omega)
  have behind : (store b offset v).drop (offset + 2) = b.drop (offset + 2) := by
    rw [store_eq, ← List.append_assoc]
    exact List.drop_left' (by rw [List.length_append, front, length_octets16])
  rw [store_eq, behind, store_eq, List.take_left' front, ← store_eq]

/-- Storing a word where there was zero adds it to the sum. -/
theorem wordSum_store (fits : offset + 2 ≤ b.length) (even : offset % 2 = 0) (w : UInt16) :
    wordSum (store b offset w) = wordSum (store b offset 0) + w.toNat := by
  have front : (b.take offset).length = offset := List.length_take_of_le (by omega)
  have sum (v : UInt16) : wordSum (store b offset v) =
      wordSum (b.take offset) + (v.toNat + wordSum (b.drop (offset + 2))) := by
    rw [store_eq, wordSum_append (by rw [front]; exact even),
      wordSum_append (by rw [length_octets16]), wordSum_octets16]
  rw [sum, sum, UInt16.toNat_zero]
  omega

/-! ## Words in octets -/

/-- The word at `offset`. Octets that are missing count as zero. -/
def wordAt (b : Bytes) (offset : Nat) : UInt16 :=
  word16 (b[offset]?.getD 0) (b[offset + 1]?.getD 0)

/-- Octets that agree with others, except for those of the word at `offset`. -/
structure AgreeOutside (offset : Nat) (b b' : Bytes) : Prop where
  /-- No octet was added or removed. -/
  length : b'.length = b.length
  /-- The octets before the word and behind it are the same. -/
  others : ∀ i, i < offset ∨ offset + 2 ≤ i → b'[i]? = b[i]?

/-- Storing a word changes nothing else. -/
theorem agreeOutside_store (fits : offset + 2 ≤ b.length) (w : UInt16) :
    AgreeOutside offset b (store b offset w) := by
  have front : (b.take offset).length = offset := List.length_take_of_le (by omega)
  refine ⟨Bytes.length_overwrite fits, fun i outside => ?_⟩
  rw [store_eq]
  rcases outside with before | behind
  · rw [List.getElem?_append_left (by omega), List.getElem?_take_of_lt before]
  · rw [List.getElem?_append_right (by omega), front,
      List.getElem?_append_right (by rw [length_octets16]; omega), length_octets16,
      List.getElem?_drop]
    congr 1
    omega

/-- A word that was stored is found there. -/
theorem wordAt_store (fits : offset + 2 ≤ b.length) (w : UInt16) :
    wordAt (store b offset w) offset = w := by
  have front : (b.take offset).length = offset := List.length_take_of_le (by omega)
  have high : (store b offset w)[offset]? = some (UInt8.ofNat (w.toNat / 256)) := by
    rw [store_eq, List.getElem?_append_right (by omega), front, Nat.sub_self]
    rfl
  have low : (store b offset w)[offset + 1]? = some w.toUInt8 := by
    rw [store_eq, List.getElem?_append_right (by omega), front, Nat.add_sub_cancel_left]
    rfl
  rw [wordAt, high, low]
  exact word16_octets16 w

/-! ## Sealing and verifying -/

/-- All ones are the greatest word. -/
theorem eq_full_iff {w : UInt16} : w = 0xFFFF ↔ w.toNat = 65535 := by
  rw [← UInt16.toNat_inj]
  rfl

/-- The complement of a word is what it lacks of all ones. -/
theorem toNat_complement (w : UInt16) : (~~~w).toNat = 65535 - w.toNat := UInt16.toNat_not ..

/-- The checksum of octets is zero exactly if their sum is a multiple of 65535, but not zero. -/
theorem ofBytes_eq_zero_iff : ofBytes b = 0 ↔ residue (wordSum b) = 65535 := by
  have le := residue_le (wordSum b)
  rw [ofBytes, ← UInt16.toNat_inj, toNat_complement, toNat_fold_addWords, UInt16.toNat_zero]
  omega

/-- The header of an IPv4 packet verifies if its words sum up to all ones. -/
theorem verifyIpv4_iff : verifyIpv4 b = true ↔ residue (wordSum b) = 65535 := by
  rw [verifyIpv4, decide_eq_true_iff, ofBytes_eq_zero_iff]

/-- An ICMP message verifies if its words sum up to all ones. -/
theorem verifyIcmp_iff : verifyIcmp b = true ↔ residue (wordSum b) = 65535 := by
  rw [verifyIcmp, decide_eq_true_iff, ofBytes_eq_zero_iff]

/-- The checksum that is stored completes the sum. -/
theorem residue_wordSum_seal (fits : offset + 2 ≤ b.length) (even : offset % 2 = 0) :
    residue (wordSum (store (store b offset 0) offset (ofBytes (store b offset 0)))) = 65535 := by
  rw [store_store fits, wordSum_store fits even, ofBytes, toNat_complement, toNat_fold_addWords]
  exact residue_add_complement _

/-- **A sealed header verifies.** -/
theorem verifyIpv4_sealIpv4 (long : ipv4Offset + 2 ≤ b.length) :
    verifyIpv4 (sealIpv4 b) = true :=
  verifyIpv4_iff.mpr (residue_wordSum_seal long rfl)

/-- **A sealed ICMP message verifies.** -/
theorem verifyIcmp_sealIcmp (long : icmpOffset + 2 ≤ b.length) :
    verifyIcmp (sealIcmp b) = true :=
  verifyIcmp_iff.mpr (residue_wordSum_seal long rfl)

/-! ## UDP -/

/-- The sum of a pseudo-header, in naturals. -/
def pseudoWordSum (source dest : Ipv4) (length : Nat) : Nat :=
  wordSum source.octets + wordSum dest.octets + udpProtocol.toNat + length

/-- Four octets leave a small sum small. -/
theorem toNat_addWords_address (a : Ipv4) (sum : UInt32) (small : sum.toNat ≤ 0xFFFFFF) :
    (addWords a.octets sum).toNat = sum.toNat + wordSum a.octets := by
  have high := (word16 a.o0 a.o1).toNat_lt
  have low := (word16 a.o2 a.o3).toNat_lt
  have first : (sum + (word16 a.o0 a.o1).toUInt32).toNat =
      sum.toNat + (word16 a.o0 a.o1).toNat := by
    rw [UInt32.toNat_add, UInt16.toNat_toUInt32, Nat.mod_eq_of_lt (by omega)]
  have second : (sum + (word16 a.o0 a.o1).toUInt32 + (word16 a.o2 a.o3).toUInt32).toNat =
      sum.toNat + (word16 a.o0 a.o1).toNat + (word16 a.o2 a.o3).toNat := by
    rw [UInt32.toNat_add, UInt16.toNat_toUInt32, first, Nat.mod_eq_of_lt (by omega)]
  have full : (0xFFFF0000 : UInt32).toNat = 4294901760 := rfl
  simp only [Ipv4.octets, addWords, wordSum, gt_iff_lt, UInt32.lt_iff_toNat_lt, full]
  rw [if_neg (show ¬ 4294901760 < (sum + (word16 a.o0 a.o1).toUInt32).toNat by omega),
    if_neg (by omega)]
  omega

/-- The words of an address are two. -/
theorem wordSum_address_le (a : Ipv4) : wordSum a.octets ≤ 131070 := by
  have high := (word16 a.o0 a.o1).toNat_lt
  have low := (word16 a.o2 a.o3).toNat_lt
  simp only [Ipv4.octets, wordSum]
  omega

/-- The sum over a pseudo-header does not overflow. -/
theorem toNat_pseudoSum (source dest : Ipv4) {length : Nat} (fits : length < 65536) :
    (pseudoSum source dest length).toNat = pseudoWordSum source dest length := by
  have first := wordSum_address_le source
  have second := wordSum_address_le dest
  have zero : (0 : UInt32).toNat = 0 := rfl
  have seventeen : udpProtocol.toNat = 17 := rfl
  have sources := toNat_addWords_address source 0 (by decide)
  have both := toNat_addWords_address dest (addWords source.octets 0) (by omega)
  rw [pseudoSum, UInt32.toNat_add, UInt32.toNat_add, UInt32.toNat_ofNat', both, sources,
    pseudoWordSum]
  omega

/-- The sum of a pseudo-header leaves room for the words of the datagram. -/
theorem pseudoSum_le (source dest : Ipv4) {length : Nat} (fits : length < 65536) :
    (pseudoSum source dest length).toNat ≤ 0xFFFF0000 := by
  have first := wordSum_address_le source
  have second := wordSum_address_le dest
  have seventeen : udpProtocol.toNat = 17 := rfl
  rw [toNat_pseudoSum source dest fits, pseudoWordSum]
  omega

/-- The value of a datagram with its pseudo-header. -/
theorem toNat_fold_udpSum (source dest : Ipv4) (fits : b.length < 65536) :
    (fold (udpSum source dest b)).toNat =
      residue (pseudoWordSum source dest b.length + wordSum b) := by
  rw [toNat_fold, udpSum, residue_addWords b (pseudoSum_le source dest fits),
    toNat_pseudoSum source dest fits]

/-- **A sealed datagram verifies**, and it does so by its sum, since no datagram is sealed with a
field that says that there is none. -/
theorem verifyUdp_sealUdp (source dest : Ipv4) (long : udpOffset + 2 ≤ b.length)
    (fits : b.length < 65536) : verifyUdp source dest (sealUdp source dest b) = true := by
  have length (w : UInt16) : (store b udpOffset w).length = b.length := Bytes.length_overwrite long
  -- the sum without the checksum, and the checksum that completes it
  let rest := pseudoWordSum source dest b.length + wordSum (store b udpOffset 0)
  have value : (fold (udpSum source dest (store b udpOffset 0))).toNat = residue rest := by
    rw [toNat_fold_udpSum source dest (by rwa [length]), length]
  obtain ⟨w, sealed, complete⟩ : ∃ w, sealUdp source dest b = store b udpOffset w ∧
      residue (rest + w.toNat) = 65535 := by
    have le := residue_le rest
    refine ⟨_, store_store long 0 _, ?_⟩
    split
    · rename_i none
      have full : residue rest = 65535 := by
        have zero := congrArg UInt16.toNat none
        rw [toNat_complement, value, UInt16.toNat_zero] at zero
        omega
      exact residue_add_of_full full
    · rw [toNat_complement, value]
      exact residue_add_complement rest
  have sum : fold (udpSum source dest (store b udpOffset w)) = 0xFFFF := by
    rw [eq_full_iff, toNat_fold_udpSum source dest (by rwa [length]), length,
      wordSum_store long rfl, ← Nat.add_assoc]
    exact complete
  rw [sealed, verifyUdp]
  have holds : udpOffset + 1 < (store b udpOffset w).length := by rwa [length]
  rw [List.getElem?_eq_getElem (Nat.lt_of_succ_lt holds), List.getElem?_eq_getElem holds]
  simp only [sum, decide_true, Bool.or_true]

/-- No datagram is sealed with zero. -/
theorem sealUdp_eq_store (source dest : Ipv4) (long : udpOffset + 2 ≤ b.length) :
    ∃ w, w ≠ 0 ∧ sealUdp source dest b = store b udpOffset w := by
  refine ⟨_, ?_, store_store long 0 _⟩
  split
  · decide
  · assumption

/-! ## What sealing does -/

/-- **What is sealed verifies.** Octets that hold the field are sealed, whatever the field held, and
nothing but the field changes. A datagram is never sealed with a field of zero. -/
theorem seal_verifies (source dest : Ipv4) (b : Bytes) :
    (ipv4Offset + 2 ≤ b.length → ∃ sealed, sealIpv4? b = .ok sealed ∧
      verifyIpv4 sealed = true ∧ AgreeOutside ipv4Offset b sealed) ∧
    (icmpOffset + 2 ≤ b.length → ∃ sealed, sealIcmp? b = .ok sealed ∧
      verifyIcmp sealed = true ∧ AgreeOutside icmpOffset b sealed) ∧
    (udpOffset + 2 ≤ b.length → b.length < 65536 → ∃ sealed, sealUdp? source dest b = .ok sealed ∧
      verifyUdp source dest sealed = true ∧ AgreeOutside udpOffset b sealed ∧
      wordAt sealed udpOffset ≠ 0) := by
  refine ⟨fun long => ?_, fun long => ?_, fun long fits => ?_⟩
  · refine ⟨sealIpv4 b, if_pos long, verifyIpv4_sealIpv4 long, ?_⟩
    rw [sealIpv4, store_store long]
    exact agreeOutside_store long _
  · refine ⟨sealIcmp b, if_pos long, verifyIcmp_sealIcmp long, ?_⟩
    rw [sealIcmp, store_store long]
    exact agreeOutside_store long _
  · refine ⟨sealUdp source dest b, if_pos long, verifyUdp_sealUdp source dest long fits, ?_⟩
    obtain ⟨w, nonzero, sealed⟩ := sealUdp_eq_store source dest long
    rw [sealed, wordAt_store long]
    exact ⟨agreeOutside_store long w, nonzero⟩

/-- A datagram of odd length whose other words leave nothing to complete. -/
def evenedOut : Bytes := [0, 9, 0, 7, 0, 13, 0xaa, 0xbb, 1, 2, 231, 183, 3]

/-- Any octets that have room for a checksum can be sealed. Here the words of a datagram sum up to
nothing, so that all ones are stored. -/
theorem seal_verifies_evenedOut :
    ((ipv4Offset + 2 ≤ evenedOut.length ∧ icmpOffset + 2 ≤ evenedOut.length) ∧
      udpOffset + 2 ≤ evenedOut.length ∧ evenedOut.length < 65536) ∧
    (∃ sealed, sealIpv4? evenedOut = .ok sealed ∧ verifyIpv4 sealed = true) ∧
    (∃ sealed, sealIcmp? evenedOut = .ok sealed ∧ verifyIcmp sealed = true) ∧
    ∃ sealed, sealUdp? ⟨10, 0, 0, 9⟩ ⟨10, 0, 0, 2⟩ evenedOut = .ok sealed ∧
      verifyUdp ⟨10, 0, 0, 9⟩ ⟨10, 0, 0, 2⟩ sealed = true ∧
      sealed = [0, 9, 0, 7, 0, 13, 0xff, 0xff, 1, 2, 231, 183, 3] := by
  have holds : (ipv4Offset + 2 ≤ evenedOut.length ∧ icmpOffset + 2 ≤ evenedOut.length) ∧
      udpOffset + 2 ≤ evenedOut.length ∧ evenedOut.length < 65536 := by decide
  obtain ⟨ip, icmp, udp⟩ := seal_verifies ⟨10, 0, 0, 9⟩ ⟨10, 0, 0, 2⟩ evenedOut
  obtain ⟨header, headerSealed, headerVerifies, -⟩ := ip holds.1.1
  obtain ⟨message, messageSealed, messageVerifies, -⟩ := icmp holds.1.2
  obtain ⟨datagram, sealed, verifies, -⟩ := udp holds.2.1 holds.2.2
  refine ⟨holds, ⟨header, headerSealed, headerVerifies⟩, ⟨message, messageSealed, messageVerifies⟩,
    datagram, sealed, verifies, ?_⟩
  have stored : sealUdp? ⟨10, 0, 0, 9⟩ ⟨10, 0, 0, 2⟩ evenedOut =
      .ok [0, 9, 0, 7, 0, 13, 0xff, 0xff, 1, 2, 231, 183, 3] := rfl
  cases sealed.symm.trans stored
  rfl

end PolledNet.Checksum
