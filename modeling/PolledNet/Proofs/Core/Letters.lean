import PolledNet.Arp.Message
import PolledNet.Core.Outbound

/-!
# What stays the same of a packet on its way out

On its way out a packet has its checksums filled in, it is addressed to a station, and it is padded.
What stays the same of it once it has its checksums is its `letter`: all of the frame but the
station that it is addressed to, with the padding.
-/

namespace PolledNet

/-- What stays the same of a frame on its way out: all but the station it is addressed to, padded
to the least length. -/
def Bytes.letter (frame : Bytes) : Bytes :=
  (frame ++ List.replicate (Ethernet.minFrameSize - frame.length) 0).drop 6

namespace Packet

/-- What stays the same of a packet on its way out. -/
def letter (p : Packet) : Bytes := p.data.letter

/-- Padding does not change the letter. -/
theorem letter_padded (p : Packet) : p.padded.letter = p.letter :=
  congrArg (fun q => q.data.drop 6) p.padded_padded

/-- The station addressed is no part of the letter. -/
theorem letter_addressedTo (p : Packet) (m : Mac) : (p.addressedTo m).letter = p.letter := by
  have six : m.octets.length = 6 := rfl
  have least : Ethernet.minFrameSize = 60 := rfl
  unfold letter Bytes.letter addressedTo withDest Bytes.overwrite
  simp only [List.take_zero, List.nil_append, Nat.zero_add, List.length_append, List.length_drop,
    six, least, List.append_assoc]
  rw [List.drop_append_of_le_length (Nat.le_of_eq six.symm), List.drop_of_length_le (by omega)]
  by_cases long : 6 ≤ p.data.length
  · rw [List.drop_append_of_le_length long, List.nil_append]
    congr 3
    omega
  · rw [List.drop_of_length_le (by omega), List.drop_append, List.drop_of_length_le (by omega)]
    simp only [List.nil_append, List.drop_replicate]
    congr 1
    omega

/-- The packet with its checksums, as it is sent. -/
def sealed (p : Packet) : Packet :=
  match OutboundHeader.read? p with
  | none => p
  | some header => header.sealPacket p

/-- A packet is sent on with its checksums, and perhaps addressed. -/
theorem letter_of_disposition {p q : Packet} {iface : InterfaceConfig}
    (leaves : p.disposition iface = .send q ∨ ∃ hop, p.disposition iface = .resolve hop q) :
    q.letter = p.sealed.letter := by
  unfold disposition at leaves
  unfold sealed
  cases read : OutboundHeader.read? p with
  | none => simp [read] at leaves
  | some header =>
    simp only [read] at leaves
    dsimp only
    split at leaves
    · simp at leaves
    · split at leaves
      · simp only [Disposition.send.injEq, reduceCtorEq, exists_const, or_false] at leaves
        rw [leaves]
      · split at leaves
        · simp only [Disposition.send.injEq, reduceCtorEq, exists_const, or_false] at leaves
          rw [← leaves, letter_addressedTo]
        · split at leaves
          · simp at leaves
          · split at leaves
            · simp at leaves
            · simp only [reduceCtorEq, Disposition.resolve.injEq, exists_and_right, false_or]
                at leaves
              rw [← leaves.2]
              rfl

/-- An IPv4 packet: its frame says so, and the datagram is behind the Ethernet header. -/
structure IsIpv4 (p : Packet) : Prop where
  type : p.ethertype? = .ok Ethernet.typeIpv4
  behind : Ethernet.headerSize ≤ p.offsets.network

/-- The frame of an IPv4 packet is long enough to say so, and the low octet of its type is not that
of ARP. -/
theorem IsIpv4.typeOctet {p : Packet} (ipv4 : p.IsIpv4) :
    Ethernet.headerSize ≤ p.data.length ∧ p.data[13]? ≠ some 6 := by
  have type := ipv4.type
  unfold ethertype? Bytes.octet? at type
  cases high : p.data[12]? with
  | none => simp [high, bind, Except.bind] at type
  | some hi =>
    cases low : p.data[13]? with
    | none => simp [high, low, bind, Except.bind] at type
    | some lo =>
      simp only [high, low, bind, Except.bind, pure, Except.pure, Except.ok.injEq] at type
      refine ⟨(List.getElem?_eq_some_iff.mp low).1, ?_⟩
      rintro ⟨⟩
      have value := congrArg UInt16.toNat type
      have most := hi.toNat_lt
      simp only [word16, UInt16.toNat_ofNat', show (6 : UInt8).toNat = 6 from rfl,
        show Ethernet.typeIpv4.toNat = 2048 from rfl] at value
      omega

/-- Filling in the checksums leaves the Ethernet header alone. -/
theorem IsIpv4.take_sealed {p : Packet} (ipv4 : p.IsIpv4) :
    p.sealed.data.take Ethernet.headerSize = p.data.take Ethernet.headerSize := by
  unfold sealed
  split
  · rfl
  · have long := ipv4.typeOctet.1
    have behind := ipv4.behind
    simp only [OutboundHeader.sealPacket, List.append_assoc]
    rw [List.take_append_of_le_length (by rw [List.length_take]; omega), List.take_take,
      Nat.min_eq_left behind]

end Packet

/-- The letter of no ARP message. -/
def Bytes.NotArp (letter : Bytes) : Prop :=
  ∀ (m : ArpMessage) (dest : Mac), (m.packet dest).letter ≠ letter

/-- The low octet of a frame's type, read off its letter. -/
theorem Bytes.getElem?_letter {frame : Bytes} (long : Ethernet.headerSize ≤ frame.length) :
    frame.letter[7]? = frame[13]? := by
  have bound : 13 < frame.length := long
  rw [letter, List.getElem?_drop, List.getElem?_append_left bound]

/-- An IPv4 packet is no ARP message, sealed or not. -/
theorem Packet.IsIpv4.notArp {p : Packet} (ipv4 : p.IsIpv4) : p.sealed.letter.NotArp := by
  intro m dest same
  have whole : Ethernet.headerSize ≤ (m.packet dest).data.length := show 14 ≤ 42 by decide
  have arp : (m.packet dest).letter[7]? = some 6 := by
    rw [letter, Bytes.getElem?_letter whole]
    show some Ethernet.typeArp.toUInt8 = some 6
    decide
  obtain ⟨long, other⟩ := ipv4.typeOctet
  have kept := congrArg List.length ipv4.take_sealed
  have short : Ethernet.headerSize ≤ p.sealed.data.length := by
    rw [List.length_take, List.length_take] at kept
    omega
  have octet : p.sealed.data[13]? = p.data[13]? := by
    have thirteen : 13 < Ethernet.headerSize := by decide
    rw [← List.getElem?_take_of_lt thirteen, ipv4.take_sealed, List.getElem?_take_of_lt thirteen]
  rw [same, letter, Bytes.getElem?_letter short, octet] at arp
  exact other arp

end PolledNet
