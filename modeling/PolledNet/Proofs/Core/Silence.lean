import PolledNet.Proofs.Access.Outbound
import PolledNet.Proofs.Core.Ownership
import PolledNet.Proofs.Core.Traffic

/-!
# Sending without an address

While the interface has no address, only datagrams from `unconfiguredPort` may be sent. A frame that
carries any other IPv4 packet is `Loud`. Whether it is can be read off its letter
(`Bytes.Loud.of_letter`), so that it stays the same on the way out, when checksums are filled in, a
station is addressed and padding is added.

The core looks at this once, when a packet is given to it (`keeps_transmitIpv4_of_loud`). So no loud
packet comes in while there is no address; but one that waits, in the backlog or for its next hop,
is not looked at again. `taken_run`: while there is no address, the device takes no loud frame but
those that waited before, and each of these at most once.
-/

namespace PolledNet

/-! ## What a frame says -/

namespace Bytes

/-- The octet of a frame at a position. Behind its end there are zeros, as in its padding. -/
def octetAt (frame : Bytes) (i : Nat) : UInt8 := frame.getD i 0

/-- The word of a frame at a position. -/
def wordAt (frame : Bytes) (i : Nat) : UInt16 := word16 (frame.octetAt i) (frame.octetAt (i + 1))

/-- Where the datagram in an IPv4 frame has its transport header. -/
def transportAt (frame : Bytes) : Nat :=
  Ethernet.headerSize + (frame.octetAt Ethernet.headerSize).toNat % 16 * 4

/-- A frame that carries a UDP datagram from a port. -/
structure From (port : UInt16) (frame : Bytes) : Prop where
  udp : frame.octetAt (Ethernet.headerSize + 9) = Ip.udp
  port : frame.wordAt frame.transportAt = port

/-- A frame that carries an IPv4 packet, but none that may be sent without an address. -/
structure Loud (frame : Bytes) : Prop where
  ipv4 : frame.wordAt 12 = Ethernet.typeIpv4
  other : ¬ frame.From unconfiguredPort

/-- Whether a frame comes from a port can be computed. -/
instance (port : UInt16) (frame : Bytes) : Decidable (frame.From port) :=
  decidable_of_iff (frame.octetAt (Ethernet.headerSize + 9) = Ip.udp ∧
    frame.wordAt frame.transportAt = port) ⟨fun h => ⟨h.1, h.2⟩, fun h => ⟨h.udp, h.port⟩⟩

/-- Whether a frame is loud can be computed. -/
instance (frame : Bytes) : Decidable frame.Loud :=
  decidable_of_iff (frame.wordAt 12 = Ethernet.typeIpv4 ∧ ¬ frame.From unconfiguredPort)
    ⟨fun h => ⟨h.1, h.2⟩, fun h => ⟨h.ipv4, h.other⟩⟩

variable {frame frame' : Bytes}

/-- Behind a front, positions count on. -/
theorem octetAt_drop (frame : Bytes) (n i : Nat) :
    octetAt (frame.drop n) i = frame.octetAt (n + i) := by
  simp [octetAt]

/-- All of a frame but the station addressed can be read off its letter. -/
theorem octetAt_letter (frame : Bytes) (i : Nat) :
    frame.letter.octetAt i = frame.octetAt (6 + i) := by
  rw [letter, octetAt_drop, octetAt, octetAt]
  simp only [List.getD_eq_getElem?_getD, List.getElem?_append, List.getElem?_replicate]
  split
  · rfl
  · rename_i behind
    rw [List.getElem?_eq_none (Nat.le_of_not_lt behind)]
    split <;> rfl

/-- Frames with the same letter are the same behind the station addressed, up to padding. -/
theorem octetAt_of_letter (same : frame.letter = frame'.letter) {i : Nat} (behind : 6 ≤ i) :
    frame.octetAt i = frame'.octetAt i := by
  obtain ⟨i, rfl⟩ := Nat.exists_eq_add_of_le behind
  rw [← octetAt_letter, ← octetAt_letter, same]

/-- Frames with the same letter have the same words behind the station addressed. -/
theorem wordAt_of_letter (same : frame.letter = frame'.letter) {i : Nat} (behind : 6 ≤ i) :
    frame.wordAt i = frame'.wordAt i := by
  rw [wordAt, wordAt, octetAt_of_letter same behind, octetAt_of_letter same (by omega)]

/-- The port that a frame comes from is part of its letter. -/
theorem From.of_letter {port : UInt16} (same : frame.letter = frame'.letter)
    (sent : frame.From port) : frame'.From port := by
  have start : frame.transportAt = frame'.transportAt := by
    rw [transportAt, transportAt, octetAt_of_letter same (by decide)]
  have behind : 6 ≤ frame.transportAt := Nat.le_add_right_of_le (by decide)
  have udp : frame.octetAt (Ethernet.headerSize + 9) = frame'.octetAt (Ethernet.headerSize + 9) :=
    octetAt_of_letter same (by decide)
  refine ⟨udp.symm.trans sent.udp, ?_⟩
  rw [← start, ← wordAt_of_letter same behind]
  exact sent.port

/-- Whether a frame is loud can be told from its letter. -/
theorem Loud.of_letter (same : frame.letter = frame'.letter) (loud : frame.Loud) : frame'.Loud where
  ipv4 := (wordAt_of_letter same.symm (by decide : 6 ≤ 12)).trans loud.ipv4
  other sent := loud.other (sent.of_letter same.symm)

/-- No loud frame has the letter of an ARP message. -/
theorem Loud.notArp (loud : frame.Loud) : frame.letter.NotArp := by
  intro m dest same
  have arp : (m.packet dest).data.wordAt 12 = Ethernet.typeArp := word16_octets16 _
  have message : (m.packet dest).data.Loud := loud.of_letter same.symm
  exact absurd (arp.symm.trans message.ipv4) (by decide)

/-- Octets with the same start are the same there. -/
theorem octetAt_of_take {b b' : Bytes} {n i : Nat} (start : b.take n = b'.take n) (before : i < n) :
    b.octetAt i = b'.octetAt i := by
  simp only [octetAt, List.getD_eq_getElem?_getD]
  rw [← List.getElem?_take_of_lt before, start, List.getElem?_take_of_lt before]

/-- Octets that start alike and are as long as one another read alike in front of others. -/
theorem octetAt_append {b b' : Bytes} {n i : Nat} (start : b.take n = b'.take n)
    (length : b.length = b'.length) (before : i < n) (rest : Bytes) :
    octetAt (b ++ rest) i = octetAt (b' ++ rest) i := by
  simp only [octetAt, List.getD_eq_getElem?_getD, List.getElem?_append, length]
  split
  · rw [← List.getElem?_take_of_lt before, start, List.getElem?_take_of_lt before]
  · rfl

/-- The type of a packet that was read is the one its frame shows. -/
theorem wordAt_of_ethertype? {p : Packet} {type : UInt16} (read : p.ethertype? = .ok type) :
    p.data.wordAt 12 = type := by
  unfold Packet.ethertype? Bytes.octet? at read
  cases high : p.data[12]? with
  | none => simp [high, bind, Except.bind] at read
  | some hi =>
    cases low : p.data[13]? with
    | none => simp [high, low, bind, Except.bind] at read
    | some lo =>
      simp only [high, low, bind, Except.bind, pure, Except.pure, Except.ok.injEq] at read
      simp [wordAt, octetAt, high, low, read]

end Bytes

/-! ## Sealing -/

namespace Checksum

variable {b : Bytes} {offset : Nat}

/-- A checksum that is stored leaves what stands before it. -/
theorem take_store (inside : offset ≤ b.length) (w : UInt16) {n : Nat} (before : n ≤ offset) :
    (store b offset w).take n = b.take n := by
  rw [store, Bytes.overwrite, List.append_assoc, List.take_append_of_le_length, List.take_take,
    Nat.min_eq_left before]
  rw [List.length_take]
  omega

/-- Sealing leaves alone what precedes the checksum. -/
theorem take_seal (checksum : Bytes → UInt16) (holds : offset + 2 ≤ b.length) {n : Nat}
    (before : n ≤ offset) :
    (store (store b offset 0) offset (checksum (store b offset 0))).take n = b.take n := by
  rw [take_store (by rw [length_store holds]; omega) _ before, take_store (by omega) _ before]

end Checksum

namespace OutboundHeader

variable {h : OutboundHeader} {p : Packet}

/-- The ports of a UDP datagram stand before its checksum. -/
theorem take_sealTransport (udp : h.protocol = Ip.udp) (transport : Bytes) :
    (h.sealTransport transport).take 4 = transport.take 4 := by
  have notIcmp : ¬ (h.protocol = Ip.icmp ∧ Icmp.headerSize ≤ transport.length) := by
    rw [udp]
    exact fun icmp => absurd icmp.1 (by decide)
  unfold sealTransport
  rw [if_neg notIcmp]
  split
  · rename_i long
    exact Checksum.take_seal (Checksum.udpChecksum h.source h.dest)
      (Nat.le_trans (by decide : Checksum.udpOffset + 2 ≤ 8) long.2) (by decide)
  · rfl

/-- What a header that was read says stands in the frame. -/
theorem octets_of_read? (read : read? p = some h) :
    h.protocol = p.data.octetAt (p.offsets.network + 9) ∧
      h.headerLength = (p.data.octetAt p.offsets.network).toNat % 16 * 4 := by
  have protocol := Bytes.octetAt_drop p.data p.offsets.network 9
  have words := Bytes.octetAt_drop p.data p.offsets.network 0
  rw [Nat.add_zero] at words
  rw [← protocol, ← words]
  unfold read? at read
  split at read
  · rename_i eq
    dsimp only at read
    split at read
    · cases read
    · cases read
      rw [eq]
      exact ⟨rfl, rfl⟩
  · cases read

/-- The source port that is read from the headers is the one the datagram is from. -/
theorem from_of_sourcePort? (behind : p.offsets.network = Ethernet.headerSize)
    (read : read? p = some h) {port : UInt16} (source : h.sourcePort? p = some port) :
    p.data.From port := by
  obtain ⟨protocol, words⟩ := octets_of_read? read
  rw [behind] at protocol words
  unfold sourcePort? at source
  split at source
  · rename_i udp
    have first := Bytes.octetAt_drop p.data (p.offsets.network + h.headerLength) 0
    have second := Bytes.octetAt_drop p.data (p.offsets.network + h.headerLength) 1
    have start : p.data.transportAt = p.offsets.network + h.headerLength := by
      rw [Bytes.transportAt, behind, words]
    split at source
    · rename_i eq
      rw [eq] at first second
      rw [Option.some.injEq] at source
      refine ⟨protocol.symm.trans udp, ?_⟩
      rw [start, Bytes.wordAt, ← second, ← source]
      exact congrArg (word16 · _) first.symm
    · cases source
  · cases source

section Sealed

variable (fits : h.Fits p)

include fits

/-- The header lies inside the packet. -/
theorem length_header :
    ((p.data.drop p.offsets.network).take h.headerLength).length = h.headerLength := by
  obtain ⟨header, total, frame⟩ := fits
  rw [List.length_take, List.length_drop]
  omega

/-- A header is as long when it is sealed. -/
theorem length_sealedHeader :
    (Checksum.sealIpv4 ((p.data.drop p.offsets.network).take h.headerLength)).length =
      h.headerLength := by
  have long : Checksum.ipv4Offset + 2 ≤ h.headerLength := Nat.le_trans (by decide) fits.header
  have length := length_header fits
  exact (Checksum.length_seal Checksum.ofBytes (length.symm ▸ long)).trans length

/-- What stands before the header is as long as the header is far. -/
theorem length_front : (p.data.take p.offsets.network).length = p.offsets.network := by
  obtain ⟨header, total, frame⟩ := fits
  exact List.length_take_of_le (by omega)

/-- Sealing leaves alone the front of the frame, up to the checksum of the IPv4 header. -/
theorem take_sealPacket :
    (h.sealPacket p).data.take (p.offsets.network + Checksum.ipv4Offset) =
      p.data.take (p.offsets.network + Checksum.ipv4Offset) := by
  have long : Checksum.ipv4Offset + 2 ≤ h.headerLength := Nat.le_trans (by decide) fits.header
  have front := length_front fits
  have kept := Checksum.take_seal Checksum.ofBytes ((length_header fits).symm ▸ long)
    (Nat.le_refl Checksum.ipv4Offset)
  rw [List.take_take, Nat.min_eq_left (Nat.le_of_add_right_le long)] at kept
  rw [sealPacket, List.append_assoc, List.append_assoc, List.take_add, List.take_add,
    List.take_left' front, List.drop_left' front,
    List.take_append_of_le_length ((length_sealedHeader fits).symm ▸ Nat.le_of_add_right_le long)]
  exact congrArg _ kept

/-- Sealing leaves the front of a packet, up to the checksum of its header. -/
theorem octetAt_sealPacket_front {i : Nat}
    (before : i < p.offsets.network + Checksum.ipv4Offset) :
    (h.sealPacket p).data.octetAt i = p.data.octetAt i :=
  Bytes.octetAt_of_take (take_sealPacket fits) before

/-- The frame is as long as it was. -/
theorem length_sealPacket : (h.sealPacket p).data.length = p.data.length := by
  have front := length_front fits
  have header := length_sealedHeader fits
  obtain ⟨-, total, frame⟩ := fits
  simp only [sealPacket, List.length_append, front, header, h.length_sealTransport,
    List.length_drop, List.length_take]
  omega

/-- Sealing leaves alone the ports of a UDP datagram. -/
theorem octetAt_sealPacket (udp : h.protocol = Ip.udp) {i : Nat} (first : i < 4) :
    (h.sealPacket p).data.octetAt (p.offsets.network + h.headerLength + i) =
      p.data.octetAt (p.offsets.network + h.headerLength + i) := by
  have front : (p.data.take p.offsets.network ++
      Checksum.sealIpv4 ((p.data.drop p.offsets.network).take h.headerLength)).length =
        p.offsets.network + h.headerLength := by
    rw [List.length_append, length_front fits, length_sealedHeader fits]
  have behind : (p.data.drop p.offsets.network).drop h.headerLength =
      ((p.data.drop p.offsets.network).take h.totalLength).drop h.headerLength ++
        (p.data.drop p.offsets.network).drop h.totalLength := by
    have whole :=
      take_append_drop_take_append_drop (b := p.data.drop p.offsets.network) fits.total
    have parts := List.take_append_drop h.headerLength (p.data.drop p.offsets.network)
    exact List.append_cancel_left (parts.trans whole.symm)
  rw [List.drop_drop] at behind
  rw [← Bytes.octetAt_drop, ← Bytes.octetAt_drop, behind, sealPacket,
    List.append_assoc _ (h.sealTransport _), List.drop_left' front]
  exact Bytes.octetAt_append (take_sealTransport udp _) (h.length_sealTransport _) first _

/-- A datagram is from the same port when its checksums are filled in. -/
theorem from_sealPacket (behind : p.offsets.network = Ethernet.headerSize) (read : read? p = some h)
    {port : UInt16} (sent : p.data.From port) : (h.sealPacket p).data.From port := by
  obtain ⟨protocol, words⟩ := octets_of_read? read
  rw [behind] at protocol words
  have kept {i : Nat} (before : i < Ethernet.headerSize + Checksum.ipv4Offset) :
      (h.sealPacket p).data.octetAt i = p.data.octetAt i :=
    octetAt_sealPacket_front fits (behind.symm ▸ before)
  have start : (h.sealPacket p).data.transportAt = p.data.transportAt := by
    rw [Bytes.transportAt, Bytes.transportAt, kept (by decide)]
  have place : p.data.transportAt = p.offsets.network + h.headerLength := by
    rw [Bytes.transportAt, behind, words]
  have udp : h.protocol = Ip.udp := protocol.trans sent.udp
  have high := octetAt_sealPacket fits udp (by decide : 0 < 4)
  have low := octetAt_sealPacket fits udp (by decide : 1 < 4)
  rw [Nat.add_zero, ← place] at high
  rw [← place] at low
  refine ⟨(kept (by decide)).trans sent.udp, ?_⟩
  rw [start, Bytes.wordAt, high, low]
  exact sent.port

end Sealed

end OutboundHeader

namespace Packet

variable {p : Packet}

/-- Sealing does not change the length of a packet. -/
theorem length_sealed (p : Packet) : p.sealed.data.length = p.data.length := by
  unfold sealed
  split
  · rfl
  · rename_i header read
    exact OutboundHeader.length_sealPacket (OutboundHeader.fits_of_read? read)

/-- Filling in the checksums leaves alone what precedes them. -/
theorem octetAt_sealed (behind : p.offsets.network = Ethernet.headerSize) {i : Nat}
    (before : i < Ethernet.headerSize + Checksum.ipv4Offset) :
    p.sealed.data.octetAt i = p.data.octetAt i := by
  unfold sealed
  split
  · rfl
  · rename_i header read
    rw [← behind] at before
    exact OutboundHeader.octetAt_sealPacket_front (OutboundHeader.fits_of_read? read) before

end Packet

/-! ## One packet -/

/-- Without an address, only what is from `unconfiguredPort` may leave. -/
theorem OutboundHeader.sourcePort?_of_mayLeave {h : OutboundHeader} {p : Packet}
    {iface : InterfaceConfig} (down : iface.isConfigured = false)
    (may : h.mayLeave p iface = true) : h.sourcePort? p = some unconfiguredPort := by
  simpa [mayLeave, down] using may

/-- What is not turned away is from there, with its checksums. -/
theorem Packet.from_of_disposition {p q : Packet} {iface : InterfaceConfig}
    (down : iface.isConfigured = false) (behind : p.offsets.network = Ethernet.headerSize)
    (leaves : p.disposition iface = .send q ∨ ∃ hop, p.disposition iface = .resolve hop q) :
    p.sealed.data.From unconfiguredPort := by
  unfold disposition at leaves
  unfold sealed
  cases read : OutboundHeader.read? p with
  | none => simp [read] at leaves
  | some header =>
    simp only [read] at leaves
    split at leaves
    · simp at leaves
    · rename_i may
      have source := OutboundHeader.sourcePort?_of_mayLeave (h := header) (p := p) down
        (by simpa using may)
      exact OutboundHeader.from_sealPacket (OutboundHeader.fits_of_read? read) behind read
        (OutboundHeader.from_of_sourcePort? behind read source)

namespace Core

variable {ω : Type}

section Transmit

variable {d : Device ω} {c : Core (Tapped ω)} {p : Packet}

/-- **A loud packet does not come in** while there is no address. -/
theorem keeps_transmitIpv4_of_loud (down : c.iface.isConfigured = false)
    (behind : p.offsets.network = Ethernet.headerSize) (loud : p.sealed.data.Loud)
    (letter : Bytes) : c.Keeps letter (c.transmitIpv4 p).2 := by
  cases route : p.disposition c.iface with
  | barred => rw [transmitIpv4_eq, route]; exact fun place => by cases place <;> rfl
  | refused cause => rw [transmitIpv4_eq, route]; exact fun _ => rfl
  | send q => exact absurd (Packet.from_of_disposition down behind (.inl route)) loud.other
  | resolve hop q =>
    exact absurd (Packet.from_of_disposition down behind (.inr ⟨hop, route⟩)) loud.other

end Transmit

end Core

/-! ## What is done without an address -/

/-- The world leaves the record alone. -/
def Tapped.Honest {ω : Type} (f : Tapped ω → Tapped ω) : Prop := ∀ t, (f t).taken = t.taken

/-- What a stack and its owner do, as long as nobody sends a loud frame past the routing. -/
structure Act.Routed {ω : Type} (World : (ω → ω) → Prop) (a : Act ω) : Prop
    extends a.Within World where
  frame : ∀ p, a = .sendFrame p → ¬ p.data.Loud
  packet : ∀ p, a = .transmit p → p.offsets.network = Ethernet.headerSize

namespace Core

variable {ω : Type}

/-- Routed acts are enough for services and passes. -/
theorem fullRepertoire_routed {World : (ω → ω) → Prop} : FullRepertoire (Act.Routed World) where
  tell _ := ⟨⟨trivial, nofun⟩, nofun, nofun⟩
  count same := ⟨⟨same, nofun⟩, nofun, nofun⟩
  identify := ⟨⟨trivial, nofun⟩, nofun, nofun⟩
  learn _ _ := ⟨⟨trivial, nofun⟩, nofun, nofun⟩
  sweep := ⟨⟨trivial, nofun⟩, nofun, nofun⟩
  transmit behind := ⟨⟨trivial, nofun⟩, nofun, fun _ eq => by cases eq; exact behind⟩
  sendFrame read other := by
    refine ⟨⟨trivial, nofun⟩, ?_, nofun⟩
    rintro _ ⟨⟩ loud
    exact other ((Bytes.wordAt_of_ethertype? read).symm.trans loud.ipv4)
  configure _ := ⟨⟨trivial, nofun⟩, nofun, nofun⟩
  retry := ⟨⟨trivial, nofun⟩, nofun, nofun⟩
  flush := ⟨⟨trivial, nofun⟩, nofun, nofun⟩
  receive := ⟨⟨trivial, nofun⟩, nofun, nofun⟩
  service := ⟨⟨trivial, nofun⟩, nofun, nofun⟩

section Down

variable {d : Device ω} {c c' : Core (Tapped ω)} {frame : Bytes}

/-- **Without an address, no act makes more of a loud packet.** -/
theorem copies_act_le_of_down (tapped : c.device = d.tapped)
    (down : c.iface.isConfigured = false) (loud : frame.Loud) {a : Act (Tapped ω)}
    (routed : a.Routed Tapped.Honest) : (c.act a).copies frame.letter ≤ c.copies frame.letter := by
  have notArp := loud.notArp
  cases a with
  | sendFrame p =>
    have other : p.letter ≠ frame.letter :=
      fun same => routed.frame p rfl (loud.of_letter same.symm)
    exact copies_act_le tapped notArp (a := .sendFrame p) other
  | transmit p =>
    by_cases same : p.sealed.letter = frame.letter
    · -- it is turned away
      have sealed : p.sealed.data.Loud := loud.of_letter same.symm
      exact Nat.le_of_eq
        (keeps_transmitIpv4_of_loud down (routed.packet p rfl) sealed frame.letter).copies
    · exact copies_act_le tapped notArp (a := .transmit p) same
  | elapse f => exact copies_act_le tapped notArp (a := .elapse f) (routed.world f rfl)
  | tell | count | identify | learn | sweep | retry | flush | receive | service | configure =>
    exact copies_act_le tapped notArp trivial

end Down

/-! ## Runs -/

/-- The core after acts, one after the other. -/
def run (c : Core ω) (acts : List (Act ω)) : Core ω := acts.foldl act c

/-- The interface has no address before, between and after the acts. -/
def Down (c : Core ω) (acts : List (Act ω)) : Prop :=
  ∀ first, first <+: acts → (c.run first).iface.isConfigured = false

section Runs

variable {Kind : Act ω → Prop} {c c' : Core ω} {acts : List (Act ω)}

/-- Acts are done one after the other. -/
theorem run_append (c : Core ω) (first second : List (Act ω)) :
    c.run (first ++ second) = (c.run first).run second := List.foldl_append

/-- What acts of a kind come to is what they lead to. -/
theorem leads_run (kind : ∀ a ∈ acts, Kind a) : Leads Kind c (c.run acts) := by
  induction acts generalizing c with
  | nil => exact .refl c
  | cons a rest ih =>
    exact (Leads.one (kind a List.mem_cons_self)).trans
      (ih fun b mem => kind b (List.mem_cons_of_mem a mem))

/-- What acts lead to is what comes of a list of them. -/
theorem Leads.exists_run (leads : Leads Kind c c') :
    ∃ acts, (∀ a ∈ acts, Kind a) ∧ c' = c.run acts := by
  induction leads with
  | refl => exact ⟨[], nofun, rfl⟩
  | tail _ step ih =>
    obtain ⟨acts, kind, rfl⟩ := ih
    obtain ⟨a, last, rfl⟩ := step
    refine ⟨acts ++ [a], ?_, (run_append c acts [a]).symm⟩
    intro b mem
    rcases List.mem_append.mp mem with before | now
    · exact kind b before
    · rw [List.mem_singleton.mp now]
      exact last

/-- An interface that has no address on the way has none at the start. -/
theorem Down.head (down : c.Down acts) : c.iface.isConfigured = false :=
  down [] List.nil_prefix

/-- An interface that has no address on the way has none after the first act. -/
theorem Down.tail {a : Act ω} {rest : List (Act ω)} (down : c.Down (a :: rest)) :
    (c.act a).Down rest :=
  fun first initial => down (a :: first) ((List.prefix_cons_inj a).mpr initial)

/-- An interface stays without an address as long as nobody sets one. -/
theorem down_of_keepsAddress (down : c.iface.isConfigured = false)
    (keeps : ∀ a ∈ acts, a.KeepsAddress) : c.Down acts := by
  intro first initial
  have leads : Leads Act.KeepsAddress c (c.run first) :=
    leads_run fun a mem => keeps a (initial.subset mem)
  rw [leads.iface fun _ keeps => keeps]
  exact down

end Runs

/-! ## The record -/

section Taken

variable {d : Device ω} {c c' : Core (Tapped ω)} {trace : List Passage}

/-- To send a frame adds to the record, if anything. -/
theorem Sent.taken_grows (tapped : c.device = d.tapped) {p : Packet}
    {answer : Except NetError Unit} (sent : Sent c p answer c') : c.hw.taken <+: c'.hw.taken := by
  cases sent with
  | taken hw stats transmitted =>
    rw [tapped] at transmitted
    exact ⟨[p.padded.data], (Device.taken_of_ok transmitted).symm⟩
  | waits hw stats notTaken => exact (notTaken.taken tapped).symm ▸ List.prefix_rfl
  | lost hw stats notTaken e => exact (notTaken.taken tapped).symm ▸ List.prefix_rfl

/-- The record of what was taken only grows when a frame is offered from the backlog. -/
theorem taken_release (tapped : c.device = d.tapped) (p : Packet) (rest : List Packet) :
    c.hw.taken <+: (c.release p rest).hw.taken := by
  unfold release handOver
  rw [tapped]
  cases transmitted : d.tapped.transmit p.data c.hw with
  | mk answer hw =>
    cases answer with
    | ok => exact ⟨[p.data], (Device.taken_of_ok transmitted).symm⟩
    | error e => exact (Device.taken_of_error transmitted).symm ▸ List.prefix_rfl

/-- The record of what was taken only grows with what passes the outlet. -/
theorem Passes.taken_grows (tapped : c.device = d.tapped) {x : Passage} (passes : c.Passes x c') :
    c.hw.taken <+: c'.hw.taken := by
  cases passes with
  | @taken p _ sent | @queued p _ sent | @refused p _ _ sent =>
    have same := (c.sendFrame_sent p).taken_grows tapped
    rwa [sent] at same
  | offered => exact taken_release tapped _ _

/-- **The record only grows.** -/
theorem Traffic.taken_grows (tapped : c.device = d.tapped)
    (traffic : Traffic Tapped.Honest c trace c') : c.hw.taken <+: c'.hw.taken := by
  induction traffic with
  | nil => exact List.prefix_rfl
  | quiet _ same ih => exact same.hw ▸ ih
  | @hardware _ c' _ before step ih =>
    have device := before.sameSetup.device.trans tapped
    cases step with
    | receive => rw [device]; exact ih
    | service => rw [device]; exact ih
    | elapse world => exact (world c'.hw).symm ▸ ih
  | pass before passes ih =>
    exact ih.trans (passes.taken_grows (before.sameSetup.device.trans tapped))

end Taken

/-! ## Silence -/

section Silence

variable {d : Device ω} {c : Core (Tapped ω)} {acts : List (Act (Tapped ω))}

/-- How many packets with a letter wait, for the device or for their next hop. -/
def heldBack (c : Core (Tapped ω)) (letter : Bytes) : Nat :=
  c.held letter .backlog + c.held letter .parked

/-- **No packet with a loud letter comes to be** while there is no address. -/
theorem copies_run_le (tapped : c.device = d.tapped) {frame : Bytes} (loud : frame.Loud)
    (routed : ∀ a ∈ acts, a.Routed Tapped.Honest) (down : c.Down acts) :
    (c.run acts).copies frame.letter ≤ c.copies frame.letter := by
  induction acts generalizing c with
  | nil => exact Nat.le_refl _
  | cons a rest ih =>
    have first := copies_act_le_of_down tapped down.head loud (routed a List.mem_cons_self)
    have others := ih ((sameSetup_act a).device.trans tapped)
      (fun b mem => routed b (List.mem_cons_of_mem a mem)) down.tail
    exact Nat.le_trans others first

/-- Nothing with a loud letter waits if nothing loud does. -/
theorem heldBack_of_quiet {frame : Bytes} (quiet : ∀ p ∈ c.backlog ++ c.parked, ¬ p.data.Loud)
    (loud : frame.Loud) : c.heldBack frame.letter = 0 := by
  have none (packets : List Packet) (among : ∀ p ∈ packets, p ∈ c.backlog ++ c.parked) :
      (packets.map Packet.letter).count frame.letter = 0 := by
    refine List.count_eq_zero.mpr fun mem => ?_
    obtain ⟨p, waits, same⟩ := List.mem_map.mp mem
    have again : p.data.Loud := loud.of_letter same.symm
    exact quiet p (among p waits) again
  have backlog := none c.backlog fun _ => List.mem_append_left _
  have parked := none c.parked fun _ => List.mem_append_right _
  exact Nat.add_eq_zero_iff.mpr ⟨backlog, parked⟩

/-- **While there is no address**, the device takes no loud frame more often than it waited at the
start; and if nothing loud waited, then all IPv4 packets that it takes are from
`unconfiguredPort`. -/
theorem taken_run (tapped : c.device = d.tapped) (routed : ∀ a ∈ acts, a.Routed Tapped.Honest)
    (down : c.Down acts) :
    ∃ new, (c.run acts).hw.taken = c.hw.taken ++ new ∧
      (∀ frame : Bytes, frame.Loud →
        (new.map Bytes.letter).count frame.letter ≤ c.heldBack frame.letter) ∧
      ((∀ p ∈ c.backlog ++ c.parked, ¬ p.data.Loud) →
        ∀ frame ∈ new, frame.wordAt 12 = Ethernet.typeIpv4 → frame.From unconfiguredPort) := by
  obtain ⟨trace, traffic⟩ := traffic_of_leads
    ((leads_run (c := c) routed).mono fun _ routed => routed.toWithin)
  obtain ⟨new, grown⟩ := traffic.taken_grows tapped
  have bounded (frame : Bytes) (loud : frame.Loud) :
      (new.map Bytes.letter).count frame.letter ≤ c.heldBack frame.letter := by
    have fewer := copies_run_le tapped loud routed down
    have device : (c.run acts).held frame.letter .device =
        c.held frame.letter .device + (new.map Bytes.letter).count frame.letter := by
      simp only [held, letters, ← grown, List.map_append, List.count_append]
    unfold copies at fewer
    unfold heldBack
    omega
  refine ⟨new, grown.symm, bounded, fun quiet frame mem ipv4 => ?_⟩
  by_contra other
  have loud : frame.Loud := ⟨ipv4, other⟩
  have some := List.count_pos_iff.mpr (List.mem_map_of_mem (f := Bytes.letter) mem)
  have least := bounded frame loud
  rw [heldBack_of_quiet quiet loud] at least
  omega

end Silence

end Core

end PolledNet
