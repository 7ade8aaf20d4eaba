import PolledNet.Core.Outbound
import PolledNet.Proofs.Access.Octets

/-!
# Checked preparation of packets

Before a packet leaves, its headers are read back, its checksums are stored and the address of its
next hop is written into it. A packet whose headers do not fit its frame is refused before anything
behind them is touched, so that any packet can be decided on (`Packet.checkedDisposition_eq`). One
that has to wait for its next hop stays long enough for an address
(`Packet.addressSize_le_of_disposition`).
-/

namespace PolledNet

/-! ## Checksums -/

namespace Checksum

variable {b : Bytes} {offset : Nat}

/-- Stores a word at a position. -/
def checkedStore (b : Bytes) (offset : Nat) (w : UInt16) : Except Fault Bytes :=
  b.replace? offset (offset + 2) (octets16 w)

/-- A checksum is stored where it fits. -/
theorem checkedStore_eq (holds : offset + 2 ≤ b.length) (w : UInt16) :
    checkedStore b offset w = .ok (store b offset w) :=
  Bytes.replace?_eq (Nat.add_sub_cancel_left ..) (Nat.le_add_right ..) holds

/-- Storing a checksum keeps the length. -/
theorem length_store (holds : offset + 2 ≤ b.length) (w : UInt16) :
    (store b offset w).length = b.length :=
  Bytes.length_overwrite holds

/-- Clears the checksum field and stores there the checksum of what results. -/
def checkedSeal (offset : Nat) (checksum : Bytes → UInt16) (b : Bytes) : Except Fault Bytes := do
  let cleared ← checkedStore b offset 0
  checkedStore cleared offset (checksum cleared)

/-- Octets are sealed where a checksum fits. -/
theorem checkedSeal_eq (checksum : Bytes → UInt16) (holds : offset + 2 ≤ b.length) :
    checkedSeal offset checksum b =
      .ok (store (store b offset 0) offset (checksum (store b offset 0))) := by
  rw [checkedSeal, checkedStore_eq holds, ok_bind, checkedStore_eq (by rwa [length_store holds])]

/-- Sealing keeps the length. -/
theorem length_seal (checksum : Bytes → UInt16) (holds : offset + 2 ≤ b.length) :
    (store (store b offset 0) offset (checksum (store b offset 0))).length = b.length := by
  rw [length_store (by rwa [length_store holds]), length_store holds]

/-- The checksum of a UDP datagram whose field is clear. -/
def udpChecksum (source dest : Ipv4) (cleared : Bytes) : UInt16 :=
  let value := ~~~ fold (udpSum source dest cleared)
  if value = 0 then 0xFFFF else value

end Checksum

/-! ## Headers -/

namespace OutboundHeader

variable {h : OutboundHeader} {p : Packet}

/-- The headers and the datagram lie in the frame. -/
structure Fits (h : OutboundHeader) (p : Packet) : Prop where
  header : Ip.headerSize ≤ h.headerLength
  total : h.headerLength ≤ h.totalLength
  frame : p.offsets.network + h.totalLength ≤ p.data.length

/-- Headers that were read lie in the frame, and so does the datagram. -/
theorem fits_of_read? (read : read? p = some h) : h.Fits p := by
  unfold read? at read
  split at read
  · dsimp only at read
    split at read
    · cases read
    · rename_i fit
      cases read
      refine ⟨?_, ?_, ?_⟩ <;> dsimp only <;> omega
  · cases read

/-- Reads the headers back from a packet. -/
def checkedRead (p : Packet) : Except Fault (Option OutboundHeader) :=
  if p.data.length < p.offsets.network + Ip.headerSize then .ok none
  else do
    let ip ← p.data.suffix? p.offsets.network
    let headerLength := (← ip.octet? 0).toNat % 16 * 4
    let totalLength := (← ip.word16? 2).toNat
    if headerLength < Ip.headerSize ∨ totalLength < headerLength ∨
        p.offsets.network + totalLength > p.data.length then return none
    else
      let source ← ip.address? 12
      let dest ← ip.address? 16
      let protocol ← ip.octet? 9
      return some { source, dest, protocol, headerLength, totalLength }

/-- The headers of a packet are read without a fault. -/
theorem checkedRead_eq (p : Packet) : checkedRead p = .ok (read? p) := by
  unfold checkedRead
  have left : (p.data.drop p.offsets.network).length = p.data.length - p.offsets.network :=
    List.length_drop
  by_cases short : p.data.length < p.offsets.network + Ip.headerSize
  · have unread : read? p = none := by
      unfold read?
      split
      · rename_i eq
        rw [eq] at left
        simp only [List.length_cons, Ip.headerSize] at left short
        omega
      · rfl
    rw [if_pos short, unread]
  · rw [if_neg short, Bytes.suffix?_eq (by omega), ok_bind, read?]
    rw [Ip.headerSize] at short
    generalize p.data.drop p.offsets.network = ip at left
    iterate 20
      rcases ip with _ | ⟨_, ip⟩
      · simp only [List.length_cons, List.length_nil] at left
        omega
    simp only [Bytes.word16?, Bytes.address?, Bytes.octet?_cons_zero, Bytes.octet?_cons_succ,
      Nat.reduceAdd, ok_bind, pure_eq_ok]
    exact ite_ok (fun _ => rfl) fun _ => rfl

/-- The UDP port that the packet is sent from. -/
def checkedSourcePort (h : OutboundHeader) (p : Packet) : Except Fault (Option UInt16) := do
  let transport ← p.data.suffix? (p.offsets.network + h.headerLength)
  if h.protocol = Ip.udp ∧ 2 ≤ transport.length then return some (← transport.word16? 0)
  else return none

/-- The source port is read without a fault, if the headers fit. -/
theorem checkedSourcePort_eq (fits : h.Fits p) : h.checkedSourcePort p = .ok (h.sourcePort? p) := by
  have := fits.total
  have := fits.frame
  unfold checkedSourcePort sourcePort?
  rw [Bytes.suffix?_eq (by omega), ok_bind]
  by_cases udp : h.protocol = Ip.udp
  · rw [if_pos udp]
    rcases p.data.drop (p.offsets.network + h.headerLength) with _ | ⟨hi, _ | ⟨lo, rest⟩⟩
    · simp [udp, pure_eq_ok]
    · simp [udp, pure_eq_ok]
    · simp [udp, pure_eq_ok, Bytes.word16?, Bytes.octet?]
  · rw [if_neg udp, if_neg fun both => udp both.1]
    rfl

/-! ## Sealing -/

/-- Fills in the checksum of the transport part, where it is long enough to hold one. -/
def checkedSealTransport (h : OutboundHeader) (transport : Bytes) : Except Fault Bytes :=
  if h.protocol = Ip.icmp ∧ Icmp.headerSize ≤ transport.length then
    Checksum.checkedSeal Checksum.icmpOffset Checksum.ofBytes transport
  else if h.protocol = Ip.udp ∧ Udp.headerSize ≤ transport.length then
    Checksum.checkedSeal Checksum.udpOffset (Checksum.udpChecksum h.source h.dest) transport
  else .ok transport

/-- A transport header is sealed without a fault. -/
theorem checkedSealTransport_eq (h : OutboundHeader) (transport : Bytes) :
    h.checkedSealTransport transport = .ok (h.sealTransport transport) := by
  unfold checkedSealTransport sealTransport
  refine ite_ok (fun icmp => ?_) fun _ => ite_ok (fun udp => ?_) fun _ => rfl
  · exact Checksum.checkedSeal_eq _ (Nat.le_trans (by decide) icmp.2)
  · exact Checksum.checkedSeal_eq _ (Nat.le_trans (by decide) udp.2)

/-- Sealing a transport header keeps the length. -/
theorem length_sealTransport (h : OutboundHeader) (transport : Bytes) :
    (h.sealTransport transport).length = transport.length := by
  unfold sealTransport
  split
  · rename_i icmp
    exact Checksum.length_seal _ (Nat.le_trans (by decide) icmp.2)
  · split
    · rename_i udp
      exact Checksum.length_seal (Checksum.udpChecksum h.source h.dest)
        (Nat.le_trans (by decide) udp.2)
    · rfl

/-- Octets in three parts. -/
theorem take_append_drop_take_append_drop {b : Bytes} {i j : Nat} (le : i ≤ j) :
    b.take i ++ ((b.take j).drop i ++ b.drop j) = b := by
  have first : b.take i = (b.take j).take i := by rw [List.take_take, Nat.min_eq_left le]
  rw [← List.append_assoc, first, List.take_append_drop, List.take_append_drop]

/-- Fills in the checksums. -/
def checkedSealPacket (h : OutboundHeader) (p : Packet) : Except Fault Packet := do
  let start := p.offsets.network
  let data ← p.data.update? start (start + h.headerLength)
    (Checksum.checkedSeal Checksum.ipv4Offset Checksum.ofBytes)
  let data ← data.update? (start + h.headerLength) (start + h.totalLength) h.checkedSealTransport
  return { p with data }

/-- A packet is sealed without a fault, if its headers fit, and keeps its length. -/
theorem checkedSealPacket_eq (fits : h.Fits p) :
    h.checkedSealPacket p = .ok (h.sealPacket p) ∧
      (h.sealPacket p).data.length = p.data.length := by
  obtain ⟨header, total, frame⟩ := fits
  have long : Checksum.ipv4Offset + 2 ≤ h.headerLength := Nat.le_trans (by decide) header
  -- The frame is what precedes the datagram, the header, the transport part, and padding.
  have parts : p.data = p.data.take p.offsets.network ++
      (p.data.drop p.offsets.network).take h.headerLength ++
        (((p.data.drop p.offsets.network).take h.totalLength).drop h.headerLength ++
          (p.data.drop p.offsets.network).drop h.totalLength) := by
    rw [List.append_assoc, take_append_drop_take_append_drop total, List.take_append_drop]
  have length₀ : (p.data.take p.offsets.network).length = p.offsets.network :=
    List.length_take_of_le (by omega)
  have length₁ : ((p.data.drop p.offsets.network).take h.headerLength).length =
      h.headerLength := by
    rw [List.length_take, List.length_drop]
    omega
  have length₂ : (((p.data.drop p.offsets.network).take h.totalLength).drop
      h.headerLength).length = h.totalLength - h.headerLength := by
    rw [List.length_drop, List.length_take, List.length_drop]
    omega
  unfold checkedSealPacket sealPacket
  dsimp only
  generalize p.data.take p.offsets.network = front at parts length₀ ⊢
  generalize (p.data.drop p.offsets.network).take h.headerLength = ip at parts length₁ ⊢
  generalize ((p.data.drop p.offsets.network).take h.totalLength).drop h.headerLength =
    transport at parts length₂ ⊢
  generalize (p.data.drop p.offsets.network).drop h.totalLength = padding at parts ⊢
  have sealed : (Checksum.sealIpv4 ip).length = ip.length :=
    Checksum.length_seal Checksum.ofBytes (length₁ ▸ long)
  have first := Bytes.update?_append front ip (transport ++ padding)
    (Checksum.checkedSeal_eq Checksum.ofBytes (length₁ ▸ long)) sealed
  have second := Bytes.update?_append (front ++ Checksum.sealIpv4 ip) transport padding
    (h.checkedSealTransport_eq transport) (h.length_sealTransport transport)
  rw [← parts, length₀, length₁] at first
  change _ = Except.ok (front ++ Checksum.sealIpv4 ip ++ (transport ++ padding)) at first
  rw [← List.append_assoc (front ++ Checksum.sealIpv4 ip)] at first
  rw [List.length_append, length₀, sealed, length₁, length₂, Nat.add_assoc,
    Nat.add_sub_cancel' total] at second
  refine ⟨?_, ?_⟩
  · rw [first, ok_bind, second]
    rfl
  · rw [parts]
    simp only [List.length_append, sealed, h.length_sealTransport]
    omega

end OutboundHeader

/-! ## What becomes of a packet -/

namespace Packet

variable {p q : Packet}

/-- Octets of the destination address, which a parked packet still has to take. -/
def addressSize : Nat := 6

/-- A frame that holds an IPv4 header holds an address. -/
theorem addressSize_le_of_fits {h : OutboundHeader} (fits : h.Fits p) :
    addressSize ≤ p.data.length := by
  have header := fits.header
  have total := fits.total
  have frame := fits.frame
  simp only [addressSize, Ip.headerSize] at header ⊢
  omega

/-- Writes the destination address for good. -/
def checkedAddressedTo (p : Packet) (m : Mac) : Except Fault Packet := do
  let data ← p.data.replace? 0 addressSize m.octets
  return { p with data, addressed := true }

/-- A packet that has room for a destination is addressed without a fault. -/
theorem checkedAddressedTo_eq (holds : addressSize ≤ p.data.length) (m : Mac) :
    p.checkedAddressedTo m = .ok (p.addressedTo m) := by
  rw [checkedAddressedTo, Bytes.replace?_eq rfl (Nat.zero_le _) holds]
  rfl

/-- Decides what becomes of an outbound IPv4 packet. -/
def checkedDisposition (p : Packet) (iface : InterfaceConfig) : Except Fault Disposition := do
  match ← OutboundHeader.checkedRead p with
  | none => return .refused .malformed
  | some header =>
    let port ← header.checkedSourcePort p
    let configured := iface.isConfigured && !header.source.isUnspecified
    if !(configured || port = some unconfiguredPort) then return .barred
    else
      let p ← header.checkedSealPacket p
      if p.addressed then return .send p
      else if iface.isBroadcast header.dest then
        return .send (← p.checkedAddressedTo Mac.broadcast)
      else
        match iface.routes? with
        | none => return .refused .notConfigured
        | some routes =>
          match routes.nextHop? header.dest with
          | none => return .refused .noRoute
          | some hop => return .resolve hop { p with nextHop := some hop }

/-- **No packet is too short or too crooked to be decided on.** -/
theorem checkedDisposition_eq (p : Packet) (iface : InterfaceConfig) :
    p.checkedDisposition iface = .ok (p.disposition iface) := by
  unfold checkedDisposition disposition
  rw [OutboundHeader.checkedRead_eq, ok_bind]
  cases read : OutboundHeader.read? p with
  | none => rfl
  | some header =>
    have fits := OutboundHeader.fits_of_read? read
    obtain ⟨sealed, length⟩ := OutboundHeader.checkedSealPacket_eq fits
    have holds : addressSize ≤ (header.sealPacket p).data.length :=
      length ▸ addressSize_le_of_fits fits
    dsimp only
    rw [OutboundHeader.checkedSourcePort_eq fits, ok_bind, sealed, ok_bind,
      checkedAddressedTo_eq holds, ok_bind]
    refine ite_ok (fun _ => rfl) fun _ => ite_ok (fun _ => rfl) fun _ => ite_ok (fun _ => rfl)
      fun _ => ?_
    cases iface.routes? with
    | none => rfl
    | some routes =>
      dsimp only
      cases routes.nextHop? header.dest <;> rfl

/-- A packet that is to be resolved can take an address. -/
theorem addressSize_le_of_disposition {iface : InterfaceConfig} {hop : Ipv4}
    (resolves : p.disposition iface = .resolve hop q) : addressSize ≤ q.data.length := by
  unfold disposition at resolves
  cases read : OutboundHeader.read? p with
  | none =>
    rw [read] at resolves
    cases resolves
  | some header =>
    have fits := OutboundHeader.fits_of_read? read
    rw [read] at resolves
    dsimp only at resolves
    split at resolves
    · cases resolves
    · split at resolves
      · cases resolves
      · split at resolves
        · cases resolves
        · split at resolves
          · cases resolves
          · split at resolves
            · cases resolves
            · cases resolves
              exact (OutboundHeader.checkedSealPacket_eq fits).2 ▸ addressSize_le_of_fits fits

end Packet

end PolledNet
