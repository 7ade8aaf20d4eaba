import PolledNet.Proofs.Core.Sending

/-!
# What routing decides

`Packet.disposition` reads the headers of a packet and the addresses of the interface, and nothing
else. A packet leaves at once exactly if it is addressed already or its destination is reached by
broadcast (`disposition_eq_send_iff`); it leaves for a next hop exactly if neither is so and the
routes lead somewhere (`disposition_eq_resolve_iff`). In both cases its checksums have been filled
in.
-/

namespace PolledNet

/-- The station that a frame is addressed to, once it is addressed. -/
theorem Packet.dest?_addressedTo (p : Packet) (m : Mac) : (p.addressedTo m).dest? = .ok m :=
  m.ofBytes?_octets_append _

namespace Packet

variable {p q : Packet} {iface : InterfaceConfig} {hop : Ipv4}

/-- **What is sent at once**: a packet that may leave and is fully addressed, or goes to all
stations. -/
theorem disposition_eq_send_iff :
    p.disposition iface = .send q ↔
      ∃ header, OutboundHeader.read? p = some header ∧ header.mayLeave p iface = true ∧
        (p.addressed = true ∧ q = header.sealPacket p ∨
          p.addressed = false ∧ iface.isBroadcast header.dest = true ∧
            q = (header.sealPacket p).addressedTo Mac.broadcast) := by
  unfold disposition
  cases read : OutboundHeader.read? p with
  | none => simp
  | some header =>
    have kept : (header.sealPacket p).addressed = p.addressed := rfl
    simp only [Option.some.injEq, exists_eq_left', kept]
    constructor
    · intro sends
      split at sends
      · cases sends
      · rename_i leaves
        refine ⟨by simpa using leaves, ?_⟩
        split at sends
        · rename_i addressed
          cases sends
          exact .inl ⟨addressed, rfl⟩
        · rename_i unaddressed
          split at sends
          · rename_i broadcast
            cases sends
            exact .inr ⟨by simpa using unaddressed, broadcast, rfl⟩
          · split at sends
            · cases sends
            · split at sends <;> cases sends
    · rintro ⟨leaves, ⟨addressed, rfl⟩ | ⟨unaddressed, broadcast, rfl⟩⟩
      · simp [leaves, addressed]
      · simp [leaves, unaddressed, broadcast]

/-- **What has to be resolved**: a packet that may leave for one station, which the routes lead to
by this next hop. -/
theorem disposition_eq_resolve_iff :
    p.disposition iface = .resolve hop q ↔
      ∃ header routes, OutboundHeader.read? p = some header ∧ header.mayLeave p iface = true ∧
        p.addressed = false ∧ iface.isBroadcast header.dest = false ∧
          iface.routes? = some routes ∧ routes.nextHop? header.dest = some hop ∧
            q = { header.sealPacket p with nextHop := some hop } := by
  unfold disposition
  cases read : OutboundHeader.read? p with
  | none => simp
  | some header =>
    have kept : (header.sealPacket p).addressed = p.addressed := rfl
    simp only [Option.some.injEq, exists_and_left, exists_eq_left', kept]
    constructor
    · intro resolves
      split at resolves
      · cases resolves
      · rename_i leaves
        refine ⟨by simpa using leaves, ?_⟩
        split at resolves
        · cases resolves
        · rename_i unaddressed
          split at resolves
          · cases resolves
          · rename_i other
            refine ⟨by simpa using unaddressed, by simpa using other, ?_⟩
            split at resolves
            · cases resolves
            · rename_i routes known
              split at resolves
              · cases resolves
              · rename_i leads
                cases resolves
                exact ⟨routes, known, leads, rfl⟩
    · rintro ⟨leaves, unaddressed, other, routes, known, leads, rfl⟩
      simp [leaves, unaddressed, other, known, leads]

/-- A packet that leaves for a next hop carries it. -/
theorem nextHop_of_resolve (resolves : p.disposition iface = .resolve hop q) :
    q.nextHop = some hop := by
  obtain ⟨header, routes, -, -, -, -, -, -, rfl⟩ := disposition_eq_resolve_iff.mp resolves
  rfl

end Packet

end PolledNet
