import PolledNet.Proofs.Core.Activity
import PolledNet.Proofs.Core.Uplink
import PolledNet.Stack.Service

/-!
# What services do to the core

`Repertoire` says that the acts of a kind are enough for the services of a stack: to tell and to
count, to hear of addresses, and to send. So acts of such a kind lead from the core before a service
has done its work to the core after it, and the same holds of all that a client asks of its
interface (`Repertoire.moves`). Where a kind only has what is done all the time (`Routine`), the
same follows for a service from what it hears and sends in particular.

What services do leaves our addresses, the time and the counters of sent frames alone
(`Act.Plain`), except that a client may set the addresses of its interface (`movesFreely_of_plain`).
-/

namespace PolledNet

/-- A frame that is dropped on its way in is not counted as sent. -/
theorem DropCause.sameSent (cause : DropCause) (s : Stats) : s.SameSent (cause.count s) := by
  cases cause <;> exact ⟨rfl, rfl, rfl⟩

/-- An echo reply is the request with its header turned around and another message, addressed to the
station that sent it. -/
theorem Packet.exists_of_echo {p reply : Packet} {mac : Mac} {requester : Ipv4}
    (echoed : p.echo mac = .ok (.reply requester reply)) :
    ∃ (requesterMac : Mac) (header turned message : Bytes),
      Bytes.slice? p.data p.offsets.network p.offsets.transport = .ok header ∧
      turnAround header = .ok (requester, turned) ∧
      reply = ({ p with data := p.data.take p.offsets.network ++ turned ++ message }.withSource
        mac).addressedTo requesterMac := by
  unfold echo at echoed
  obtain ⟨message, -, echoed⟩ := exists_ok_of_bind echoed
  dsimp only at echoed
  split at echoed
  · cases echoed
  · split at echoed
    · cases echoed
    · obtain ⟨requesterMac, -, echoed⟩ := exists_ok_of_bind echoed
      obtain ⟨header, sliced, echoed⟩ := exists_ok_of_bind echoed
      obtain ⟨⟨requester, turned⟩, turns, echoed⟩ := exists_ok_of_bind echoed
      cases echoed
      exact ⟨requesterMac, header, turned, _, sliced, turns, rfl⟩

namespace Core

variable {ω : Type}

/-- What is plain is ordinary. -/
theorem Leads.ordinary {c c' : Core ω} (leads : Leads Act.Plain c c') :
    Leads Act.Ordinary c c' :=
  leads.mono fun _ plain => plain.ordinary

/-- What is plain may be done in any world. -/
theorem Leads.within {World : (ω → ω) → Prop} {c c' : Core ω} (leads : Leads Act.Plain c c') :
    Leads (Act.Within World) c c' :=
  leads.mono fun _ plain => plain.within

/-! ## What services need -/

/-- What is done all the time is of a kind. -/
structure Routine (Kind : Act ω → Prop) : Prop where
  tell (e : Event) : Kind (.tell e)
  count {f : Stats → Stats} (same : ∀ s : Stats, s.SameSent (f s)) : Kind (.count f)
  identify : Kind .identify
  sweep : Kind .sweep

/-- The acts of a kind are enough for services. A packet that a service builds has its datagram
behind the Ethernet header, and a frame that it sends as it is carries no IPv4. -/
structure Repertoire (Kind : Act ω → Prop) : Prop extends Routine Kind where
  learn (a : Ipv4) (mac : Mac) : Kind (.learn a mac)
  transmit {p : Packet} (behind : p.offsets.network = Ethernet.headerSize) : Kind (.transmit p)
  sendFrame {p : Packet} {type : UInt16} (read : p.ethertype? = .ok type)
    (other : type ≠ Ethernet.typeIpv4) : Kind (.sendFrame p)

/-- The acts of a kind are enough for what a pass does before it handles anything. -/
structure Polling (Kind : Act ω → Prop) : Prop extends Routine Kind where
  retry : Kind .retry
  flush : Kind .flush
  receive : Kind .receive
  service : Kind .service

/-- The acts of a kind are enough for services and for the passes of a stack, and any addresses may
be set. -/
structure FullRepertoire (Kind : Act ω → Prop) : Prop extends Repertoire Kind, Polling Kind where
  configure (iface : InterfaceConfig) : Kind (.configure iface)

/-- A packet may be given to the core: routed if it is an IPv4 packet, and else sent as it is. -/
structure Sendable (Kind : Act ω → Prop) (p : Packet) : Prop where
  packet : Kind (.transmit p)
  frame {type : UInt16} (read : p.ethertype? = .ok type) (other : type ≠ Ethernet.typeIpv4) :
    Kind (.sendFrame p)

/-- What the echo service makes of a packet, if anything, may be sent. -/
def Answerable (Kind : Act ω → Prop) (p : Packet) : Prop :=
  ∀ mac requester reply, p.echo mac = .ok (.reply requester reply) → Kind (.transmit reply)

/-- A kind that has all plain acts has what services need. -/
theorem Repertoire.of_plain {Kind : Act ω → Prop} (plain : ∀ a, a.Plain → Kind a) :
    Repertoire Kind where
  tell _ := plain _ ⟨⟨trivial, trivial⟩, trivial⟩
  count same := plain _ ⟨⟨trivial, trivial⟩, same⟩
  identify := plain _ ⟨⟨trivial, trivial⟩, trivial⟩
  learn _ _ := plain _ ⟨⟨trivial, trivial⟩, trivial⟩
  sweep := plain _ ⟨⟨trivial, trivial⟩, trivial⟩
  transmit _ := plain _ ⟨⟨trivial, trivial⟩, trivial⟩
  sendFrame _ _ := plain _ ⟨⟨trivial, trivial⟩, trivial⟩

/-- Plain acts are enough for services. -/
theorem repertoire_plain : Repertoire (Act.Plain (ω := ω)) := .of_plain fun _ plain => plain

/-- To answer a request is plain. -/
theorem answerable_plain (p : Packet) : Answerable (Act.Plain (ω := ω)) p :=
  fun _ _ _ _ => ⟨⟨trivial, trivial⟩, trivial⟩

/-! ## What is done all the time -/

/-- A packet that may be given to the core is sent by acts of the kind, by its routes or as it is.
-/
theorem Sendable.leads_transmit {Kind : Act ω → Prop} {c c' : Core ω} {p : Packet}
    {answer : Except NetError Unit} (sendable : Sendable Kind p)
    (sent : c.transmit p = .ok (answer, c')) : Leads Kind c c' := by
  unfold Core.transmit at sent
  obtain ⟨type, read, sent⟩ := exists_ok_of_bind sent
  change Except.ok (if type = Ethernet.typeIpv4 then c.transmitIpv4 p else c.sendFrame p) =
    .ok (answer, c') at sent
  rw [Except.ok.injEq] at sent
  split at sent
  · have leads : Leads Kind c (c.transmitIpv4 p).2 := .one (a := .transmit p) sendable.packet
    rwa [sent] at leads
  · rename_i other
    have leads : Leads Kind c (c.sendFrame p).2 :=
      .one (a := .sendFrame p) (sendable.frame read other)
    rwa [sent] at leads

namespace Routine

variable {Kind : Act ω → Prop} (able : Routine Kind) (c : Core ω)

include able

/-- The operator is told. -/
theorem leads_tell (e : Event) : Leads Kind c (c.tell e) := .one (a := .tell e) (able.tell e)

/-- Something is counted. -/
theorem leads_count {f : Stats → Stats} (same : ∀ s : Stats, s.SameSent (f s)) :
    Leads Kind c (c.count f) :=
  .one (a := .count f) (able.count same)

/-- A packet that cannot be read is counted. -/
theorem leads_countMalformed : Leads Kind c c.countMalformed :=
  able.leads_count c fun _ => ⟨rfl, rfl, rfl⟩

/-- A datagram takes its identification. -/
theorem leads_nextIdentification : Leads Kind c c.nextIdentification.2 :=
  .one (a := .identify) able.identify

/-- A frame is classified, and counted if it is dropped. -/
theorem leads_classify (frame : Bytes) : Leads Kind c (c.classify frame).2 := by
  have received := able.leads_count c (f := fun s => { s with rxFrames := s.rxFrames + 1 })
    fun _ => ⟨rfl, rfl, rfl⟩
  unfold classify
  dsimp only
  split
  · exact received
  · rename_i cause _
    have counted := received.trans (able.leads_count _ cause.sameSent)
    cases cause.event? with
    | none => exact counted
    | some event => exact counted.trans (able.leads_tell _ event)

/-- Expired bindings are removed, and the operator is told. -/
theorem leads_sweepArp : Leads Kind c c.sweepArp := by
  have swept : Leads Kind c { c with arp := (c.arp.sweep c.now).2 } :=
    .one (a := .sweep) able.sweep
  unfold sweepArp
  dsimp only
  split
  · exact swept.trans (able.leads_tell _ _)
  · exact swept

/-- An ARP message is heard, and perhaps answered. -/
theorem leads_receiveArp_of {content : Bytes}
    (learn : ∀ m, ArpMessage.parse content = .ok m → Kind (.learn m.sender m.senderMac))
    (reply : ∀ (m : ArpMessage) ours, c.address? = some ours →
      Kind (.sendFrame ((ArpMessage.reply c.mac ours m.senderMac m.sender).packet m.senderMac))) :
    Leads Kind c (c.receiveArp content).2 := by
  unfold receiveArp
  split
  · rename_i e _
    exact (able.leads_tell c (.arp (.malformed e))).trans (able.leads_countMalformed _)
  · rename_i m parsed
    dsimp only
    -- the core once it has learned the sender; our addresses are as they were
    obtain ⟨c₁, eq, learned, mac, address⟩ : ∃ c₁ : Core ω,
        (if m.sender.isUnspecified then c
          else { c with arp := c.arp.learn m.sender m.senderMac c.now c.config.arpTtl }) = c₁ ∧
          Leads Kind c c₁ ∧ c₁.mac = c.mac ∧ c₁.address? = c.address? := by
      split
      · exact ⟨c, rfl, .refl c, rfl, rfl⟩
      · exact ⟨_, rfl, .one (a := .learn m.sender m.senderMac) (learn m parsed), rfl, rfl⟩
    rw [eq]
    split
    · exact learned
    · rename_i ours known
      split
      · have told := learned.trans (able.leads_tell _ (.arp (.replying ours c₁.mac m.sender)))
        refine told.andThen (a := .sendFrame
          ((ArpMessage.reply c₁.mac ours m.senderMac m.sender).packet m.senderMac)) ?_
        rw [mac]
        exact reply m ours (address.symm.trans known)
      · exact learned

/-- An echo request is answered. -/
theorem leads_receiveEcho_of {c c' : Core ω} {p : Packet} {answer : Except NetError Unit}
    (reply : ∀ requester reply, p.echo c.mac = .ok (.reply requester reply) → Sendable Kind reply)
    (handled : c.receiveEcho p = .ok (answer, c')) : Leads Kind c c' := by
  unfold receiveEcho at handled
  obtain ⟨reaction, echoed, handled⟩ := exists_ok_of_bind handled
  cases reaction with
  | malformed => cases handled; exact able.leads_countMalformed c
  | ignored type => cases handled; exact able.leads_tell c _
  | reply requester packet =>
    exact (able.leads_tell c _).trans ((reply requester packet echoed).leads_transmit handled)

/-- A datagram that nobody wants is answered. -/
theorem leads_receiveUnclaimed_of {c c' : Core ω} {limiter limiter' : UnreachableLimiter}
    {p : Packet} {answer : Except NetError Unit}
    (reply : ∀ quoted ours senderMac sender identification, Sendable Kind
      ((IcmpMessage.portUnreachable quoted).packet c.mac ours senderMac sender identification))
    (handled : c.receiveUnclaimed limiter p = .ok (answer, limiter', c')) : Leads Kind c c' := by
  unfold receiveUnclaimed at handled
  split at handled
  · cases handled; exact .refl c
  · dsimp only at handled
    split at handled
    · cases handled; exact able.leads_tell c _
    · obtain ⟨-, -, handled⟩ := exists_ok_of_bind handled
      obtain ⟨⟨sender, senderMac, octets⟩, -, handled⟩ := exists_ok_of_bind handled
      obtain ⟨⟨answer, c''⟩, sent, handled⟩ := exists_ok_of_bind handled
      cases handled
      have told := able.leads_tell c (.icmp (.unreachable sender))
      exact (told.trans (able.leads_nextIdentification _)).trans
        ((reply _ _ _ _ _).leads_transmit sent)

end Routine

/-! ## What services do -/

namespace Repertoire

variable {Kind : Act ω → Prop} (able : Repertoire Kind) (c : Core ω)

include able

/-- A packet may be sent if its datagram may be routed. -/
theorem sendable {p : Packet} (packet : Kind (.transmit p)) : Sendable Kind p :=
  ⟨packet, able.sendFrame⟩

/-- A datagram is built and sent. -/
theorem leads_sendDatagram (sourcePort : UInt16) (dest : Ipv4) (destPort : UInt16)
    (payload : Bytes) :
    Leads Kind c (c.sendDatagram sourcePort dest destPort payload).2 :=
  (able.leads_nextIdentification c).trans
    (.one (a := .transmit (c.datagram sourcePort dest destPort payload).1) (able.transmit rfl))

/-- What a client asks of the core, short of other addresses. -/
theorem moves : (Core.uplink ω).Moves (Leads Kind) where
  refl := .refl
  trans := .trans
  tell e c := able.leads_tell c e
  send _ _ _ _ c := able.leads_sendDatagram c _ _ _ _
  countMalformed c := able.leads_countMalformed c

/-- An ARP message is heard, and answered if it asks for our address. -/
theorem leads_receiveArp (content : Bytes) : Leads Kind c (c.receiveArp content).2 := by
  refine able.leads_receiveArp_of c (fun m _ => able.learn m.sender m.senderMac) ?_
  intro m ours _
  have arp : ((ArpMessage.reply c.mac ours m.senderMac m.sender).packet m.senderMac).ethertype? =
      .ok Ethernet.typeArp := congrArg Except.ok (word16_octets16 Ethernet.typeArp)
  exact able.sendFrame arp (by decide)

/-- A request is answered. -/
theorem leads_receiveEcho {c c' : Core ω} {p : Packet} {answer : Except NetError Unit}
    (answerable : Answerable Kind p) (handled : c.receiveEcho p = .ok (answer, c')) :
    Leads Kind c c' :=
  able.leads_receiveEcho_of
    (fun requester reply echoed => able.sendable (answerable _ requester reply echoed)) handled

/-- What nobody claims is refused to the sender, as often as the limit allows. -/
theorem leads_receiveUnclaimed {c c' : Core ω} {limiter limiter' : UnreachableLimiter} {p : Packet}
    {answer : Except NetError Unit}
    (handled : c.receiveUnclaimed limiter p = .ok (answer, limiter', c')) : Leads Kind c c' :=
  able.leads_receiveUnclaimed_of (fun _ _ _ _ _ => able.sendable (able.transmit rfl)) handled

end Repertoire

/-- What a client asks of the core. -/
theorem FullRepertoire.movesFreely {Kind : Act ω → Prop} (able : FullRepertoire Kind) :
    (Core.uplink ω).MovesFreely (Leads Kind) where
  toMoves := able.moves
  configure iface _ := .one (a := .configure iface) (able.configure iface)

/-! ## What services leave alone -/

variable (c : Core ω)

/-- To tell the operator is plain. -/
theorem plain_tell (e : Event) : Leads Act.Plain c (c.tell e) := repertoire_plain.leads_tell c e

/-- To count a packet that cannot be read is plain. -/
theorem plain_countMalformed : Leads Act.Plain c c.countMalformed :=
  repertoire_plain.leads_countMalformed c

/-- To send a frame as it is is plain. -/
theorem plain_sendFrame (p : Packet) : Leads Act.Plain c (c.sendFrame p).2 :=
  .one (a := .sendFrame p) ⟨⟨trivial, trivial⟩, trivial⟩

/-- To send a packet is plain. -/
theorem plain_transmit {c c' : Core ω} {p : Packet} {answer : Except NetError Unit}
    (sent : c.transmit p = .ok (answer, c')) : Leads Act.Plain c c' :=
  (repertoire_plain.sendable ⟨⟨trivial, trivial⟩, trivial⟩).leads_transmit sent

/-- To tell the operator is ordinary. -/
theorem leads_tell (e : Event) : Leads Act.Ordinary c (c.tell e) := (c.plain_tell e).ordinary

/-- What a client asks of the core, short of other addresses. -/
theorem moves_of_plain {Kind : Act ω → Prop} (plain : ∀ a, a.Plain → Kind a) :
    (Core.uplink ω).Moves (Leads Kind) :=
  (Repertoire.of_plain plain).moves

/-- What a client asks of the core. -/
theorem movesFreely_of_plain {Kind : Act ω → Prop} (plain : ∀ a, a.Plain → Kind a)
    (configure : ∀ iface, Kind (.configure iface)) : (Core.uplink ω).MovesFreely (Leads Kind) where
  toMoves := moves_of_plain plain
  configure iface _ := .one (a := .configure iface) (configure iface)

end Core

end PolledNet
