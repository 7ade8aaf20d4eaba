import PolledNet.Proofs.Access.Passes
import PolledNet.Proofs.Core.Mail
import PolledNet.Proofs.Core.Waiters
import PolledNet.Proofs.Stack.Reading

/-!
# A station with one neighbour

What a stack does when there is one other station on its link, and this station tells of nobody but
itself. To the core it is made of fair acts (`Act.Fair`): what is heard is the binding of the
neighbour, and what is posted tells of nobody but the core's own station. The services that come
with a stack post no datagrams, so passes of a stack that only has these are made of fair acts that
bring nothing new (`fair_pump`).

A core is `Sincere` if it knows nobody but its neighbour, and what it has posted brings no datagram
more often than it was given to it. Fair acts keep this (`Sincere.act`).
-/

namespace PolledNet

open PolledNet.Core (Leads Polling Sendable Resolved)

/-! ## What is known -/

namespace ArpCache

variable {other : Station} {cache : ArpCache}

/-- Nobody but one station is known. -/
def KnowsOnly (other : Station) (cache : ArpCache) : Prop :=
  ∀ e ∈ cache.entries, e.state = .valid → e.address = other.address ∧ e.mac = other.mac

/-- A cache that is empty knows nobody. -/
theorem knowsOnly_empty (other : Station) : empty.KnowsOnly other := by
  intro e mem
  cases mem

/-- Asking for an address teaches a cache nothing. -/
theorem KnowsOnly.resolve (knows : cache.KnowsOnly other) (a : Ipv4) (now retry : Tick) :
    (cache.resolve a now retry).2.KnowsOnly other := by
  intro e mem valid
  exact knows e (mem_of_mem_resolve mem valid) valid

/-- A cache may hear of the one station it knows. -/
theorem KnowsOnly.learn (knows : cache.KnowsOnly other) (now ttl : Tick) :
    (cache.learn other.address other.mac now ttl).KnowsOnly other := by
  intro e mem valid
  obtain rfl | ⟨old, -⟩ := mem_insert mem
  · exact ⟨rfl, rfl⟩
  · exact knows e old valid

/-- A sweep teaches a cache nothing. -/
theorem KnowsOnly.sweep (knows : cache.KnowsOnly other) (now : Tick) :
    (cache.sweep now).2.KnowsOnly other := by
  intro e mem
  exact knows e (List.mem_filter.mp mem).1

end ArpCache

variable {ω : Type} {me other : Station}

namespace Core

variable {c c' : Core ω}

/-- Nobody else becomes known when a next hop is resolved. -/
theorem Resolved.knowsOnly {now : Tick} {p : Packet} {hop : Ipv4}
    (resolved : Resolved now c p hop c') (knows : c.arp.KnowsOnly other) :
    c'.arp.KnowsOnly other := by
  rw [resolved.arp]
  exact knows.resolve hop now c.config.arpRetryInterval

/-- Nobody else becomes known when a frame is sent. -/
theorem knowsOnly_sendFrame (knows : c.arp.KnowsOnly other) (p : Packet) :
    (c.sendFrame p).2.arp.KnowsOnly other := by
  rw [(c.sendFrame_sent p).arp]
  exact knows

/-- Nobody else becomes known when a packet is transmitted. -/
theorem knowsOnly_transmitIpv4 (knows : c.arp.KnowsOnly other) (p : Packet) :
    (c.transmitIpv4 p).2.arp.KnowsOnly other := by
  rw [transmitIpv4_eq]
  split
  · exact knows
  · exact knows
  · exact knowsOnly_sendFrame knows _
  · exact (resolved_settle c.now c _ _ _).knowsOnly knows

/-- Nobody else becomes known when parked packets are retried. -/
theorem knowsOnly_retryParked (knows : c.arp.KnowsOnly other) (now : Tick) (failed : List Ipv4)
    (packets : List Packet) : (retryParked now c failed packets).arp.KnowsOnly other := by
  induction packets generalizing c failed with
  | nil => exact knows
  | cons p rest ih =>
    obtain ⟨c', failed', step, eq⟩ := retryParked_cons now c failed p rest
    rw [eq]
    refine ih ?_ failed'
    cases step with
    | aimless => exact knows
    | dropped => exact knows
    | retried next hope told => exact (resolved_of_retried told).knowsOnly knows

/-- Nobody else becomes known when the backlog is flushed. -/
theorem knowsOnly_flush (knows : c.arp.KnowsOnly other) (frames : List Packet) :
    (c.flush frames).arp.KnowsOnly other := by
  induction frames generalizing c with
  | nil => exact knows
  | cons p rest ih =>
    by_cases room : c.device.canTransmit c.hw = true
    · rw [flush_cons_of_room room]
      refine ih ?_
      rw [(c.release_kept p rest).2.1]
      exact knows
    · rw [flush_cons_of_full (Bool.eq_false_iff.mpr room)]
      exact knows

/-- **Nobody is known but those who were heard.** -/
theorem knowsOnly_act (knows : c.arp.KnowsOnly other) {a : Act ω}
    (hears : ∀ b mac, a = .learn b mac → b = other.address ∧ mac = other.mac) :
    (c.act a).arp.KnowsOnly other := by
  cases a with
  | learn b mac =>
    obtain ⟨rfl, rfl⟩ := hears b mac rfl
    exact knows.learn c.now c.config.arpTtl
  | sweep => exact knows.sweep c.now
  | sendFrame p => exact knowsOnly_sendFrame knows p
  | transmit p => exact knowsOnly_transmitIpv4 knows p
  | retry => exact knowsOnly_retryParked (c := { c with parked := [] }) knows c.now [] c.parked
  | flush => exact knowsOnly_flush knows c.backlog
  | tell | count | identify | receive | service | configure | elapse => exact knows

end Core

/-! ## Fair acts -/

/-- A letter brings a datagram. -/
def Bytes.brings (d : Datagram) (letter : Bytes) : Bool := letter.toAll.datagram? = some d

/-- A letter that only signals brings no datagram. -/
theorem Bytes.Signals.not_brings {letter : Bytes} (signals : letter.Signals me) (d : Datagram) :
    letter.brings d = false := by
  rw [brings, signals.empty]
  rfl

/-- What a station does that is `me` and hears of nobody but the `other`: what it posts tells of
nobody but `me`, and brings at most the datagrams that are `new`. -/
structure Act.Fair (me other : Station) (new : List Datagram) (a : Act ω) : Prop
    extends a.Within fun _ => False where
  address : a.KeepsAddress
  hears : ∀ b mac, a = .learn b mac → b = other.address ∧ mac = other.mac
  introduces : ∀ letter ∈ a.posts, letter.Introduces me
  brings (d : Datagram) : a.posts.countP (Bytes.brings d) ≤ new.count d

namespace Act

variable {a : Act ω}

/-- An act that posts signals only. -/
theorem Fair.of_signals (within : a.Within fun _ => False) (address : a.KeepsAddress)
    (hears : ∀ b mac, a = .learn b mac → b = other.address ∧ mac = other.mac)
    (signals : ∀ letter ∈ a.posts, letter.Signals me) : a.Fair me other [] where
  toWithin := within
  address := address
  hears := hears
  introduces letter mem := (signals letter mem).introduces
  brings d := by
    rw [List.count_nil, Nat.le_zero, List.countP_eq_zero]
    intro letter mem
    rw [(signals letter mem).not_brings d]
    exact Bool.false_ne_true

/-- What is done all the time posts nothing. -/
theorem polling_fair (me other : Station) : Polling (Fair (ω := ω) me other []) where
  tell _ := .of_signals ⟨trivial, nofun⟩ trivial nofun nofun
  count same := .of_signals ⟨same, nofun⟩ trivial nofun nofun
  identify := .of_signals ⟨trivial, nofun⟩ trivial nofun nofun
  sweep := .of_signals ⟨trivial, nofun⟩ trivial nofun nofun
  retry := .of_signals ⟨trivial, nofun⟩ trivial nofun nofun
  flush := .of_signals ⟨trivial, nofun⟩ trivial nofun nofun
  receive := .of_signals ⟨trivial, nofun⟩ trivial nofun nofun
  service := .of_signals ⟨trivial, nofun⟩ trivial nofun nofun

/-- The binding of the neighbour is heard. -/
theorem fair_learn : (learn other.address other.mac : Act ω).Fair me other [] := by
  refine .of_signals ⟨trivial, nofun⟩ trivial ?_ nofun
  rintro b mac ⟨⟩
  exact ⟨rfl, rfl⟩

/-- An ARP message of the station is sent. -/
theorem fair_sendFrame {m : ArpMessage} (mac : m.senderMac = me.mac)
    (sender : m.sender = me.address) (dest : Mac) :
    (sendFrame (m.packet dest) : Act ω).Fair me other [] := by
  refine .of_signals ⟨trivial, nofun⟩ trivial nofun ?_
  intro letter mem
  rw [List.mem_singleton.mp mem]
  exact Bytes.signals_packet mac sender dest

/-- An IPv4 packet that signals may be sent. -/
theorem sendable_fair {p : Packet} (ipv4 : p.data.wordAt 12 = Ethernet.typeIpv4)
    (signals : p.sealed.letter.Signals me) : Sendable (Fair (ω := ω) me other []) p where
  packet := by
    refine .of_signals ⟨trivial, nofun⟩ trivial nofun ?_
    intro letter mem
    rw [List.mem_singleton.mp mem]
    exact signals
  frame read type := absurd ((Bytes.wordAt_of_ethertype? read).symm.trans ipv4) type

/-- A datagram from the station is sent. -/
theorem fair_datagram (ends : Endpoints) (identification : UInt16) (payload : Bytes) :
    (transmit (ends.datagram identification payload) : Act ω).Fair me other
      [⟨ends.sourcePort, ends.destPort, payload⟩] where
  keepsSent := trivial
  world := nofun
  address := trivial
  hears := nofun
  introduces letter mem := by
    rw [List.mem_singleton.mp mem]
    exact Bytes.introduces_of_ipv4 ((Packet.wordAt_sealed rfl).trans (word16_octets16 _))
  brings d := by
    show [(ends.datagram identification payload).sealed.letter].countP (Bytes.brings d) ≤ _
    rw [List.countP_singleton]
    split
    · rename_i brings
      have read := of_decide_eq_true brings
      rw [Packet.letter, Bytes.datagram?_toAll] at read
      exact Nat.le_of_eq (by rw [Endpoints.datagram?_sealed read, List.count_singleton_self])
    · exact Nat.zero_le _

end Act

/-! ## Sincere cores -/

namespace Core

/-- The core is that of a station. -/
structure Of (me : Station) (c : Core ω) : Prop where
  mac : c.mac = me.mac
  address : c.iface.address = me.address

/-- The core of a station that knows nobody but its neighbour. What it has posted tells of nobody
but itself, and brings no datagram more often than it is `given`. -/
structure Sincere (record : ω → List Bytes) (me other : Station) (given : List Datagram)
    (c : Core ω) : Prop extends c.Of me where
  records : c.device.Records record
  knows : c.arp.KnowsOnly other
  introduces : ∀ letter ∈ c.mail record, letter.Introduces me
  brings (d : Datagram) : (c.mail record).countP (Bytes.brings d) ≤ given.count d

variable {c c' : Core ω} {record : ω → List Bytes} {given new : List Datagram}

/-- A core stays that of its station whatever fair acts it sees. -/
theorem Of.leads (own : c.Of me) (leads : Leads (Act.Fair me other new) c c') : c'.Of me :=
  ⟨leads.sameSetup.mac.trans own.mac,
    (congrArg (·.address) (leads.iface fun _ fair => fair.address)).trans own.address⟩

/-- The address of a core, if it has one, is that of its station. -/
theorem Of.eq_of_address? (own : c.Of me) {ours : Ipv4} (known : c.address? = some ours) :
    ours = me.address := by
  unfold address? InterfaceConfig.address? at known
  split at known
  · cases known
    exact own.address
  · cases known

/-- The questions of a station are signals. -/
theorem Of.signals_question (own : c.Of me) (target : Ipv4) : (c.question target).Signals me :=
  Bytes.signals_packet own.mac own.address Mac.broadcast

/-- A core that has sent nothing yet, and knows nobody. -/
theorem sincere_new (own : c.Of me) (records : c.device.Records record)
    (unknown : c.arp = ArpCache.empty) (none : c.mail record = []) :
    c.Sincere record me other [] where
  toOf := own
  records := records
  knows := by
    rw [unknown]
    exact ArpCache.knowsOnly_empty other
  introduces letter mem := by
    rw [none] at mem
    cases mem
  brings d := by
    rw [none]
    exact Nat.le_refl 0

/-- **A fair act brings no more than it says.** -/
theorem Sincere.act (sincere : c.Sincere record me other given) {a : Act ω}
    (fair : a.Fair me other new) : (c.act a).Sincere record me other (given ++ new) := by
  have honest : ∀ f, a = .elapse f → ∀ hw, record (f hw) = record hw := by
    intro f eq
    exact (fair.world f eq).elim
  refine ⟨sincere.toOf.leads (.one fair), ?_, knowsOnly_act sincere.knows fair.hears, ?_, ?_⟩
  · rw [(sameSetup_act a).device]
    exact sincere.records
  · intro letter mem
    obtain old | given | ⟨target, rfl⟩ := mem_mail_act sincere.records honest mem
    · exact sincere.introduces letter old
    · exact fair.introduces letter given
    · exact (sincere.signals_question target).introduces
  · intro d
    have quiet : c.Quiet (Bytes.brings d) := by
      intro target
      exact (sincere.signals_question target).not_brings d
    have posted := countP_mail_act_le sincere.records quiet honest
    rw [List.count_append]
    exact Nat.le_trans posted (Nat.add_le_add (sincere.brings d) (fair.brings d))

/-- **A sincere core stays so** as long as fair acts bring nothing new. -/
theorem Sincere.leads (sincere : c.Sincere record me other given)
    (leads : Leads (Act.Fair me other []) c c') : c'.Sincere record me other given := by
  refine leads.keeps (Sincere record me other given) ?_ sincere
  intro c₁ a fair sincere
  have next := sincere.act fair
  rwa [List.append_nil] at next

/-- The hardware matters as far as it records what was sent. -/
theorem Sincere.withHardware (sincere : c.Sincere record me other given) (hw : ω)
    (same : record hw = record c.hw) : { c with hw }.Sincere record me other given := by
  have mail : { c with hw }.mail record = c.mail record := by
    unfold Core.mail
    rw [same]
  refine ⟨⟨sincere.mac, sincere.address⟩, sincere.records, sincere.knows, ?_, ?_⟩
  · rw [mail]
    exact sincere.introduces
  · rw [mail]
    exact sincere.brings

end Core

/-! ## Services -/

variable {η φ : Type}

namespace Sink

/-- The sink of a service that comes with the stack, which gets only what the service is for. -/
def Builtin (sink : Sink (SinkKind η)) : Prop :=
  match sink.kind with
  | .arp => sink.filter.ethertype = some Ethernet.typeArp
  | .icmpEcho => sink.filter.protocol = some Ip.icmp
  | .icmpUnreachable _ => True
  | .dhcp _ | .tftp _ => False

/-- A packet that the sink has accepted, from a frame that tells of nobody but the neighbour. -/
def Heard (other : Station) (sink : Sink (SinkKind η)) (p : Packet) : Prop :=
  ∃ mac frame arrival ours, Arrival.ofFrame mac frame = .ok arrival ∧
    frame.letter.Introduces other ∧ sink.filter.accepts arrival.info ours = true ∧
      p = arrival.packet

/-- All that waits for a service is from the neighbour. -/
structure Hears (other : Station) (sink : Sink (SinkKind η)) : Prop where
  builtin : sink.Builtin
  waiting : ∀ p ∈ sink.queue.packets, sink.Heard other p

variable {sink sink' : Sink (SinkKind η)} {p : Packet}

/-- What was heard of a packet depends on the filter of the sink only. -/
theorem Heard.of_filter (heard : sink.Heard other p) (filter : sink'.filter = sink.filter) :
    sink'.Heard other p := by
  obtain ⟨mac, frame, arrival, ours, classified, introduces, accepts, eq⟩ := heard
  exact ⟨mac, frame, arrival, ours, classified, introduces, filter ▸ accepts, eq⟩

/-- A sink whose queue and filter are kept hears of nobody else. -/
theorem Hears.of_kept (hears : sink.Hears other) (kept : sink.Kept sink')
    (builtin : sink'.Builtin) :
    sink'.Hears other := by
  refine ⟨builtin, ?_⟩
  intro p mem
  rw [kept.queue] at mem
  exact (hears.waiting p mem).of_filter kept.filter

/-- What an ARP message says. -/
theorem Heard.sender (heard : sink.Heard other p)
    (arp : sink.filter.ethertype = some Ethernet.typeArp) {content : Bytes}
    (read : p.network? = .ok content) {m : ArpMessage} (parsed : ArpMessage.parse content = .ok m) :
    m.senderMac = other.mac ∧ m.sender = other.address := by
  obtain ⟨mac, frame, arrival, ours, classified, introduces, accepts, rfl⟩ := heard
  have type : arrival.info.ethertype = Ethernet.typeArp := by
    simp only [Filter.accepts, Filter.admits, arp, Bool.and_eq_true] at accepts
    have admitted := accepts.1.1.1.1.1.1
    simpa [eq_comm] using admitted
  obtain ⟨word, data⟩ := Arrival.data_of_arp classified type
  have framed := (Arrival.framed_of_ofFrame classified).1
  have whole :
      arrival.packet.network? = .ok (arrival.packet.data.drop arrival.packet.offsets.network) :=
    Bytes.suffix?_eq (framed.network ▸ framed.header)
  rw [whole, framed.network, data] at read
  cases read
  exact introduces.sender word parsed

/-- What is there of an ICMP message. -/
theorem Heard.icmp (heard : sink.Heard other p) (icmp : sink.filter.protocol = some Ip.icmp) :
    p.FramedIpv4 ∧ p.data.wordAt 12 = Ethernet.typeIpv4 ∧
      p.data.octetAt (Ethernet.headerSize + 9) = Ip.icmp := by
  obtain ⟨mac, frame, arrival, ours, classified, -, accepts, rfl⟩ := heard
  refine Arrival.octets_of_protocol classified ?_
  simp only [Filter.accepts, Filter.admits, icmp, Bool.and_eq_true] at accepts
  have admitted := accepts.1.1.1.1.1.2
  simpa [eq_comm] using admitted

end Sink

namespace Duty

variable [FileHandle η φ] {d d' : Duty ω η φ} {p : Packet} {answer : Except NetError Unit}

/-- **What a service does with what it gets is fair**, and brings no datagrams. -/
theorem fair_deliver (own : d.core.Of me) (builtin : d.sink.Builtin) (heard : d.sink.Heard other p)
    (delivered : d.deliver p = .ok (answer, d')) :
    Leads (Act.Fair me other []) d.core d'.core ∧ d'.sink.Builtin := by
  have able := (Act.polling_fair (ω := ω) me other).toRoutine
  unfold deliver at delivered
  split at delivered
  case h_1 kind =>
    obtain ⟨content, read, delivered⟩ := exists_ok_of_bind delivered
    cases delivered
    have arp : d.sink.filter.ethertype = some Ethernet.typeArp := by
      rwa [Sink.Builtin, kind] at builtin
    refine ⟨able.leads_receiveArp_of d.core ?_ ?_, builtin⟩
    · intro m parsed
      obtain ⟨mac, sender⟩ := heard.sender arp read parsed
      rw [mac, sender]
      exact Act.fair_learn
    · intro m ours known
      exact Act.fair_sendFrame own.mac (own.eq_of_address? known) m.senderMac
  case h_2 kind =>
    obtain ⟨result, echoed, delivered⟩ := exists_ok_of_bind delivered
    cases delivered
    have icmp : d.sink.filter.protocol = some Ip.icmp := by rwa [Sink.Builtin, kind] at builtin
    obtain ⟨framed, ipv4, octet⟩ := heard.icmp icmp
    refine ⟨able.leads_receiveEcho_of ?_ echoed, builtin⟩
    intro requester reply echo
    obtain ⟨behind, type, protocol⟩ := Packet.octets_of_echo framed echo
    have type := type.trans ipv4
    refine Act.sendable_fair type (Packet.signals_sealed behind type ?_)
    rw [protocol, octet]
    decide
  case h_3 limiter kind =>
    obtain ⟨result, told, delivered⟩ := exists_ok_of_bind delivered
    cases delivered
    refine ⟨able.leads_receiveUnclaimed_of ?_ told, trivial⟩
    intro quoted ours senderMac sender identification
    exact Act.sendable_fair (word16_octets16 _) (Packet.signals_icmp _ _ _ _ _ _)
  case h_4 client kind =>
    rw [Sink.Builtin, kind] at builtin
    exact builtin.elim
  case h_5 transfer kind =>
    rw [Sink.Builtin, kind] at builtin
    exact builtin.elim

/-- What a service does when its timer expires is fair. -/
theorem fair_expire (me : Station) (builtin : d.sink.Builtin) :
    Leads (Act.Fair me other []) d.core d.expire.2.core ∧ d.expire.2.sink.Builtin := by
  have able := (Act.polling_fair (ω := ω) me other).toRoutine
  unfold expire
  split
  case h_1 kind =>
    refine ⟨able.leads_sweepArp d.core, ?_⟩
    rw [Sink.Builtin, kind] at builtin ⊢
    exact builtin
  case h_2 => exact ⟨.refl _, builtin⟩
  case h_3 => exact ⟨.refl _, builtin⟩
  case h_4 client kind =>
    rw [Sink.Builtin, kind] at builtin
    exact builtin.elim
  case h_5 transfer kind =>
    rw [Sink.Builtin, kind] at builtin
    exact builtin.elim

end Duty

/-! ## A device that faces one station -/

/-- While the hardware `Holds`, which the device keeps, what is received tells of nobody but one
station. -/
structure Device.Faces (d : Device ω) (other : Station) (Holds : ω → Prop) : Prop
    extends d.Keeps (fun _ => False) Holds where
  introduces {hw hw' : ω} {frame : Bytes} (holds : Holds hw)
    (received : d.receive hw = (some frame, hw')) : frame.letter.Introduces other

namespace Stack

variable {s s' : Stack ω η φ} {Holds : ω → Prop}

/-- A frame that tells of nobody but the neighbour is queued where only the neighbour is heard. -/
theorem hears_receiveFrame (hears : ∀ sink ∈ s.sinks.sinks, sink.Hears other) {frame : Bytes}
    (introduces : frame.letter.Introduces other) :
    ∀ sink ∈ (s.receiveFrame frame).sinks.sinks, sink.Hears other := by
  apply (s.receives_receiveFrame frame).all_sinks hears
  intro arrival sink classified accepts here
  refine ⟨here.builtin, ?_⟩
  intro p waits
  rcases List.mem_append.mp waits with old | new
  · exact (here.waiting p old).of_filter rfl
  · rw [List.mem_singleton.mp new]
    exact ⟨_, frame, arrival, _, classified, introduces, accepts, rfl⟩

/-- All that is received in a pass is from the station that the device faces. -/
theorem hears_receiveFrames (faces : s.core.device.Faces other Holds) (holds : Holds s.core.hw)
    (hears : ∀ sink ∈ s.sinks.sinks, sink.Hears other) (budget : Nat) :
    ∀ sink ∈ (s.receiveFrames budget).sinks.sinks, sink.Hears other := by
  induction budget generalizing s with
  | zero => exact hears
  | succ budget ih =>
    unfold receiveFrames
    split
    · exact hears
    · rename_i frame hw received
      have later : Holds hw := by
        have kept := faces.receive holds
        rwa [received] at kept
      have plain := { s with core := { s.core with hw } }.plain_receiveFrame frame
      have leads : Leads (Act.Within fun _ => False) _ _ := plain.within
      refine ih ?_ (leads.keeps_hw faces.toKeeps later)
        (hears_receiveFrame (s := { s with core := { s.core with hw } }) hears
          (faces.introduces holds received))
      rw [leads.sameSetup.device]
      exact faces

section Passes

variable [FileHandle η φ] {d d' : Duty ω η φ} {core core' : Core ω} {volume volume' : φ}
  {sinks sinks' : List (Sink (SinkKind η))}

/-- What a service does about packets of the neighbour is fair. -/
theorem fair_deliverAll {packets : List Packet} (own : d.core.Of me) (builtin : d.sink.Builtin)
    (heard : ∀ p ∈ packets, d.sink.Heard other p) (delivered : deliverAll d packets = .ok d') :
    Leads (Act.Fair me other []) d.core d'.core ∧ d'.sink.Builtin ∧ d.sink.Kept d'.sink := by
  refine deliverAll_keeps (fun d' => Leads (Act.Fair me other []) d.core d'.core ∧
    d'.sink.Builtin ∧ d.sink.Kept d'.sink) ?_ ⟨.refl _, builtin, rfl, rfl, rfl⟩ delivered
  rintro d₁ p answer d₂ mem ⟨before, builtin, kept⟩ delivered
  obtain ⟨leads, still⟩ := Duty.fair_deliver (own.leads before) builtin
    ((heard p mem).of_filter kept.filter) delivered
  obtain ⟨noted, same⟩ :=
    Duty.leads_noteFailure (Act.polling_fair me other).toRoutine d₂ answer .deliveryFailed
  rw [same]
  exact ⟨(before.trans leads).trans noted, still, kept.trans (Duty.deliver_kept delivered)⟩

/-- Draining the sinks is fair if they hear of nobody but the neighbour. -/
theorem fair_drainSinks (own : core.Of me) (hears : ∀ sink ∈ sinks, sink.Hears other)
    (drained : drainSinks core volume sinks = .ok (core', volume', sinks')) :
    Leads (Act.Fair me other []) core core' ∧ ∀ sink ∈ sinks', sink.Hears other := by
  refine drainSinks_keeps (fun c => Leads (Act.Fair me other []) core c) ?_ (.refl _) hears drained
  intro sink core₁ volume d hears before delivered
  obtain ⟨leads, still, kept⟩ := fair_deliverAll (d := ⟨{ sink with queue := {} }, core₁, volume⟩)
    (own.leads before) hears.builtin (fun p mem => (hears.waiting p mem).of_filter rfl) delivered
  have emptied : { sink with queue := {} }.Hears other := ⟨hears.builtin, nofun⟩
  exact ⟨before.trans leads, emptied.of_kept kept still⟩

/-- What a sink does when its timer expires is fair, and it still hears of nobody else. -/
theorem fair_expireOne (me : Station) (now : Tick) (core : Core ω) (volume : φ)
    {sink : Sink (SinkKind η)}
    (hears : sink.Hears other) :
    Leads (Act.Fair me other []) core (expireOne now core volume sink).core ∧
      (expireOne now core volume sink).sink.Hears other := by
  unfold expireOne
  split
  · let d : Duty ω η φ := ⟨{ sink with timer := Timer.idle }, core, volume⟩
    obtain ⟨leads, still⟩ := Duty.fair_expire (d := d) me hears.builtin
    obtain ⟨noted, same⟩ := Duty.leads_noteFailure
      (Act.polling_fair me other).toRoutine d.expire.2 d.expire.1 .expiryFailed
    have disarmed : { sink with timer := Timer.idle }.Hears other :=
      ⟨hears.builtin, fun p mem => (hears.waiting p mem).of_filter rfl⟩
    have kept := d.expire_kept.trans (d.expire.2.kept_noteFailure d.expire.1 .expiryFailed)
    exact ⟨leads.trans noted, disarmed.of_kept kept (same.symm ▸ still)⟩
  · exact ⟨.refl _, hears⟩

/-- The expiry of all timers is fair, and no sink comes to hear of anybody else. -/
theorem fair_expireSinks (me : Station) (now : Tick) (core : Core ω) (volume : φ)
    (hears : ∀ sink ∈ sinks, sink.Hears other) :
    Leads (Act.Fair me other []) core (expireSinks now core volume sinks).1 ∧
      ∀ sink ∈ (expireSinks now core volume sinks).2.2, sink.Hears other := by
  refine expireSinks_keeps (fun c => Leads (Act.Fair me other []) core c) ?_ (.refl _) volume hears
  intro sink core₁ volume hears before
  obtain ⟨leads, here⟩ := fair_expireOne me now core₁ volume hears
  exact ⟨before.trans leads, here⟩

/-- **A pass of a station with one neighbour is fair**, and brings no datagrams. -/
theorem fair_pump (own : s.core.Of me) (faces : s.core.device.Faces other Holds)
    (holds : Holds s.core.hw) (hears : ∀ sink ∈ s.sinks.sinks, sink.Hears other)
    (ran : s.pump = .ok s') :
    Leads (Act.Fair me other []) s.core s'.core ∧ ∀ sink ∈ s'.sinks.sinks, sink.Hears other := by
  have polling := Act.polling_fair (ω := ω) me other
  have collected := leads_collected_of polling s
  have waiting : ∀ sink ∈ s.collected.sinks.sinks, sink.Hears other := by
    have retried : Leads (Act.Fair me other []) s.core s.core.serviceParked :=
      .one (a := .retry) polling.retry
    have serviced := retried.andThen (a := .service) polling.service
    have within := serviced.mono fun _ fair => fair.toWithin
    refine hears_receiveFrames (s := { s with core := s.core.serviceParked }.serviceDevice)
      ?_ (within.keeps_hw faces.toKeeps holds) hears receiveBudget
    exact within.sameSetup.device.symm ▸ faces
  rw [pump_eq] at ran
  obtain ⟨s₁, drained, rfl⟩ := handled_eq_ok ran
  unfold drainQueues at drained
  obtain ⟨⟨core, volume, sinks⟩, handled, done⟩ := exists_ok_of_bind drained
  cases done
  obtain ⟨delivered, served⟩ := fair_drainSinks (own.leads collected) waiting handled
  obtain ⟨expired, still⟩ := fair_expireSinks me core.now core volume served
  exact ⟨(collected.trans delivered).trans expired, still⟩

end Passes

end Stack

end PolledNet
