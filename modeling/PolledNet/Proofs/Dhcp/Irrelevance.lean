import PolledNet.File.RamVolume
import PolledNet.Link.Bench
import PolledNet.Proofs.Dhcp.Codec
import PolledNet.Proofs.Dhcp.Soundness
import PolledNet.Stack.Pump

/-!
# Datagrams that say nothing to the client

Anybody may send to the port of the client, and most of what arrives there is for others, late, or
useless. The client takes a datagram up for three reasons only (`DhcpClient.Relevant`); everything
else is *irrelevant* (`DhcpClient.Irrelevant`), and the two exclude each other
(`DhcpClient.irrelevant_iff`).

An irrelevant datagram is noted, and counted if it is no DHCP message at all. The client, its timer
and the interface stay as they are, and nothing is sent (`receive_of_irrelevant`), however many of
them wait for the client (`Stack.deliverAll_of_irrelevant`).
-/

namespace PolledNet

/-- Whether a client in this state waits for messages of a type. -/
def DhcpState.awaits : DhcpState → DhcpType → Bool
  | .select, .offer => true
  | .request, .ack | .request, .nak => true
  | .renew, .ack | .renew, .nak => true
  | _, _ => false

/-- Whether a datagram is no DHCP message at all. -/
def DhcpMessage.garbled (payload : Bytes) : Bool :=
  match parse payload with
  | .error _ => true
  | .ok _ => false

namespace DhcpClient

/-! ## What is irrelevant -/

/-- Reasons for a datagram to say nothing to a client. -/
inductive Irrelevant (client : DhcpClient) (payload : Bytes) : Prop where
  /-- It is no DHCP message. -/
  | garbled {e : DhcpError} (read : DhcpMessage.parse payload = .error e)
  /-- It is not from a server. -/
  | request {m : DhcpMessage} (read : DhcpMessage.parse payload = .ok m)
      (op : m.op ≠ Dhcp.bootReply)
  /-- It belongs to another exchange. -/
  | otherExchange {m : DhcpMessage} (read : DhcpMessage.parse payload = .ok m)
      (xid : m.xid ≠ client.xid)
  /-- It is for another station. -/
  | otherStation {m : DhcpMessage} (read : DhcpMessage.parse payload = .ok m)
      (mac : m.clientMac ≠ client.mac)
  /-- Nobody waits for messages of its type. -/
  | unawaited {m : DhcpMessage} (read : DhcpMessage.parse payload = .ok m)
      (type : client.state.awaits m.type = false)
  /-- It offers what cannot be used. -/
  | useless {m : DhcpMessage} {reason : OfferRefusal} (read : DhcpMessage.parse payload = .ok m)
      (type : m.type = .offer) (refused : Lease.ofOffer m = .error reason)

/-- Reasons for a client to take a datagram up. -/
inductive Relevant (client : DhcpClient) (payload : Bytes) : Prop where
  /-- An offer that can be used. -/
  | offer {m : DhcpMessage} {lease : Lease} (read : DhcpMessage.parse payload = .ok m)
      (answers : Session.isAnswer client m = true) (state : client.state = .select)
      (type : m.type = .offer) (accepted : Lease.ofOffer m = .ok lease)
  /-- An acknowledgement that is waited for. -/
  | ack {m : DhcpMessage} (read : DhcpMessage.parse payload = .ok m)
      (answers : Session.isAnswer client m = true)
      (state : client.state = .request ∨ client.state = .renew) (type : m.type = .ack)
  /-- A refusal in its place. -/
  | nak {m : DhcpMessage} (read : DhcpMessage.parse payload = .ok m)
      (answers : Session.isAnswer client m = true)
      (state : client.state = .request ∨ client.state = .renew) (type : m.type = .nak)

variable {client : DhcpClient} {payload : Bytes}

/-- A message answers ours if a server sent it, to our station and with our transaction's number. -/
theorem Session.isAnswer_iff {m : DhcpMessage} : Session.isAnswer client m = true ↔
    m.op = Dhcp.bootReply ∧ m.xid = client.xid ∧ m.clientMac = client.mac := by
  simp [Session.isAnswer, and_assoc]

/-- A client that looks for servers awaits an offer, and one that asked for an address awaits a yes
or no. -/
theorem awaits_iff {state : DhcpState} {type : DhcpType} : state.awaits type = true ↔
    state = .select ∧ type = .offer ∨
      (state = .request ∨ state = .renew) ∧ (type = .ack ∨ type = .nak) := by
  cases state <;> cases type <;> simp [DhcpState.awaits]

/-- What is irrelevant for some reason is relevant for none. -/
theorem Relevant.not_irrelevant (relevant : Relevant client payload) :
    ¬Irrelevant client payload := by
  obtain ⟨m, read, answers, awaited, useful⟩ : ∃ m, DhcpMessage.parse payload = .ok m ∧
      Session.isAnswer client m = true ∧ client.state.awaits m.type = true ∧
      (m.type = .offer → ∃ lease, Lease.ofOffer m = .ok lease) := by
    cases relevant with
    | offer read answers state type accepted =>
      exact ⟨_, read, answers, awaits_iff.mpr (.inl ⟨state, type⟩), fun _ => ⟨_, accepted⟩⟩
    | ack read answers state type =>
      exact ⟨_, read, answers, awaits_iff.mpr (.inr ⟨state, .inl type⟩), by simp [type]⟩
    | nak read answers state type =>
      exact ⟨_, read, answers, awaits_iff.mpr (.inr ⟨state, .inr type⟩), by simp [type]⟩
  obtain ⟨reply, ours, mine⟩ := Session.isAnswer_iff.mp answers
  intro irrelevant
  cases irrelevant with
  | garbled read' => cases read.symm.trans read'
  | request read' op => cases read.symm.trans read'; exact op reply
  | otherExchange read' xid => cases read.symm.trans read'; exact xid ours
  | otherStation read' mac => cases read.symm.trans read'; exact mac mine
  | unawaited read' type =>
    cases read.symm.trans read'
    exact absurd awaited (by simp [type])
  | useless read' type refused =>
    cases read.symm.trans read'
    obtain ⟨lease, accepted⟩ := useful type
    cases accepted.symm.trans refused

/-- There is a reason for everything. -/
theorem relevant_or_irrelevant (client : DhcpClient) (payload : Bytes) :
    Relevant client payload ∨ Irrelevant client payload := by
  cases read : DhcpMessage.parse payload with
  | error e => exact .inr (.garbled read)
  | ok m =>
    by_cases op : m.op = Dhcp.bootReply
    case neg => exact .inr (.request read op)
    by_cases xid : m.xid = client.xid
    case neg => exact .inr (.otherExchange read xid)
    by_cases mac : m.clientMac = client.mac
    case neg => exact .inr (.otherStation read mac)
    have answers := Session.isAnswer_iff.mpr ⟨op, xid, mac⟩
    cases awaited : client.state.awaits m.type with
    | false => exact .inr (.unawaited read awaited)
    | true =>
      rcases awaits_iff.mp awaited with ⟨state, type⟩ | ⟨state, type | type⟩
      · cases offered : Lease.ofOffer m with
        | error reason => exact .inr (.useless read type offered)
        | ok lease => exact .inl (.offer read answers state type offered)
      · exact .inl (.ack read answers state type)
      · exact .inl (.nak read answers state type)

/-- What is not relevant is irrelevant, and nothing is both. -/
theorem irrelevant_iff : Irrelevant client payload ↔ ¬Relevant client payload := by
  constructor
  · intro irrelevant relevant
    exact relevant.not_irrelevant irrelevant
  · intro none
    exact (relevant_or_irrelevant client payload).resolve_left none

/-! ## What comes of it -/

namespace Session

variable {σ : Type} {up : Uplink σ} {x : Session σ}

/-- **An irrelevant datagram is only noted**, and counted if it is garbled. -/
theorem receive_of_irrelevant (up : Uplink σ) (irrelevant : Irrelevant x.client payload) :
    ∃ e, x.receive up payload =
      (.ok (), { x with
        link := if DhcpMessage.garbled payload then up.countMalformed (up.tell (.dhcp e) x.link)
          else up.tell (.dhcp e) x.link }) := by
  have none := irrelevant_iff.mp irrelevant
  unfold receive DhcpMessage.garbled
  cases read : DhcpMessage.parse payload with
  | error e => exact ⟨_, rfl⟩
  | ok m =>
    dsimp only
    by_cases answers : isAnswer x.client m = true
    · rw [if_neg (by simp [answers])]
      split
      · rename_i state type
        unfold receiveOffer
        cases offered : Lease.ofOffer m with
        | error reason => exact ⟨_, rfl⟩
        | ok lease => exact absurd (.offer read answers state type offered) none
      · rename_i state type
        exact absurd (.ack read answers (.inl state) type) none
      · rename_i state type
        exact absurd (.ack read answers (.inr state) type) none
      · rename_i state type
        exact absurd (.nak read answers (.inl state) type) none
      · rename_i state type
        exact absurd (.nak read answers (.inr state) type) none
      · exact ⟨_, rfl⟩
    · rw [if_pos (by simp [answers])]
      exact ⟨_, rfl⟩

/-- An offer that is taken up is requested. -/
theorem receive_of_offer {m : DhcpMessage} {lease : Lease}
    (read : DhcpMessage.parse payload = .ok m) (answers : isAnswer x.client m = true)
    (state : x.client.state = .select) (type : m.type = .offer)
    (accepted : Lease.ofOffer m = .ok lease) :
    x.receive up payload =
      (({ x.tell up (.accepting lease.address lease.serverId) with
          client := { x.client with
            lease := some lease, backoff := Dhcp.initialBackoff, state := .request } }).arm up
        Dhcp.requestTimeout).request up := by
  unfold receive
  simp only [read, answers, Bool.not_true, Bool.false_eq_true, if_false, state, type]
  unfold receiveOffer
  rw [accepted]
  rfl

/-- A grant is bound. -/
theorem receive_of_ack {m : DhcpMessage} (read : DhcpMessage.parse payload = .ok m)
    (answers : isAnswer x.client m = true)
    (state : x.client.state = .request ∨ x.client.state = .renew) (type : m.type = .ack) :
    x.receive up payload = (.ok (), x.bind up m) := by
  unfold receive
  rcases state with state | state <;>
    simp only [read, answers, Bool.not_true, Bool.false_eq_true, if_false, state, type]

/-- A refusal is taken in. -/
theorem receive_of_nak {m : DhcpMessage} (read : DhcpMessage.parse payload = .ok m)
    (answers : isAnswer x.client m = true)
    (state : x.client.state = .request ∨ x.client.state = .renew) (type : m.type = .nak) :
    x.receive up payload = x.receiveNak up := by
  unfold receive
  rcases state with state | state <;>
    simp only [read, answers, Bool.not_true, Bool.false_eq_true, if_false, state, type]

end Session

end DhcpClient

/-! ## At a sink -/

namespace Stack

variable {ω η φ : Type} [FileHandle η φ]

/-- Whether a packet carries what is no DHCP message. -/
def garbled (p : Packet) : Bool :=
  match p.payload? with
  | .error _ => false
  | .ok payload => DhcpMessage.garbled payload

/-- A core to which the client has told something, and which has counted garbled datagrams. -/
def noted (c : Core ω) (events : List DhcpEvent) (garbled : Nat) : Core ω :=
  { c with
    log := events.map .dhcp ++ c.log
    stats := { c.stats with rxMalformed := c.stats.rxMalformed + garbled } }

/-- What is noted twice is noted once, with all of it. -/
theorem noted_noted (c : Core ω) (first next : List DhcpEvent) (m n : Nat) :
    noted (noted c first m) next n = noted c (next ++ first) (m + n) := by
  simp [noted, Nat.add_assoc]

/-- **An irrelevant packet changes nothing** but the record of what was told and counted. -/
theorem deliver_of_irrelevant {d : Duty ω η φ} {client : DhcpClient}
    (kind : d.sink.kind = .dhcp client) {p : Packet} {payload : Bytes}
    (read : p.payload? = .ok payload) (irrelevant : client.Irrelevant payload) :
    ∃ e, d.deliver p =
      .ok (.ok (), { d with core := noted d.core [e] (garbled p).toNat }) := by
  obtain ⟨⟨id, filter, queue, timer, _⟩, core, volume⟩ := d
  dsimp only at kind
  subst kind
  obtain ⟨e, received⟩ := DhcpClient.Session.receive_of_irrelevant
    (Core.uplink ω) (x := ⟨client, timer, core⟩) irrelevant
  refine ⟨e, ?_⟩
  unfold Duty.deliver
  dsimp only
  rw [read, ok_bind, Duty.runClient]
  dsimp only
  rw [received]
  simp only [garbled, read]
  cases DhcpMessage.garbled payload <;> rfl

/-- **Nor do many.** Of all that waits for a client and is irrelevant to it, each packet is noted
once, and counted if it is garbled. The client and its timer, the addresses, the device and whatever
waits for it are as before. -/
theorem deliverAll_of_irrelevant {d : Duty ω η φ} {client : DhcpClient}
    (kind : d.sink.kind = .dhcp client) {packets : List Packet}
    (irrelevant : ∀ p ∈ packets, ∃ payload, p.payload? = .ok payload ∧ client.Irrelevant payload) :
    ∃ events : List DhcpEvent, events.length = packets.length ∧
      deliverAll d packets =
        .ok { d with core := noted d.core events (packets.countP garbled) } := by
  induction packets generalizing d with
  | nil => exact ⟨[], rfl, rfl⟩
  | cons p rest ih =>
    obtain ⟨payload, read, nothing⟩ := irrelevant p List.mem_cons_self
    obtain ⟨e, delivered⟩ := deliver_of_irrelevant kind read nothing
    have others : ∀ q ∈ rest, ∃ payload, q.payload? = .ok payload ∧ client.Irrelevant payload := by
      intro q mem
      exact irrelevant q (List.mem_cons_of_mem p mem)
    obtain ⟨events, length, handled⟩ :=
      ih (d := { d with core := noted d.core [e] (garbled p).toNat }) kind others
    refine ⟨events ++ [e], by simp [length], ?_⟩
    rw [deliverAll, delivered, ok_bind]
    refine handled.trans ?_
    rw [noted_noted, List.countP_cons, Nat.add_comm]
    cases garbled p <;> rfl

/-- A client on a bench that waits for an offer. -/
def selecting : DhcpClient :=
  { DhcpClient.ofMac ⟨2, 0, 0, 0, 0, 1⟩ with state := .select, xid := 7 }

/-- The sink of a client that searches, on an interface without an address. -/
def searching : Duty Bench RamFile RamVolume where
  sink := { filter := {}, timer := Timer.arm 0 200, kind := .dhcp selecting }
  core :=
    { device := Bench.device .a ⟨2, 0, 0, 0, 0, 1⟩ none 0, clock := Bench.now, hw := {}
      config := {}
      iface := InterfaceConfig.unconfigured, mac := ⟨2, 0, 0, 0, 0, 1⟩ }
  volume := {}

/-- An offer without a gateway. -/
def uselessOffer : DhcpMessage :=
  { op := Dhcp.bootReply, type := .offer, xid := 7, clientMac := ⟨2, 0, 0, 0, 0, 1⟩
    offeredAddress := ⟨10, 0, 0, 5⟩, serverId := some ⟨10, 0, 0, 1⟩, leaseSeconds := some 3600 }

/-- A packet that is all payload. -/
def bare (payload : Bytes) : Packet :=
  { data := payload, offsets := { network := 0, payloadLength := payload.length } }

/-- A bare datagram has its payload behind no header. -/
theorem payload?_bare (payload : Bytes) : (bare payload).payload? = .ok payload := by
  simp [Packet.payload?, bare, Bytes.slice?]

/-- A bare datagram is garbled if its payload is. -/
theorem garbled_bare (payload : Bytes) : garbled (bare payload) = DhcpMessage.garbled payload := by
  rw [garbled, payload?_bare]

/-- A useless offer and two stray octets find the client as patient as before. -/
theorem deliverAll_of_irrelevant_uselessOffer :
    searching.sink.kind = .dhcp selecting ∧
      (∀ p ∈ [bare uselessOffer.octets, bare [1, 2]],
        ∃ payload, p.payload? = .ok payload ∧ selecting.Irrelevant payload) ∧
      ∃ d, deliverAll searching [bare uselessOffer.octets, bare [1, 2]] = .ok d ∧
        d.sink = searching.sink ∧ d.core.hw = searching.core.hw ∧
        d.core.iface = searching.core.iface ∧ d.core.stats.rxMalformed = 1 := by
  have read : DhcpMessage.parse uselessOffer.octets = .ok uselessOffer :=
    DhcpMessage.parse_octets uselessOffer
  have unroutable : Lease.ofOffer uselessOffer = .error .noGateway := rfl
  have refused : selecting.Irrelevant uselessOffer.octets := .useless read rfl unroutable
  have stray : selecting.Irrelevant [1, 2] := .garbled (e := .packetTooShort) rfl
  have irrelevant : ∀ p ∈ [bare uselessOffer.octets, bare [1, 2]],
      ∃ payload, p.payload? = .ok payload ∧ selecting.Irrelevant payload := by
    intro p mem
    simp only [List.mem_cons, List.not_mem_nil, or_false] at mem
    rcases mem with rfl | rfl
    · exact ⟨_, payload?_bare _, refused⟩
    · exact ⟨_, payload?_bare _, stray⟩
  have counted : [bare uselessOffer.octets, bare [1, 2]].countP garbled = 1 := by
    simp only [List.countP_cons, garbled_bare, DhcpMessage.garbled, read]
    rfl
  obtain ⟨events, -, handled⟩ := deliverAll_of_irrelevant (d := searching) rfl irrelevant
  rw [counted] at handled
  exact ⟨rfl, irrelevant, _, handled, rfl, rfl, rfl, rfl⟩

end Stack

end PolledNet
