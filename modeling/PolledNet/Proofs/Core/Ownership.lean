import Mathlib.Control.Monad.Basic
import PolledNet.Link.Bench
import PolledNet.Proofs.Core.Mail

/-!
# Who owns a packet

A packet given to the core is afterwards taken by the device, in the backlog, or parked. What stays
the same of it on its way is its `letter`. `Core.copies` counts the packets with a letter in all
three places together, and the device is observed from outside (`Device.tapped`).

* `Leads.copies_le`: **no copy is ever made.** Whatever the core does next, there are no more
  packets with a letter than before, unless another one is given to it.
* `transmit_ownership`: a packet that is accepted is in exactly one place. One that is refused is
  in none and is never sent, except when the core has to ask for its next hop first: then it is
  parked, also if the request for the address is lost.
-/

namespace PolledNet

/-! ## Devices under observation -/

/-- Hardware with a record of the frames that its device has taken. -/
structure Tapped (ω : Type) where
  /-- The hardware. -/
  hw : ω
  /-- The frames taken so far, oldest first. -/
  taken : List Bytes := []
  deriving DecidableEq

/-- A device that works as another one and keeps a record. -/
def Device.tapped {ω : Type} (d : Device ω) : Device (Tapped ω) where
  mac := d.mac
  name := d.name
  start t := ((d.start t.hw).1, { t with hw := (d.start t.hw).2 })
  halt t := { t with hw := d.halt t.hw }
  service t := { t with hw := d.service t.hw }
  transmit frame t :=
    match d.transmit frame t.hw with
    | (.ok (), hw) => (.ok (), ⟨hw, t.taken ++ [frame]⟩)
    | (.error e, hw) => (.error e, { t with hw })
  canTransmit t := d.canTransmit t.hw
  receive t := ((d.receive t.hw).1, { t with hw := (d.receive t.hw).2 })
  link t := d.link t.hw

section Tapped

variable {ω : Type} {d : Device ω} {frame : Bytes} {t t' : Tapped ω}

/-- A frame that is taken goes on record. -/
theorem Device.taken_of_ok (transmitted : d.tapped.transmit frame t = (.ok (), t')) :
    t'.taken = t.taken ++ [frame] := by
  unfold Device.tapped at transmitted
  dsimp only at transmitted
  split at transmitted <;> cases transmitted
  rfl

/-- A frame that is refused does not. -/
theorem Device.taken_of_error {e : TransmitError}
    (transmitted : d.tapped.transmit frame t = (.error e, t')) : t'.taken = t.taken := by
  unfold Device.tapped at transmitted
  dsimp only at transmitted
  split at transmitted <;> cases transmitted
  rfl

/-- The record is kept by nobody but the device. -/
theorem Device.records_tapped (d : Device ω) : d.tapped.Records Tapped.taken where
  taken := Device.taken_of_ok
  refused := Device.taken_of_error
  receive _ := rfl
  service _ := rfl

end Tapped

/-! ## Places -/

/-- Where a packet may be once it has been given to the core. -/
inductive Place where
  /-- The device has taken it. -/
  | device
  /-- It waits for the device. -/
  | backlog
  /-- It waits for its next hop. -/
  | parked
  deriving DecidableEq, Repr

namespace Core

variable {ω : Type}

/-- The letters at a place. -/
def letters (c : Core (Tapped ω)) : Place → List Bytes
  | .device => c.hw.taken.map Bytes.letter
  | .backlog => c.backlog.map Packet.letter
  | .parked => c.parked.map Packet.letter

/-- How many packets with a letter are at a place. -/
def held (c : Core (Tapped ω)) (letter : Bytes) (place : Place) : Nat :=
  (c.letters place).count letter

/-- How many packets with a letter there are. -/
def copies (c : Core (Tapped ω)) (letter : Bytes) : Nat :=
  c.held letter .device + c.held letter .backlog + c.held letter .parked

/-- One packet with a letter has come to one place, and none to or from the others. -/
def Gains (c : Core (Tapped ω)) (letter : Bytes) (place : Place) (c' : Core (Tapped ω)) : Prop :=
  ∀ other, c'.held letter other = c.held letter other + if other = place then 1 else 0

/-- No packet with a letter has come or gone. -/
def Keeps (c : Core (Tapped ω)) (letter : Bytes) (c' : Core (Tapped ω)) : Prop :=
  ∀ place, c'.held letter place = c.held letter place

section Places

variable {c c' c'' : Core (Tapped ω)} {letter : Bytes} {place : Place}

/-- As many packets with a letter as before are there if none has come or gone. -/
theorem Keeps.copies (keeps : c.Keeps letter c') : c'.copies letter = c.copies letter := by
  unfold Core.copies
  rw [keeps .device, keeps .backlog, keeps .parked]

/-- What came to a place stays there if nothing comes or goes later. -/
theorem Gains.andKeeps (gains : c.Gains letter place c') (keeps : c'.Keeps letter c'') :
    c.Gains letter place c'' := fun other => (keeps other).trans (gains other)

/-- Parking is one way to own a packet. -/
theorem gains_park (c : Core (Tapped ω)) (p : Packet) : c.Gains p.letter .parked (c.park p) := by
  intro other
  cases other with
  | device | backlog => rfl
  | parked => simp [held, letters, park]

end Places

/-! ## One frame -/

section Sent

variable {d : Device ω} {c c' : Core (Tapped ω)} {p : Packet} {answer : Except NetError Unit}

/-- A frame that was not taken leaves the record as it was. -/
theorem NotTaken.taken (tapped : c.device = d.tapped) {hw : Tapped ω}
    (notTaken : c.NotTaken p hw) : hw.taken = c.hw.taken := by
  rcases notTaken with rfl | ⟨e, transmitted⟩
  · rfl
  · rw [tapped] at transmitted
    exact Device.taken_of_error transmitted

/-- **A frame that is accepted comes to one place.** -/
theorem Sent.gains (tapped : c.device = d.tapped) (sent : Sent c p (.ok ()) c') :
    ∃ place, c.Gains p.letter place c' := by
  cases sent with
  | taken hw stats transmitted =>
    rw [tapped] at transmitted
    have taken := Device.taken_of_ok transmitted
    refine ⟨.device, fun other => ?_⟩
    cases other with
    | backlog | parked => rfl
    | device =>
      have letter : p.padded.data.letter = p.letter := p.letter_padded
      simp [held, letters, taken, letter]
  | waits hw stats notTaken =>
    have same := notTaken.taken tapped
    refine ⟨.backlog, fun other => ?_⟩
    cases other with
    | parked => rfl
    | device => simp [held, letters, same]
    | backlog => simp [held, letters, p.letter_padded]

/-- A packet that is lost comes to no place. -/
theorem Sent.keeps_of_error {e : NetError} (tapped : c.device = d.tapped)
    (sent : Sent c p (.error e) c') (letter : Bytes) : c.Keeps letter c' := by
  cases sent with
  | lost hw stats notTaken =>
    have same := notTaken.taken tapped
    intro place
    cases place with
    | backlog | parked => rfl
    | device => simp [held, letters, same]

/-- Frames with other letters do not matter. -/
theorem Sent.keeps_of_ne {letter : Bytes} (tapped : c.device = d.tapped)
    (sent : Sent c p answer c') (other : p.letter ≠ letter) : c.Keeps letter c' := by
  cases sent with
  | taken hw stats transmitted =>
    rw [tapped] at transmitted
    have taken := Device.taken_of_ok transmitted
    have ne : p.padded.data.letter ≠ letter := by rw [← p.letter_padded] at other; exact other
    intro place
    cases place with
    | backlog | parked => rfl
    | device => simp [held, letters, taken, ne]
  | waits hw stats notTaken =>
    have same := notTaken.taken tapped
    intro place
    cases place with
    | parked => rfl
    | device => simp [held, letters, same]
    | backlog =>
      have ne : p.padded.letter ≠ letter := by rwa [p.letter_padded]
      simp [held, letters, ne]
  | lost hw stats notTaken e =>
    have same := notTaken.taken tapped
    intro place
    cases place with
    | backlog | parked => rfl
    | device => simp [held, letters, same]

/-- Asking for an address moves ARP messages only. -/
theorem keeps_sendArpRequest (tapped : c.device = d.tapped) {letter : Bytes}
    (notArp : letter.NotArp) (target : Ipv4) : c.Keeps letter (c.sendArpRequest target).2 := by
  have sent := (c.tell (.arp (.asking target c.iface.address))).sendFrame_sent
    ((ArpMessage.request c.mac c.iface.address target).packet Mac.broadcast)
  exact Sent.keeps_of_ne (c := c.tell _) tapped sent (notArp _ _)

end Sent

/-! ## What the core does next -/

/-- An act does not give the core another packet with a letter, nor does it forge the record. -/
def Spares (letter : Bytes) : Act (Tapped ω) → Prop
  | .sendFrame p => p.letter ≠ letter
  | .transmit p => p.sealed.letter ≠ letter
  | .elapse f => ∀ t, (f t).taken = t.taken
  | _ => True

/-- To count the packets with a letter is to count the letters in the mail. -/
theorem copies_eq_countP (c : Core (Tapped ω)) (letter : Bytes) :
    c.copies letter = (c.mail Tapped.taken).countP (· == letter) :=
  (countP_mail Tapped.taken (· == letter) c).symm

/-! ## One packet -/

/-- The core has to ask for the next hop of a packet before it can send it. -/
def Asks (c : Core ω) (p : Packet) : Prop :=
  ∃ hop q, p.disposition c.iface = .resolve hop q ∧ c.resolution c.now hop = .sendRequest

section Transmit

variable {d : Device ω} {c : Core (Tapped ω)} {p : Packet}

/-- A packet whose next hop has to be asked for is parked, whatever becomes of the request. -/
theorem gains_settle_of_sendRequest (tapped : c.device = d.tapped) (notArp : p.letter.NotArp)
    (hop : Ipv4) (failed : Except NetError Unit) :
    c.Gains p.letter .parked (c.settle p hop .sendRequest failed).2 :=
  (c.gains_park p).andKeeps (keeps_sendArpRequest (c := c.park p) tapped notArp hop)

/-- A packet that is accepted has come to one place. -/
theorem gains_settle_of_ok (tapped : c.device = d.tapped) (notArp : p.letter.NotArp) {hop : Ipv4}
    {resolution : Resolution} {e : NetError}
    (accepted : (c.settle p hop resolution (.error e)).1 = .ok ()) :
    ∃ place, c.Gains p.letter place (c.settle p hop resolution (.error e)).2 := by
  cases resolution with
  | hit mac =>
    have sent := c.sendFrame_sent (p.addressedTo mac)
    change (c.sendFrame (p.addressedTo mac)).1 = .ok () at accepted
    rw [accepted] at sent
    have gains := sent.gains tapped
    rwa [p.letter_addressedTo] at gains
  | sendRequest => exact ⟨.parked, gains_settle_of_sendRequest tapped notArp hop _⟩
  | wait => exact ⟨.parked, c.gains_park p⟩
  | fail => cases accepted

/-- A packet that is refused has come nowhere, unless its next hop was asked for. -/
theorem keeps_settle_of_error (tapped : c.device = d.tapped) {hop : Ipv4}
    {resolution : Resolution} (quiet : resolution ≠ .sendRequest) {failed : Except NetError Unit}
    {e : NetError} (refused : (c.settle p hop resolution failed).1 = .error e) (letter : Bytes) :
    c.Keeps letter (c.settle p hop resolution failed).2 := by
  cases resolution with
  | hit mac =>
    have sent := c.sendFrame_sent (p.addressedTo mac)
    change (c.sendFrame (p.addressedTo mac)).1 = .error e at refused
    rw [refused] at sent
    exact sent.keeps_of_error tapped letter
  | sendRequest => exact absurd rfl quiet
  | wait => cases refused
  | fail => exact fun place => by cases place <;> rfl

/-- What has to be resolved is settled by the state of its next hop. -/
theorem transmitIpv4_of_resolve {hop : Ipv4} {q : Packet}
    (route : p.disposition c.iface = .resolve hop q) :
    c.transmitIpv4 p = (c.advanceResolution c.now hop).2.settle q hop (c.resolution c.now hop)
      (.error (.arpFailed hop)) := by
  rw [transmitIpv4_eq, route]
  rfl

/-- A packet whose next hop has to be asked for is parked. -/
theorem gains_transmitIpv4_of_asks (tapped : c.device = d.tapped)
    (notArp : p.sealed.letter.NotArp) (asks : c.Asks p) :
    c.Gains p.sealed.letter .parked (c.transmitIpv4 p).2 := by
  obtain ⟨hop, q, route, unknown⟩ := asks
  rw [← Packet.letter_of_disposition (.inr ⟨hop, route⟩)] at notArp ⊢
  rw [transmitIpv4_of_resolve route, unknown]
  exact gains_settle_of_sendRequest (c := (c.advanceResolution c.now hop).2) tapped notArp hop _

/-- A packet that is accepted is in one place. -/
theorem gains_transmitIpv4_of_ok (tapped : c.device = d.tapped)
    (notArp : p.sealed.letter.NotArp) (accepted : (c.transmitIpv4 p).1 = .ok ()) :
    ∃ place, c.Gains p.sealed.letter place (c.transmitIpv4 p).2 := by
  cases route : p.disposition c.iface with
  | barred => rw [transmitIpv4_eq, route] at accepted; cases accepted
  | refused cause => rw [transmitIpv4_eq, route] at accepted; cases accepted
  | send q =>
    rw [← Packet.letter_of_disposition (.inl route)]
    rw [transmitIpv4_eq, route] at accepted ⊢
    have sent := c.sendFrame_sent q
    rw [accepted] at sent
    exact sent.gains tapped
  | resolve hop q =>
    rw [← Packet.letter_of_disposition (.inr ⟨hop, route⟩)] at notArp ⊢
    rw [transmitIpv4_of_resolve route] at accepted ⊢
    exact gains_settle_of_ok (c := (c.advanceResolution c.now hop).2) tapped notArp accepted

/-- A packet that is refused is in no place, unless its next hop has to be asked for. -/
theorem keeps_transmitIpv4_of_error (tapped : c.device = d.tapped) {e : NetError}
    (refused : (c.transmitIpv4 p).1 = .error e) (quiet : ¬ c.Asks p) (letter : Bytes) :
    c.Keeps letter (c.transmitIpv4 p).2 := by
  cases route : p.disposition c.iface with
  | barred => rw [transmitIpv4_eq, route]; exact fun place => by cases place <;> rfl
  | refused cause => rw [transmitIpv4_eq, route]; exact fun _ => rfl
  | send q =>
    rw [transmitIpv4_eq, route] at refused ⊢
    have sent := c.sendFrame_sent q
    rw [refused] at sent
    exact sent.keeps_of_error tapped letter
  | resolve hop q =>
    have silent : c.resolution c.now hop ≠ .sendRequest := fun asks => quiet ⟨hop, q, route, asks⟩
    rw [transmitIpv4_of_resolve route] at refused ⊢
    exact keeps_settle_of_error (c := (c.advanceResolution c.now hop).2) tapped silent refused
      letter

end Transmit

/-! ## Whole runs -/

section Runs

variable {d : Device ω} {c c' : Core (Tapped ω)} {letter : Bytes}

/-- An act does not add to the packets with a letter that it spares. -/
theorem copies_act_le (tapped : c.device = d.tapped) (notArp : letter.NotArp)
    {a : Act (Tapped ω)} (spares : Spares letter a) :
    (c.act a).copies letter ≤ c.copies letter := by
  have records : c.device.Records Tapped.taken := by
    rw [tapped]
    exact d.records_tapped
  have quiet : c.Quiet (· == letter) := fun target => beq_false_of_ne (notArp _ _)
  have none : a.posts.count letter = 0 := by
    cases a with
    | sendFrame p => exact List.count_eq_zero.mpr fun mem => spares (List.mem_singleton.mp mem).symm
    | transmit p => exact List.count_eq_zero.mpr fun mem => spares (List.mem_singleton.mp mem).symm
    | _ => rfl
  have honest (f : Tapped ω → Tapped ω) (eq : a = .elapse f) (t : Tapped ω) :
      (f t).taken = t.taken := by
    subst eq
    exact spares t
  have least := countP_mail_act_le records quiet honest
  rw [show a.posts.countP (· == letter) = 0 from none] at least
  rw [copies_eq_countP, copies_eq_countP]
  exact least

/-- **No copy is ever made** of a packet, whatever is done next, unless it is given to the core once
more. -/
theorem Leads.copies_le (tapped : c.device = d.tapped) (notArp : letter.NotArp)
    (leads : Leads (Spares letter) c c') : c'.copies letter ≤ c.copies letter := by
  have kept := leads.keeps
    (fun c' => c'.device = d.tapped ∧ c'.copies letter ≤ c.copies letter) ?_
    ⟨tapped, Nat.le_refl _⟩
  · exact kept.2
  · rintro c₁ a spares ⟨device, fewer⟩
    exact ⟨(sameSetup_act a).device.trans device,
      Nat.le_trans (copies_act_le device notArp spares) fewer⟩

/-- **Who owns a packet that was given to the core.** If it is accepted, it is in exactly one place.
If it is refused, it is in none and never sent; unless its next hop had to be asked for, for then it
is parked, and the answer is that of the request. -/
theorem transmit_ownership (tapped : c.device = d.tapped) {p : Packet} (ipv4 : p.IsIpv4) :
    ∃ answer c', c.transmit p = .ok (answer, c') ∧
      (answer = .ok () → ∃ place, c.Gains p.sealed.letter place c') ∧
      (∀ e, answer = .error e →
        (c.Asks p → c.Gains p.sealed.letter .parked c') ∧
        (¬ c.Asks p → c.Keeps p.sealed.letter c' ∧
          ∀ c'', Leads (Spares p.sealed.letter) c' c'' →
            c''.held p.sealed.letter .device ≤ c.copies p.sealed.letter)) := by
  have notArp := ipv4.notArp
  refine ⟨(c.transmitIpv4 p).1, (c.transmitIpv4 p).2, ?_, ?_,
    fun e refused => ⟨?_, fun quiet => ?_⟩⟩
  · rw [transmit, ipv4.type]
    rfl
  · exact gains_transmitIpv4_of_ok tapped notArp
  · exact gains_transmitIpv4_of_asks tapped notArp
  · have keeps := keeps_transmitIpv4_of_error tapped refused quiet p.sealed.letter
    refine ⟨keeps, fun c'' later => ?_⟩
    have device := (c.undisturbed_transmitIpv4 p).setup.device.trans tapped
    have fewer := later.copies_le device notArp
    rw [keeps.copies] at fewer
    exact Nat.le_trans (Nat.le_trans (Nat.le_add_right _ _) (Nat.le_add_right _ _)) fewer

end Runs

/-! ## A request that is lost -/

/-- A core that knows nobody, on a bench whose next transmission fails. -/
def faulty : Core (Tapped Bench) where
  device := (Bench.device .a ⟨2, 0, 0, 0, 0, 1⟩ none 0).tapped
  clock t := t.hw.now
  hw := { hw := Bench.refuse {} .a [.hardwareError] }
  config := {}
  iface := ⟨⟨10, 0, 0, 2⟩, ⟨255, 255, 255, 0⟩, none, none⟩
  mac := ⟨2, 0, 0, 0, 0, 1⟩

/-- A datagram to a neighbour. -/
def toNeighbour : Packet := (faulty.datagram 7 ⟨10, 0, 0, 9⟩ 9 [1]).1

/-- The core after it was given the datagram. -/
def given : Core (Tapped Bench) := (faulty.transmitIpv4 toNeighbour).2

/-- The greeting to the neighbour is an IPv4 packet. -/
theorem isIpv4_toNeighbour : toNeighbour.IsIpv4 := ⟨by decide +kernel, by decide⟩

/-- The next hop of the packet has to be asked for. -/
theorem asks_toNeighbour : faulty.Asks toNeighbour := by
  have route : ∃ q, toNeighbour.disposition faulty.iface = .resolve ⟨10, 0, 0, 9⟩ q := ⟨_, rfl⟩
  obtain ⟨q, route⟩ := route
  exact ⟨⟨10, 0, 0, 9⟩, q, route, by decide⟩

/-- The request is lost, and the caller is told. -/
theorem transmit_toNeighbour :
    faulty.transmit toNeighbour = .ok (.error (.transmit .hardwareError), given) := by
  have refused : (faulty.transmitIpv4 toNeighbour).1 = .error (.transmit .hardwareError) := by
    decide +kernel
  rw [transmit, isIpv4_toNeighbour.type, ← refused]
  rfl

/-- The question is lost, the error is told, and the packet is parked all the same. -/
theorem transmit_ownership_requestLost :
    faulty.transmit toNeighbour = .ok (.error (.transmit .hardwareError), given) ∧
      faulty.Asks toNeighbour ∧ faulty.Gains toNeighbour.sealed.letter .parked given := by
  obtain ⟨answer, c', ran, -, refused⟩ :=
    transmit_ownership (c := faulty) (d := Bench.device .a ⟨2, 0, 0, 0, 0, 1⟩ none 0) rfl
      isIpv4_toNeighbour
  cases transmit_toNeighbour.symm.trans ran
  exact ⟨transmit_toNeighbour, asks_toNeighbour, (refused _ rfl).1 asks_toNeighbour⟩

/-- **A packet that was refused may be sent.** The request for the address of its next hop is lost,
and the caller is told of an error; but the packet stays parked, and once the address is heard the
device takes it. -/
theorem not_refused_never_sent :
    faulty.transmit toNeighbour = .ok (.error (.transmit .hardwareError), given) ∧
      given.held toNeighbour.sealed.letter .parked = 1 ∧
      ((given.act (.learn ⟨10, 0, 0, 9⟩ ⟨2, 0, 0, 0, 0, 9⟩)).act .retry).held
        toNeighbour.sealed.letter .device = 1 :=
  ⟨transmit_toNeighbour, by decide +kernel⟩

end Core

end PolledNet
