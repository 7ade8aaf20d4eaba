import PolledNet.Proofs.Core.Activity
import PolledNet.Proofs.Core.Letters

/-!
# What a core has posted

The hardware of a core may keep a record of the frames that its device has taken (`Device.Records`).
The letters of these, of the frames that wait for the device, and of the packets that wait for their
next hop are the mail of the core (`Core.mail`). Whatever is done to a core, its mail is made of
three things: what was there before, what was given to it then (`Act.posts`), and the questions that
it asks for next hops.

* `countP_mail_act_le`: **nothing is posted twice.** Of any kind of letters that no question is of,
  there are afterwards no more than before and were given together.
* `mem_mail_act`: **nothing else is posted.**
-/

namespace PolledNet

variable {ω : Type} {record : ω → List Bytes}

/-- The hardware keeps a record of the frames that its device has taken, oldest first. -/
structure Device.Records (d : Device ω) (record : ω → List Bytes) : Prop where
  taken {frame : Bytes} {hw hw' : ω} (took : d.transmit frame hw = (.ok (), hw')) :
    record hw' = record hw ++ [frame]
  refused {frame : Bytes} {hw hw' : ω} {e : TransmitError}
    (refusal : d.transmit frame hw = (.error e, hw')) : record hw' = record hw
  receive (hw : ω) : record (d.receive hw).2 = record hw
  service (hw : ω) : record (d.service hw) = record hw

/-- What an act gives to the core to be sent. -/
def Act.posts : Act ω → List Bytes
  | .sendFrame p => [p.letter]
  | .transmit p => [p.sealed.letter]
  | _ => []

namespace Core

/-- The letters of the frames taken, and of the packets that wait. -/
def mail (record : ω → List Bytes) (c : Core ω) : List Bytes :=
  (record c.hw).map Bytes.letter ++ c.backlog.map Packet.letter ++ c.parked.map Packet.letter

/-- The letter of the frame that asks for a next hop. -/
def question (c : Core ω) (target : Ipv4) : Bytes :=
  ((ArpMessage.request c.mac c.iface.address target).packet Mac.broadcast).letter

/-- No question of the core is of a kind. -/
def Quiet (P : Bytes → Bool) (c : Core ω) : Prop := ∀ target, P (c.question target) = false

variable {P : Bytes → Bool} {c c' : Core ω} {p : Packet}

/-- Letters of a kind are counted place by place. -/
theorem countP_mail (record : ω → List Bytes) (P : Bytes → Bool) (c : Core ω) :
    (c.mail record).countP P = ((record c.hw).map Bytes.letter).countP P +
      (c.backlog.map Packet.letter).countP P + (c.parked.map Packet.letter).countP P := by
  rw [mail, List.countP_append, List.countP_append]

/-- What leaves the setup and our addresses alone changes none of the questions. -/
theorem Undisturbed.quiet (same : c.Undisturbed c') (quiet : c.Quiet P) : c'.Quiet P := by
  unfold Quiet question
  rw [same.setup.mac, same.iface]
  exact quiet

/-- The hardware is still recorded, since the device is the same. -/
theorem Undisturbed.records (same : c.Undisturbed c') (records : c.device.Records record) :
    c'.device.Records record := by
  rw [same.setup.device]
  exact records

/-- What was not taken was not put on record. -/
theorem NotTaken.recorded {hw : ω} (notTaken : c.NotTaken p hw)
    (records : c.device.Records record) : record hw = record c.hw := by
  obtain rfl | ⟨e, refusal⟩ := notTaken
  · rfl
  · exact records.refused refusal

/-! ## One packet -/

/-- A frame adds at most itself. -/
theorem Sent.countP_mail_le {answer : Except NetError Unit} (sent : Sent c p answer c')
    (records : c.device.Records record) :
    (c'.mail record).countP P ≤ (c.mail record).countP P + [p.letter].countP P := by
  have letter : p.padded.data.letter = p.letter := p.letter_padded
  rw [countP_mail, countP_mail]
  cases sent with
  | taken hw stats took =>
    have grown : record hw = record c.hw ++ [p.padded.data] := records.taken took
    dsimp only
    rw [grown, List.map_append, List.countP_append, List.map_singleton, letter]
    omega
  | waits hw stats notTaken =>
    dsimp only
    rw [notTaken.recorded records, List.map_append, List.countP_append, List.map_singleton,
      p.letter_padded]
    omega
  | lost hw stats notTaken =>
    dsimp only
    rw [notTaken.recorded records]
    exact Nat.le_add_right _ _

/-- To park a packet adds its letter. -/
theorem countP_mail_park (c : Core ω) (p : Packet) :
    ((c.park p).mail record).countP P = (c.mail record).countP P + [p.letter].countP P := by
  rw [countP_mail, countP_mail]
  show _ + ((c.parked ++ [p]).map Packet.letter).countP P = _
  rw [List.map_append, List.countP_append, List.map_singleton]
  exact (Nat.add_assoc _ _ _).symm

/-- A question does not count. -/
theorem countP_mail_sendArpRequest_le (records : c.device.Records record) (quiet : c.Quiet P)
    (target : Ipv4) :
    ((c.sendArpRequest target).2.mail record).countP P ≤ (c.mail record).countP P := by
  have sent := (c.tell (.arp (.asking target c.iface.address))).sendFrame_sent
    ((ArpMessage.request c.mac c.iface.address target).packet Mac.broadcast)
  have least := sent.countP_mail_le (P := P) records
  rwa [show Packet.letter _ = c.question target from rfl, List.countP_singleton,
    quiet target] at least

/-- A packet whose next hop is looked up is counted once at most, whether or not it leaves at once.
-/
theorem countP_mail_settle_le (records : c.device.Records record) (quiet : c.Quiet P) (p : Packet)
    (hop : Ipv4) (resolution : Resolution) (failed : Except NetError Unit) :
    ((c.settle p hop resolution failed).2.mail record).countP P ≤
      (c.mail record).countP P + [p.letter].countP P := by
  cases resolution with
  | hit mac =>
    have least := (c.sendFrame_sent (p.addressedTo mac)).countP_mail_le (P := P) records
    rwa [p.letter_addressedTo] at least
  | sendRequest =>
    rw [← countP_mail_park]
    exact countP_mail_sendArpRequest_le (c := c.park p) records quiet hop
  | wait => exact Nat.le_of_eq (countP_mail_park c p)
  | fail => exact Nat.le_add_right _ _

/-- A packet that is given to the core adds its letter once at most, and questions do not count. -/
theorem countP_mail_transmitIpv4_le (records : c.device.Records record) (quiet : c.Quiet P)
    (p : Packet) :
    ((c.transmitIpv4 p).2.mail record).countP P ≤
      (c.mail record).countP P + [p.sealed.letter].countP P := by
  cases route : p.disposition c.iface with
  | barred => rw [transmitIpv4_eq, route]; exact Nat.le_add_right _ _
  | refused cause => rw [transmitIpv4_eq, route]; exact Nat.le_add_right _ _
  | send q =>
    rw [← Packet.letter_of_disposition (.inl route), transmitIpv4_eq, route]
    exact (c.sendFrame_sent q).countP_mail_le records
  | resolve hop q =>
    rw [← Packet.letter_of_disposition (.inr ⟨hop, route⟩), transmitIpv4_eq, route]
    exact countP_mail_settle_le (c := (c.advanceResolution c.now hop).2) records quiet q hop _ _

/-! ## Passes -/

/-- A packet of a pass is counted once at most. -/
theorem Retried.countP_mail_le {now : Tick} {failed failed' : List Ipv4}
    (step : Retried now c failed p c' failed') (records : c.device.Records record)
    (quiet : c.Quiet P) :
    (c'.mail record).countP P ≤ (c.mail record).countP P + [p.letter].countP P := by
  cases step with
  | aimless => exact Nat.le_add_right _ _
  | dropped => exact Nat.le_add_right _ _
  | @retried hop _ next hope told =>
    have least : ((c.retryVia now p hop).mail record).countP P ≤ _ :=
      countP_mail_settle_le (c := (c.advanceResolution now hop).2) records quiet p hop
        (c.resolution now hop) (.ok ())
    obtain rfl | ⟨e, rfl⟩ := told
    · exact least
    · exact least

/-- The packets of a pass are counted once at most, each of them. -/
theorem countP_mail_retryParked_le (records : c.device.Records record) (quiet : c.Quiet P)
    (now : Tick) (failed : List Ipv4) (packets : List Packet) :
    ((retryParked now c failed packets).mail record).countP P ≤
      (c.mail record).countP P + (packets.map Packet.letter).countP P := by
  induction packets generalizing c failed with
  | nil => exact Nat.le_add_right _ _
  | cons p rest ih =>
    obtain ⟨c', failed', step, eq⟩ := retryParked_cons now c failed p rest
    have one := step.countP_mail_le records quiet
    have others := ih (step.undisturbed.records records) (step.undisturbed.quiet quiet) failed'
    rw [eq, List.map_cons, ← List.singleton_append, List.countP_append]
    omega

/-- A pass takes the parked packets up and may park them again. -/
theorem countP_mail_serviceParked_le (records : c.device.Records record) (quiet : c.Quiet P) :
    (c.serviceParked.mail record).countP P ≤ (c.mail record).countP P := by
  have least := countP_mail_retryParked_le (c := { c with parked := [] }) records quiet c.now []
    c.parked
  rw [countP_mail _ _ { c with parked := [] }] at least
  rwa [countP_mail record P c]

/-- Handing frames to the device moves them or loses them. -/
theorem countP_mail_flush_le (records : c.device.Records record) (frames : List Packet) :
    ((c.flush frames).mail record).countP P ≤
      ({ c with backlog := frames }.mail record).countP P := by
  induction frames generalizing c with
  | nil => exact Nat.le_refl _
  | cons p rest ih =>
    unfold flush handOver
    split
    · cases transmitted : c.device.transmit p.data c.hw with
      | mk answer hw =>
        cases answer with
        | ok =>
          have grown := records.taken transmitted
          refine Nat.le_trans (ih records) (Nat.le_of_eq ?_)
          simp only [countP_mail, count, grown, List.map_append, List.map_cons, List.map_nil,
            List.countP_append, List.countP_cons, List.countP_nil, Packet.letter]
          omega
        | error e =>
          have same := records.refused transmitted
          refine Nat.le_trans (ih records) ?_
          simp only [countP_mail, count, tell, same, List.map_cons, List.countP_cons]
          omega
    · exact Nat.le_refl _

/-! ## Whatever is done -/

/-- **Nothing is posted twice.** Of the letters of a kind that no question is of, there are after an
act no more than before it and were given to the core by it together. -/
theorem countP_mail_act_le (records : c.device.Records record) (quiet : c.Quiet P) {a : Act ω}
    (honest : ∀ f, a = .elapse f → ∀ hw, record (f hw) = record hw) :
    ((c.act a).mail record).countP P ≤ (c.mail record).countP P + a.posts.countP P := by
  cases a with
  | sendFrame p => exact (c.sendFrame_sent p).countP_mail_le records
  | transmit p => exact countP_mail_transmitIpv4_le records quiet p
  | retry => exact countP_mail_serviceParked_le records quiet
  | flush => exact countP_mail_flush_le records c.backlog
  | receive =>
    rw [countP_mail, countP_mail]
    exact Nat.le_of_eq (by rw [act, records.receive]; rfl)
  | service =>
    rw [countP_mail, countP_mail]
    exact Nat.le_of_eq (by rw [act, records.service]; rfl)
  | elapse f =>
    rw [countP_mail, countP_mail]
    exact Nat.le_of_eq (by rw [act, honest f rfl]; rfl)
  | tell | count | identify | learn | sweep | configure => exact Nat.le_refl _

/-- **Nothing else is posted.** -/
theorem mem_mail_act (records : c.device.Records record) {a : Act ω}
    (honest : ∀ f, a = .elapse f → ∀ hw, record (f hw) = record hw) {letter : Bytes}
    (mem : letter ∈ (c.act a).mail record) :
    letter ∈ c.mail record ∨ letter ∈ a.posts ∨ ∃ target, letter = c.question target := by
  refine Classical.byContradiction fun absent => ?_
  obtain ⟨before, absent⟩ := not_or.mp absent
  obtain ⟨given, unasked⟩ := not_or.mp absent
  have quiet : c.Quiet (· == letter) := by
    intro target
    exact beq_false_of_ne fun same => unasked ⟨target, same.symm⟩
  have least := countP_mail_act_le records quiet honest
  have some : 0 < ((c.act a).mail record).count letter := List.count_pos_iff.mpr mem
  have none : (c.mail record).count letter = 0 := List.count_eq_zero.mpr before
  have none' : a.posts.count letter = 0 := List.count_eq_zero.mpr given
  unfold List.count at some none none'
  omega

end Core

end PolledNet
