import Mathlib.Control.Monad.Basic
import PolledNet.Link.Bench
import PolledNet.Proofs.Arp.Cache
import PolledNet.Proofs.Core.Activity

/-!
# Packets that wait for a next hop that does not answer

The operator is told once of every next hop that is given up, and of every request that goes out.
These two counts (`unanswered`, `asked`) say what the resolution of a next hop has come to between
two moments, and `waiting` lists the parked packets that wait for it.

* `resolved_settle`: what a resolution makes of the packet it was asked for.
* `retryParked_waiting`: who waits after a pass over the parked packets.
* `waiting_after_failure`: **who is left waiting** once a next hop has been given up. A packet that
  is sent anew leaves all who waited before, and they ask again in the next pass. A pass leaves
  nobody, except for those who have asked in the same pass, which takes a pause of zero between
  requests.
-/

namespace PolledNet

namespace Core

variable {ω : Type}

/-- The parked packets that wait for a next hop. -/
def waiting (c : Core ω) (hop : Ipv4) : List Packet := c.parked.filter (·.nextHop = some hop)

/-- How often the operator has been told that a next hop did not answer. -/
def unanswered (c : Core ω) (hop : Ipv4) : Nat := c.log.count (.arp (.unanswered hop))

/-- Whether an event is a request for an address. -/
def asksFor (hop : Ipv4) : Event → Bool
  | .arp (.asking target _) => target = hop
  | _ => false

/-- How often the operator has been told of a request for an address. -/
def asked (c : Core ω) (hop : Ipv4) : Nat := c.log.countP (asksFor hop)

/-- A next hop is given up between two moments. -/
def GivesUp (c c' : Core ω) (hop : Ipv4) : Prop := c.unanswered hop < c'.unanswered hop

/-! ## One resolution -/

/-- What has become of a packet whose next hop was resolved. -/
structure Resolved (now : Tick) (c : Core ω) (p : Packet) (hop : Ipv4) (c' : Core ω) : Prop where
  config : c'.config = c.config
  arp : c'.arp = (c.arp.resolve hop now c.config.arpRetryInterval).2
  /-- It is parked as long as there is hope. -/
  parked : c'.parked = c.parked ++
    if c.resolution now hop = .sendRequest ∨ c.resolution now hop = .wait then [p] else []
  /-- A failure is told. -/
  unanswered : ∀ h, c'.unanswered h =
    c.unanswered h + if c.resolution now hop = .fail ∧ h = hop then 1 else 0
  /-- So is a request. -/
  asked : ∀ h, c'.asked h =
    c.asked h + if c.resolution now hop = .sendRequest ∧ h = hop then 1 else 0

/-- A hop is given up in the log when the operator is told so. -/
theorem unanswered_tell (c : Core ω) (e : Event) (hop : Ipv4) :
    (c.tell e).unanswered hop = c.unanswered hop + if e = .arp (.unanswered hop) then 1 else 0 := by
  rw [Core.unanswered, tell, List.count_cons]
  simp only [beq_iff_eq]
  rfl

/-- A hop is asked for in the log when the operator is told so. -/
theorem asked_tell (c : Core ω) (e : Event) (hop : Ipv4) :
    (c.tell e).asked hop = c.asked hop + if asksFor hop e then 1 else 0 := by
  rw [Core.asked, tell, List.countP_cons]
  rfl

/-- Sending tells the operator of nobody who does not answer. -/
theorem Sent.unanswered {c c' : Core ω} {p : Packet} {answer : Except NetError Unit}
    (sent : Sent c p answer c') (hop : Ipv4) : c'.unanswered hop = c.unanswered hop := by
  rw [Core.unanswered, sent.log]
  rfl

/-- Sending tells the operator of nobody who is asked. -/
theorem Sent.asked {c c' : Core ω} {p : Packet} {answer : Except NetError Unit}
    (sent : Sent c p answer c') (hop : Ipv4) : c'.asked hop = c.asked hop := by
  rw [Core.asked, sent.log]
  rfl

/-- **Whatever the resolution says, this is what is made of it.** -/
theorem resolved_settle (now : Tick) (c : Core ω) (p : Packet) (hop : Ipv4)
    (failed : Except NetError Unit) :
    Resolved now c p hop
      ((c.advanceResolution now hop).2.settle p hop (c.resolution now hop) failed).2 := by
  generalize advanced : (c.advanceResolution now hop).2 = c₁
  have config : c₁.config = c.config := by rw [← advanced]; rfl
  have arp : c₁.arp = (c.arp.resolve hop now c.config.arpRetryInterval).2 := by
    rw [← advanced]; rfl
  have parked : c₁.parked = c.parked := by rw [← advanced]; rfl
  have log : c₁.log = c.log := by rw [← advanced]; rfl
  have unanswered (h : Ipv4) : c₁.unanswered h = c.unanswered h := by
    rw [Core.unanswered, log, Core.unanswered]
  have asked (h : Ipv4) : c₁.asked h = c.asked h := by rw [Core.asked, log, Core.asked]
  cases r : c.resolution now hop with
  | hit mac =>
    have sent := c₁.sendFrame_sent (p.addressedTo mac)
    refine ⟨sent.config.trans config, sent.arp.trans arp, ?_, fun h => ?_, fun h => ?_⟩
    · exact (sent.parked.trans parked).trans (by simp [r])
    · exact ((sent.unanswered h).trans (unanswered h)).trans (by simp [r])
    · exact ((sent.asked h).trans (asked h)).trans (by simp [r])
  | sendRequest =>
    -- the packet is parked first, and then the operator is told of the request
    have sent := ((c₁.park p).tell (.arp (.asking hop c₁.iface.address))).sendFrame_sent
      ((ArpMessage.request c₁.mac c₁.iface.address hop).packet Mac.broadcast)
    refine ⟨sent.config.trans config, sent.arp.trans arp, ?_, fun h => ?_, fun h => ?_⟩
    · refine sent.parked.trans ?_
      simp [r, park, tell, parked]
    · refine (sent.unanswered h).trans ?_
      rw [unanswered_tell, ← unanswered h]
      simp [r, Core.unanswered, park]
    · refine (sent.asked h).trans ?_
      rw [asked_tell, ← asked h]
      simp [r, Core.asked, park, asksFor, eq_comm]
  | wait =>
    refine ⟨config, arp, ?_, fun h => ?_, fun h => ?_⟩
    · simp [r, park, parked]
    · exact (unanswered h).trans (by simp [r])
    · exact (asked h).trans (by simp [r])
  | fail =>
    refine ⟨config, arp, ?_, fun h => ?_, fun h => ?_⟩
    · exact parked.trans (by simp [r])
    · refine (unanswered_tell c₁ _ h).trans ?_
      simp [r, unanswered h, eq_comm]
    · refine (asked_tell c₁ _ h).trans ?_
      simp [r, asked h, asksFor]

/-- A packet that was resolved waits for its hop behind the others, if it still has to. -/
theorem Resolved.waiting {now : Tick} {c c' : Core ω} {p : Packet} {hop : Ipv4}
    (resolved : Resolved now c p hop c') (next : p.nextHop = some hop) (h : Ipv4) :
    c'.waiting h = c.waiting h ++
      if (c.resolution now hop = .sendRequest ∨ c.resolution now hop = .wait) ∧ hop = h then [p]
      else [] := by
  rw [Core.waiting, resolved.parked, List.filter_append]
  congr 1
  by_cases parks : c.resolution now hop = .sendRequest ∨ c.resolution now hop = .wait <;>
    by_cases same : hop = h <;> simp [parks, same, next]

/-! ## A pass -/

/-- A packet that is retried has its next hop resolved. -/
theorem resolved_of_retried {now : Tick} {c c' : Core ω} {p : Packet} {hop : Ipv4}
    (told : c' = c.retryVia now p hop ∨
      ∃ e, c' = (c.retryVia now p hop).tell (.arp (.sendFailed hop e))) :
    Resolved now c p hop c' := by
  have resolved : Resolved now c p hop (c.retryVia now p hop) :=
    resolved_settle now c p hop (.ok ())
  rcases told with rfl | ⟨e, rfl⟩
  · exact resolved
  · -- the operator is told, but not of a failure to answer
    refine ⟨resolved.config, resolved.arp, resolved.parked, fun h => ?_, fun h => ?_⟩
    · rw [unanswered_tell]
      simpa using resolved.unanswered h
    · rw [asked_tell]
      simpa [asksFor] using resolved.asked h

section Retried

variable {now : Tick} {c c' : Core ω} {failed failed' : List Ipv4} {p : Packet} {hop : Ipv4}

/-- A hop stays given up until the end of the pass, and nobody is told again. -/
theorem Retried.of_failed (step : Retried now c failed p c' failed') (gone : hop ∈ failed) :
    hop ∈ failed' ∧ c'.waiting hop = c.waiting hop ∧ c'.unanswered hop = c.unanswered hop := by
  cases step with
  | aimless => exact ⟨gone, rfl, rfl⟩
  | dropped => exact ⟨gone, rfl, rfl⟩
  | @retried h _ next hope told =>
    have resolved := resolved_of_retried told
    have ne : h ≠ hop := fun eq => hope (eq ▸ gone)
    refine ⟨?_, ?_, ?_⟩
    · split
      · exact List.mem_cons_of_mem h gone
      · exact gone
    · rw [resolved.waiting next, if_neg (fun both => ne both.2), List.append_nil]
    · rw [resolved.unanswered, if_neg (fun both => ne both.2.symm), Nat.add_zero]

/-- Whoever is parked in a pass stays parked, and requests add up. -/
theorem Retried.grows (step : Retried now c failed p c' failed') (hop : Ipv4) :
    c.waiting hop <+: c'.waiting hop ∧ c.asked hop ≤ c'.asked hop := by
  cases step with
  | aimless => exact ⟨List.prefix_rfl, Nat.le_refl _⟩
  | dropped => exact ⟨List.prefix_rfl, Nat.le_refl _⟩
  | retried next hope told =>
    have resolved := resolved_of_retried told
    rw [resolved.waiting next, resolved.asked]
    exact ⟨List.prefix_append _ _, Nat.le_add_right _ _⟩

/-- A packet for another hop changes nothing for `hop`. -/
theorem Retried.of_ne (step : Retried now c failed p c' failed') (other : p.nextHop ≠ some hop)
    (hope : hop ∉ failed) :
    hop ∉ failed' ∧ c'.config = c.config ∧ c'.resolution now hop = c.resolution now hop ∧
      c'.waiting hop = c.waiting hop ∧ c'.unanswered hop = c.unanswered hop ∧
      c'.asked hop = c.asked hop := by
  cases step with
  | aimless => exact ⟨hope, rfl, rfl, rfl, rfl, rfl⟩
  | dropped => exact ⟨hope, rfl, rfl, rfl, rfl, rfl⟩
  | @retried h _ next _ told =>
    have resolved := resolved_of_retried told
    have ne : hop ≠ h := fun eq => other (by rw [next, eq])
    refine ⟨?_, resolved.config, ?_, ?_, ?_, ?_⟩
    · split
      · exact List.not_mem_cons_of_ne_of_not_mem ne hope
      · exact hope
    · unfold resolution
      rw [resolved.config]
      refine ArpCache.resolve_congr ?_ now c.config.arpRetryInterval
      rw [resolved.arp]
      exact ArpCache.resolve_entry?_of_ne ne now c.config.arpRetryInterval
    · rw [resolved.waiting next, if_neg (fun both => ne both.2.symm), List.append_nil]
    · rw [resolved.unanswered, if_neg (fun both => ne both.2), Nat.add_zero]
    · rw [resolved.asked, if_neg (fun both => ne both.2), Nat.add_zero]

/-- A packet for `hop` itself has it resolved. -/
theorem Retried.of_eq (step : Retried now c failed p c' failed') (next : p.nextHop = some hop)
    (hope : hop ∉ failed) :
    Resolved now c p hop c' ∧
      failed' = if c.resolution now hop = .fail then hop :: failed else failed := by
  cases step with
  | aimless none => cases none.symm.trans next
  | dropped known gone =>
    cases known.symm.trans next
    exact absurd gone hope
  | retried known _ told =>
    cases known.symm.trans next
    exact ⟨resolved_of_retried told, rfl⟩

end Retried

/-! ## A whole pass -/

/-- A hop that the pass has given up takes no more packets, and is not given up again. -/
theorem retryParked_of_failed (now : Tick) (c : Core ω) {failed : List Ipv4} {hop : Ipv4}
    (gone : hop ∈ failed) (packets : List Packet) :
    (retryParked now c failed packets).waiting hop = c.waiting hop ∧
      (retryParked now c failed packets).unanswered hop = c.unanswered hop := by
  induction packets generalizing c failed with
  | nil => exact ⟨rfl, rfl⟩
  | cons p rest ih =>
    obtain ⟨c', failed', step, eq⟩ := retryParked_cons now c failed p rest
    obtain ⟨gone', waiting, unanswered⟩ := step.of_failed gone
    rw [eq, ← waiting, ← unanswered]
    exact ih c' gone'

/-- What waits for a hop stays ahead of what comes to wait for it in a pass. -/
theorem retryParked_grows (now : Tick) (c : Core ω) (failed : List Ipv4) (hop : Ipv4)
    (packets : List Packet) :
    c.waiting hop <+: (retryParked now c failed packets).waiting hop ∧
      c.asked hop ≤ (retryParked now c failed packets).asked hop := by
  induction packets generalizing c failed with
  | nil => exact ⟨List.prefix_rfl, Nat.le_refl _⟩
  | cons p rest ih =>
    obtain ⟨c', failed', step, eq⟩ := retryParked_cons now c failed p rest
    obtain ⟨waiting, asked⟩ := step.grows hop
    rw [eq]
    exact ⟨waiting.trans (ih c' failed').1, Nat.le_trans asked (ih c' failed').2⟩

/-- A hop that is known, or that a request is out for, says the same to the next packet. -/
theorem Resolved.again {now : Tick} {c c' : Core ω} {p : Packet} {hop : Ipv4}
    (resolved : Resolved now c p hop c')
    (settled : (∃ mac, c.resolution now hop = .hit mac) ∨ c.resolution now hop = .wait) :
    c'.resolution now hop = c.resolution now hop := by
  have same : c'.arp = c.arp := by
    rw [resolved.arp]
    rcases settled with ⟨mac, hit⟩ | wait
    · exact ArpCache.resolve_of_hit hit
    · exact ArpCache.resolve_of_wait wait
  rw [resolution, same, resolved.config, resolution]

/-- After a request the next packet has to wait, if requests are kept apart. -/
theorem Resolved.wait {now : Tick} {c c' : Core ω} {p : Packet} {hop : Ipv4}
    (resolved : Resolved now c p hop c') (asks : c.resolution now hop = .sendRequest)
    (apart : c.config.arpRetryInterval ≠ 0) : c'.resolution now hop = .wait := by
  obtain ⟨mac, attempt, sent⟩ := ArpCache.entry?_resolve_of_sendRequest asks
  rw [← resolved.arp] at sent
  rw [resolution, resolved.config]
  exact ArpCache.resolve_of_request sent apart

/-- **Who waits after a pass** that gave up a hop: nobody new if its resolution failed at once, and
otherwise those who have asked in the same pass, between two requests without a pause. -/
theorem retryParked_waiting (now : Tick) (c : Core ω) {failed : List Ipv4} {hop : Ipv4}
    (hope : hop ∉ failed) (packets : List Packet) :
    (c.resolution now hop = .fail →
      (retryParked now c failed packets).waiting hop = c.waiting hop) ∧
    (c.resolution now hop ≠ .fail → c.GivesUp (retryParked now c failed packets) hop →
      (retryParked now c failed packets).waiting hop ≠ [] ∧ c.config.arpRetryInterval = 0) := by
  induction packets generalizing c failed with
  | nil => exact ⟨fun _ => rfl, fun _ told => absurd told (Nat.lt_irrefl _)⟩
  | cons p rest ih =>
    obtain ⟨c', failed', step, eq⟩ := retryParked_cons now c failed p rest
    rw [eq]
    by_cases next : p.nextHop = some hop
    · obtain ⟨resolved, rfl⟩ := step.of_eq next hope
      have waiting := resolved.waiting next hop
      have unanswered := resolved.unanswered hop
      by_cases fails : c.resolution now hop = .fail
      · refine ⟨fun _ => ?_, fun ne => absurd fails ne⟩
        rw [if_pos fails, (retryParked_of_failed now c' (List.mem_cons_self ..) rest).1]
        simpa [fails] using waiting
      · refine ⟨fun fail => absurd fail fails, fun _ told => ?_⟩
        rw [if_neg fails] at told ⊢
        rw [if_neg (fun both => fails both.1), Nat.add_zero] at unanswered
        rw [GivesUp, ← unanswered] at told
        -- the hop is given up later, so its resolution does not stay as it is
        have later := (ih c' hope).2
        rw [resolved.config] at later
        cases r : c.resolution now hop with
        | fail => exact absurd r fails
        | hit mac => exact later (by rw [resolved.again (.inl ⟨mac, r⟩)]; exact fails) told
        | wait => exact later (by rw [resolved.again (.inr r)]; exact fails) told
        | sendRequest =>
          have parked : c'.waiting hop ≠ [] := by simp [waiting, r]
          refine ⟨fun none => parked ?_, ?_⟩
          · have grown := (retryParked_grows now c' failed hop rest).1
            rw [none] at grown
            exact List.prefix_nil.mp grown
          · refine Decidable.byContradiction fun apart => ?_
            have wait := resolved.wait r apart
            exact apart (later (by rw [wait]; nofun) told).2
    · obtain ⟨hope', config, resolution, waiting, unanswered, -⟩ := step.of_ne next hope
      rw [← resolution, ← waiting, ← config]
      unfold GivesUp
      rw [← unanswered]
      exact ih c' hope'

/-- **Who asks in a pass** for a hop that is unknown: whoever waits for it. -/
theorem retryParked_asked (now : Tick) (c : Core ω) {failed : List Ipv4} {hop : Ipv4}
    (hope : hop ∉ failed) (unknown : c.resolution now hop = .sendRequest)
    (packets : List Packet) :
    c.asked hop < (retryParked now c failed packets).asked hop ↔
      packets.filter (·.nextHop = some hop) ≠ [] := by
  induction packets generalizing c failed with
  | nil => exact ⟨fun more => absurd more (Nat.lt_irrefl _), fun ne => absurd rfl ne⟩
  | cons p rest ih =>
    obtain ⟨c', failed', step, eq⟩ := retryParked_cons now c failed p rest
    rw [eq]
    by_cases next : p.nextHop = some hop
    · obtain ⟨resolved, rfl⟩ := step.of_eq next hope
      have one := resolved.asked hop
      rw [if_pos ⟨unknown, rfl⟩] at one
      refine iff_of_true ?_ ?_
      · exact Nat.lt_of_lt_of_le (by omega) (retryParked_grows now c' _ hop rest).2
      · simp [next]
    · obtain ⟨hope', -, resolution, -, -, asked⟩ := step.of_ne next hope
      rw [← asked, ih c' hope' (resolution.trans unknown)]
      simp [next]

/-! ## Sending anew -/

/-- **A packet that is sent gives up a hop** exactly if it is its own next hop, and its resolution
fails. -/
theorem givesUp_transmitIpv4_iff (c : Core ω) (p : Packet) (hop : Ipv4) :
    c.GivesUp (c.transmitIpv4 p).2 hop ↔
      ∃ q, p.disposition c.iface = .resolve hop q ∧ c.resolution c.now hop = .fail := by
  rw [transmitIpv4_eq, GivesUp]
  cases disposition : p.disposition c.iface with
  | barred => exact iff_of_false (Nat.lt_irrefl _) (by rintro ⟨_, eq, -⟩; cases eq)
  | refused cause => exact iff_of_false (Nat.lt_irrefl _) (by rintro ⟨_, eq, -⟩; cases eq)
  | send q =>
    dsimp only
    rw [(c.sendFrame_sent q).unanswered]
    exact iff_of_false (Nat.lt_irrefl _) (by rintro ⟨_, eq, -⟩; cases eq)
  | resolve h q =>
    have resolved := resolved_settle c.now c q h (.error (.arpFailed h))
    have told := resolved.unanswered hop
    change (c.sendVia q h).2.unanswered hop = _ at told
    dsimp only
    rw [told]
    constructor
    · intro more
      split at more
      · rename_i both
        obtain ⟨fail, rfl⟩ := both
        exact ⟨q, rfl, fail⟩
      · exact absurd more (Nat.lt_irrefl _)
    · rintro ⟨_, eq, fail⟩
      cases eq
      rw [if_pos ⟨fail, rfl⟩]
      exact Nat.lt_succ_self _

/-- Nothing but an IPv4 packet gives up a hop. -/
theorem transmit_of_givesUp {c c' : Core ω} {p : Packet} {answer : Except NetError Unit}
    {hop : Ipv4} (sent : c.transmit p = .ok (answer, c')) (told : c.GivesUp c' hop) :
    c.transmitIpv4 p = (answer, c') := by
  rcases transmit_cases sent with same | sent
  · exact same
  · have same := (c.sendFrame_sent p).unanswered hop
    rw [sent] at same
    exact absurd told (by rw [GivesUp, same]; exact Nat.lt_irrefl _)

/-- The packet is refused, and nobody else is told. -/
theorem transmitIpv4_of_fail {c : Core ω} {p q : Packet} {hop : Ipv4}
    (route : p.disposition c.iface = .resolve hop q) (fail : c.resolution c.now hop = .fail) :
    (c.transmitIpv4 p).1 = .error (.arpFailed hop) ∧
      (c.transmitIpv4 p).2.parked = c.parked ∧
      ArpCache.entry? (c.transmitIpv4 p).2.arp hop = none := by
  have resolved := resolved_settle c.now c q hop (.error (.arpFailed hop))
  have eq : c.transmitIpv4 p =
      (c.advanceResolution c.now hop).2.settle q hop (c.resolution c.now hop)
        (.error (.arpFailed hop)) := by
    rw [transmitIpv4_eq]
    rw [route]
    rfl
  rw [eq]
  refine ⟨?_, ?_, ?_⟩
  · rw [fail]
    rfl
  · rw [resolved.parked, fail]
    simp
  · rw [resolved.arp]
    exact ArpCache.entry?_resolve_of_fail fail

/-- **Who is left waiting once a next hop is given up.** A packet sent anew that meets the failure
leaves all who waited before, and the next pass, whenever it comes, asks for the hop afresh exactly
if there are any. A pass that meets the failure leaves nobody exactly if the first packet for the
hop meets it; and so it always is if requests are kept apart. -/
theorem waiting_after_failure (c : Core ω) (hop : Ipv4) :
    (∀ p answer c', c.transmit p = .ok (answer, c') → c.GivesUp c' hop →
      answer = .error (.arpFailed hop) ∧ c'.waiting hop = c.waiting hop ∧
        ∀ hw, c'.asked hop < ({ c' with hw }).serviceParked.asked hop ↔ c.waiting hop ≠ []) ∧
    (c.GivesUp c.serviceParked hop →
      (c.serviceParked.waiting hop = [] ↔ c.resolution c.now hop = .fail)) ∧
    (c.config.arpRetryInterval ≠ 0 → c.GivesUp c.serviceParked hop →
      c.serviceParked.waiting hop = []) := by
  have pass := retryParked_waiting c.now { c with parked := [] } (List.not_mem_nil (a := hop))
    c.parked
  refine ⟨?_, fun told => ⟨fun none => ?_, fun fail => pass.1 fail⟩, fun apart told => ?_⟩
  · intro p answer c' sent told
    have eq := transmit_of_givesUp sent told
    obtain ⟨q, route, fail⟩ := (givesUp_transmitIpv4_iff c p hop).mp (by rw [eq]; exact told)
    obtain ⟨refused, parked, gone⟩ := transmitIpv4_of_fail route fail
    rw [eq] at refused parked gone
    have same : c'.waiting hop = c.waiting hop := by rw [waiting, parked, waiting]
    refine ⟨refused, same, fun hw => ?_⟩
    have unknown : ({ c' with hw, parked := [] } : Core ω).resolution ({ c' with hw }).now hop =
        .sendRequest := by
      simp only [resolution, ArpCache.resolve, gone]
    rw [← same]
    exact retryParked_asked _ _ List.not_mem_nil unknown c'.parked
  · by_cases fail : c.resolution c.now hop = .fail
    · exact fail
    · exact absurd none (pass.2 fail told).1
  · by_cases fail : c.resolution c.now hop = .fail
    · exact pass.1 fail
    · exact absurd (pass.2 fail told).2 apart

/-! ## A hop that never answers -/

/-- An address nobody has. -/
def silentHop : Ipv4 := ⟨10, 0, 0, 9⟩

/-- A core on a bench, a second later. -/
def secondLater (c : Core Bench) : Core Bench := { c with hw := c.hw.advance Tick.perSecond }

/-- A datagram was sent to an address nobody has, three passes have asked again, and the last
request has now waited long enough. -/
def lastTry : Core Bench :=
  let c : Core Bench :=
    { device := Bench.device .a ⟨2, 0, 0, 0, 0, 1⟩ none 0, clock := Bench.now, hw := {}
      config := {}, iface := ⟨⟨10, 0, 0, 2⟩, ⟨255, 255, 255, 0⟩, none, none⟩
      mac := ⟨2, 0, 0, 0, 0, 1⟩ }
  let c := (c.sendDatagram 7 silentHop 9 [1]).2
  let c := c.secondLater.serviceParked.secondLater.serviceParked.secondLater.serviceParked
  c.secondLater

/-- One more datagram to the same address. -/
def lateDatagram : Packet := (lastTry.datagram 7 silentHop 9 [2]).1

/-- The last datagram meets the failure when it is sent, and the one before it asks anew in the next
pass. A pass that meets the failure itself leaves nobody waiting. -/
theorem waiting_after_failure_lastTry :
    (∃ answer c', lastTry.transmit lateDatagram = .ok (answer, c') ∧
      lastTry.GivesUp c' silentHop ∧ answer = .error (.arpFailed silentHop) ∧
      c'.waiting silentHop = lastTry.waiting silentHop ∧
      c'.asked silentHop < c'.secondLater.serviceParked.asked silentHop) ∧
    lastTry.GivesUp lastTry.serviceParked silentHop ∧
      lastTry.config.arpRetryInterval ≠ 0 ∧ lastTry.serviceParked.waiting silentHop = [] := by
  obtain ⟨anew, -, pass⟩ := waiting_after_failure lastTry silentHop
  have apart : lastTry.config.arpRetryInterval ≠ 0 := by decide
  have told : lastTry.unanswered silentHop < lastTry.serviceParked.unanswered silentHop := by
    decide +kernel
  refine ⟨⟨_, _, rfl, ?_, ?_⟩, told, apart, pass apart told⟩
  · show lastTry.unanswered silentHop <
      (lastTry.transmitIpv4 lateDatagram).2.unanswered silentHop
    decide +kernel
  · obtain ⟨refused, same, asks⟩ := anew lateDatagram _ _ rfl (by
      show lastTry.unanswered silentHop <
        (lastTry.transmitIpv4 lateDatagram).2.unanswered silentHop
      decide +kernel)
    exact ⟨refused, same, (asks _).mpr (by decide +kernel)⟩

/-- **A failure may leave packets waiting.** The datagram that meets the failure is refused, the one
sent before it is still parked, and the next pass asks for the same address afresh. -/
theorem not_failure_releases_waiters :
    ∃ c', lastTry.transmit lateDatagram = .ok (.error (.arpFailed silentHop), c') ∧
      (c'.waiting silentHop).length = 1 ∧ ArpCache.entry? c'.arp silentHop = none ∧
      c'.serviceParked.asked silentHop = c'.asked silentHop + 1 := by
  have refused : (lastTry.transmitIpv4 lateDatagram).1 = .error (.arpFailed silentHop) := by
    decide +kernel
  refine ⟨(lastTry.transmitIpv4 lateDatagram).2, ?_, ?_, ?_, ?_⟩
  · rw [← refused]
    rfl
  · decide +kernel
  · decide +kernel
  · decide +kernel

end Core

end PolledNet
