import PolledNet.Proofs.Access.Bindings
import PolledNet.Proofs.Core.Routing
import PolledNet.Proofs.Core.Traffic
import PolledNet.Proofs.Core.Waiters

/-!
# Resolutions that somebody waits for

Sweeping never touches an entry that is being resolved. What advances such an entry, or gives it up,
is a pass over the parked packets, and it does so only for the sake of a packet. A core is
*attended* (`Core.Attended`) if there is such a packet for each of these entries, and if every
parked packet names the next hop it waits for. Whatever is done to a core, it stays attended
(`Attended.act`).

In the middle of a pass, those that wait are the packets parked anew and those still to be retried
(`ArpCache.Awaited`); a hop that was given up has no entry any more, so that the packets dropped for
its sake leave nobody behind (`Attending`).

Of an attended entry whose next request is due, the next pass makes another request or gives the
address up (`Attended.advances`).
-/

namespace PolledNet

namespace ArpCache

variable {c : ArpCache} {a : Ipv4} {now retry : Tick}

/-! ## Entries that are being resolved -/

/-- An entry that is being resolved once `a` has been resolved is one of another address that was
there before, or that of `a`, for which a packet has to wait then. -/
theorem Distinct.of_mem_resolve (distinct : c.Distinct) {x : ArpEntry}
    (mem : x ∈ (c.resolve a now retry).2.entries) (resolving : x.state ≠ .valid) :
    (x ∈ c.entries ∧ x.address ≠ a) ∨
      x.address = a ∧
        ((c.resolve a now retry).1 = .sendRequest ∨ (c.resolve a now retry).1 = .wait) := by
  by_cases same : x.address = a
  · subst same
    refine .inr ⟨rfl, ?_⟩
    rcases c.resolve_cases x.address now retry with ⟨mac, eq⟩ | eq | eq | ⟨mac, attempt, eq⟩
    · -- an address that is known is not being resolved
      obtain ⟨e, usable⟩ := usable_of_hit (congrArg Prod.fst eq)
      rw [eq] at mem
      have found := distinct.entry?_of_mem mem
      have other := distinct.entry?_of_mem usable.listed
      rw [usable.address, found] at other
      cases other
      exact absurd usable.valid resolving
    · exact .inr (congrArg Prod.fst eq)
    · rw [eq] at mem
      have kept := (List.mem_filter.mp mem).2
      simp at kept
    · exact .inl (congrArg Prod.fst eq)
  · refine .inl ⟨?_, same⟩
    rcases c.resolve_cases a now retry with ⟨mac, eq⟩ | eq | eq | ⟨mac, attempt, eq⟩ <;>
      rw [eq] at mem
    · exact mem
    · exact mem
    · exact (List.mem_filter.mp mem).1
    · obtain rfl | ⟨listed, -⟩ := mem_insert mem
      · exact absurd rfl same
      · exact listed

/-- An entry whose next request is due is advanced or given up. -/
theorem resolve_of_due {e : ArpEntry} (found : c.entry? a = some e) (resolving : e.state ≠ .valid)
    (due : Tick.reached now e.stamp = true) :
    (c.resolve a now retry).1 = .sendRequest ∨ (c.resolve a now retry).1 = .fail := by
  unfold resolve
  rw [found]
  dsimp only
  cases state : e.state with
  | valid => exact absurd state resolving
  | resolving attempt =>
    simp only [due, Bool.not_true, Bool.false_eq_true, if_false]
    split
    · exact .inl rfl
    · exact .inr rfl

/-! ## Entries that are waited for -/

/-- No address has two entries, and for each that is being resolved one of the packets waits. -/
structure Awaited (c : ArpCache) (packets : List Packet) : Prop where
  distinct : c.Distinct
  awaited : ∀ e ∈ c.entries, e.state ≠ .valid → ∃ p ∈ packets, p.nextHop = some e.address

variable {packets packets' : List Packet}

/-- Nobody is waited for at first. -/
theorem awaited_empty : Awaited empty [] := by
  refine ⟨distinct_empty, ?_⟩
  intro e mem
  cases mem

/-- Entries may be left out. -/
theorem Awaited.filter (awaited : c.Awaited packets) (keep : ArpEntry → Bool) :
    Awaited ⟨c.entries.filter keep⟩ packets :=
  ⟨awaited.distinct.filter keep, fun e mem => awaited.awaited e (List.mem_filter.mp mem).1⟩

/-- An address that is learned is not waited for any longer. -/
theorem Awaited.learn (awaited : c.Awaited packets) (a : Ipv4) (mac : Mac) (now ttl : Tick) :
    (c.learn a mac now ttl).Awaited packets := by
  refine ⟨awaited.distinct.insert _, ?_⟩
  intro e mem resolving
  obtain rfl | ⟨old, -⟩ := mem_insert mem
  · exact absurd rfl resolving
  · exact awaited.awaited e old resolving

/-- An address is resolved for the sake of a packet. Those that wait for other addresses still do,
and if the resolution says so, one waits for this address. -/
theorem Awaited.resolve (awaited : c.Awaited packets)
    (others : ∀ p ∈ packets, p.nextHop ≠ some a → p ∈ packets')
    (own : (c.resolve a now retry).1 = .sendRequest ∨ (c.resolve a now retry).1 = .wait →
      ∃ p ∈ packets', p.nextHop = some a) :
    (c.resolve a now retry).2.Awaited packets' := by
  refine ⟨awaited.distinct.resolve a now retry, ?_⟩
  intro e mem resolving
  rcases awaited.distinct.of_mem_resolve mem resolving with ⟨old, other⟩ | ⟨rfl, waits⟩
  · obtain ⟨p, waits, next⟩ := awaited.awaited e old resolving
    refine ⟨p, others p waits ?_, next⟩
    rw [next]
    exact fun same => other (Option.some.inj same)
  · exact own waits

/-- A packet for an address without an entry does not have to wait. -/
theorem Awaited.without (awaited : c.Awaited packets) (gone : c.entry? a = none)
    (others : ∀ p ∈ packets, p.nextHop ≠ some a → p ∈ packets') : c.Awaited packets' := by
  refine ⟨awaited.distinct, ?_⟩
  intro e mem resolving
  obtain ⟨p, waits, next⟩ := awaited.awaited e mem resolving
  refine ⟨p, others p waits ?_, next⟩
  intro same
  have here : e.address = a := Option.some.inj (next.symm.trans same)
  rw [← here, awaited.distinct.entry?_of_mem mem] at gone
  cases gone

end ArpCache

/-- A packet that waits names its next hop, and nobody knows yet which station that is. -/
def Packet.Waits (p : Packet) : Prop := p.nextHop.isSome = true ∧ p.addressed = false

namespace Core

variable {ω : Type} {c c' : Core ω} {now : Tick} {failed failed' : List Ipv4} {p : Packet}
  {hop : Ipv4} {rest : List Packet}

/-! ## A pass -/

/-- The middle of a pass, with the hops given up so far and the packets still to be retried. -/
structure Attending (c : Core ω) (failed : List Ipv4) (rest : List Packet) : Prop where
  awaited : c.arp.Awaited (c.parked ++ rest)
  waits : ∀ p ∈ c.parked ++ rest, p.Waits
  gone : ∀ hop ∈ failed, ArpCache.entry? c.arp hop = none

/-- Only a packet that was asked for its hop is parked by this. -/
theorem Resolved.mem_parked (resolved : Resolved now c p hop c') {q : Packet}
    (mem : q ∈ c'.parked) : q ∈ c.parked ∨ q = p := by
  rw [resolved.parked] at mem
  split at mem
  · rcases List.mem_append.mp mem with old | new
    · exact .inl old
    · exact .inr (List.mem_singleton.mp new)
  · rw [List.append_nil] at mem
    exact .inl mem

/-- Nobody who is parked is lost by this, and the packet itself is parked if it has to wait. -/
theorem Resolved.awaited (resolved : Resolved now c p hop c') (next : p.nextHop = some hop)
    {packets : List Packet} (awaited : c.arp.Awaited packets)
    (others : ∀ q ∈ packets, q.nextHop ≠ some hop → q ∈ c.parked ++ rest) :
    c'.arp.Awaited (c'.parked ++ rest) := by
  rw [resolved.arp]
  apply awaited.resolve
  · intro q mem other
    rw [resolved.parked, List.append_assoc]
    rcases List.mem_append.mp (others q mem other) with parked | later
    · exact List.mem_append_left _ parked
    · exact List.mem_append_right _ (List.mem_append_right _ later)
  · intro waits
    have waits : c.resolution now hop = .sendRequest ∨ c.resolution now hop = .wait := waits
    refine ⟨p, ?_, next⟩
    rw [resolved.parked, if_pos waits]
    simp

/-- A hop that is given up loses its entry, and no other hop gets one. -/
theorem Resolved.gone (resolved : Resolved now c p hop c') (hope : hop ∉ failed)
    (gone : ∀ h ∈ failed, ArpCache.entry? c.arp h = none) :
    ∀ h ∈ (if c.resolution now hop = .fail then hop :: failed else failed),
      ArpCache.entry? c'.arp h = none := by
  have still : ∀ h ∈ failed, ArpCache.entry? c'.arp h = none := by
    intro h mem
    have ne : h ≠ hop := fun same => hope (same ▸ mem)
    rw [resolved.arp, ArpCache.resolve_entry?_of_ne ne]
    exact gone h mem
  split
  · rename_i fails
    intro h mem
    rcases List.mem_cons.mp mem with rfl | mem
    · rw [resolved.arp]
      exact ArpCache.entry?_resolve_of_fail fails
    · exact still h mem
  · exact still

/-- A pass that retries one packet goes on attending to the rest. -/
theorem Retried.attending (step : Retried now c failed p c' failed')
    (attending : c.Attending failed (p :: rest)) : c'.Attending failed' rest := by
  have mine : p ∈ c.parked ++ p :: rest := by simp
  have fewer : ∀ q ∈ c.parked ++ rest, q.Waits := by
    intro q mem
    apply attending.waits
    rw [List.mem_append] at mem ⊢
    exact mem.imp_right (List.mem_cons_of_mem p)
  have others (hop : Ipv4) (next : p.nextHop = some hop) :
      ∀ q ∈ c.parked ++ p :: rest, q.nextHop ≠ some hop → q ∈ c.parked ++ rest := by
    intro q mem other
    rw [List.mem_append, List.mem_cons] at mem
    rcases mem with parked | rfl | later
    · exact List.mem_append_left _ parked
    · exact absurd next other
    · exact List.mem_append_right _ later
  cases step with
  | aimless none =>
    -- there are no such packets
    have some := (attending.waits p mine).1
    rw [none] at some
    cases some
  | @dropped hop next gone =>
    have awaited := attending.awaited.without (attending.gone hop gone) (others hop next)
    exact ⟨awaited, fewer, attending.gone⟩
  | @retried hop _ next hope told =>
    have resolved := resolved_of_retried told
    refine ⟨resolved.awaited next attending.awaited (others hop next), ?_, ?_⟩
    · intro q mem
      rcases List.mem_append.mp mem with parked | later
      · rcases resolved.mem_parked parked with old | rfl
        · exact fewer q (List.mem_append_left _ old)
        · exact attending.waits q mine
      · exact fewer q (List.mem_append_right _ later)
    · exact resolved.gone hope attending.gone

/-- A pass attends to its packets one after the other, until none is left. -/
theorem attending_retryParked (now : Tick) {packets : List Packet}
    (attending : c.Attending failed packets) :
    ∃ failed', (retryParked now c failed packets).Attending failed' [] := by
  induction packets generalizing c failed with
  | nil => exact ⟨failed, attending⟩
  | cons p rest ih =>
    obtain ⟨c', failed', step, eq⟩ := retryParked_cons now c failed p rest
    rw [eq]
    exact ih (step.attending attending)

/-! ## Whatever is done to a core -/

/-- For each address that is being resolved a packet is parked, and what is parked waits. -/
structure Attended (c : Core ω) : Prop where
  awaited : c.arp.Awaited c.parked
  waits : ∀ p ∈ c.parked, p.Waits

/-- A core that knows nobody and has nothing parked is attended. -/
theorem attended_new (unknown : c.arp = ArpCache.empty) (none : c.parked = []) : c.Attended := by
  constructor
  · rw [unknown, none]
    exact ArpCache.awaited_empty
  · rw [none]
    exact List.forall_mem_nil _

/-- What reaches neither the address bindings nor the parked packets. -/
theorem Attended.of_eq (attended : c.Attended) (arp : c'.arp = c.arp)
    (parked : c'.parked = c.parked) : c'.Attended := by
  constructor
  · rw [arp, parked]
    exact attended.awaited
  · rw [parked]
    exact attended.waits

/-- A frame that is sent needs no attendance. -/
theorem Attended.sendFrame (attended : c.Attended) (p : Packet) : (c.sendFrame p).2.Attended :=
  attended.of_eq (c.sendFrame_sent p).arp (c.sendFrame_sent p).parked

/-- A packet that is given to the core is parked with the hop that it waits for, or not at all. -/
theorem Attended.transmitIpv4 (attended : c.Attended) (p : Packet) :
    (c.transmitIpv4 p).2.Attended := by
  rw [Core.transmitIpv4_eq]
  cases disposition : p.disposition c.iface with
  | barred => exact attended.of_eq rfl rfl
  | refused cause => exact attended
  | send q => exact attended.sendFrame q
  | resolve hop q =>
    have resolved := resolved_settle c.now c q hop (.error (.arpFailed hop))
    have next := Packet.nextHop_of_resolve disposition
    constructor
    · have others : ∀ p ∈ c.parked, p.nextHop ≠ some hop → p ∈ c.parked ++ [] :=
        fun p mem _ => List.mem_append_left _ mem
      have awaited := resolved.awaited next attended.awaited others
      rwa [List.append_nil] at awaited
    · intro p mem
      rcases resolved.mem_parked mem with old | rfl
      · exact attended.waits p old
      · refine ⟨by rw [next]; rfl, ?_⟩
        obtain ⟨header, routes, -, -, unaddressed, -, -, -, rfl⟩ :=
          Packet.disposition_eq_resolve_iff.mp disposition
        exact unaddressed

/-- A pass parks again what still has to wait. -/
theorem Attended.serviceParked (attended : c.Attended) : c.serviceParked.Attended := by
  have start : ({ c with parked := [] } : Core ω).Attending [] c.parked :=
    ⟨attended.awaited, attended.waits, List.forall_mem_nil _⟩
  obtain ⟨failed, done⟩ := attending_retryParked c.now start
  have all : c.serviceParked.parked ++ [] = c.serviceParked.parked := List.append_nil _
  constructor
  · rw [← all]
    exact done.awaited
  · rw [← all]
    exact done.waits

/-- The backlog needs no attendance. -/
theorem Attended.flush (attended : c.Attended) (frames : List Packet) :
    (c.flush frames).Attended := by
  induction frames generalizing c with
  | nil => exact attended.of_eq rfl rfl
  | cons p rest ih =>
    by_cases room : c.device.canTransmit c.hw = true
    · obtain ⟨-, arp, parked⟩ := c.release_kept p rest
      rw [flush_cons_of_room room]
      exact ih (attended.of_eq arp parked)
    · rw [flush_cons_of_full (Bool.eq_false_iff.mpr room)]
      exact attended.of_eq rfl rfl

/-- **An attended core stays attended.** -/
theorem Attended.act (attended : c.Attended) (a : Act ω) : (c.act a).Attended := by
  cases a with
  | learn a mac => exact ⟨attended.awaited.learn a mac c.now c.config.arpTtl, attended.waits⟩
  | sweep => exact ⟨attended.awaited.filter _, attended.waits⟩
  | sendFrame p => exact attended.sendFrame p
  | transmit p => exact attended.transmitIpv4 p
  | retry => exact attended.serviceParked
  | flush => exact attended.flush c.backlog
  | tell | count | identify | receive | service | configure | elapse =>
    exact attended.of_eq rfl rfl

/-- Parked packets stay attended whatever acts lead to. -/
theorem Attended.leads {Kind : Act ω → Prop} (attended : c.Attended) (leads : Leads Kind c c') :
    c'.Attended :=
  leads.keeps Attended (fun _ a _ attended => attended.act a) attended

/-! ## The next pass -/

/-- A hop that is found not to answer is given up, if a packet waits for it and the pass has not
given it up before. -/
theorem retryParked_unanswered (now : Tick) (c : Core ω) {failed : List Ipv4} {hop : Ipv4}
    (hope : hop ∉ failed) (fails : c.resolution now hop = .fail) (packets : List Packet)
    (some : packets.filter (·.nextHop = some hop) ≠ []) :
    c.GivesUp (retryParked now c failed packets) hop := by
  induction packets generalizing c failed with
  | nil => exact absurd rfl some
  | cons p rest ih =>
    obtain ⟨c', failed', step, eq⟩ := retryParked_cons now c failed p rest
    rw [eq]
    by_cases next : p.nextHop = Option.some hop
    · -- the first packet for the hop meets the failure, and nobody is told of it again
      obtain ⟨resolved, rfl⟩ := step.of_eq next hope
      rw [if_pos fails, GivesUp,
        (retryParked_of_failed now c' (List.mem_cons_self ..) rest).2, resolved.unanswered,
        if_pos ⟨fails, rfl⟩]
      exact Nat.lt_succ_self _
    · obtain ⟨hope', -, resolution, -, unanswered, -⟩ := step.of_ne next hope
      rw [GivesUp, ← unanswered]
      apply ih c' hope' (resolution.trans fails)
      simpa [next] using some

/-- **An entry whose next request is due does not stay as it is.** The next pass asks for the
address again, or gives it up. -/
theorem Attended.advances (attended : c.Attended) {e : ArpEntry} (mem : e ∈ c.arp.entries)
    (resolving : e.state ≠ .valid) (due : Tick.reached c.now e.stamp = true) :
    c.asked e.address < c.serviceParked.asked e.address ∨
      c.GivesUp c.serviceParked e.address := by
  obtain ⟨p, parked, next⟩ := attended.awaited.awaited e mem resolving
  have some : c.parked.filter (·.nextHop = Option.some e.address) ≠ [] := by
    apply List.ne_nil_of_mem
    exact List.mem_filter.mpr ⟨parked, decide_eq_true next⟩
  have found := attended.awaited.distinct.entry?_of_mem mem
  have retried : c.resolution c.now e.address = .sendRequest ∨
      c.resolution c.now e.address = .fail := ArpCache.resolve_of_due found resolving due
  rcases retried with asks | fails
  · refine .inl ?_
    exact (retryParked_asked c.now { c with parked := [] } List.not_mem_nil asks c.parked).mpr some
  · refine .inr ?_
    exact retryParked_unanswered c.now { c with parked := [] } List.not_mem_nil fails c.parked some

end Core

end PolledNet
