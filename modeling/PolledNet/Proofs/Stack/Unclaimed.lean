import PolledNet.Proofs.Core.Unclaimed
import PolledNet.Proofs.Stack.Freshness
import PolledNet.Proofs.Stack.Turnover

/-!
# Nobody wants it

Which received datagrams are answered by a port-unreachable message, and when. Of a run two things
are written down: the frames that are received, each with the stack as it was then
(`Stack.receipts`), and the messages that are built (`Stack.replies`).

What waits for the service of unclaimed datagrams is a stretch of what was received, and so is what
it has answered before (`Stack.Accounts`). Receiving a frame makes the stretch longer at its end,
handling what waits moves it over, and nothing else touches the one sink of this service, as long as
there is one and no other (`Stack.Accounts.perform`).
-/

namespace PolledNet

open PolledNet.Core (Leads FullRepertoire)

variable {ω η φ : Type}

/-! ## What is written down -/

/-- A received frame, with the stack as it was when the frame was received. -/
structure Receipt (ω η φ : Type) where
  /-- The frame. -/
  frame : Bytes
  /-- The stack. -/
  stack : Stack ω η φ

/-- The message that a sink answers a packet with. -/
def Duty.reply? (d : Duty ω η φ) (p : Packet) : Option (Reply ω) :=
  match d.sink.kind with
  | .icmpUnreachable limiter => (d.core.unreachable? limiter p).map (⟨d.core, ·⟩)
  | _ => none

namespace Stack

/-- The frames that are taken from the device, at most so many. -/
def arrivals (s : Stack ω η φ) : (budget : Nat) → List (Receipt ω η φ)
  | 0 => []
  | budget + 1 =>
    match s.core.device.receive s.core.hw with
    | (none, _) => []
    | (some frame, hw) =>
      let s := { s with core := { s.core with hw } }
      ⟨frame, s⟩ :: (s.receiveFrame frame).arrivals budget

/-- The frames that are received in a command. -/
def receipts (s : Stack ω η φ) : Command ω η φ → List (Receipt ω η φ)
  | .receiveFrame frame => [⟨frame, s⟩]
  | .pump => { s with core := s.core.serviceParked }.serviceDevice.arrivals receiveBudget
  | _ => []

variable [FileHandle η φ]

/-- The messages that are built while one sink handles packets. -/
def deliverReplies (d : Duty ω η φ) : List Packet → List (Reply ω)
  | [] => []
  | p :: rest =>
    (d.reply? p).toList ++
      match d.deliver p with
      | .ok (answer, d) => deliverReplies (noteFailure d answer .deliveryFailed) rest
      | .error _ => []

/-- The messages that are built while all sinks handle what waits for them. -/
def drainReplies (core : Core ω) (volume : φ) : List (Sink (SinkKind η)) → List (Reply ω)
  | [] => []
  | sink :: rest =>
    let d : Duty ω η φ := ⟨{ sink with queue := {} }, core, volume⟩
    deliverReplies d sink.queue.packets ++
      match deliverAll d sink.queue.packets with
      | .ok d => drainReplies d.core d.volume rest
      | .error _ => []

/-- The port-unreachable messages that are built in a command. -/
def replies (s : Stack ω η φ) : Command ω η φ → List (Reply ω)
  | .pump => drainReplies s.collected.core s.collected.volume s.collected.sinks.sinks
  | _ => []

end Stack

/-! ## Which frames are answered -/

namespace Filter

/-- What the echo service wants. -/
def echo : Filter :=
  { ethertype := some Ethernet.typeIpv4, protocol := some Ip.icmp, toUs := true }

/-- What nobody wants. -/
def unclaimed : Filter := { ethertype := some Ethernet.typeIpv4, toUs := true }

end Filter

/-- A received frame brings a datagram for the address that the interface had, which is not ICMP,
and no sink that is more specific accepted it. -/
structure Receipt.Unclaimed (q : Receipt ω η φ) (ethernet : EthernetHeader) (ip : IpHeader) :
    Prop where
  brings : q.frame.Brings ethernet ip
  ours : q.stack.core.address? = some ip.dest
  other : ip.protocol ≠ Ip.icmp
  alone : ∀ sink ∈ q.stack.sinks.sinks, Filter.unclaimed.specificity < sink.specificity →
    ∀ arrival, Arrival.ofFrame q.stack.core.mac q.frame = .ok arrival →
      sink.filter.accepts arrival.info q.stack.core.address? = false

/-- A packet quotes an unclaimed datagram. -/
def Receipt.Queued (q : Receipt ω η φ) (p : Packet) : Prop :=
  ∃ ethernet ip, q.Unclaimed ethernet ip ∧ p.quote = .ok (ip.source, ethernet.source,
    (q.frame.datagramOf ip).take (ip.headerLength + Icmp.quotedPayload))

/-- A message answers an unclaimed datagram: it goes to the station and the address that it came
from, and quotes its header, with the options, and the eight octets after it, or what there is of
them. -/
def Receipt.Answered (q : Receipt ω η φ) (r : Reply ω) : Prop :=
  ∃ ethernet ip, q.Unclaimed ethernet ip ∧ ∃ ours identification,
    r.core.address? = some ours ∧
      r.packet = (IcmpMessage.portUnreachable
        ((q.frame.datagramOf ip).take (ip.headerLength + Icmp.quotedPayload))).packet
          r.core.mac ours ethernet.source ip.source identification

/-- What is built of a packet answers what the packet quotes. -/
theorem Receipt.Queued.answered {q : Receipt ω η φ} {p reply : Packet} {c : Core ω}
    {limiter : UnreachableLimiter} (queued : q.Queued p)
    (built : c.unreachable? limiter p = some reply) : q.Answered ⟨c, reply⟩ := by
  obtain ⟨ethernet, ip, unclaimed, quote⟩ := queued
  obtain ⟨ours, sender, senderMac, quoted, up, quote', -, rfl⟩ := Core.exists_of_unreachable? built
  cases quote.symm.trans quote'
  exact ⟨ethernet, ip, unclaimed, ours, _, up, rfl⟩

/-- The built-in sinks for ICMP are registered, and no other sink answers unclaimed datagrams. -/
structure Enrolment.Builtin (roster : List Enrolment) : Prop where
  echo : ∃ id, ⟨id, Filter.echo, .icmpEcho, none⟩ ∈ roster
  sole : ∃ id, roster.filter (·.service = .icmpUnreachable) =
    [⟨id, Filter.unclaimed, .icmpUnreachable, none⟩]

/-- The more specific a sink is, the earlier it is asked. -/
def Enrolment.Falling (roster : List Enrolment) : Prop :=
  roster.Pairwise fun e e' => e'.filter.specificity ≤ e.filter.specificity

namespace Filter

variable {info : FrameInfo} {ours : Option Ipv4}

/-- An unclaimed datagram is an IPv4 datagram for the address that the station has. -/
theorem accepts_unclaimed_iff :
    unclaimed.accepts info ours = true ↔
      Ethernet.typeIpv4 = info.ethertype ∧ ours.isSome = true ∧ info.dest = ours := by
  simp [accepts, unclaimed, admits]

/-- An echo request is wanted where an unclaimed datagram is, if it is an ICMP message. -/
theorem accepts_echo_iff :
    echo.accepts info ours = true ↔
      unclaimed.accepts info ours = true ∧ some Ip.icmp = info.protocol := by
  have both : echo.accepts info ours =
      (unclaimed.accepts info ours && admits (some Ip.icmp) info.protocol) := by
    simp only [accepts, echo, unclaimed]
    generalize admits (some Ip.icmp) info.protocol = icmp
    cases icmp <;> simp [admits]
  rw [both, Bool.and_eq_true, admits, Option.isNone_some, Bool.false_or, decide_eq_true_iff]

end Filter

/-- The sinks that are more specific than one stand before it. -/
theorem Enrolment.Falling.mem_before {s : Stack ω η φ} (falling : Falling s.roster)
    {before after : List (Sink (SinkKind η))} {sink x : Sink (SinkKind η)}
    (split : s.sinks.sinks = before ++ sink :: after) (mem : x ∈ s.sinks.sinks)
    (specific : sink.specificity < x.specificity) : x ∈ before := by
  have sorted : (before ++ sink :: after).Pairwise fun t u => u.specificity ≤ t.specificity := by
    rw [← split]
    exact List.pairwise_map.mp falling
  rw [split] at mem
  rcases List.mem_append.mp mem with early | late
  · exact early
  · rcases List.mem_cons.mp late with rfl | late
    · exact absurd specific (Nat.lt_irrefl _)
    · have least := (List.pairwise_cons.mp (List.pairwise_append.mp sorted).2.1).1 x late
      exact absurd specific (Nat.not_lt_of_le least)

/-- **A frame that waits for the service of unclaimed datagrams** is one. -/
theorem Receipt.queued_of_accepts {frame : Bytes} {s : Stack ω η φ} {arrival : Arrival}
    {before after : List (Sink (SinkKind η))} {sink : Sink (SinkKind η)}
    (builtin : Enrolment.Builtin s.roster) (falling : Enrolment.Falling s.roster)
    (classified : Arrival.ofFrame s.core.mac frame = .ok arrival)
    (split : s.sinks.sinks = before ++ sink :: after)
    (others : ∀ x ∈ before, x.filter.accepts arrival.info s.core.address? = false)
    (accepts : sink.filter.accepts arrival.info s.core.address? = true)
    (filter : sink.filter = Filter.unclaimed) :
    Receipt.Queued (η := η) ⟨frame, s⟩ arrival.packet := by
  rw [filter] at accepts
  obtain ⟨ipv4, -, dest⟩ := Filter.accepts_unclaimed_iff.mp accepts
  obtain ⟨ethernet, ip, brings, protocol, dest', quote⟩ :=
    Arrival.quote_of_ofFrame classified ipv4.symm
  -- the more specific sinks were asked before
  have refused : ∀ x ∈ s.sinks.sinks, Filter.unclaimed.specificity < x.specificity →
      x.filter.accepts arrival.info s.core.address? = false := by
    intro x mem specific
    rw [← filter] at specific
    exact others x (falling.mem_before split mem specific)
  refine ⟨ethernet, ip, ⟨brings, dest.symm.trans dest', ?_, ?_⟩, quote⟩
  · intro icmp
    obtain ⟨id, listed⟩ := builtin.echo
    obtain ⟨x, mem, enrolled⟩ := List.mem_map.mp listed
    have echo : x.filter = Filter.echo := congrArg Enrolment.filter enrolled
    have no := refused x mem (by rw [Sink.specificity, echo]; decide)
    rw [echo] at no
    have yes := Filter.accepts_echo_iff.mpr ⟨accepts, by rw [protocol, icmp]⟩
    rw [yes] at no
    cases no
  · intro x mem specific arrival' classified'
    cases classified.symm.trans classified'
    exact refused x mem specific

/-! ## Accounts -/

/-- What a sink for unclaimed datagrams goes by: its limiter, and what waits for it. -/
def Sink.post? (sink : Sink (SinkKind η)) : Option (UnreachableLimiter × List Packet) :=
  match sink.kind with
  | .icmpUnreachable limiter => some (limiter, sink.queue.packets)
  | _ => none

/-- The posts of a table, in the order of its sinks. -/
def posts (sinks : List (Sink (SinkKind η))) : List (UnreachableLimiter × List Packet) :=
  sinks.filterMap Sink.post?

/-- Only the service for unclaimed datagrams has a post. -/
theorem Sink.post?_eq_none_iff {sink : Sink (SinkKind η)} :
    sink.post? = none ↔ sink.kind.service ≠ .icmpUnreachable := by
  unfold post?
  cases sink.kind <;> simp [SinkKind.service]

/-- A post tells of its sink what the limiter is and which packets wait. -/
theorem Sink.eq_of_post? {sink : Sink (SinkKind η)} {limiter : UnreachableLimiter}
    {waiting : List Packet} (own : sink.post? = some (limiter, waiting)) :
    sink.kind = .icmpUnreachable limiter ∧ sink.queue.packets = waiting := by
  unfold post? at own
  split at own
  · rename_i kind
    cases own
    exact ⟨kind, rfl⟩
  · cases own

/-- A packet more waits. -/
theorem Sink.post?_push (sink : Sink (SinkKind η)) (p : Packet) :
    Sink.post? { sink with queue := sink.queue.push p } =
      sink.post?.map fun post => (post.1, post.2 ++ [p]) := by
  unfold post?
  cases sink.kind <;> rfl

/-- The post of a sink stands between those of the sinks before it and after it. -/
theorem posts_middle (before after : List (Sink (SinkKind η))) (sink : Sink (SinkKind η)) :
    posts (before ++ sink :: after) = posts before ++ (sink.post?.toList ++ posts after) := by
  rw [posts, List.filterMap_append, List.filterMap_cons]
  cases sink.post? <;> rfl

/-- Of what was received, those that were answered and after them those that wait; and the answers
are spaced out. -/
structure Accounted (time : ω → Nat) (received : List (Receipt ω η φ)) (sent : List (Reply ω))
    (core : Core ω) (limiter : UnreachableLimiter) (waiting : List Packet) : Prop where
  spaced : Spaced time sent limiter core
  stretch : ∃ answered queued : List (Receipt ω η φ), (answered ++ queued).Sublist received ∧
    List.Forall₂ Receipt.Answered answered sent ∧ List.Forall₂ Receipt.Queued queued waiting

namespace Accounted

variable {time : ω → Nat} {received : List (Receipt ω η φ)} {sent : List (Reply ω)}
  {core core' : Core ω} {limiter : UnreachableLimiter} {waiting : List Packet} {p : Packet}

/-- An account may be closed later, as time only goes forward. -/
theorem later (accounted : Accounted time received sent core limiter waiting)
    (le : time core.hw ≤ time core'.hw) :
    Accounted time received sent core' limiter waiting :=
  ⟨accounted.spaced.later le, accounted.stretch⟩

/-- More is received that does not wait. -/
theorem receives (accounted : Accounted time received sent core limiter waiting)
    (more : List (Receipt ω η φ)) :
    Accounted time (received ++ more) sent core limiter waiting := by
  obtain ⟨answered, queued, stretch, rest⟩ := accounted.stretch
  exact ⟨accounted.spaced, answered, queued, stretch.trans (List.sublist_append_left _ _), rest⟩

/-- A frame is received that waits. -/
theorem push (accounted : Accounted time received sent core limiter waiting)
    {q : Receipt ω η φ} (new : q.Queued p) :
    Accounted time (received ++ [q]) sent core limiter (waiting ++ [p]) := by
  obtain ⟨answered, queued, stretch, done, waits⟩ := accounted.stretch
  refine ⟨accounted.spaced, answered, queued ++ [q], ?_, done, ?_⟩
  · rw [← List.append_assoc]
    exact stretch.append (List.Sublist.refl [q])
  · exact List.rel_append waits (.cons new .nil)

/-- What waits longest is not answered. -/
theorem skip (accounted : Accounted time received sent core limiter (p :: waiting)) :
    Accounted time received sent core limiter waiting := by
  obtain ⟨answered, queued, stretch, done, waits⟩ := accounted.stretch
  cases waits with
  | cons _ rest =>
    refine ⟨accounted.spaced, answered, _, ?_, done, rest⟩
    exact (List.Sublist.append_left (List.sublist_cons_self _ _) _).trans stretch

/-- The oldest packet that waits is answered. -/
theorem answer (accounted : Accounted time received sent core limiter (p :: waiting))
    (shown : core.now = UInt32.ofNat (time core.hw)) {reply : Packet}
    (built : core.unreachable? limiter p = some reply) :
    Accounted time received (sent ++ [⟨core, reply⟩]) core ⟨some core.now⟩ waiting := by
  obtain ⟨answered, queued, stretch, done, waits⟩ := accounted.stretch
  obtain ⟨-, -, -, -, -, -, permitted, -⟩ := Core.exists_of_unreachable? built
  cases waits with
  | @cons q _ qs _ first rest =>
    refine ⟨accounted.spaced.answered shown permitted reply, answered ++ [q], qs, ?_, ?_, rest⟩
    · rwa [List.append_assoc]
    · exact List.rel_append done (.cons (first.answered built) .nil)

end Accounted

/-! ## Handling -/

section Handling

variable [FileHandle η φ] {World : (ω → ω) → Prop} {time : ω → Nat}
  {received : List (Receipt ω η φ)} {sent : List (Reply ω)} {d d' : Duty ω η φ}
  {limiter : UnreachableLimiter}

namespace Duty

/-- Whatever a handler does stays within the world. -/
theorem leads_within {p : Packet} {answer : Except NetError Unit}
    (delivered : d.deliver p = .ok (answer, d')) : Leads (Act.Within World) d.core d'.core :=
  leads_deliver_of Stack.fullRepertoire_within (Stack.answerable_within p) delivered

/-- A packet that waits longest is handled. -/
theorem accounted_deliver {p : Packet} {waiting : List Packet} {answer : Except NetError Unit}
    (timed : d.core.Timed World time) (kind : d.sink.kind = .icmpUnreachable limiter)
    (accounted : Accounted time received sent d.core limiter (p :: waiting))
    (delivered : d.deliver p = .ok (answer, d')) :
    ∃ limiter', d'.sink.kind = .icmpUnreachable limiter' ∧
      Accounted time received (sent ++ (d.reply? p).toList) d'.core limiter' waiting := by
  have leads : Leads (Act.Within World) d.core d'.core := leads_within delivered
  have le := leads.time_le timed
  unfold deliver at delivered
  unfold reply?
  rw [kind] at delivered ⊢
  obtain ⟨⟨answer', limiter', core'⟩, handled, done⟩ := exists_ok_of_bind delivered
  cases done
  refine ⟨limiter', rfl, ?_⟩
  have answers := Core.answers_receiveUnclaimed handled
  dsimp only at le ⊢
  cases answers with
  | silent none =>
    rw [none]
    exact (List.append_nil sent).symm ▸ accounted.skip.later le
  | sent built =>
    rw [built]
    exact (accounted.answer (timed.shown d.core.hw) built).later le

end Duty

namespace Stack

/-- All that waits for the sink is handled. -/
theorem accounted_deliverAll {packets : List Packet} (timed : d.core.Timed World time)
    (kind : d.sink.kind = .icmpUnreachable limiter)
    (accounted : Accounted time received sent d.core limiter packets)
    (handled : deliverAll d packets = .ok d') :
    ∃ limiter', d'.sink.kind = .icmpUnreachable limiter' ∧
      Accounted time received (sent ++ deliverReplies d packets) d'.core limiter' [] := by
  induction packets generalizing d sent limiter with
  | nil =>
    cases handled
    exact ⟨limiter, kind, (List.append_nil sent).symm ▸ accounted⟩
  | cons p rest ih =>
    obtain ⟨⟨answer, d₁⟩, delivered, handled⟩ := exists_ok_of_bind handled
    obtain ⟨limiter₁, kind₁, accounted₁⟩ := Duty.accounted_deliver timed kind accounted delivered
    have able : FullRepertoire (Act.Within World) := fullRepertoire_within
    have leads : Leads (Act.Within World) d.core d₁.core := Duty.leads_within delivered
    have noted := Duty.leads_noteFailure able.toRoutine d₁ answer .deliveryFailed
    have timed₁ := noted.1.sameSetup.timed (leads.sameSetup.timed timed)
    have le := noted.1.time_le (leads.sameSetup.timed timed)
    obtain ⟨limiter', kind', accounted'⟩ :=
      ih timed₁ (by rw [noted.2]; exact kind₁) (accounted₁.later le) handled
    refine ⟨limiter', kind', ?_⟩
    rw [deliverReplies, delivered, ← List.append_assoc]
    exact accounted'

/-- A sink of another service builds no such message, and stays one. -/
theorem deliverReplies_of_other {packets : List Packet}
    (other : d.sink.kind.service ≠ .icmpUnreachable) (handled : deliverAll d packets = .ok d') :
    deliverReplies d packets = [] ∧ d'.sink.kind.service ≠ .icmpUnreachable := by
  induction packets generalizing d with
  | nil =>
    cases handled
    exact ⟨rfl, other⟩
  | cons p rest ih =>
    obtain ⟨⟨answer, d₁⟩, delivered, handled⟩ := exists_ok_of_bind handled
    have same : d₁.sink.kind.service = d.sink.kind.service :=
      congrArg Enrolment.service (Duty.tended_deliver delivered).enrolment
    have silent : d.reply? p = none := by
      unfold Duty.reply?
      cases kind : d.sink.kind with
      | icmpUnreachable => exact absurd (by rw [kind]; rfl) other
      | _ => rfl
    obtain ⟨none, still⟩ := ih
      (d := noteFailure d₁ answer .deliveryFailed) (by
        rw [(Duty.noteFailure_sink d₁ answer .deliveryFailed).1, same]
        exact other) handled
    rw [deliverReplies, silent, delivered]
    exact ⟨none, still⟩

variable {core core' : Core ω} {volume volume' : φ} {sinks sinks' : List (Sink (SinkKind η))}

/-- The handlers of a sink leave its queue as it is. -/
theorem queue_deliverAll {packets : List Packet} (handled : deliverAll d packets = .ok d') :
    d'.sink.queue = d.sink.queue := by
  refine deliverAll_keeps (fun d' => d'.sink.queue = d.sink.queue) ?_ rfl handled
  intro d₁ p answer d₂ _ before delivered
  rw [(Duty.kept_noteFailure d₂ answer .deliveryFailed).queue, (Duty.deliver_kept delivered).queue]
  exact before

/-- Without a post no replies are sent, and none comes about. -/
theorem posts_drainSinks_of_none (none : posts sinks = [])
    (handled : drainSinks core volume sinks = .ok (core', volume', sinks')) :
    posts sinks' = [] ∧ drainReplies core volume sinks = [] := by
  induction sinks generalizing core volume sinks' with
  | nil =>
    cases handled
    exact ⟨rfl, rfl⟩
  | cons sink rest ih =>
    obtain ⟨d, rest', delivered, rested, rfl⟩ := drainSinks_cons handled
    obtain ⟨first, others⟩ := List.forall_mem_cons.mp (List.filterMap_eq_nil_iff.mp none)
    have other : sink.kind.service ≠ .icmpUnreachable := Sink.post?_eq_none_iff.mp first
    obtain ⟨silent, still⟩ := deliverReplies_of_other other delivered
    obtain ⟨none', silent'⟩ := ih (List.filterMap_eq_nil_iff.mpr others) rested
    rw [drainReplies, silent, delivered]
    refine ⟨?_, silent'⟩
    rw [posts, List.filterMap_cons_none (Sink.post?_eq_none_iff.mpr still)]
    exact none'

/-- **All that waits is handled**, by the one sink for unclaimed datagrams and by all others. -/
theorem accounted_drainSinks {waiting : List Packet} (timed : core.Timed World time)
    (post : posts sinks = [(limiter, waiting)])
    (accounted : Accounted time received sent core limiter waiting)
    (handled : drainSinks core volume sinks = .ok (core', volume', sinks')) :
    ∃ limiter', posts sinks' = [(limiter', [])] ∧
      Accounted time received (sent ++ drainReplies core volume sinks) core' limiter' [] := by
  induction sinks generalizing core volume sinks' with
  | nil => cases post
  | cons sink rest ih =>
    obtain ⟨d, rest', delivered, rested, rfl⟩ := drainSinks_cons handled
    have leads : Leads (Act.Within World) core d.core :=
      leads_deliverAll_of fullRepertoire_within (fun p _ => answerable_within p) delivered
    cases own : sink.post? with
    | none =>
      have other : sink.kind.service ≠ .icmpUnreachable := Sink.post?_eq_none_iff.mp own
      obtain ⟨silent, still⟩ := deliverReplies_of_other other delivered
      rw [posts, List.filterMap_cons_none own] at post
      obtain ⟨limiter', post', accounted'⟩ := ih (leads.sameSetup.timed timed) post
        (accounted.later (leads.time_le timed)) rested
      rw [drainReplies, silent, delivered]
      refine ⟨limiter', ?_, accounted'⟩
      rw [posts, List.filterMap_cons_none (Sink.post?_eq_none_iff.mpr still)]
      exact post'
    | some own' =>
      rw [posts, List.filterMap_cons_some own] at post
      obtain ⟨rfl, none⟩ := List.cons.inj post
      obtain ⟨kind, rfl⟩ := Sink.eq_of_post? own
      obtain ⟨limiter', kind', accounted'⟩ := accounted_deliverAll
        (d := ⟨{ sink with queue := {} }, core, volume⟩) timed kind accounted delivered
      obtain ⟨none', silent⟩ := posts_drainSinks_of_none none rested
      have rest : Leads (Act.Within World) d.core core' :=
        leads_drainSinks_of fullRepertoire_within (fun _ _ p _ => answerable_within p) rested
      refine ⟨limiter', ?_, ?_⟩
      · have empty : d.sink.post? = some (limiter', []) := by
          rw [Sink.post?, kind', queue_deliverAll delivered]
        rw [posts, List.filterMap_cons_some empty]
        exact congrArg _ none'
      · rw [drainReplies, delivered]
        dsimp only
        rw [silent, List.append_nil]
        exact accounted'.later (rest.time_le (leads.sameSetup.timed timed))

/-- A sink that looks at its timer keeps its post. -/
theorem post?_expireOne (now : Tick) (core : Core ω) (volume : φ) (sink : Sink (SinkKind η)) :
    (expireOne now core volume sink).sink.post? = sink.post? := by
  have queue := queue_expireOne now core volume sink
  have same : (expireOne now core volume sink).sink.kind.service = sink.kind.service :=
    congrArg Enrolment.service (tended_expireOne now core volume sink).enrolment
  cases own : sink.post? with
  | none => rw [Sink.post?_eq_none_iff, same, ← Sink.post?_eq_none_iff, own]
  | some own' =>
    have kind : (expireOne now core volume sink).sink.kind = sink.kind := by
      unfold expireOne
      split
      · obtain ⟨id, filter, queue, timer, kind⟩ := sink
        unfold Sink.post? at own
        split at own
        · rename_i eq
          cases eq
          rfl
        · cases own
      · rfl
    rw [← own, Sink.post?, Sink.post?, kind, queue]

/-- Timers leave the sink for unclaimed datagrams alone. -/
theorem posts_expireSinks (now : Tick) (core : Core ω) (volume : φ)
    (sinks : List (Sink (SinkKind η))) :
    posts (expireSinks now core volume sinks).2.2 = posts sinks := by
  induction sinks generalizing core volume with
  | nil => rfl
  | cons sink rest ih =>
    rw [expireSinks_cons, posts, posts, List.filterMap_cons, List.filterMap_cons, post?_expireOne]
    cases sink.post? with
    | none => exact ih _ _
    | some post => exact congrArg (post :: ·) (ih _ _)

end Stack

end Handling

/-! ## Receiving -/

namespace Stack

variable {World : (ω → ω) → Prop} {time : ω → Nat} {received : List (Receipt ω η φ)}
  {sent : List (Reply ω)} {s s' : Stack ω η φ}

/-- The one sink for unclaimed datagrams accounts for what was received and what was sent. -/
def Accounts (time : ω → Nat) (received : List (Receipt ω η φ)) (sent : List (Reply ω))
    (s : Stack ω η φ) : Prop :=
  ∃ limiter waiting, posts s.sinks.sinks = [(limiter, waiting)] ∧
    Accounted time received sent s.core limiter waiting

/-- The sinks stay, and time goes by. -/
theorem Accounts.later (accounts : s.Accounts time received sent)
    (same : posts s'.sinks.sinks = posts s.sinks.sinks) (le : time s.core.hw ≤ time s'.core.hw) :
    s'.Accounts time received sent := by
  obtain ⟨limiter, waiting, post, accounted⟩ := accounts
  exact ⟨limiter, waiting, same.trans post, accounted.later le⟩

/-- The sink of the service for unclaimed datagrams has the filter of unclaimed datagrams. -/
theorem filter_of_builtin (builtin : Enrolment.Builtin s.roster) {sink : Sink (SinkKind η)}
    (mem : sink ∈ s.sinks.sinks) (service : sink.kind.service = .icmpUnreachable) :
    sink.filter = Filter.unclaimed := by
  obtain ⟨id, sole⟩ := builtin.sole
  have listed : sink.enrolment ∈ s.roster.filter (·.service = .icmpUnreachable) :=
    List.mem_filter.mpr ⟨List.mem_map_of_mem mem, decide_eq_true service⟩
  rw [sole] at listed
  exact congrArg Enrolment.filter (List.mem_singleton.mp listed)

/-- **A frame is received.** -/
theorem Accounts.receiveFrame (accounts : s.Accounts time received sent)
    (builtin : Enrolment.Builtin s.roster) (falling : Enrolment.Falling s.roster)
    (timed : s.core.Timed World time) (frame : Bytes) :
    (s.receiveFrame frame).Accounts time (received ++ [⟨frame, s⟩]) sent := by
  have le : time s.core.hw ≤ time (s.receiveFrame frame).core.hw :=
    (leads_receiveFrame_of fullRepertoire_within.toRoutine s frame).time_le timed
  obtain ⟨limiter, waiting, post, accounted⟩ := accounts
  rcases (s.receives_receiveFrame frame).fate with ⟨drops, -⟩ | ⟨queues, -⟩
  · refine ⟨limiter, waiting, ?_, (accounted.receives _).later le⟩
    rw [drops.sinks]
    exact post
  · obtain ⟨arrival, before, sink, after, classified, split, others, accepts, sinks⟩ :=
      queues.queued
    rw [split, posts_middle] at post
    unfold Accounts
    rw [sinks]
    dsimp only
    rw [posts_middle, Sink.post?_push]
    cases own : sink.post? with
    | none =>
      rw [own] at post
      exact ⟨limiter, waiting, post, (accounted.receives _).later le⟩
    | some own' =>
      rw [own] at post
      obtain ⟨none, rfl, none'⟩ :
          posts before = [] ∧ own' = (limiter, waiting) ∧ posts after = [] := by
        simpa [List.append_eq_singleton_iff] using post
      obtain ⟨kind, rfl⟩ := Sink.eq_of_post? own
      have filter := filter_of_builtin builtin
        (by rw [split]; exact List.mem_append_right _ List.mem_cons_self) (by rw [kind]; rfl)
      have queued :=
        Receipt.queued_of_accepts builtin falling classified split others accepts filter
      rw [none, none']
      exact ⟨limiter, _, rfl, (accounted.push queued).later le⟩

variable [FileHandle η φ]

omit [FileHandle η φ] in
/-- If the device has no frame, none is received. -/
theorem arrivals_of_none {hw : ω} (none : s.core.device.receive s.core.hw = (none, hw))
    (budget : Nat) : s.arrivals (budget + 1) = [] ∧
      s.receiveFrames (budget + 1) = { s with core := { s.core with hw } } := by
  rw [arrivals, Stack.receiveFrames, none]
  exact ⟨rfl, rfl⟩

omit [FileHandle η φ] in
/-- A frame that the device has is received, and after it the others. -/
theorem arrivals_of_some {frame : Bytes} {hw : ω}
    (some : s.core.device.receive s.core.hw = (some frame, hw)) (budget : Nat) :
    s.arrivals (budget + 1) = ⟨frame, { s with core := { s.core with hw } }⟩ ::
        ({ s with core := { s.core with hw } }.receiveFrame frame).arrivals budget ∧
      s.receiveFrames (budget + 1) =
        ({ s with core := { s.core with hw } }.receiveFrame frame).receiveFrames budget := by
  rw [arrivals, Stack.receiveFrames, some]
  exact ⟨rfl, rfl⟩

/-- All frames of a pass are received. -/
theorem Accounts.receiveFrames (accounts : s.Accounts time received sent)
    (builtin : Enrolment.Builtin s.roster) (falling : Enrolment.Falling s.roster)
    (timed : s.core.Timed World time) (budget : Nat) :
    (s.receiveFrames budget).Accounts time (received ++ s.arrivals budget) sent := by
  induction budget generalizing s received with
  | zero =>
    rw [arrivals, List.append_nil]
    exact accounts
  | succ budget ih =>
    have polled : Leads (Act.Within World) s.core
        { s.core with hw := (s.core.device.receive s.core.hw).2 } :=
      .one (a := .receive) fullRepertoire_within.receive
    have le := polled.time_le timed
    have timed' := polled.sameSetup.timed timed
    rcases eq : s.core.device.receive s.core.hw with ⟨received?, hw⟩
    rw [eq] at le timed'
    have taken : Accounts time received sent { s with core := { s.core with hw } } :=
      accounts.later rfl le
    cases received? with
    | none =>
      obtain ⟨nothing, stays⟩ := arrivals_of_none eq budget
      rw [nothing, stays, List.append_nil]
      exact taken
    | some frame =>
      have first := taken.receiveFrame builtin falling timed' frame
      have tended := tends_receiveFrame { s with core := { s.core with hw } } frame
      have able : FullRepertoire (Act.Within World) := fullRepertoire_within
      have leads :=
        leads_receiveFrame_of able.toRoutine { s with core := { s.core with hw } } frame
      have rest := ih first (by rw [tended.roster]; exact builtin)
        (by rw [tended.roster]; exact falling) (leads.sameSetup.timed timed')
      obtain ⟨arrived, goesOn⟩ := arrivals_of_some eq budget
      rw [List.append_assoc] at rest
      rw [arrived, goesOn]
      exact rest

/-- The first half of a pass accounts for the frames it receives. -/
theorem accounts_collected (accounts : s.Accounts time received sent)
    (builtin : Enrolment.Builtin s.roster) (falling : Enrolment.Falling s.roster)
    (timed : s.core.Timed World time) :
    s.collected.Accounts time (received ++ s.receipts .pump) sent := by
  have able : FullRepertoire (Act.Within World) := fullRepertoire_within
  have retried : Leads (Act.Within World) s.core s.core.serviceParked :=
    .one (a := .retry) able.retry
  have serviced := retried.andThen (a := .service) able.service
  have ready : Accounts time received sent { s with core := s.core.serviceParked }.serviceDevice :=
    accounts.later rfl (serviced.time_le timed)
  have received := ready.receiveFrames builtin falling (serviced.sameSetup.timed timed)
    receiveBudget
  have flushed : Leads (Act.Within World)
      ({ s with core := s.core.serviceParked }.serviceDevice.receiveFrames receiveBudget).core
        s.collected.core := .one (a := .flush) able.flush
  have timed' := (leads_receiveFrames_of able.toPolling
    { s with core := s.core.serviceParked }.serviceDevice receiveBudget).sameSetup.timed
      (serviced.sameSetup.timed timed)
  exact received.later rfl (flushed.time_le timed')

/-- **A pass.** -/
theorem Accounts.pump (accounts : s.Accounts time received sent)
    (builtin : Enrolment.Builtin s.roster) (falling : Enrolment.Falling s.roster)
    (timed : s.core.Timed World time) (ran : s.pump = .ok s') :
    s'.Accounts time (received ++ s.receipts .pump) (sent ++ s.replies .pump) := by
  have able : FullRepertoire (Act.Within World) := fullRepertoire_within
  rw [pump_eq] at ran
  obtain ⟨s₁, drained, rfl⟩ := handled_eq_ok ran
  obtain ⟨limiter, waiting, post, accounted⟩ := accounts_collected accounts builtin falling timed
  have timed₁ := (leads_collected_of able.toPolling s).sameSetup.timed timed
  have leads := leads_drainQueues_of able (fun _ _ p _ => answerable_within p) drained
  have expired := leads_expireTimers_of able s₁
  unfold drainQueues at drained
  obtain ⟨⟨core, volume, sinks⟩, handled, done⟩ := exists_ok_of_bind drained
  obtain ⟨limiter', post', accounted'⟩ := accounted_drainSinks timed₁ post accounted handled
  cases done
  refine ⟨limiter', [], ?_, accounted'.later (expired.time_le (leads.sameSetup.timed timed₁))⟩
  exact (posts_expireSinks _ _ _ _).trans post'

/-! ## Whole runs -/

variable {command : Command ω η φ} {commands : List (Command ω η φ)}

omit [FileHandle η φ] in
/-- There are as many sinks for unclaimed datagrams as the roster says. -/
theorem length_posts (s : Stack ω η φ) : (posts s.sinks.sinks).length =
    (s.roster.filter (·.service = .icmpUnreachable)).length := by
  unfold posts roster
  induction s.sinks.sinks with
  | nil => rfl
  | cons sink rest ih =>
    rw [List.filterMap_cons, List.map_cons, List.filter_cons]
    cases kind : sink.kind <;> simp [Sink.post?, Sink.enrolment, kind, SinkKind.service, ih]

omit [FileHandle η φ] in
/-- Registering another service brings no post. -/
theorem posts_place_of_none {new : Sink (SinkKind η)} (none : new.post? = none)
    (sinks : List (Sink (SinkKind η))) : posts (SinkTable.place new sinks) = posts sinks := by
  obtain ⟨before, after, rfl, placed⟩ := exists_place_eq new sinks
  rw [placed, posts, posts, List.filterMap_append, List.filterMap_cons_none none,
    List.filterMap_append]

omit [FileHandle η φ] in
/-- Registering a service with a post brings one. -/
theorem length_posts_place_of_some {new : Sink (SinkKind η)}
    {post : UnreachableLimiter × List Packet} (own : new.post? = some post)
    (sinks : List (Sink (SinkKind η))) :
    (posts (SinkTable.place new sinks)).length = (posts sinks).length + 1 := by
  obtain ⟨before, after, rfl, placed⟩ := exists_place_eq new sinks
  rw [placed, posts, posts, List.filterMap_append, List.filterMap_cons_some own,
    List.filterMap_append, List.length_append, List.length_append]
  rfl

/-- The other commands leave the sink for unclaimed datagrams alone, if it is still the only one. -/
theorem posts_perform (other : ¬ command.Tends) (builtin : Enrolment.Builtin s.roster)
    (builtin' : Enrolment.Builtin s'.roster) (done : s.perform command = .ok s') :
    posts s'.sinks.sinks = posts s.sinks.sinks := by
  have count : (posts s'.sinks.sinks).length = (posts s.sinks.sinks).length := by
    obtain ⟨id, sole⟩ := builtin.sole
    obtain ⟨id', sole'⟩ := builtin'.sole
    rw [length_posts, length_posts, sole, sole']
    rfl
  obtain ⟨kept, less, left | ⟨new, -, brings, put⟩⟩ := turnover_perform other done
  · rw [left] at count ⊢
    exact (less.filterMap _).eq_of_length count
  · cases own : new.post? with
    | none =>
      rw [put] at count ⊢
      dsimp only at count ⊢
      rw [posts_place_of_none own] at count ⊢
      exact (less.filterMap _).eq_of_length count
    | some post =>
      -- then it is a second one, because nothing is taken out when it is registered by hand
      have service : new.kind.service = .icmpUnreachable := by
        by_contra other
        rw [Sink.post?_eq_none_iff.mpr other] at own
        cases own
      cases command with
      | addSink sink =>
        cases done
        have own : Sink.post? { sink with id := ⟨s.sinks.nextNumber⟩ } = some post := by
          rw [← own, show new = _ from brings]
        have more := length_posts_place_of_some own s.sinks.sinks
        exact absurd (more.symm.trans count) (Nat.succ_ne_self _)
      | startDhcp => cases service.symm.trans brings
      | startTransfer =>
        obtain ⟨port, t, -, -, kind, -⟩ := brings
        rw [kind] at service
        cases service
      | _ => exact brings.elim

/-- The order of the sinks stays. -/
theorem falling_perform (falling : Enrolment.Falling s.roster)
    (done : s.perform command = .ok s') : Enrolment.Falling s'.roster := by
  by_cases tends : command.Tends
  · rw [(tends_perform tends done).roster]
    exact falling
  · exact List.pairwise_map.mpr
      ((turnover_perform tends done).falling (List.pairwise_map.mp falling))

/-- **A command.** -/
theorem Accounts.perform (accounts : s.Accounts time received sent)
    (builtin : Enrolment.Builtin s.roster) (builtin' : Enrolment.Builtin s'.roster)
    (falling : Enrolment.Falling s.roster) (timed : s.core.Timed World time)
    (within : command.Within World) (done : s.perform command = .ok s') :
    s'.Accounts time (received ++ s.receipts command) (sent ++ s.replies command) := by
  have le := (leads_perform within done).time_le timed
  cases command with
  | pump => exact accounts.pump builtin falling timed done
  | receiveFrame frame =>
    cases done
    rw [show s.replies (.receiveFrame frame) = [] from rfl, List.append_nil]
    exact accounts.receiveFrame builtin falling timed frame
  | _ =>
    have same := posts_perform (by exact id) builtin builtin' done
    rw [show s.receipts _ = [] from rfl, show s.replies _ = [] from rfl, List.append_nil,
      List.append_nil]
    exact accounts.later same le

/-- **A run.** -/
theorem Accounts.performAll (accounts : s.Accounts time received sent)
    (always : s.Always (fun s => Enrolment.Builtin s.roster) commands)
    (falling : Enrolment.Falling s.roster) (timed : s.core.Timed World time)
    (within : ∀ command ∈ commands, command.Within World)
    (ran : s.performAll commands = .ok s') :
    s'.Accounts time (received ++ s.recorded receipts commands)
      (sent ++ s.recorded replies commands) := by
  induction commands generalizing s received sent with
  | nil =>
    cases ran
    rw [recorded, recorded, List.append_nil, List.append_nil]
    exact accounts
  | cons command rest ih =>
    obtain ⟨s₁, done, ran⟩ := exists_of_performAll_cons ran
    obtain ⟨first, others⟩ := List.forall_mem_cons.mp within
    obtain ⟨builtin, always⟩ := always
    have always := always s₁ done
    have performed := accounts.perform builtin always.here falling timed first done
    have timed₁ := (leads_perform first done).sameSetup.timed timed
    rw [recorded_cons receipts done, recorded_cons replies done, ← List.append_assoc,
      ← List.append_assoc]
    exact ih performed always (falling_perform falling done) timed₁ others ran

omit [FileHandle η φ] in
/-- Nothing was received and nothing was sent when a stack comes up. -/
theorem accounts_bringUp {device : Device ω} {clock : ω → Tick} {config : StackConfig} {hw hw' : ω}
    {volume : φ} (up : bringUp device clock config hw volume = (.ok s, hw')) :
    s.Accounts time [] [] ∧ Enrolment.Falling s.roster := by
  have sinks := sinks_bringUp up
  have nothing : Accounted (η := η) (φ := φ) time [] [] s.core {} [] :=
    ⟨.nil, [], [], List.nil_sublist _, .nil, .nil⟩
  refine ⟨⟨{}, [], ?_, nothing⟩, ?_⟩
  · rw [sinks]
    rfl
  · simp [Enrolment.Falling, roster, sinks, Sink.enrolment, Filter.specificity]

/-- Passes and received frames leave the built-in sinks registered. -/
theorem always_builtin (builtin : Enrolment.Builtin s.roster)
    (goes : ∀ command ∈ commands, command.Waits ∨ command.Tends) :
    s.Always (fun s => Enrolment.Builtin s.roster) commands := by
  induction commands generalizing s with
  | nil => exact builtin
  | cons command rest ih =>
    obtain ⟨first, others⟩ := List.forall_mem_cons.mp goes
    refine ⟨builtin, fun s' done => ih ?_ others⟩
    have same : s'.roster = s.roster := by
      cases command with
      | elapse world others =>
        cases done
        rfl
      | pump => exact (tends_pump done).roster
      | _ => exact (tends_perform (first.resolve_left id) done).roster
    rw [same]
    exact builtin

/-- **Only what nobody wants is answered, and not too often.** As long as the built-in sinks for
ICMP are registered, and no other sink for unclaimed datagrams, the port-unreachable messages that
are built in a run answer received datagrams that were unclaimed, each another one and in the order
in which they came in; and in true time they are all as far apart as the limiter demands, however
long the run is and however often the clock wraps. -/
theorem unclaimed_answered {device : Device ω} {clock : ω → Tick} {config : StackConfig}
    {hw hw' : ω} {volume : φ} {s₀ : Stack ω η φ} (truth : TrueTime device clock World time)
    (up : bringUp device clock config hw volume = (.ok s₀, hw'))
    (always : s₀.Always (fun s => Enrolment.Builtin s.roster) commands)
    (within : ∀ command ∈ commands, command.Within World)
    (ran : s₀.performAll commands = .ok s) :
    (s₀.recorded replies commands).Pairwise (fun r r' =>
      time r.core.hw + Icmp.unreachableInterval.toNat ≤ time r'.core.hw) ∧
    ∃ answered, answered.Sublist (s₀.recorded receipts commands) ∧
      List.Forall₂ Receipt.Answered answered (s₀.recorded replies commands) := by
  obtain ⟨log, start⟩ := core_bringUp up
  have timed : s₀.core.Timed World time := by
    rw [start]
    exact truth
  have start : s₀.Accounts time [] [] ∧ Enrolment.Falling s₀.roster := accounts_bringUp up
  obtain ⟨accounts, falling⟩ := start
  obtain ⟨limiter, waiting, -, accounted⟩ := accounts.performAll always falling timed within ran
  obtain ⟨answered, queued, stretch, done, -⟩ := accounted.stretch
  exact ⟨accounted.spaced.spaced, answered, (List.sublist_append_left _ _).trans stretch, done⟩

/-- A datagram for a port on which nobody listens. -/
def stray : Bytes :=
  Endpoints.frame ⟨⟨2, 0, 0, 0, 0, 9⟩, ⟨10, 0, 0, 9⟩, 4000, ⟨10, 0, 0, 2⟩, 9⟩ ⟨2, 0, 0, 0, 0, 1⟩ 1
    [7, 8, 9]

/-- A stray datagram comes in three times, the second time at once and the third time after a while.
-/
def straying : List (Command Nat RamFile RamVolume) :=
  [.receiveFrame stray, .pump, .receiveFrame stray, .pump, .elapse (· + 10) id, .receiveFrame stray,
    .pump]

/-- Two of the three are answered. -/
theorem unclaimed_answered_straying :
    ∃ s, bringUp idle UInt32.ofNat rented 0 {} = (.ok early, 0) ∧
      early.performAll straying = .ok s ∧
      (early.recorded receipts straying).map (·.stack.core.hw) = [0, 0, 10] ∧
      (early.recorded replies straying).map (·.core.hw) = [0, 10] ∧
      ∃ answered, answered.Sublist (early.recorded receipts straying) ∧
        List.Forall₂ Receipt.Answered answered (early.recorded replies straying) := by
  obtain ⟨s, ran⟩ : ∃ s, early.performAll straying = .ok s := by
    have runs : (early.performAll straying).isOk = true := by decide +kernel
    cases ran : early.performAll straying with
    | ok s => exact ⟨s, rfl⟩
    | error =>
      rw [ran] at runs
      cases runs
  have builtin : Enrolment.Builtin early.roster := ⟨⟨⟨2⟩, by decide⟩, ⟨⟨3⟩, by decide⟩⟩
  have always : early.Always (fun s => Enrolment.Builtin s.roster) straying := by
    apply always_builtin builtin
    simp [straying, Command.Waits, Command.Tends]
  have within : ∀ command ∈ straying, command.Within Passing := by
    simp [straying, Command.Within, Passing]
  obtain ⟨-, answered⟩ := unclaimed_answered trueTime_idle bringUp_early always within ran
  exact ⟨s, bringUp_early, ran, by decide +kernel, by decide +kernel, answered⟩

end Stack

end PolledNet
