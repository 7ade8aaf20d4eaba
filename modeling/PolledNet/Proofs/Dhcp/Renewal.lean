import PolledNet.Proofs.Deadline
import PolledNet.Proofs.Dhcp.Soundness

/-!
# How long a lease is kept

A bound client asks to keep its lease once its timer expires, and again every ten seconds, and gives
the lease up when the last of its requests has gone unanswered. How long that is after binding
depends on the lease alone (`Lease.kept`). It is not longer than the lease itself exactly if that
has more than fifty seconds (`kept_le_lent_iff`): the first request is never earlier than a second
after binding, so the requests may outlast a shorter lease.

`Keeping` says where an unanswered client is on the way to that end, in ticks since it was bound.
-/

namespace PolledNet

namespace Lease

/-- Ticks from the first renewal request to the moment the lease is given up. -/
def renewalBudget : Nat :=
  Dhcp.renewRetries.toNat * (Tick.ofSeconds Dhcp.renewIntervalSeconds).toNat

/-- Ticks from binding to the moment an unanswered client gives the lease up. -/
def kept (l : Lease) : Nat := l.renewAfter.toNat + renewalBudget

/-- Ticks for which the address was lent. -/
def lent (l : Lease) : Nat := l.seconds.toNat * Tick.perSecond.toNat

/-- The first request in ticks: as early as the other requests need, but not within the first
second, and no later than a timer can wait. -/
theorem toNat_renewAfter (l : Lease) :
    l.renewAfter.toNat = min (max (l.seconds.toNat - 50) 1 * 100) 2147483647 := by
  have budget : (Dhcp.renewRetries * Dhcp.renewIntervalSeconds).toNat = 50 := by decide
  have early : (if l.seconds < Dhcp.renewRetries * Dhcp.renewIntervalSeconds then 0
      else l.seconds - Dhcp.renewRetries * Dhcp.renewIntervalSeconds).toNat =
      l.seconds.toNat - 50 := by
    split
    · rename_i short
      rw [UInt32.lt_iff_toNat_lt, budget] at short
      rw [UInt32.toNat_zero]
      omega
    · rename_i long
      rw [UInt32.lt_iff_toNat_lt, budget] at long
      rw [UInt32.toNat_sub_of_le _ _ (UInt32.le_iff_toNat_le.mpr (by omega)), budget]
  have fits : min (max (l.seconds.toNat - 50) 1 * Tick.perSecond.toNat) (UInt32.size - 1) <
      2 ^ 32 := Nat.lt_of_le_of_lt (Nat.min_le_right _ _) (by decide)
  unfold renewAfter
  dsimp only
  rw [Tick.toNat_min, Tick.ofSeconds, Tick.toNat_max, early, UInt32.toNat_one,
    UInt32.toNat_ofNat', Nat.mod_eq_of_lt fits, show Tick.maxDelay.toNat = 2147483647 from rfl,
    show Tick.perSecond.toNat = 100 from rfl, show UInt32.size = 4294967296 from rfl]
  omega

/-- **A lease is outlived exactly if it is of fifty seconds or less.** -/
theorem kept_le_lent_iff (l : Lease) : l.kept ≤ l.lent ↔ 50 < l.seconds.toNat := by
  have budget : renewalBudget = 5000 := by decide
  have second : Tick.perSecond.toNat = 100 := rfl
  unfold kept lent
  rw [toNat_renewAfter, budget, second]
  omega

end Lease

namespace DhcpClient

namespace Session

open PolledNet.Core (Leads)

variable {ω : Type} (x : Session (Core ω))

/-! ## No handler lets time pass -/

/-- To a core, all that a client asks of it takes no time. -/
theorem movesFreely_timeless : (Core.uplink ω).MovesFreely (Leads Act.Timeless) :=
  Core.movesFreely_of_plain (fun _ plain => plain.ordinary.1) fun _ => trivial

/-- A datagram that is received takes no time. -/
theorem leads_receive (payload : Bytes) :
    Leads Act.Timeless x.link (x.receive (Core.uplink ω) payload).2.link :=
  moves_receive movesFreely_timeless x payload

/-- A timer that has run out takes no time. -/
theorem leads_expire : Leads Act.Timeless x.link (x.expire (Core.uplink ω)).2.link :=
  moves_expire movesFreely_timeless x

/-! ## What a datagram can do -/

/-- What comes of a datagram that is received. -/
inductive Reception (x : Session (Core ω)) (payload : Bytes) : Session (Core ω) → Prop where
  /-- It answers nothing, or nothing that is waited for. -/
  | ignored {c : Core ω} (leads : Leads Act.Ordinary x.link c) :
      Reception x payload { x with link := c }
  /-- It binds the client. -/
  | bound {m : DhcpMessage} {former : Lease} (read : DhcpMessage.parse payload = .ok m)
      (answers : isAnswer x.client m = true) (ack : m.type = .ack)
      (free : x.client.state ≠ .bound) (held : x.client.lease = some former) :
      Reception x payload (x.bind (Core.uplink ω) m)
  /-- It leads elsewhere. -/
  | moved {m : DhcpMessage} {y : Session (Core ω)} (read : DhcpMessage.parse payload = .ok m)
      (answers : isAnswer x.client m = true) (free : x.client.state ≠ .bound)
      (away : y.client.state ≠ .bound) : Reception x payload y

variable {x}

/-- A client that holds a lease keeps its addresses when it is granted more time. -/
theorem bind_of_held {m : DhcpMessage} {former : Lease} (held : x.client.lease = some former) :
    (x.bind (Core.uplink ω) m).client =
      { x.client with
        lease := some { former with seconds := m.leaseSeconds.getD former.seconds }
        state := .bound, renewAttempts := 0 } ∧
    (x.bind (Core.uplink ω) m).timer =
      Timer.arm x.link.now
        { former with seconds := m.leaseSeconds.getD former.seconds }.renewAfter ∧
    (x.bind (Core.uplink ω) m).link.iface = former.interfaceConfig := by
  unfold bind
  rw [held]
  exact ⟨rfl, rfl, rfl⟩

/-- A grant of more time is one of the things that can come. -/
theorem reception_ack {payload : Bytes} {m : DhcpMessage}
    (read : DhcpMessage.parse payload = .ok m) (answers : isAnswer x.client m = true)
    (ack : m.type = .ack) (free : x.client.state ≠ .bound) :
    Reception x payload (x.bind (Core.uplink ω) m) := by
  cases held : x.client.lease with
  | some former => exact .bound read answers ack free held
  | none =>
    refine .moved read answers free ?_
    unfold bind
    rw [held]
    exact free

/-- **Nothing else comes of a datagram.** -/
theorem reception (x : Session (Core ω)) (payload : Bytes) :
    Reception x payload (x.receive (Core.uplink ω) payload).2 := by
  have told (e : DhcpEvent) : Leads Act.Ordinary x.link (x.tell (Core.uplink ω) e).link :=
    x.link.leads_tell _
  unfold receive
  split
  · rename_i e _
    exact .ignored ((told (.malformed e)).trans (Core.plain_countMalformed _).ordinary)
  · rename_i m read
    split
    · exact .ignored (told _)
    · rename_i answers
      have answers : isAnswer x.client m = true := by simpa using answers
      split
      · rename_i state _
        have free : x.client.state ≠ .bound := by rw [state]; decide
        unfold receiveOffer
        split
        · exact .ignored (told _)
        · refine .moved read answers free ?_
          dsimp only
          rw [request_client]
          exact nofun
      · rename_i state ack
        exact reception_ack read answers ack (by rw [state]; decide)
      · rename_i state ack
        exact reception_ack read answers ack (by rw [state]; decide)
      · rename_i state _
        refine .moved read answers (by rw [state]; decide) ?_
        unfold receiveNak
        dsimp only
        rw [discover_client]
        exact nofun
      · rename_i state _
        refine .moved read answers (by rw [state]; decide) ?_
        unfold receiveNak
        dsimp only
        rw [discover_client]
        exact nofun
      · exact .ignored (told _)

/-- Unless it answers, a datagram is nothing to the client. -/
theorem receive_of_unanswered {payload : Bytes}
    (none : ∀ m, DhcpMessage.parse payload = .ok m → isAnswer x.client m ≠ true) :
    ∃ c, Leads Act.Ordinary x.link c ∧
      (x.receive (Core.uplink ω) payload).2 = { x with link := c } := by
  have received := x.reception payload
  generalize (x.receive (Core.uplink ω) payload).2 = y at received
  cases received with
  | ignored leads => exact ⟨_, leads, rfl⟩
  | bound read answers => exact absurd answers (none _ read)
  | moved read answers => exact absurd answers (none _ read)

/-! ## On the way to the end -/

/-- An unanswered client, `n` ticks after the clock read `t₀`, that is to lose its lease `lost`
ticks after that. -/
structure Keeping (t₀ : Tick) (lost n : Nat) (lease : Lease) (x : Session (Core ω)) : Prop where
  held : x.client.lease = some lease
  up : x.link.iface = lease.interfaceConfig
  /-- The requests sent so far are counted. -/
  state : x.client.state = .bound ∧ x.client.renewAttempts.toNat = 0 ∨
    x.client.state = .renew ∧ x.client.renewAttempts ≤ Dhcp.renewRetries
  /-- The timer expires in time for those that are left. -/
  due : ∃ d, x.timer.deadline = some (t₀.after d) ∧ n < d ∧ d ≤ n + Tick.maxDelay.toNat ∧
    lost = d + (Dhcp.renewRetries.toNat - x.client.renewAttempts.toNat) *
      (Tick.ofSeconds Dhcp.renewIntervalSeconds).toNat

/-- A client that has lost its lease and waits for an offer. -/
structure Lost (x : Session (Core ω)) : Prop where
  state : x.client.state = .select
  down : x.link.iface = InterfaceConfig.unconfigured

/-- An unanswered client still has its lease, or the time for that is over. -/
def Fate (t₀ : Tick) (lost n : Nat) (lease : Lease) (x : Session (Core ω)) : Prop :=
  x.Keeping t₀ lost n lease ∨ lost ≤ n ∧ x.Lost

section Fate

variable {t₀ : Tick} {lost n m : Nat} {lease : Lease}

/-- A timer that runs out within the longest delay reads as due from then on. -/
theorem isDue_iff {d : Nat} (timer : x.timer.deadline = some (t₀.after d)) (ahead : n < d)
    (short : d ≤ n + Tick.maxDelay.toNat) (soon : m ≤ 1) :
    x.timer.isDue (t₀.after (n + m)) = true ↔ d ≤ n + m := by
  have split : d = n + (d - n) := by omega
  rw [Timer.isDue, timer, Option.any_some, split, ← Tick.after_after, ← Tick.after_after,
    Tick.reached_after_iff _ (by omega) (by omega)]
  omega

/-- The work of others is nothing to it while they leave our addresses alone. -/
theorem Keeping.others (keeping : x.Keeping t₀ lost n lease) {c : Core ω}
    (same : c.iface = x.link.iface) : Keeping t₀ lost n lease { x with link := c } :=
  ⟨keeping.held, same.trans keeping.up, keeping.state, keeping.due⟩

/-- The fate of a client does not depend on what others do with the core, but for its addresses. -/
theorem Fate.others (fate : x.Fate t₀ lost n lease) {c : Core ω} (same : c.iface = x.link.iface) :
    Fate t₀ lost n lease { x with link := c } := by
  rcases fate with keeping | ⟨past, down⟩
  · exact .inl (keeping.others same)
  · exact .inr ⟨past, down.state, same.trans down.down⟩

/-- While its timer is not due nothing happens to it. -/
theorem Fate.wait (fate : x.Fate t₀ lost n lease) (soon : m ≤ 1)
    (early : x.timer.isDue (t₀.after (n + m)) = false) : x.Fate t₀ lost (n + m) lease := by
  rcases fate with keeping | ⟨past, down⟩
  · obtain ⟨d, timer, ahead, short, left⟩ := keeping.due
    have still : ¬ d ≤ n + m := by
      rw [← isDue_iff timer ahead short soon, early]
      exact Bool.false_ne_true
    exact .inl ⟨keeping.held, keeping.up, keeping.state, d, timer, by omega, by omega, left⟩
  · exact .inr ⟨by omega, down⟩

/-- A request for renewal. -/
theorem Keeping.renew {attempts : UInt32} (held : x.client.lease = some lease)
    (up : x.link.iface = lease.interfaceConfig) (now : x.link.now = t₀.after n)
    (most : attempts ≤ Dhcp.renewRetries)
    (left : lost = n + (Dhcp.renewRetries.toNat - attempts.toNat + 1) *
      (Tick.ofSeconds Dhcp.renewIntervalSeconds).toNat) :
    (x.renew (Core.uplink ω) attempts).2.Keeping t₀ lost n lease := by
  have interval : (Tick.ofSeconds Dhcp.renewIntervalSeconds).clamped = 1000 := by decide
  have ticks : (Tick.ofSeconds Dhcp.renewIntervalSeconds).toNat = 1000 := by decide
  have longest : Tick.maxDelay.toNat = 2147483647 := rfl
  unfold Session.renew
  dsimp only
  refine ⟨?_, ?_, ?_, n + 1000, ?_, by omega, by omega, ?_⟩
  · rw [request_client]
    exact held
  · rw [(leads_request _).undisturbed.iface]
    exact up
  · rw [request_client]
    exact .inr ⟨rfl, most⟩
  · rw [request_timer]
    show some (Tick.deadline x.link.now _) = _
    rw [Tick.deadline_eq, now, Tick.after_after, interval]
  · rw [request_client]
    show lost = n + 1000 + (Dhcp.renewRetries.toNat - attempts.toNat) * _
    rw [ticks] at left ⊢
    omega

/-- A new round finds the client without a lease. -/
theorem lost_discover (down : x.link.iface = InterfaceConfig.unconfigured) :
    (x.discover (Core.uplink ω)).2.Lost where
  state := by rw [discover_client]
  down := x.leads_discover.undisturbed.iface.trans down

/-- A client that gives up its lease has lost it. -/
theorem lost_loseLease : (x.loseLease (Core.uplink ω)).2.Lost := by
  unfold loseLease
  dsimp only
  exact lost_discover rfl

/-- **When its timer is due, it asks once more, or gives the lease up.** -/
theorem Fate.expire (fate : x.Fate t₀ lost n lease) (soon : m ≤ 1)
    (now : x.link.now = t₀.after (n + m)) (due : x.timer.isDue (t₀.after (n + m)) = true) :
    ({ x with timer := Timer.idle }.expire (Core.uplink ω)).2.Fate t₀ lost (n + m) lease := by
  have retries : Dhcp.renewRetries.toNat = 5 := rfl
  have one : (1 : UInt32).toNat = 1 := rfl
  rcases fate with keeping | ⟨past, down⟩
  · obtain ⟨d, timer, ahead, short, left⟩ := keeping.due
    -- a pass in every tick is a pass at the very tick of the deadline
    have punctual : d = n + m := by
      have reached := (isDue_iff timer ahead short soon).mp due
      omega
    subst punctual
    unfold Session.expire
    rcases keeping.state with ⟨state, none⟩ | ⟨state, most⟩ <;> simp only [state]
    · refine .inl (Keeping.renew (x := { x with timer := Timer.idle }) keeping.held keeping.up now
        (by decide) ?_)
      rw [left, none, one, retries]
    · rw [UInt32.le_iff_toNat_le] at most
      split
      · rename_i all
        rw [ge_iff_le, UInt32.le_iff_toNat_le] at all
        refine .inr ⟨?_, lost_loseLease⟩
        rw [left, Nat.sub_eq_zero_of_le all, Nat.zero_mul]
        exact Nat.le_refl _
      · rename_i few
        rw [ge_iff_le, UInt32.le_iff_toNat_le] at few
        have next : (x.client.renewAttempts + 1).toNat = x.client.renewAttempts.toNat + 1 := by
          rw [UInt32.toNat_add, one]
          omega
        refine .inl (Keeping.renew (x := { x with timer := Timer.idle }) keeping.held keeping.up
          now (by rw [UInt32.le_iff_toNat_le, next]; omega) ?_)
        have same : Dhcp.renewRetries.toNat - (x.client.renewAttempts.toNat + 1) + 1 =
            Dhcp.renewRetries.toNat - x.client.renewAttempts.toNat := by omega
        rw [left, next, same]
  · refine .inr ⟨by omega, ?_⟩
    unfold Session.expire
    simp only [down.state]
    exact lost_discover down.down

/-- A client that has just been bound is at the beginning of this way. -/
theorem keeping_of_bind {m : DhcpMessage} {former : Lease} (held : x.client.lease = some former)
    (now : x.link.now = t₀) :
    (x.bind (Core.uplink ω) m).Keeping t₀
      { former with seconds := m.leaseSeconds.getD former.seconds }.kept 0
      { former with seconds := m.leaseSeconds.getD former.seconds } := by
  obtain ⟨client, timer, iface⟩ := bind_of_held (m := m) held
  generalize bound : { former with seconds := m.leaseSeconds.getD former.seconds } = lease
    at client timer ⊢
  have first := lease.toNat_renewAfter
  have longest : Tick.maxDelay.toNat = 2147483647 := rfl
  have unclamped : lease.renewAfter.clamped = lease.renewAfter.toNat := by
    rw [Tick.clamped]
    omega
  refine ⟨by rw [client], by rw [iface, ← bound]; rfl, .inl ?_, lease.renewAfter.toNat, ?_,
    by omega, by omega, ?_⟩
  · rw [client]
    exact ⟨rfl, rfl⟩
  · rw [timer, Timer.arm, Tick.deadline_eq, now, unclamped]
  · rw [client]
    rfl

/-- The timer of a lease that is kept is not due at once. -/
theorem Keeping.early (keeping : x.Keeping t₀ lost 0 lease) : x.timer.isDue t₀ = false := by
  obtain ⟨d, timer, ahead, short, -⟩ := keeping.due
  have due := isDue_iff (m := 0) timer ahead short (by omega)
  rw [Nat.add_zero, Tick.after_zero] at due
  rw [Bool.eq_false_iff, Ne, due]
  omega

/-- **The addresses of the interface** tell whether the time is over. -/
theorem Fate.iface (fate : x.Fate t₀ lost n lease) :
    (n < lost → x.link.iface = lease.interfaceConfig) ∧
      (lost ≤ n → x.link.iface = InterfaceConfig.unconfigured) := by
  rcases fate with keeping | ⟨past, down⟩
  · obtain ⟨d, -, ahead, -, left⟩ := keeping.due
    exact ⟨fun _ => keeping.up, fun past => absurd past (by omega)⟩
  · exact ⟨fun before => absurd before (by omega), fun _ => down.down⟩

end Fate

end Session

end DhcpClient

end PolledNet
