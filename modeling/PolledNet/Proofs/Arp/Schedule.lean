import Mathlib.Data.List.Chain
import PolledNet.Proofs.Arp.Map

/-!
# When requests go out

An address that nobody has heard of is resolved by asking for it again and again, and how often the
caller comes back decides nothing about that: the requests keep their distance, and after the last
one the address is given up.

The schedule (`ArpCache.Progress`) is told in true time, of which the cache sees only a counter that
wraps. The two agree (`Shows.resolve`) as long as no two calls are half the counter apart; what is
done with other addresses, and sweeping, does not disturb them (`Shows.perform`). So a run of the
cache says what the schedule says (`Shows.said_eq`), and what a schedule says is known: requests are
a full pause apart (`Progress.said_apart`) and come in rounds (`Progress.said_rounds`).
-/

namespace PolledNet

namespace ArpCache

/-! ## The schedule -/

/-- How far the resolution of an address is, in true time. -/
inductive Progress where
  /-- Nobody is asked. -/
  | idle
  /-- This many requests are out, the last since then. -/
  | asking (tries last : Nat)
  deriving DecidableEq, Repr

namespace Progress

variable (pause : Nat)

/-- The requests that are out. -/
def tries : Progress → Nat
  | idle => 0
  | asking tries _ => tries

/-- A packet for the address comes at a time: what is said to it, and how far the resolution is
then. -/
def call : Progress → Nat → Resolution × Progress
  | idle, time => (.sendRequest, .asking 1 time)
  | asking tries last, time =>
    if time < last + pause then (.wait, .asking tries last)
    else if tries < Arp.maxTries then (.sendRequest, .asking (tries + 1) time)
    else (.fail, .idle)

/-- What is said to packets that come at these times. -/
def said : Progress → List Nat → List (Nat × Resolution)
  | _, [] => []
  | p, time :: times => (time, (p.call pause time).1) :: said (p.call pause time).2 times

/-- How far the resolution is after them. -/
def after : Progress → List Nat → Progress
  | p, [] => p
  | p, time :: times => after (p.call pause time).2 times

variable {pause} {p : Progress} {times : List Nat}

/-- What can be said to a packet. -/
theorem call_cases (p : Progress) (pause time : Nat) :
    (p.call pause time = (.wait, p) ∧ ∃ tries last, p = asking tries last ∧ time < last + pause) ∨
      (p.call pause time = (.sendRequest, asking (p.tries + 1) time) ∧ p.tries < Arp.maxTries) ∨
      (p.call pause time = (.fail, idle) ∧ Arp.maxTries ≤ p.tries) := by
  cases p with
  | idle => exact .inr (.inl ⟨rfl, by decide⟩)
  | asking tries last =>
    simp only [call, Progress.tries]
    split
    · rename_i early
      exact .inl ⟨rfl, tries, last, rfl, early⟩
    · split
      · rename_i more
        exact .inr (.inl ⟨rfl, more⟩)
      · rename_i last
        exact .inr (.inr ⟨rfl, Nat.le_of_not_lt last⟩)

/-- What was said was said at one of the times. -/
theorem time_of_mem_said {entry : Nat × Resolution} (mem : entry ∈ p.said pause times) :
    entry.1 ∈ times := by
  induction times generalizing p with
  | nil => cases mem
  | cons time times ih =>
    rcases List.mem_cons.mp mem with rfl | later
    · exact List.mem_cons_self
    · exact List.mem_cons_of_mem _ (ih later)

/-- No request goes out before the pause since the last one is over. -/
theorem le_of_request {tries last time : Nat} (ordered : times.Pairwise (· ≤ ·))
    (mem : (time, .sendRequest) ∈ (asking tries last).said pause times) : last + pause ≤ time := by
  induction times with
  | nil => cases mem
  | cons first times ih =>
    obtain ⟨least, ordered⟩ := List.pairwise_cons.mp ordered
    by_cases early : first < last + pause
    · have waits : (asking tries last).call pause first = (.wait, asking tries last) := if_pos early
      rw [said, waits] at mem
      rcases List.mem_cons.mp mem with eq | later
      · cases eq
      · exact ih ordered later
    · -- the pause is over, and whatever follows follows later
      have after : first ≤ time := by
        rcases List.mem_cons.mp mem with eq | later
        · exact Nat.le_of_eq (congrArg Prod.fst eq).symm
        · exact least time (time_of_mem_said later)
      omega

/-- **Two requests are a full pause apart.** -/
theorem said_apart (ordered : times.Pairwise (· ≤ ·)) :
    (p.said pause times).Pairwise fun x y =>
      x.2 = .sendRequest → y.2 = .sendRequest → x.1 + pause ≤ y.1 := by
  induction times generalizing p with
  | nil => exact List.Pairwise.nil
  | cons time times ih =>
    obtain ⟨-, ordered'⟩ := List.pairwise_cons.mp ordered
    apply List.Pairwise.cons _ (ih ordered')
    rintro ⟨later, r⟩ mem request rfl
    rcases p.call_cases pause time with ⟨called, -⟩ | ⟨called, -⟩ | ⟨called, -⟩ <;>
      rw [called] at mem request
    · cases request
    · exact le_of_request ordered' mem
    · cases request

/-- What is said to the packets of one resolution, apart from telling them to wait. -/
def round : List Resolution := List.replicate Arp.maxTries .sendRequest ++ [.fail]

/-- Whatever is said besides telling a packet to wait. -/
def outcomes (log : List (Nat × Resolution)) : List Resolution :=
  (log.map (·.2)).filter (· ≠ .wait)

/-- **Requests come in rounds**, each given up after its last request, and one perhaps still going
on. -/
theorem said_rounds (few : p.tries ≤ Arp.maxTries) :
    (p.after pause times).tries ≤ Arp.maxTries ∧
      ∃ rounds, List.replicate p.tries .sendRequest ++ outcomes (p.said pause times) =
        (List.replicate rounds round).flatten ++
          List.replicate (p.after pause times).tries .sendRequest := by
  induction times generalizing p with
  | nil => exact ⟨few, 0, by simp [said, after, outcomes]⟩
  | cons time times ih =>
    rcases p.call_cases pause time with ⟨called, -⟩ | ⟨called, more⟩ | ⟨called, all⟩
    · obtain ⟨few', rounds, eq⟩ := ih few
      rw [after, said, called]
      exact ⟨few', rounds, eq⟩
    · -- the request joins those that are out
      obtain ⟨few', rounds, eq⟩ := ih (p := asking (p.tries + 1) time) more
      rw [after, said, called]
      refine ⟨few', rounds, ?_⟩
      rw [← eq]
      simp [outcomes, tries, List.replicate_succ']
    · -- all are out, and the round ends
      obtain ⟨few', rounds, eq⟩ := ih (p := idle) (Nat.zero_le _)
      rw [after, said, called]
      refine ⟨few', rounds + 1, ?_⟩
      rw [List.replicate_succ, List.flatten_cons, List.append_assoc, ← eq,
        Nat.le_antisymm few all]
      simp [outcomes, tries, round]

/-- After the address is given up, nobody is asked. -/
theorem after_of_fail {time : Nat} (last : (p.said pause times).getLast? = some (time, .fail)) :
    p.after pause times = idle := by
  induction times generalizing p with
  | nil => cases last
  | cons first times ih =>
    cases times with
    | nil =>
      simp only [said, List.getLast?_singleton, Option.some.injEq, Prod.mk.injEq] at last
      rcases p.call_cases pause first with ⟨called, -⟩ | ⟨called, -⟩ | ⟨called, -⟩ <;>
        rw [called] at last
      · cases last.2
      · cases last.2
      · rw [after, called, after]
    | cons second times => exact ih last

/-- No time is earlier than the one before, or half the counter later. -/
def Paced (times : List Nat) : Prop :=
  times.IsChain fun time next => time ≤ next ∧ next < time + 2147483648

/-- The last packet came since the last request, and not after the pause; from there on the times
are paced. -/
def Soon (pause : Nat) (times : List Nat) : Progress → Prop
  | idle => Paced times
  | asking _ last =>
    ∃ latest, last ≤ latest ∧ latest ≤ last + pause ∧ Paced (latest :: times)

/-- What is paced is paced from any time on. -/
theorem Paced.tail {time : Nat} (paced : Paced (time :: times)) : Paced times :=
  List.IsChain.tail paced

/-- Times that are paced do not go backwards. -/
theorem Paced.ordered (paced : Paced times) : times.Pairwise (· ≤ ·) := by
  rw [← List.isChain_iff_pairwise]
  exact List.IsChain.imp (fun _ _ near => near.1) paced

/-- A call comes after the one before it, and soon enough for the clock to tell. -/
theorem Soon.near {time tries last : Nat} (soon : (asking tries last).Soon pause (time :: times)) :
    last ≤ time ∧ time < last + pause + 2147483648 := by
  obtain ⟨latest, since, within, paced⟩ := soon
  have next := (List.isChain_cons_cons.mp paced).1
  omega

/-- Calls that come soon do so after each of them. -/
theorem Soon.call {time : Nat} (soon : p.Soon pause (time :: times)) :
    (p.call pause time).2.Soon pause times := by
  have paced : Paced (time :: times) := by
    cases p with
    | idle => exact soon
    | asking tries last =>
      obtain ⟨latest, -, -, paced⟩ := soon
      exact paced.tail
  rcases p.call_cases pause time with ⟨called, tries, last, rfl, early⟩ |
    ⟨called, -⟩ | ⟨called, -⟩ <;> rw [called]
  · exact ⟨time, soon.near.1, Nat.le_of_lt early, paced⟩
  · exact ⟨time, Nat.le_refl time, Nat.le_add_right time pause, paced⟩
  · exact paced.tail

end Progress

/-! ## The cache keeps to it -/

/-- Something that happens while an address is being resolved. -/
inductive Turn where
  /-- A packet for the address comes at this true time. -/
  | call (time : Nat)
  /-- Something else is done with the cache. -/
  | other (op : Operation)
  deriving DecidableEq, Repr

namespace Turn

/-- When packets come. -/
def times (turns : List Turn) : List Nat :=
  turns.filterMap fun
    | call time => some time
    | other _ => none

/-- A call adds its time. -/
@[simp] theorem times_call (time : Nat) (turns : List Turn) :
    times (call time :: turns) = time :: times turns := rfl

end Turn

/-- An operation is about another address, or it sweeps. -/
def Operation.Spares (a : Ipv4) (op : Operation) : Prop :=
  op.concerns a = false ∨ ∃ now, op = .sweep now

/-- What the cache says to packets for `a`, and when. -/
def said (a : Ipv4) (retry : Tick) : ArpCache → List Turn → List (Nat × Resolution)
  | _, [] => []
  | c, .call time :: turns =>
    (time, (c.resolve a (UInt32.ofNat time) retry).1) ::
      said a retry (c.resolve a (UInt32.ofNat time) retry).2 turns
  | c, .other op :: turns => said a retry (c.perform op) turns

/-- The cache afterwards. -/
def after (a : Ipv4) (retry : Tick) : ArpCache → List Turn → ArpCache
  | c, [] => c
  | c, .call time :: turns => after a retry (c.resolve a (UInt32.ofNat time) retry).2 turns
  | c, .other op :: turns => after a retry (c.perform op) turns

/-- The entry of `a` shows how far its resolution is. -/
def Shows (a : Ipv4) (retry : Tick) (c : ArpCache) : Progress → Prop
  | .idle => c.entry? a = none
  | .asking tries last => ∃ mac, c.entry? a = some (request a mac tries (UInt32.ofNat last) retry)

variable {c : ArpCache} {a : Ipv4} {retry : Tick} {p : Progress}

/-- Sweeping finds no fault with an entry that is being resolved, or with one that is not there. -/
theorem entry?_sweep_of_keeps (now : Tick)
    (keeps : ∀ e, c.entry? a = some e → e.isStale now = false) :
    entry? (c.sweep now).2 a = c.entry? a := by
  unfold entry? sweep at *
  rw [List.find?_filter]
  cases found : c.entries.find? (·.address = a) with
  | none =>
    rw [List.find?_eq_none] at found ⊢
    intro e mem
    simpa using fun _ => by simpa using found e mem
  | some e =>
    obtain ⟨here, before, behind, split, early⟩ := List.find?_eq_some_iff_append.mp found
    rw [List.find?_eq_some_iff_append]
    refine ⟨by simp [keeps e found, here], before, behind, split, ?_⟩
    intro x mem
    simp [early x mem]

/-- An operation on another address leaves what is shown of this one. -/
theorem Shows.perform (shown : c.Shows a retry p) {op : Operation} (spares : op.Spares a) :
    (c.perform op).Shows a retry p := by
  have same : entry? (c.perform op) a = c.entry? a := by
    rcases spares with other | ⟨now, rfl⟩
    · exact c.entry?_perform_of_other other
    · apply entry?_sweep_of_keeps
      intro e found
      cases p with
      | idle => exact absurd (shown.symm.trans found) (by simp)
      | asking tries last =>
        obtain ⟨mac, eq⟩ := shown
        rw [eq] at found
        cases found
        simp [ArpEntry.isStale, request]
  cases p with
  | idle => exact same.trans shown
  | asking tries last =>
    obtain ⟨mac, eq⟩ := shown
    exact ⟨mac, same.trans eq⟩

/-- **A packet is told what the schedule says.** -/
theorem Shows.resolve (shown : c.Shows a retry p) {time : Nat}
    (near : ∀ tries last, p = .asking tries last →
      last ≤ time ∧ time < last + retry.clamped + 2147483648) :
    (c.resolve a (UInt32.ofNat time) retry).1 = (p.call retry.clamped time).1 ∧
      (c.resolve a (UInt32.ofNat time) retry).2.Shows a retry (p.call retry.clamped time).2 := by
  obtain ⟨told, entry⟩ := c.resolve_here a (UInt32.ofNat time) retry
  cases p with
  | idle =>
    rw [shown] at told entry
    exact ⟨told, Mac.zero, entry⟩
  | asking tries last =>
    obtain ⟨mac, found⟩ := shown
    obtain ⟨later, near⟩ := near tries last rfl
    have iff := Tick.reached_deadline_iff retry later near
    rw [found] at told entry
    simp only [resolveEntry, request] at told entry
    by_cases early : time < last + retry.clamped
    · have ahead : Tick.reached (UInt32.ofNat time)
          (Tick.deadline (UInt32.ofNat last) retry) = false := by
        rw [Bool.eq_false_iff, Ne, iff]
        exact Nat.not_le.mpr early
      simp only [ahead, Bool.not_false, if_true] at told entry
      rw [Progress.call, if_pos early]
      exact ⟨told, mac, entry⟩
    · have due := iff.mpr (Nat.le_of_not_lt early)
      simp only [due, Bool.not_true, Bool.false_eq_true, if_false] at told entry
      rw [Progress.call, if_neg early]
      by_cases more : tries < Arp.maxTries
      · rw [if_pos more] at told entry ⊢
        exact ⟨told, mac, entry⟩
      · rw [if_neg more] at told entry ⊢
        exact ⟨told, entry⟩

/-- **All packets are**, whatever happens in between. -/
theorem Shows.said_eq (shown : c.Shows a retry p) {turns : List Turn}
    (spares : ∀ op, .other op ∈ turns → op.Spares a)
    (soon : p.Soon retry.clamped (Turn.times turns)) :
    c.said a retry turns = p.said retry.clamped (Turn.times turns) ∧
      (c.after a retry turns).Shows a retry (p.after retry.clamped (Turn.times turns)) := by
  induction turns generalizing c p with
  | nil => exact ⟨rfl, shown⟩
  | cons turn turns ih =>
    have spares' : ∀ op, .other op ∈ turns → op.Spares a := by
      intro op mem
      exact spares op (List.mem_cons_of_mem _ mem)
    cases turn with
    | call time =>
      have near : ∀ tries last, p = .asking tries last →
          last ≤ time ∧ time < last + retry.clamped + 2147483648 := by
        rintro tries last rfl
        exact soon.near
      obtain ⟨told, shows'⟩ := shown.resolve near
      obtain ⟨rest, final⟩ := ih shows' spares' soon.call
      refine ⟨?_, final⟩
      simp only [said, Turn.times_call, Progress.said, told, rest]
    | other op => exact ih (shown.perform (spares op List.mem_cons_self)) spares' soon

/-- **Requests for an address keep to a schedule**, however often and whenever somebody wants to
send to it: they are a full pause apart, go out in rounds of `Arp.maxTries`, and after each round
one packet is told that the address is given up, which leaves no entry; all others wait. -/
theorem resolve_keeps_schedule {c : ArpCache} {a : Ipv4} (retry : Tick) {turns : List Turn}
    (unknown : c.entry? a = none) (spares : ∀ op, .other op ∈ turns → op.Spares a)
    (paced : Progress.Paced (Turn.times turns)) :
    let log := c.said a retry turns
    log = Progress.idle.said retry.clamped (Turn.times turns) ∧
      (log.Pairwise fun x y =>
        x.2 = .sendRequest → y.2 = .sendRequest → x.1 + retry.clamped ≤ y.1) ∧
      (∃ rounds tries, tries ≤ Arp.maxTries ∧ Progress.outcomes log =
        (List.replicate rounds Progress.round).flatten ++ List.replicate tries .sendRequest) ∧
      ∀ time, log.getLast? = some (time, .fail) → entry? (c.after a retry turns) a = none := by
  intro log
  have shown : c.Shows a retry .idle := unknown
  obtain ⟨eq, final⟩ := shown.said_eq spares paced
  obtain ⟨few, rounds, outcomes⟩ :=
    @Progress.said_rounds retry.clamped .idle (Turn.times turns) (Nat.zero_le _)
  refine ⟨eq, ?_, ⟨rounds, _, few, ?_⟩, ?_⟩
  · rw [show log = _ from eq]
    exact Progress.said_apart paced.ordered
  · rw [show log = _ from eq]
    exact outcomes
  · intro time last
    rw [show log = _ from eq] at last
    rw [Progress.after_of_fail last] at final
    exact final

/-- A silent neighbour is asked for while the counter wraps. -/
def wrapping : List Turn :=
  [.call 4294967200, .call 4294967250, .other (.learn ⟨10, 0, 0, 1⟩ Mac.zero 4294967260 30),
    .call 4294967300, .other (.sweep 50), .call 4294967500, .call 4294967600, .call 4294967699,
    .call 4294967700, .call 4294967700]

/-- Four requests, and the packet after the last is told that there is no such neighbour. -/
theorem resolve_keeps_schedule_wrapping :
    empty.entry? ⟨10, 0, 0, 9⟩ = none ∧
      (∀ op, .other op ∈ wrapping → op.Spares ⟨10, 0, 0, 9⟩) ∧
      Progress.Paced (Turn.times wrapping) ∧
      empty.said ⟨10, 0, 0, 9⟩ 100 wrapping =
        [(4294967200, .sendRequest), (4294967250, .wait), (4294967300, .sendRequest),
          (4294967500, .sendRequest), (4294967600, .sendRequest), (4294967699, .wait),
          (4294967700, .fail), (4294967700, .sendRequest)] := by
  have spares : ∀ op, .other op ∈ wrapping → op.Spares ⟨10, 0, 0, 9⟩ := by
    intro op mem
    simp only [wrapping, List.mem_cons, Turn.other.injEq, reduceCtorEq, List.not_mem_nil,
      false_or, or_false] at mem
    rcases mem with rfl | rfl
    · exact .inl (by decide)
    · exact .inr ⟨50, rfl⟩
  have paced : Progress.Paced (Turn.times wrapping) := by
    unfold Progress.Paced
    decide
  obtain ⟨eq, -⟩ := resolve_keeps_schedule (c := empty) 100 rfl spares paced
  exact ⟨rfl, spares, paced, eq.trans (by decide)⟩

end ArpCache

end PolledNet
