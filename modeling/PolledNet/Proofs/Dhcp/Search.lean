import Mathlib.Algebra.Group.Nat.Defs
import Mathlib.Data.List.Chain
import PolledNet.Proofs.Core.Freshness
import PolledNet.Proofs.Dhcp.Irrelevance
import PolledNet.Proofs.Dhcp.Renewal

/-!
# The search for a server

A client without an address looks for servers in rounds. Each round begins with a message to all of
them and is over when its timer expires, and each waits twice as long as the one before, up to a
limit (`DhcpClient.patience`). An offer that is taken up ends the search; a refusal, an unanswered
request or the end of a lease begins another one.

`Session.Story` is what happens to a client from its start on: other work on the same core, what it
receives, and the moments at which its timer is looked at. The journal of a story says what the
client handed to its interface and when, whether or not it could be sent, and which `rounds` the
present search has had. As long as nobody waits half the tick space before looking, a story keeps to
the timetable (`Story.onSchedule`): the timer of a round is set from its first message by the number
of rounds before it, the first look at or after that moment begins the next round, and nothing else
does.
-/

namespace PolledNet

/-- The kind of DHCP message that a datagram is, if it is one. -/
def Handed.type? (h : Handed) : Option DhcpType :=
  (DhcpMessage.parse h.content).toOption.map (·.type)

/-- The kinds of messages handed to an interface so far. -/
def Recorded.types {σ : Type} (r : Recorded σ) : List (Option DhcpType) := r.handed.map Handed.type?

namespace DhcpClient

/-! ## Rounds -/

/-- Ticks that a round lasts when this many rounds went before it in vain. -/
def patience (before : Nat) : Nat :=
  min (Dhcp.initialBackoff.toNat * 2 ^ before) Dhcp.maxBackoff.toNat

/-- The first round has the least patience. -/
theorem patience_zero : UInt32.ofNat (patience 0) = Dhcp.initialBackoff := by decide

/-- No round lasts longer than the longest. -/
theorem patience_le (before : Nat) : patience before ≤ 12000 := Nat.min_le_right _ _

/-- Each round lasts for a while. -/
theorem patience_pos (before : Nat) : 0 < patience before := by
  have first : 0 < Dhcp.initialBackoff.toNat := by decide
  have cap : 0 < Dhcp.maxBackoff.toNat := by decide
  exact Nat.lt_min.mpr ⟨Nat.mul_pos first (Nat.two_pow_pos before), cap⟩

/-- Patience fits into a tick. -/
theorem toNat_patience (before : Nat) :
    (UInt32.ofNat (patience before)).toNat = patience before := by
  have small := patience_le before
  rw [UInt32.toNat_ofNat']
  exact Nat.mod_eq_of_lt (by omega)

/-- The patience of a client is not cut short by the limit of delays. -/
theorem clamped_patience (before : Nat) :
    Tick.clamped (UInt32.ofNat (patience before)) = patience before := by
  have small := patience_le before
  have longest : Tick.maxDelay.toNat = 2147483647 := rfl
  rw [Tick.clamped, toNat_patience]
  omega

/-- Doubled and cut off, the wait is that of the next round. -/
theorem patience_succ (before : Nat) :
    min (UInt32.ofNat (patience before) * 2) Dhcp.maxBackoff =
      UInt32.ofNat (patience (before + 1)) := by
  have small := patience_le before
  have cap : Dhcp.maxBackoff.toNat = 12000 := by decide
  apply UInt32.toNat_inj.mp
  rw [toNat_patience, Tick.toNat_min, UInt32.toNat_mul, toNat_patience,
    show (2 : UInt32).toNat = 2 from rfl, Nat.mod_eq_of_lt (by omega), cap]
  unfold patience at small ⊢
  rw [cap, Nat.pow_succ, ← Nat.mul_assoc]
  omega

example : (List.range 8).map patience = [200, 400, 800, 1600, 3200, 6400, 12000, 12000] := by
  decide

/-- What a client was seen to do, and the kinds of messages it handed over then. -/
inductive Sight where
  /-- It was started. -/
  | started (time : Nat) (sent : List (Option DhcpType))
  /-- It received a datagram. -/
  | received (time : Nat) (sent : List (Option DhcpType))
  /-- Its timer was looked at, and if it was due, handled not before that. -/
  | looked (now time : Nat) (sent : List (Option DhcpType))

namespace Sight

/-- When the client acted. -/
def time : Sight → Nat
  | started time _ => time
  | received time _ => time
  | looked _ time _ => time

/-- The kinds of messages it handed over. -/
def sent : Sight → List (Option DhcpType)
  | started _ sent => sent
  | received _ sent => sent
  | looked _ _ sent => sent

end Sight

/-- The rounds of a search once messages of some kinds were handed over: to look for servers begins
another round, and to ask one of them ends the search. -/
def roundsAfter (time : Nat) (sent : List (Option DhcpType)) (rounds : List Nat) : List Nat :=
  if some .discover ∈ sent then time :: rounds else if sent = [] then rounds else []

/-- When the rounds of the present search began, the last one first. A journal has its last entry
first as well. -/
def rounds : List Sight → List Nat
  | [] => []
  | sight :: earlier => roundsAfter sight.time sight.sent (rounds earlier)

/-- When the timer was looked at, the start included. -/
def looks (journal : List Sight) : List Nat :=
  journal.filterMap fun
    | .started time _ => some time
    | .received _ _ => none
    | .looked now _ _ => some now

/-- A datagram is no look at the timer. -/
@[simp] theorem looks_received (time : Nat) (sent : List (Option DhcpType)) (journal : List Sight) :
    looks (.received time sent :: journal) = looks journal := rfl

/-- A look is one. -/
@[simp] theorem looks_looked (now time : Nat) (sent : List (Option DhcpType))
    (journal : List Sight) : looks (.looked now time sent :: journal) = now :: looks journal := rfl

/-- Looks are listed as the entries are. -/
@[simp] theorem looks_append (later earlier : List Sight) :
    looks (later ++ earlier) = looks later ++ looks earlier := List.filterMap_append

/-- What may be seen while a search has had these rounds. -/
def Sight.Fits (rounds : List Nat) : Sight → Prop
  | started _ _ => True
  | received _ sent => rounds ≠ [] → some .discover ∉ sent
  | looked now time sent => ∀ began before, rounds = began :: before →
      (now < began + patience before.length → sent = []) ∧
        (began + patience before.length ≤ now → now ≤ time ∧ sent = [some .discover])

/-- Each entry of a journal may be seen after those before it. -/
def Fitting : List Sight → Prop
  | [] => True
  | sight :: earlier => sight.Fits (rounds earlier) ∧ Fitting earlier

namespace Session

/-! ## What a handler hands over -/

section Sends

variable {σ : Type} {up : Uplink σ} {r : Session (Recorded σ)} {x : Session σ} {payload : Bytes}

/-- The session on an interface with an empty record. -/
def recorded (x : Session σ) : Session (Recorded σ) := ⟨x.client, x.timer, ⟨x.link, []⟩⟩

/-- The kinds of messages that a handler hands to the interface. -/
def sends (x : Session σ)
    (handler : Session (Recorded σ) → Except NetError Unit × Session (Recorded σ)) :
    List (Option DhcpType) :=
  (handler x.recorded).2.link.types

/-- To send a message adds its kind to what was handed over. -/
theorem types_send (m : DhcpMessage) :
    (r.send up.recording m).2.link.types = r.link.types ++ [some m.type] := by
  show (r.link.handed ++ [_]).map Handed.type? = _
  simp only [List.map_append, List.map_cons, List.map_nil]
  rw [Handed.type?, DhcpMessage.parse_octets]
  rfl

/-- A search begins with a look for servers. -/
theorem types_discover :
    (r.discover up.recording).2.link.types = r.link.types ++ [some .discover] :=
  types_send _

/-- A client asks for what it was offered, if it was. -/
theorem types_request :
    (r.request up.recording).2.link.types =
      r.link.types ++ (r.client.lease.map fun _ => some .request).toList := by
  unfold request
  cases r.client.lease with
  | none => exact (List.append_nil _).symm
  | some lease =>
    dsimp only
    rw [types_send]
    split <;> rfl

/-- What is irrelevant is answered by nothing. -/
theorem types_receive_of_irrelevant (irrelevant : Irrelevant r.client payload) :
    (r.receive up.recording payload).2.link.types = r.link.types := by
  obtain ⟨e, eq⟩ := receive_of_irrelevant up.recording irrelevant
  rw [eq]
  dsimp only
  split <;> rfl

/-- A grant is answered by nothing. -/
theorem types_bind (m : DhcpMessage) : (r.bind up.recording m).link.types = r.link.types := by
  unfold bind
  split <;> rfl

/-- A refusal is answered by looking for servers again. -/
theorem types_receiveNak :
    (r.receiveNak up.recording).2.link.types = r.link.types ++ [some .discover] := by
  unfold receiveNak
  dsimp only
  rw [types_discover]
  split <;> rfl

/-- An offer that is taken is answered by asking for it. -/
theorem types_receive_of_offer {m : DhcpMessage} {lease : Lease}
    (read : DhcpMessage.parse payload = .ok m) (answers : isAnswer r.client m = true)
    (state : r.client.state = .select) (type : m.type = .offer)
    (accepted : Lease.ofOffer m = .ok lease) :
    (r.receive up.recording payload).2.link.types = r.link.types ++ [some .request] := by
  rw [receive_of_offer read answers state type accepted, types_request]
  rfl

/-- A lease is renewed by asking for it, if there is one. -/
theorem types_renew (attempts : UInt32) :
    (r.renew up.recording attempts).2.link.types =
      r.link.types ++ (r.client.lease.map fun _ => some .request).toList :=
  types_request

/-- A lease that ran out is followed by a look for servers. -/
theorem types_loseLease :
    (r.loseLease up.recording).2.link.types = r.link.types ++ [some .discover] :=
  types_discover

/-- An empty record has no kinds in it. -/
@[simp] theorem types_recorded : x.recorded.link.types = [] := rfl

/-- Keeping a record leaves the client alone. -/
@[simp] theorem recorded_client : x.recorded.client = x.client := rfl

/-- The timer of a round is set before its first message is handed over. -/
theorem discover_timer (s : Session σ) :
    (s.discover up).2.timer =
      Timer.arm (up.now (up.tell (.dhcp (.discovering (nextXid s.client.xid (up.now s.link))))
        s.link)) s.client.backoff := rfl

end Sends

/-! ## What a handler comes to -/

variable {ω : Type} {x y : Session (Core ω)}

/-- What comes of a handler, to the search: messages of some kinds are handed over, and the client
is as it is then. Only the timer of a round begins the next one, which is not among these. -/
inductive Turn (x : Session (Core ω)) : List (Option DhcpType) → Session (Core ω) → Prop where
  /-- It comes to nothing. -/
  | nothing (c : Core ω) : Turn x [] { x with link := c }
  /-- No search goes on, and if one did, somebody was asked. -/
  | settled {sent : List (Option DhcpType)} {y : Session (Core ω)} (silent : some .discover ∉ sent)
      (asked : x.client.state = .select → sent ≠ []) (state : y.client.state ≠ .select)
      (backoff : x.client.state = .select ∨ x.client.backoff = Dhcp.initialBackoff →
        y.client.backoff = Dhcp.initialBackoff) : Turn x sent y
  /-- A search begins. -/
  | begins {y : Session (Core ω)} (ended : x.client.state ≠ .select)
      (state : y.client.state = .select)
      (backoff : x.client.backoff = Dhcp.initialBackoff →
        y.client.backoff = Dhcp.initialBackoff)
      (timer : y.timer = Timer.arm x.link.now y.client.backoff) : Turn x [some .discover] y

/-- A client that looks for servers from here on. -/
theorem turn_discover {s : Session (Core ω)} (ended : x.client.state ≠ .select)
    (backoff : x.client.backoff = Dhcp.initialBackoff → s.client.backoff = Dhcp.initialBackoff)
    (now : s.link.now = x.link.now) : Turn x [some .discover] (s.discover (Core.uplink ω)).2 := by
  apply Turn.begins ended
  · rw [discover_client]
  · rw [discover_client]
    exact backoff
  · rw [discover_timer, discover_client, ← now]
    rfl

/-- A refusal begins a search, for a client that was in none. -/
theorem turn_receiveNak (ended : x.client.state ≠ .select) :
    Turn x [some .discover] (x.receiveNak (Core.uplink ω)).2 := by
  unfold receiveNak
  dsimp only
  split
  · exact turn_discover ended id rfl
  · exact turn_discover ended id rfl

/-- What comes of a datagram. -/
theorem turn_receive (x : Session (Core ω)) (payload : Bytes) :
    Turn x (x.sends (·.receive (Core.uplink ω).recording payload))
      (x.receive (Core.uplink ω) payload).2 := by
  unfold sends
  dsimp only
  rcases relevant_or_irrelevant x.client payload with relevant | irrelevant
  · cases relevant with
    | offer read answers state type accepted =>
      rw [types_receive_of_offer (r := x.recorded) read answers state type accepted,
        receive_of_offer read answers state type accepted]
      apply Turn.settled
      · simp
      · simp
      · rw [request_client]
        exact nofun
      · intro _
        rw [request_client]
        rfl
    | @ack m read answers state type =>
      have other : x.client.state ≠ .select := by
        rcases state with state | state <;> rw [state] <;> exact nofun
      rw [receive_of_ack (x := x) read answers state type,
        receive_of_ack (x := x.recorded) read answers state type, types_bind, types_recorded]
      apply Turn.settled
      · exact List.not_mem_nil
      · intro searching
        exact absurd searching other
      · unfold bind
        split
        · exact other
        · exact nofun
      · rintro (searching | initial)
        · exact absurd searching other
        · unfold bind
          split <;> exact initial
    | nak read answers state type =>
      have other : x.client.state ≠ .select := by
        rcases state with state | state <;> rw [state] <;> exact nofun
      rw [receive_of_nak (x := x) read answers state type,
        receive_of_nak (x := x.recorded) read answers state type, types_receiveNak]
      exact turn_receiveNak other
  · obtain ⟨e, eq⟩ := receive_of_irrelevant (Core.uplink ω) irrelevant
    rw [types_receive_of_irrelevant (r := x.recorded) irrelevant, eq]
    exact .nothing _

/-- A renewal begins none. -/
theorem turn_renew (ended : x.client.state ≠ .select) (attempts : UInt32) :
    Turn x (x.sends (·.renew (Core.uplink ω).recording attempts))
      (x.renew (Core.uplink ω) attempts).2 := by
  unfold sends
  dsimp only
  rw [types_renew]
  unfold renew
  apply Turn.settled
  · cases x.recorded.client.lease <;> simp
  · intro searching
    exact absurd searching ended
  · rw [request_client]
    exact nofun
  · rintro (searching | initial)
    · exact absurd searching ended
    · rw [request_client]
      exact initial

/-- What comes of the timer, unless a round is over. -/
theorem turn_expire (ended : x.client.state ≠ .select) :
    Turn x (x.sends (·.expire (Core.uplink ω).recording)) (x.expire (Core.uplink ω)).2 := by
  have renews := turn_renew ended
  unfold sends at renews ⊢
  dsimp only at renews ⊢
  unfold expire
  rw [recorded_client]
  cases state : x.client.state with
  | select => exact absurd state ended
  | discover =>
    dsimp only
    rw [types_discover]
    exact turn_discover ended id rfl
  | request =>
    dsimp only
    rw [types_discover]
    exact turn_discover ended id rfl
  | bound => exact renews 1
  | renew =>
    dsimp only
    split
    · rw [types_loseLease]
      exact turn_discover ended (fun _ => rfl) rfl
    · exact renews _

/-- The next round begins when a round is over, and has twice the patience. -/
theorem expire_of_select (searching : x.client.state = .select) :
    x.sends (·.expire (Core.uplink ω).recording) = [some .discover] ∧
      (x.expire (Core.uplink ω)).2.client.state = .select ∧
      (x.expire (Core.uplink ω)).2.client.backoff = min (x.client.backoff * 2) Dhcp.maxBackoff ∧
      (x.expire (Core.uplink ω)).2.timer =
        Timer.arm x.link.now (min (x.client.backoff * 2) Dhcp.maxBackoff) := by
  unfold sends
  dsimp only
  unfold expire
  rw [recorded_client, searching]
  dsimp only
  refine ⟨?_, ?_, ?_, ?_⟩
  · rw [types_discover]
    rfl
  · rw [discover_client]
  · rw [discover_client]
    rfl
  · rw [discover_timer]
    rfl

/-! ## Stories -/

variable {World : (ω → ω) → Prop} {time : ω → Nat} {journal : List Sight} {began last : Nat}
  {soFar : List Nat} {sent : List (Option DhcpType)}

/-- Where a client is in its search, which has had these rounds. -/
structure Placed (time : ω → Nat) (soFar : List Nat) (x : Session (Core ω)) : Prop where
  /-- While it searches, its timer is set from the beginning of the last round. -/
  selecting : x.client.state = .select → ∃ began before, soFar = began :: before ∧
    began ≤ time x.link.hw ∧ x.client.backoff = UInt32.ofNat (patience before.length) ∧
    x.timer = Timer.arm (UInt32.ofNat began) (UInt32.ofNat (patience before.length))
  /-- While it does not, it is ready to begin with the least patience. -/
  resting : x.client.state ≠ .select → soFar = [] ∧ x.client.backoff = Dhcp.initialBackoff

/-- A moment lies before the end of the last round. -/
def Before (last : Nat) (soFar : List Nat) : Prop :=
  ∀ began before, soFar = began :: before → last < began + patience before.length

/-- What lies before the end of the last round lies before that of a later one. -/
theorem Before.roundsAfter (before : Before last soFar) (later : last ≤ began) :
    Before last (roundsAfter began sent soFar) := by
  unfold DhcpClient.roundsAfter
  split
  · rintro _ _ ⟨⟩
    have long := patience_pos soFar.length
    omega
  · split
    · exact before
    · exact nofun

/-- The work of others is nothing to the search. -/
theorem Placed.others (placed : x.Placed time soFar) {c : Core ω}
    (later : time x.link.hw ≤ time c.hw) : Placed time soFar { x with link := c } := by
  refine ⟨?_, placed.resting⟩
  intro searching
  obtain ⟨began, before, rounds, since, backoff, timer⟩ := placed.selecting searching
  exact ⟨began, before, rounds, Nat.le_trans since later, backoff, timer⟩

/-- A round has begun. -/
theorem placed_of_begun {before : List Nat} {now : Tick} (state : y.client.state = .select)
    (backoff : y.client.backoff = UInt32.ofNat (patience before.length))
    (timer : y.timer = Timer.arm now y.client.backoff) (shown : now = UInt32.ofNat began)
    (since : began ≤ time y.link.hw) : y.Placed time (began :: before) := by
  constructor
  · intro _
    exact ⟨began, before, rfl, since, backoff, by rw [timer, backoff, shown]⟩
  · intro ended
    exact absurd state ended

/-- **A handler puts the client where its messages say**, in its search. -/
theorem Placed.turn (placed : x.Placed time soFar) (turn : Turn x sent y)
    (shown : x.link.now = UInt32.ofNat (time x.link.hw))
    (later : time x.link.hw ≤ time y.link.hw) :
    y.Placed time (roundsAfter (time x.link.hw) sent soFar) := by
  cases turn with
  | nothing c => exact placed.others later
  | settled silent asked state backoff =>
    constructor
    · intro searching
      exact absurd searching state
    · intro _
      by_cases searching : x.client.state = .select
      · simp [roundsAfter, silent, asked searching, backoff (.inl searching)]
      · obtain ⟨none, initial⟩ := placed.resting searching
        simp [roundsAfter, silent, none, backoff (.inr initial)]
  | begins ended state backoff timer =>
    obtain ⟨none, initial⟩ := placed.resting ended
    have first : roundsAfter (time x.link.hw) [some .discover] soFar = [time x.link.hw] := by
      simp [roundsAfter, none]
    rw [first]
    apply placed_of_begun state _ timer shown later
    rw [backoff initial]
    exact patience_zero.symm

/-- No look comes half the tick space or more after the one before it. They are listed last
first. -/
def Frequent (looks : List Nat) : Prop :=
  looks.IsChain fun later earlier => later < earlier + 2147483648

/-- A client whose timer is handled once others have done their work. -/
def roused (x : Session (Core ω)) (c : Core ω) : Session (Core ω) :=
  { x with timer := Timer.idle, link := c }

/-- Others leave the client alone. -/
@[simp] theorem roused_client (x : Session (Core ω)) (c : Core ω) :
    (x.roused c).client = x.client := rfl

/-- To start a client takes no time. -/
theorem leads_start (x : Session (Core ω)) :
    Core.Leads Act.Timeless x.link (x.start (Core.uplink ω)).2.link :=
  moves_start movesFreely_timeless.toMoves x

/-- What happens to a client from its start on, with what is seen of it, last first. -/
inductive Story (World : (ω → ω) → Prop) (time : ω → Nat) :
    List Sight → Session (Core ω) → Prop where
  /-- It is started, on a core whose clock shows true time. -/
  | start {x : Session (Core ω)} (timed : x.link.Timed World time) :
      Story World time
        [.started (time x.link.hw) (x.sends (·.start (Core.uplink ω).recording))]
        (x.start (Core.uplink ω)).2
  /-- Others work, and time passes. -/
  | others {journal : List Sight} {x : Session (Core ω)} {c : Core ω}
      (story : Story World time journal x) (setup : x.link.SameSetup c)
      (later : time x.link.hw ≤ time c.hw) : Story World time journal { x with link := c }
  /-- A datagram is received. -/
  | receive {journal : List Sight} {x : Session (Core ω)} (story : Story World time journal x)
      (payload : Bytes) :
      Story World time
        (.received (time x.link.hw) (x.sends (·.receive (Core.uplink ω).recording payload)) ::
          journal)
        (x.receive (Core.uplink ω) payload).2
  /-- The timer is looked at, and it is not due. -/
  | wait {journal : List Sight} {x : Session (Core ω)} (story : Story World time journal x)
      (early : x.timer.isDue x.link.now = false) :
      Story World time (.looked (time x.link.hw) (time x.link.hw) [] :: journal) x
  /-- The timer is looked at, and it is due; it is handled once others have done their work. -/
  | expire {journal : List Sight} {x : Session (Core ω)} {c : Core ω}
      (story : Story World time journal x) (due : x.timer.isDue x.link.now = true)
      (setup : x.link.SameSetup c) (later : time x.link.hw ≤ time c.hw) :
      Story World time
        (.looked (time x.link.hw) (time c.hw)
          ((x.roused c).sends (·.expire (Core.uplink ω).recording)) :: journal)
        ((x.roused c).expire (Core.uplink ω)).2

/-- The clock shows true time at every moment of a story. -/
theorem Story.timed (story : Story World time journal x) : x.link.Timed World time := by
  induction story with
  | @start x timed => exact x.leads_start.sameSetup.timed timed
  | others story setup later ih => exact setup.timed ih
  | @receive journal x story payload ih => exact (x.leads_receive payload).sameSetup.timed ih
  | wait story early ih => exact ih
  | expire story due setup later ih =>
    exact (leads_expire _).sameSetup.timed (setup.timed ih)

/-- The work of others leaves a story as it is. -/
theorem Story.of_leads (story : Story World time journal x) {c : Core ω} {Kind : Act ω → Prop}
    (leads : Core.Leads Kind x.link c) (world : ∀ f, Kind (.elapse f) → World f) :
    Story World time journal { x with link := c } :=
  story.others leads.sameSetup (leads.time_le_of world story.timed)

/-- What holds at every moment of a story in which the timer is looked at often. -/
structure Kept (World : (ω → ω) → Prop) (time : ω → Nat) (journal : List Sight)
    (x : Session (Core ω)) : Prop where
  timed : x.link.Timed World time
  placed : x.Placed time (rounds journal)
  fitting : Fitting journal
  /-- The last look is past, and found no round over that is not. -/
  looked : ∃ last earlier, looks journal = last :: earlier ∧ last ≤ time x.link.hw ∧
    Before last (rounds journal)

/-- A client that is started looks for servers with the least patience. -/
theorem start_eq (x : Session (Core ω)) :
    x.sends (·.start (Core.uplink ω).recording) = [some .discover] ∧
      (x.start (Core.uplink ω)).2.client.state = .select ∧
      (x.start (Core.uplink ω)).2.client.backoff = Dhcp.initialBackoff ∧
      (x.start (Core.uplink ω)).2.timer = Timer.arm x.link.now Dhcp.initialBackoff := by
  unfold sends
  dsimp only
  unfold start
  rw [types_discover, discover_client, discover_timer]
  exact ⟨rfl, rfl, rfl, rfl⟩

/-- What is kept in a story is so at its start. -/
theorem kept_start (timed : x.link.Timed World time) :
    (x.start (Core.uplink ω)).2.Kept World time
      [.started (time x.link.hw) (x.sends (·.start (Core.uplink ω).recording))] := by
  have leads := x.leads_start
  have later := leads.time_le_of (fun _ timeless => timeless.elim) timed
  have begun : rounds [.started (time x.link.hw) [some .discover]] = [time x.link.hw] := by
    simp [rounds, roundsAfter, Sight.time, Sight.sent]
  obtain ⟨sent, state, backoff, timer⟩ := x.start_eq
  rw [sent]
  generalize (x.start (Core.uplink ω)).2 = y at leads later state backoff timer ⊢
  refine ⟨leads.sameSetup.timed timed, ?_, ⟨trivial, trivial⟩, _, _, rfl, later, ?_⟩
  · rw [begun]
    rw [← backoff] at timer
    exact placed_of_begun state (backoff.trans patience_zero.symm) timer (timed.shown _) later
  · have long := patience_pos 0
    rw [begun]
    rintro began before ⟨⟩
    exact Nat.lt_add_of_pos_right long

/-- What is kept is kept through the work of others. -/
theorem Kept.others (kept : x.Kept World time journal) {c : Core ω}
    (setup : x.link.SameSetup c) (later : time x.link.hw ≤ time c.hw) :
    Kept World time journal { x with link := c } := by
  obtain ⟨last, earlier, looks, past, before⟩ := kept.looked
  exact ⟨setup.timed kept.timed, kept.placed.others later, kept.fitting, last, earlier, looks,
    Nat.le_trans past later, before⟩

/-- No datagram begins a round while a search goes on. -/
theorem Turn.silent (turn : Turn x sent y) (searching : x.client.state = .select) :
    some .discover ∉ sent := by
  cases turn with
  | nothing c => exact List.not_mem_nil
  | settled silent => exact silent
  | begins ended => exact absurd searching ended

/-- What is kept is kept through a datagram. -/
theorem Kept.receive (kept : x.Kept World time journal) (payload : Bytes) :
    (x.receive (Core.uplink ω) payload).2.Kept World time
      (.received (time x.link.hw) (x.sends (·.receive (Core.uplink ω).recording payload)) ::
        journal) := by
  have turn := x.turn_receive payload
  have leads := x.leads_receive payload
  have later := leads.time_le_of (fun _ timeless => timeless.elim) kept.timed
  generalize (x.receive (Core.uplink ω) payload).2 = y at turn leads later ⊢
  generalize x.sends _ = sent at turn ⊢
  obtain ⟨last, earlier, looks, past, before⟩ := kept.looked
  refine ⟨leads.sameSetup.timed kept.timed, kept.placed.turn turn (kept.timed.shown _) later,
    ⟨?_, kept.fitting⟩, last, earlier, looks, Nat.le_trans past later, before.roundsAfter past⟩
  intro some
  apply turn.silent
  by_contra ended
  exact some (kept.placed.resting ended).1

section Look

variable (kept : x.Kept World time journal)

include kept

/-- While a search goes on and looks are frequent, the timer is seen as due exactly if the round is
over. -/
theorem Kept.isDue_iff (frequent : Frequent (time x.link.hw :: looks journal)) {began : Nat}
    {before : List Nat} (soFar : rounds journal = began :: before) :
    x.timer.isDue x.link.now = true ↔ began + patience before.length ≤ time x.link.hw := by
  obtain ⟨last, earlier, looks, past, ends⟩ := kept.looked
  have ends := ends began before soFar
  have near : time x.link.hw < last + 2147483648 := by
    rw [looks] at frequent
    exact (List.isChain_cons_cons.mp frequent).1
  have searching : x.client.state = .select := by
    by_contra ended
    rw [(kept.placed.resting ended).1] at soFar
    cases soFar
  obtain ⟨began', before', soFar', since, -, timer⟩ := kept.placed.selecting searching
  rw [soFar] at soFar'
  cases soFar'
  have shown : x.link.now = UInt32.ofNat (time x.link.hw) := kept.timed.shown _
  have iff := Tick.reached_deadline_iff (UInt32.ofNat (patience before.length)) since
    (by rw [clamped_patience]; omega)
  rw [clamped_patience] at iff
  rw [timer, shown]
  exact iff

/-- What is kept is kept through a look at a timer that is not due. -/
theorem Kept.wait (frequent : Frequent (time x.link.hw :: looks journal))
    (early : x.timer.isDue x.link.now = false) :
    x.Kept World time (.looked (time x.link.hw) (time x.link.hw) [] :: journal) := by
  have soon : Before (time x.link.hw) (rounds journal) := by
    intro began before soFar
    rw [← Nat.not_le, ← kept.isDue_iff frequent soFar, early]
    exact Bool.false_ne_true
  refine ⟨kept.timed, kept.placed, ⟨?_, kept.fitting⟩, _, _, rfl, Nat.le_refl _, soon⟩
  intro began before soFar
  constructor
  · intro _
    rfl
  · intro ended
    exact absurd (soon began before soFar) (Nat.not_lt.mpr ended)

/-- A round is over, and the next one begins. -/
theorem Kept.nextRound (frequent : Frequent (time x.link.hw :: looks journal))
    (due : x.timer.isDue x.link.now = true) {c : Core ω} (timed : c.Timed World time)
    (later : time x.link.hw ≤ time c.hw) (searching : x.client.state = .select) :
    ((x.roused c).expire (Core.uplink ω)).2.Kept World time
      (.looked (time x.link.hw) (time c.hw)
        ((x.roused c).sends (·.expire (Core.uplink ω).recording)) :: journal) := by
  have leads := (x.roused c).leads_expire
  have goesOn := leads.time_le_of (fun _ timeless => timeless.elim) timed
  have shown : c.now = UInt32.ofNat (time c.hw) := timed.shown _
  obtain ⟨sent, state, backoff, timer⟩ := expire_of_select (x := x.roused c) searching
  obtain ⟨began, before, soFar, since, waits, -⟩ := kept.placed.selecting searching
  rw [roused_client, waits, patience_succ] at backoff timer
  rw [sent]
  generalize ((x.roused c).expire (Core.uplink ω)).2 = y at leads goesOn state backoff timer ⊢
  have next : rounds (.looked (time x.link.hw) (time c.hw) [some .discover] :: journal) =
      time c.hw :: began :: before := by
    simp [rounds, roundsAfter, Sight.time, Sight.sent, ← soFar]
  refine ⟨leads.sameSetup.timed timed, ?_, ⟨?_, kept.fitting⟩, _, _, rfl,
    Nat.le_trans later goesOn, ?_⟩
  · rw [next]
    rw [← backoff] at timer
    exact placed_of_begun state backoff timer shown goesOn
  · intro began' before' soFar'
    have ended := (kept.isDue_iff frequent soFar').mp due
    exact ⟨fun early => absurd ended (Nat.not_le.mpr early), fun _ => ⟨later, rfl⟩⟩
  · rw [next]
    rintro _ _ ⟨⟩
    have long := patience_pos (began :: before).length
    omega

/-- The timer was that of something else, which may begin a search. -/
theorem Kept.noRound {c : Core ω} (timed : c.Timed World time)
    (later : time x.link.hw ≤ time c.hw) (ended : x.client.state ≠ .select) :
    ((x.roused c).expire (Core.uplink ω)).2.Kept World time
      (.looked (time x.link.hw) (time c.hw)
        ((x.roused c).sends (·.expire (Core.uplink ω).recording)) :: journal) := by
  have leads := (x.roused c).leads_expire
  have goesOn := leads.time_le_of (fun _ timeless => timeless.elim) timed
  have turn := turn_expire (x := x.roused c) ended
  have soFar : rounds journal = [] := (kept.placed.resting ended).1
  have placed : (x.roused c).Placed time (rounds journal) :=
    ⟨fun searching => absurd searching ended, kept.placed.resting⟩
  generalize ((x.roused c).expire (Core.uplink ω)).2 = y at turn leads goesOn ⊢
  generalize (x.roused c).sends _ = sent at turn ⊢
  refine ⟨leads.sameSetup.timed timed, placed.turn turn (timed.shown _) goesOn,
    ⟨?_, kept.fitting⟩, _, _, rfl, Nat.le_trans later goesOn, ?_⟩
  · intro began before some
    rw [soFar] at some
    cases some
  · have none : Before (time x.link.hw) (rounds journal) := by
      rw [soFar]
      exact nofun
    exact none.roundsAfter later

/-- What is kept is kept through a look at a timer that is due, once others have done their work. -/
theorem Kept.expire (frequent : Frequent (time x.link.hw :: looks journal))
    (due : x.timer.isDue x.link.now = true) {c : Core ω} (setup : x.link.SameSetup c)
    (later : time x.link.hw ≤ time c.hw) :
    ((x.roused c).expire (Core.uplink ω)).2.Kept World time
      (.looked (time x.link.hw) (time c.hw)
        ((x.roused c).sends (·.expire (Core.uplink ω).recording)) :: journal) := by
  have timed : c.Timed World time := setup.timed kept.timed
  by_cases searching : x.client.state = .select
  · exact kept.nextRound frequent due timed later searching
  · exact kept.noRound timed later searching

end Look

/-- **What is kept holds at every moment of a story**, if looks are frequent. -/
theorem Story.kept (story : Story World time journal x) (frequent : Frequent (looks journal)) :
    x.Kept World time journal := by
  induction story with
  | start timed => exact kept_start timed
  | others story setup later ih => exact (ih frequent).others setup later
  | receive story payload ih => exact (ih frequent).receive payload
  | wait story early ih => exact (ih (List.IsChain.tail frequent)).wait frequent early
  | expire story due setup later ih =>
    exact (ih (List.IsChain.tail frequent)).expire frequent due setup later

/-! ## The timetable -/

/-- A search begins, with the least patience. -/
structure Begins (x : Session (Core ω)) (sent : List (Option DhcpType)) (y : Session (Core ω)) :
    Prop where
  sent : sent = [some .discover]
  state : y.client.state = .select
  timer : y.timer = Timer.arm x.link.now Dhcp.initialBackoff

/-- How a client searches. -/
structure OnSchedule (journal : List Sight) (x : Session (Core ω)) : Prop where
  /-- While it searches, the timer is set from the beginning of the last round, and longer the more
  rounds went before it. -/
  searching : x.client.state = .select → ∃ began before, rounds journal = began :: before ∧
    x.timer = Timer.arm (UInt32.ofNat began) (UInt32.ofNat (patience before.length))
  /-- While it does not, there are no rounds to count. -/
  resting : x.client.state ≠ .select → rounds journal = []
  /-- The look that finds a round over begins the next one. No other look does, and no datagram. -/
  fitting : Fitting journal
  /-- A refusal begins another search. -/
  refused : x.client.state = .request ∨ x.client.state = .renew → ∀ payload m,
    DhcpMessage.parse payload = .ok m → isAnswer x.client m = true → m.type = .nak →
      x.Begins (x.sends (·.receive (Core.uplink ω).recording payload))
        (x.receive (Core.uplink ω) payload).2
  /-- So does a request that goes unanswered. -/
  unanswered : x.client.state = .request →
    x.Begins (x.sends (·.expire (Core.uplink ω).recording)) (x.expire (Core.uplink ω)).2
  /-- So does the end of a lease. -/
  lost : x.client.state = .renew → x.client.renewAttempts ≥ Dhcp.renewRetries →
    x.Begins (x.sends (·.expire (Core.uplink ω).recording)) (x.expire (Core.uplink ω)).2

/-- A search begins where servers are looked for with the least patience. -/
theorem begins_discover {s : Session (Core ω)} (initial : s.client.backoff = Dhcp.initialBackoff)
    (now : s.link.now = x.link.now) : x.Begins [some .discover] (s.discover (Core.uplink ω)).2 := by
  refine ⟨rfl, ?_, ?_⟩
  · rw [discover_client]
  · rw [discover_timer, initial, ← now]
    rfl

section Ready

variable (initial : x.client.backoff = Dhcp.initialBackoff)

include initial

/-- A refusal begins another search, with or without an address to give back. -/
theorem begins_receive {payload : Bytes} {m : DhcpMessage}
    (state : x.client.state = .request ∨ x.client.state = .renew)
    (read : DhcpMessage.parse payload = .ok m) (answers : isAnswer x.client m = true)
    (type : m.type = .nak) :
    x.Begins (x.sends (·.receive (Core.uplink ω).recording payload))
      (x.receive (Core.uplink ω) payload).2 := by
  unfold sends
  dsimp only
  rw [receive_of_nak (x := x) read answers state type,
    receive_of_nak (x := x.recorded) read answers state type, types_receiveNak]
  unfold receiveNak
  dsimp only
  split
  · exact begins_discover initial rfl
  · exact begins_discover initial rfl

/-- A client that gets no answer to its request searches anew. -/
theorem begins_expire_of_request (state : x.client.state = .request) :
    x.Begins (x.sends (·.expire (Core.uplink ω).recording)) (x.expire (Core.uplink ω)).2 := by
  unfold sends
  dsimp only
  unfold expire
  rw [recorded_client, state]
  dsimp only
  rw [types_discover]
  exact begins_discover initial rfl

end Ready

/-- A client that has asked in vain for more time begins a search. -/
theorem begins_expire_of_renew (state : x.client.state = .renew)
    (last : x.client.renewAttempts ≥ Dhcp.renewRetries) :
    x.Begins (x.sends (·.expire (Core.uplink ω).recording)) (x.expire (Core.uplink ω)).2 := by
  unfold sends
  dsimp only
  unfold expire
  rw [recorded_client, state]
  dsimp only
  rw [if_pos last, if_pos last, types_loseLease]
  exact begins_discover rfl rfl

/-- **A story keeps to the timetable**, if nobody waits half the tick space before looking. -/
theorem Story.onSchedule (story : Story World time journal x)
    (frequent : Frequent (looks journal)) : x.OnSchedule journal := by
  have kept := story.kept frequent
  have initial (ended : x.client.state ≠ .select) : x.client.backoff = Dhcp.initialBackoff :=
    (kept.placed.resting ended).2
  constructor
  case searching =>
    intro searching
    obtain ⟨began, before, soFar, -, -, timer⟩ := kept.placed.selecting searching
    exact ⟨began, before, soFar, timer⟩
  case resting =>
    intro ended
    exact (kept.placed.resting ended).1
  case fitting => exact kept.fitting
  case refused =>
    intro state payload m read answers type
    apply begins_receive _ state read answers type
    apply initial
    rcases state with state | state <;> rw [state] <;> exact nofun
  case unanswered =>
    intro state
    apply begins_expire_of_request _ state
    apply initial
    rw [state]
    exact nofun
  case lost =>
    intro state last
    exact begins_expire_of_renew state last

end Session

end DhcpClient

end PolledNet
