import PolledNet.Proofs.Dhcp.Search
import PolledNet.Proofs.Stack.Freshness
import PolledNet.Proofs.Stack.Turnover

/-!
# A stack that searches for a server

What happens to the client of a stack is a story. It begins when the client is started, whoever had
the interface before (`Stack.startDhcp_story`), and each pass looks at its timer once, after the
packets of the pass are handled. All else that is done with the stack is the work of others, as long
as it leaves the client where it is. So whatever is done can be recounted (`Stack.Polls.recounts`),
and a stack that is polled often enough searches by the timetable (`Stack.search_onSchedule`).

The start counts as a look. If the first pass comes half the tick space or more after the end of the
first round, the timer reads as not due, and the next round does not begin.
-/

namespace PolledNet

open PolledNet.Core (Leads FullRepertoire)
open DhcpClient (Session Sight)
open DhcpClient.Session (Story Frequent)

variable {ω η φ : Type} {World : (ω → ω) → Prop} {time : ω → Nat}

namespace Stack

/-! ## The start -/

/-- Taking out sinks by their names leaves those of other names. -/
theorem withoutSinks_eq_filter {s : Stack ω η φ} (distinct : (s.sinks.sinks.map (·.id)).Nodup)
    (ids : List SinkId) :
    (ids.foldl withoutSink s).sinks.sinks = s.sinks.sinks.filter (·.id ∉ ids) := by
  induction ids generalizing s with
  | nil => simp
  | cons id rest ih =>
    have left : (s.withoutSink id).sinks.sinks = s.sinks.sinks.filter (·.id ≠ id) := by
      rw [(s.withoutSink_sinks id).1]
      exact eraseP_id_eq_filter id distinct
    have still : ((s.withoutSink id).sinks.sinks.map (·.id)).Nodup := by
      rw [left]
      exact distinct.sublist (List.filter_sublist.map _)
    rw [List.foldl_cons, ih still, left, List.filter_filter]
    congr 1
    funext sink
    simp [Bool.and_comm]

/-- A sink with a client has the DHCP service. -/
theorem isDhcp_of_client? {sink : Sink (SinkKind η)} {client : DhcpClient × Timer}
    (own : sink.client? = some client) : isDhcp sink = true := by
  unfold Sink.client? at own
  unfold isDhcp
  split at own
  · rename_i kind
    rw [kind]
    rfl
  · cases own

/-- Once all clients are taken out, none is left. -/
theorem clients_withoutSinks {s : Stack ω η φ} (distinct : (s.sinks.sinks.map (·.id)).Nodup) :
    clients (((s.sinks.sinks.filter isDhcp).map (·.id)).foldl withoutSink s).sinks.sinks = [] := by
  rw [withoutSinks_eq_filter distinct, clients_eq_nil_iff]
  intro sink mem
  obtain ⟨mem, left⟩ := List.mem_filter.mp mem
  by_contra own
  obtain ⟨client, own⟩ := Option.ne_none_iff_exists'.mp own
  have out := List.mem_map_of_mem (f := (·.id)) (List.mem_filter.mpr ⟨mem, isDhcp_of_client? own⟩)
  exact of_decide_eq_true left out

/-- It takes no time to take sinks out. -/
theorem withoutSinks_hw (s : Stack ω η φ) (ids : List SinkId) :
    (ids.foldl withoutSink s).core.hw = s.core.hw := by
  induction ids generalizing s with
  | nil => rfl
  | cons id rest ih =>
    rw [List.foldl_cons, ih, withoutSink, removeSink?]
    cases s.sinks.remove? id <;> rfl

/-- **The story of a client begins when it is started.** -/
theorem startDhcp_story {s : Stack ω η φ} (timed : s.core.Timed World time)
    (distinct : (s.sinks.sinks.map (·.id)).Nodup) :
    ∃ y, s.startDhcp.2.Serves y ∧
      Story World time [.started (time s.core.hw) [some .discover]] y := by
  have able : FullRepertoire (Act.Within World) := fullRepertoire_within
  have cleared := leads_removeSinks able.toRepertoire (s := s)
    ((s.sinks.sinks.filter isDhcp).map (·.id))
  have none := clients_withoutSinks distinct
  have still := s.withoutSinks_hw ((s.sinks.sinks.filter isDhcp).map (·.id))
  unfold startDhcp
  dsimp only
  unfold withoutSink at none still
  generalize List.foldl _ s _ = s₁ at cleared none still ⊢
  rw [← still]
  have story := Story.start (x := ⟨DhcpClient.ofMac s₁.core.mac, Timer.idle, s₁.core⟩)
    (cleared.sameSetup.timed timed)
  rw [(Session.start_eq _).1] at story
  generalize Session.start (Core.uplink ω)
    (Session.mk (DhcpClient.ofMac s₁.core.mac) Timer.idle s₁.core) = started at story ⊢
  obtain ⟨answer, session⟩ := started
  cases answer with
  | ok =>
    have story := story.others (c := session.link.tell (.stack (.registered
      ⟨s₁.sinks.nextNumber⟩ .dhcp))) ⟨rfl, rfl, rfl, rfl⟩ (Nat.le_refl _)
    exact ⟨_, ⟨clients_place_of_some rfl none, rfl⟩, story⟩
  | error e =>
    -- the operator is told that the first message is lost
    have story := story.others (c := (session.link.tell (.dhcp (.notSent e))).tell
      (.stack (.registered ⟨s₁.sinks.nextNumber⟩ .dhcp))) ⟨rfl, rfl, rfl, rfl⟩ (Nat.le_refl _)
    exact ⟨_, ⟨clients_place_of_some rfl none, rfl⟩, story⟩

/-! ## Passes -/

variable [FileHandle η φ]

/-- What is done with a stack, with the times at which its passes look at the timers, last first.
The world moves on as it may, and nobody but a pass touches the client. -/
inductive Polls (World : (ω → ω) → Prop) (time : ω → Nat) (s₀ : Stack ω η φ) :
    List Nat → Stack ω η φ → Prop where
  /-- Nothing yet. -/
  | start : Polls World time s₀ [] s₀
  /-- Anything but a pass. -/
  | other {looks : List Nat} {s s' : Stack ω η φ} {command : Command ω η φ}
      (polls : Polls World time s₀ looks s) (within : command.Within World)
      (noPass : command ≠ .pump) (done : s.perform command = .ok s')
      (same : clients s'.sinks.sinks = clients s.sinks.sinks) : Polls World time s₀ looks s'
  /-- A pass, as `pump` makes it. It looks at the timers once its packets are handled. -/
  | pass {looks : List Nat} {s s₁ : Stack ω η φ} (polls : Polls World time s₀ looks s)
      (drained : s.collected.drainQueues = .ok s₁) :
      Polls World time s₀ (time s₁.core.hw :: looks) s₁.expireTimers

/-- What is seen of the client of a stack meanwhile, last first. It grows as things are done, and is
at each moment a story of the client that the stack then has: a pass appends what the client
received, and then the look at its timer. -/
inductive Recounts (World : (ω → ω) → Prop) (time : ω → Nat) (s₀ : Stack ω η φ) :
    List Sight → Stack ω η φ → Prop where
  /-- The client has been started. -/
  | start {now : Nat} {x : Session (Core ω)} (serves : s₀.Serves x)
      (story : Story World time [.started now [some .discover]] x) :
      Recounts World time s₀ [.started now [some .discover]] s₀
  /-- Anything but a pass. -/
  | other {journal : List Sight} {s s' : Stack ω η φ} {command : Command ω η φ}
      (recounts : Recounts World time s₀ journal s) (within : command.Within World)
      (noPass : command ≠ .pump) (done : s.perform command = .ok s')
      (same : clients s'.sinks.sinks = clients s.sinks.sinks) : Recounts World time s₀ journal s'
  /-- A pass. -/
  | pass {journal heard : List Sight} {s s₁ : Stack ω η φ} {x y : Session (Core ω)} {handled : Nat}
      {sent : List (Option DhcpType)} (recounts : Recounts World time s₀ journal s)
      (drained : s.collected.drainQueues = .ok s₁) (noLook : DhcpClient.looks heard = [])
      (serves : s₁.Serves x) (story : Story World time (heard ++ journal) x)
      (serves' : s₁.expireTimers.Serves y)
      (story' : Story World time
        (.looked (time s₁.core.hw) handled sent :: (heard ++ journal)) y) :
      Recounts World time s₀ (.looked (time s₁.core.hw) handled sent :: (heard ++ journal))
        s₁.expireTimers

variable {s s' s₀ s₁ : Stack ω η φ} {x y : Session (Core ω)} {journal : List Sight}
  {looks : List Nat}

/-- The story of a client goes on, and its timer is not looked at. -/
def Hears (World : (ω → ω) → Prop) (time : ω → Nat) (journal : List Sight) (x : Session (Core ω)) :
    Prop :=
  ∃ heard, DhcpClient.looks heard = [] ∧ Story World time (heard ++ journal) x

/-- A session that hears nothing of its timer goes on with its story. -/
theorem steady_hears : Steady (Hears World time journal) := by
  rintro x c leads ⟨heard, noLook, story⟩
  exact ⟨heard, noLook, story.of_leads leads fun _ ordinary => ordinary.1.elim⟩

/-- A packet that is received belongs to the story. -/
theorem Hears.receive (hears : Hears World time journal x) (payload : Bytes) :
    Hears World time journal (x.receive (Core.uplink ω) payload).2 := by
  obtain ⟨heard, noLook, story⟩ := hears
  exact ⟨.received _ _ :: heard, noLook, story.receive payload⟩

/-- In the middle of a pass over the timers, which began on another core. -/
def Awaits (World : (ω → ω) → Prop) (time : ω → Nat) (journal : List Sight) (began : Core ω)
    (x : Session (Core ω)) : Prop :=
  Story World time journal { x with link := began } ∧ began.SameSetup x.link ∧
    time began.hw ≤ time x.link.hw

/-- A session's own deeds keep what is awaited. -/
theorem steady_awaits (began : Core ω) : Steady (Awaits World time journal began) := by
  rintro x c leads ⟨story, setup, later⟩
  have goesOn := leads.time_le_of (fun _ ordinary => ordinary.1.elim) (setup.timed story.timed)
  exact ⟨story, setup.trans leads.sameSetup, Nat.le_trans later goesOn⟩

/-- The timer has been looked at. -/
def Looked (World : (ω → ω) → Prop) (time : ω → Nat) (journal : List Sight) (now : Nat)
    (x : Session (Core ω)) : Prop :=
  ∃ handled sent, Story World time (.looked now handled sent :: journal) x

/-- A session's own deeds keep what was seen when the timer was looked at. -/
theorem steady_looked {now : Nat} : Steady (Looked (ω := ω) World time journal now) := by
  rintro x c leads ⟨handled, sent, story⟩
  exact ⟨handled, sent, story.of_leads leads fun _ ordinary => ordinary.1.elim⟩

/-- **A pass over the timers looks at that of the client once.** -/
theorem expireTimers_looked (serves : s₁.Serves x) (story : Story World time journal x) :
    ∃ y, s₁.expireTimers.Serves y ∧ Looked World time journal (time s₁.core.hw) y := by
  have begun : Awaits World time journal s₁.core x := by
    rw [serves.core]
    exact ⟨story, .refl _, Nat.le_refl _⟩
  apply expired_client (steady_awaits s₁.core) steady_looked _ _ serves begun
  · rintro y ⟨story, setup, later⟩ early
    exact ⟨_, _, (story.wait early).others setup later⟩
  · rintro y ⟨story, setup, later⟩ due
    exact ⟨_, _, story.expire due setup later⟩

/-- Before its timer is looked at, the client receives what came for it. -/
theorem drained_hears (serves : s.Serves x) (story : Story World time journal x)
    (drained : s.collected.drainQueues = .ok s₁) :
    ∃ y, s₁.Serves y ∧ Hears World time journal y := by
  have leads : Leads (Act.Within World) s.core s.collected.core :=
    leads_collected_of fullRepertoire_within.toPolling s
  rw [serves.core] at leads
  have collected : s.collected.Serves { x with link := s.collected.core } :=
    ⟨s.leads_collected.2.trans serves.client, rfl⟩
  have hears : Hears World time journal { x with link := s.collected.core } :=
    ⟨[], rfl, story.of_leads leads fun f (within : Act.Within World _) => within.world f rfl⟩
  exact drained_client steady_hears (fun _ _ payload _ _ hears => hears.receive payload) collected
    hears drained

/-- What is recounted is a story of the client. -/
theorem Recounts.story (recounts : Recounts World time s₀ journal s) :
    ∃ x, s.Serves x ∧ Story World time journal x := by
  induction recounts with
  | start serves story => exact ⟨_, serves, story⟩
  | @other _ s s' _ recounts within noPass done same ih =>
    obtain ⟨x, serves, story⟩ := ih
    have leads := leads_perform within done
    rw [serves.core] at leads
    exact ⟨{ x with link := s'.core }, ⟨same.trans serves.client, rfl⟩,
      story.of_leads leads fun f (within : Act.Within World _) => within.world f rfl⟩
  | pass recounts drained noLook serves story serves' story' => exact ⟨_, serves', story'⟩

/-- **Whatever is done with a stack can be recounted.** -/
theorem Polls.recounts {first : List Nat} (polls : Polls World time s₀ looks s)
    (begun : ∃ journal, Recounts World time s₀ journal s₀ ∧ DhcpClient.looks journal = first) :
    ∃ journal, Recounts World time s₀ journal s ∧ DhcpClient.looks journal = looks ++ first := by
  induction polls with
  | start => exact begun
  | other polls within noPass done same ih =>
    obtain ⟨journal, recounts, eq⟩ := ih
    exact ⟨journal, recounts.other within noPass done same, eq⟩
  | pass polls drained ih =>
    obtain ⟨journal, recounts, eq⟩ := ih
    obtain ⟨x, serves, story⟩ := recounts.story
    obtain ⟨y, served, heard, noLook, heardOn⟩ := drained_hears serves story drained
    obtain ⟨z, servesOn, handled, sent, lookedAt⟩ := expireTimers_looked served heardOn
    refine ⟨_, recounts.pass drained noLook served heardOn servesOn lookedAt, ?_⟩
    simp [noLook, eq]

/-- Whoever recounts what is done with a stack finds that the client keeps to the timetable. -/
theorem Recounts.onSchedule {journal : List Sight} (recounts : Recounts World time s₀ journal s)
    (frequent : Frequent (DhcpClient.looks journal)) (serves : s.Serves y) :
    y.OnSchedule journal := by
  obtain ⟨x, serves', story⟩ := recounts.story
  obtain rfl := serves.unique serves'
  exact story.onSchedule frequent

/-- From the start of the client on, what is done with a stack can be recounted. -/
theorem Polls.exists_recounts (polls : Polls World time s.startDhcp.2 looks s')
    (timed : s.core.Timed World time) (distinct : (s.sinks.sinks.map (·.id)).Nodup) :
    ∃ journal, Recounts World time s.startDhcp.2 journal s' ∧
      DhcpClient.looks journal = looks ++ [time s.core.hw] := by
  obtain ⟨x, serves, story⟩ := startDhcp_story timed distinct
  exact polls.recounts ⟨_, .start serves story, rfl⟩

/-- **A stack searches for a server by the timetable.** What is done with it from the start of the
client on can be recounted, and whoever recounts it finds that the client keeps to the timetable, as
long as the passes look at the timers less than half the tick space apart, the first of them counted
from the start.

That no two sinks share a name holds in every run that does not use up the names
(`performAll_onSchedule`). -/
theorem search_onSchedule {s s' : Stack ω η φ} {looks : List Nat}
    (timed : s.core.Timed World time) (distinct : (s.sinks.sinks.map (·.id)).Nodup)
    (polls : Polls World time s.startDhcp.2 looks s')
    (frequent : Frequent (looks ++ [time s.core.hw])) :
    (∃ journal, Recounts World time s.startDhcp.2 journal s' ∧
      DhcpClient.looks journal = looks ++ [time s.core.hw]) ∧
    ∀ journal y, Recounts World time s.startDhcp.2 journal s' →
      DhcpClient.looks journal = looks ++ [time s.core.hw] → s'.Serves y →
      y.OnSchedule journal := by
  refine ⟨polls.exists_recounts timed distinct, fun journal y recounts eq serves => ?_⟩
  rw [← eq] at frequent
  exact recounts.onSchedule frequent serves

/-- **The client of a stack that was brought up keeps to the timetable**, whatever was done with the
stack before the client was started, as long as there were names for its sinks. -/
theorem performAll_onSchedule {device : Device ω} {clock : ω → Tick} {config : StackConfig}
    {hw hw' : ω} {volume : φ} {s₀ s s' : Stack ω η φ} {commands : List (Command ω η φ)}
    {looks : List Nat} (truth : TrueTime device clock World time)
    (up : bringUp device clock config hw volume = (.ok s₀, hw'))
    (within : ∀ command ∈ commands, command.Within World)
    (few : 4 + commands.countP (·.registers) < UInt32.size)
    (ran : s₀.performAll commands = .ok s) (polls : Polls World time s.startDhcp.2 looks s')
    (frequent : Frequent (looks ++ [time s.core.hw])) :
    ∃ journal y, Recounts World time s.startDhcp.2 journal s' ∧
      DhcpClient.looks journal = looks ++ [time s.core.hw] ∧ s'.Serves y ∧
      y.OnSchedule journal := by
  obtain ⟨log, start⟩ := core_bringUp up
  have timed₀ : s₀.core.Timed World time := by
    rw [start]
    exact truth
  have timed : s.core.Timed World time := (leads_performAll within ran).sameSetup.timed timed₀
  obtain ⟨journal, recounts, eq⟩ := polls.exists_recounts timed (distinct_performAll up few ran)
  obtain ⟨y, serves, -⟩ := recounts.story
  rw [← eq] at frequent
  exact ⟨journal, y, recounts, eq, serves, recounts.onSchedule frequent serves⟩

/-! ## Early and late passes -/

/-- A stack without addresses that comes up at time zero. -/
def vacant : Stack Nat RamFile RamVolume :=
  (bringUp idle UInt32.ofNat {} 0 {}).1.toOption.get rfl

/-- The vacant stack has a clock that tells true time. -/
theorem timed_vacant : vacant.core.Timed Passing id := trueTime_idle

/-- No two services of the vacant stack have one name. -/
theorem distinct_vacant : (vacant.sinks.sinks.map (·.id)).Nodup := by decide

/-- The client of that stack looks for servers at time zero. -/
theorem clients_vacant :
    (clients vacant.startDhcp.2.sinks.sinks).map (·.2) = [Timer.arm 0 200] := by decide +kernel

/-- A stack in the middle of a pass some time later, with its packets handled. -/
def drainedAfter (s : Stack Nat RamFile RamVolume) (n : Nat) : Stack Nat RamFile RamVolume :=
  ((s.later n).collected.drainQueues).toOption.getD s

/-- If the queues of a later stack can be drained at all, draining gives the stack named for it. -/
theorem drainQueues_later {s : Stack Nat RamFile RamVolume} {n : Nat}
    (whole : ((s.later n).collected.drainQueues).toOption.isSome = true) :
    (s.later n).collected.drainQueues = .ok (s.drainedAfter n) := by
  unfold drainedAfter
  generalize (s.later n).collected.drainQueues = drained at whole ⊢
  cases drained with
  | ok s₁ => rfl
  | error e => cases whole

/-- Time may pass by any number of ticks. -/
theorem passing_add (n : Nat) : Passing (· + n) := fun time => Nat.le_add_right time n

section Later

variable {s₀ s : Stack Nat RamFile RamVolume} (n : Nat)

/-- Time that passes is an act within the world. -/
theorem leads_later (s : Stack Nat RamFile RamVolume) :
    Leads (Act.Within Passing) s.core (s.later n).core := by
  refine leads_perform ?_ (s.perform_later n)
  exact passing_add n

/-- Time may pass after a sequence of passes. -/
theorem Polls.later (polls : Polls Passing id s₀ looks s) :
    Polls Passing id s₀ looks (s.later n) := by
  refine polls.other ?_ ?_ (s.perform_later n) rfl
  · exact passing_add n
  · exact nofun

/-- A pass after some time. -/
theorem Polls.passAfter {now : Nat} (polls : Polls Passing id s₀ looks s)
    (whole : ((s.later n).collected.drainQueues).toOption.isSome = true)
    (shown : (s.drainedAfter n).core.hw = now) :
    Polls Passing id s₀ (now :: looks) (s.drainedAfter n).expireTimers := by
  subst shown
  exact (polls.later n).pass (drainQueues_later whole)

/-- Time may pass after a story. -/
theorem Recounts.later (recounts : Recounts Passing id s₀ journal s) :
    Recounts Passing id s₀ journal (s.later n) := by
  refine recounts.other ?_ ?_ (s.perform_later n) rfl
  · exact passing_add n
  · exact nofun

end Later

/-- A pass that comes too early, and one that finds the first round over. -/
theorem search_onSchedule_nextRound :
    let early := (vacant.startDhcp.2.drainedAfter 100).expireTimers
    let s := (early.drainedAfter 150).expireTimers
    ∃ journal y, Recounts Passing id vacant.startDhcp.2 journal s ∧
      DhcpClient.looks journal = [250, 100, 0] ∧ s.Serves y ∧ y.OnSchedule journal ∧
      y.timer = Timer.arm 250 400 := by
  intro early s
  have first : Polls Passing id vacant.startDhcp.2 [100] early :=
    Polls.start.passAfter 100 (by decide +kernel) (by decide +kernel)
  have polls : Polls Passing id vacant.startDhcp.2 [250, 100] s :=
    first.passAfter 150 (by decide +kernel) (by decide +kernel)
  obtain ⟨⟨journal, recounts, looks⟩, keeps⟩ :=
    search_onSchedule timed_vacant distinct_vacant polls (by simp [Frequent])
  obtain ⟨y, serves, -⟩ := recounts.story
  have timer : (clients s.sinks.sinks).map (·.2) = [Timer.arm 250 400] := by decide +kernel
  rw [serves.client] at timer
  exact ⟨journal, y, recounts, looks, serves, keeps journal y recounts looks serves,
    List.singleton_inj.mp timer⟩

/-- The stack in the middle of a first pass that comes half the tick space after the first round. -/
def overdue : Stack Nat RamFile RamVolume := vacant.startDhcp.2.drainedAfter 2147483848

/-- **Without the start there is no such timetable.** If the first pass comes half the tick space
after the end of the first round, it does not find it over. -/
theorem not_search_onSchedule_of_late_pass :
    ¬ ∀ looks s', Polls Passing id vacant.startDhcp.2 looks s' → Frequent looks →
      ∀ journal y, Recounts Passing id vacant.startDhcp.2 journal s' →
        DhcpClient.looks journal = looks ++ [0] → s'.Serves y → y.OnSchedule journal := by
  intro claim
  obtain ⟨x, serves, story⟩ := startDhcp_story timed_vacant distinct_vacant
  have timer := clients_vacant
  rw [serves.client, List.map_singleton] at timer
  have timer : x.timer = Timer.arm 0 200 := List.singleton_inj.mp timer
  have drained : (vacant.startDhcp.2.later 2147483848).collected.drainQueues = .ok overdue :=
    drainQueues_later (by decide +kernel)
  have early : x.timer.isDue overdue.core.now = false := by
    rw [timer]
    decide +kernel
  have late : 200 ≤ overdue.core.hw := by decide +kernel
  have same : clients overdue.sinks.sinks = clients vacant.startDhcp.2.sinks.sinks := by
    decide +kernel
  have same' : clients overdue.expireTimers.sinks.sinks =
      clients vacant.startDhcp.2.sinks.sinks := by
    decide +kernel
  have leads : Leads (Act.Within Passing) x.link overdue.core := by
    rw [← serves.core]
    exact (leads_later _ _).trans (leads_received drained)
  generalize overdue = s at drained early late same same' leads
  have leads' : Leads (Act.Within Passing) s.core s.expireTimers.core :=
    leads_expireTimers_of fullRepertoire_within s
  -- nothing comes for the client, and its timer is not due
  have served : s.Serves { x with link := s.core } := ⟨same.trans serves.client, rfl⟩
  have story₁ := story.of_leads leads fun f within => within.world f rfl
  have served' : s.expireTimers.Serves { x with link := s.expireTimers.core } :=
    ⟨same'.trans serves.client, rfl⟩
  have story₂ := (story₁.wait early).of_leads leads' fun f within => within.world f rfl
  have recounts := ((Recounts.start serves story).later 2147483848).pass drained
    (rfl : DhcpClient.looks [] = []) served story₁ served' story₂
  have polls := (Polls.start.later 2147483848).pass drained
  have schedule := claim _ _ polls (by simp [Frequent]) _ _ recounts rfl served'
  -- the timetable has the second round begin all the same
  obtain ⟨-, ended⟩ := schedule.fitting.1 0 [] rfl
  exact absurd (ended late).2 nofun

end Stack

end PolledNet
