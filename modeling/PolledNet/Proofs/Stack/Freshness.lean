import PolledNet.Proofs.Core.Freshness
import PolledNet.Proofs.Stack.Addressing
import PolledNet.Proofs.Stack.Sweeping

/-!
# No stale bindings

The clock wraps, so an entry of the cache that nobody sweeps comes to life again half the tick space
after it expired. The sweeper prevents this, and its own timer is read from the same clock: it has
to be looked at before half the tick space has gone by since it was armed. If no pass ends more than
`G` ticks after the one before it began, and the interval of the sweeper and `G` together are less
than half the tick space, then this is so for ever. The invariant (`Guarded`) joins true time, the
stamps and the sweeper: some moment after which the cache was swept, since which no valid entry has
expired, and from which on the sweeper's timer is armed.

The coming up of the stack has to count as the first of the passes (`bindings_current`): if the
first pass comes too late, the sweeper reads as not yet due, and bindings outlive their time
(`not_bindings_current_of_late_pass`).
-/

namespace PolledNet

open PolledNet.Core (Leads FullRepertoire)

variable {ω η φ : Type} {World : (ω → ω) → Prop} {time : ω → Nat}

/-- No pass ends, and it is not now, more than `G` ticks after the pass before began. Passes are
given by when they began and when they ended, last one first. -/
def Paced (G : Nat) : List (Nat × Nat) → (now : Nat) → Prop
  | [], _ => True
  | (began, ended) :: earlier, now => now ≤ began + G ∧ Paced G earlier ended

/-- What is paced until some time is paced until any time before. -/
theorem Paced.mono {G now now' : Nat} {passes : List (Nat × Nat)} (paced : Paced G passes now')
    (before : now ≤ now') : Paced G passes now := by
  cases passes with
  | nil => trivial
  | cons pass earlier => exact ⟨Nat.le_trans before paced.1, paced.2⟩

/-- The acts lead from one core to the other. -/
structure Core.Explains (World : (ω → ω) → Prop) (c : Core ω) (acts : List (Act ω)) (c' : Core ω) :
    Prop where
  within : ∀ a ∈ acts, a.Within World
  made : c' = c.run acts

/-- Acts that explain a core lead to it. -/
theorem Core.Explains.leads {c c' : Core ω} {acts : List (Act ω)}
    (explains : c.Explains World acts c') : Leads (Act.Within World) c c' := by
  rw [explains.made]
  exact Core.leads_run explains.within

/-- **Sweeping makes a diary fresh**, as long as nothing has been learned since. -/
theorem Diary.Fresh.swept {d : Diary ω} {since : Nat} {c : Core ω} (fresh : d.Fresh time since)
    (timed : d.core.Timed World time) (setup : c.SameSetup d.core)
    (unlearned : (c.act .sweep).Unlearned d.core) (come : time c.hw ≤ time d.core.hw)
    (soon : time c.hw < since + 2147483648) : d.Fresh time (time c.hw) := by
  apply fresh.later timed come soon
  intro e mem valid
  have kept : !e.isStale c.now := (List.mem_filter.mp (unlearned e mem valid)).2
  rw [ArpEntry.isStale, valid] at kept
  have ahead : Tick.reached c.now e.stamp = false := by simpa using kept
  rw [setup.clock]
  exact ahead

namespace Stack

variable {s s' s₀ s₁ : Stack ω η φ} {acts : List (Act ω)} {passes begun : List (Nat × Nat)}

/-! ## The invariant -/

/-- No valid entry had expired by `since`, the timer of the sweeper is armed from then on, and the
last pass found it not due. -/
structure Guarded (World : (ω → ω) → Prop) (time : ω → Nat) (d : Diary ω)
    (sinks : List (Sink (SinkKind η)))
    (passes : List (Nat × Nat)) (since : Nat) : Prop where
  fresh : d.Fresh time since
  timed : d.core.Timed World time
  armed : Sweeps sinks (Timer.arm (UInt32.ofNat since) d.core.config.arpSweepInterval)
  waited : ∃ began ended earlier, passes = (began, ended) :: earlier ∧
    began ≤ since + d.core.config.arpSweepInterval.clamped

section Guarded

variable {d : Diary ω} {more : List (Act ω)} {since G : Nat}

/-- As long as passes keep their pace, it is less than half the tick space since the last sweep. -/
theorem Guarded.soon {sinks : List (Sink (SinkKind η))} {now : Nat}
    (guarded : Guarded World time d sinks passes since)
    (often : d.core.config.arpSweepInterval.clamped + G < 2147483648) (paced : Paced G passes now) :
    now < since + 2147483648 := by
  obtain ⟨began, ended, earlier, rfl, waited⟩ := guarded.waited
  have close : now ≤ began + G := paced.1
  omega

variable (guarded : Guarded World time d s.sinks.sinks passes since) (here : d.core = s.core)

include guarded here

/-- The diary of what is done next. -/
theorem Guarded.run {c : Core ω} (explains : s.core.Explains World more c)
    (soon : time c.hw < since + 2147483648) :
    (d.run more).core = c ∧ d.core.SameSetup c ∧ (d.run more).Fresh time since ∧
      ∀ first, first <+: more → (d.run first).Current time := by
  have reached : (d.run more).core = c := by
    rw [d.core_run, here, explains.made]
  have setup : d.core.SameSetup c := here ▸ explains.leads.sameSetup
  rw [← reached] at soon
  exact ⟨reached, setup, guarded.fresh.run guarded.timed explains.within soon⟩

/-- Whatever is done short of a pass leaves the diary as fresh, and the sweeper as it is armed. -/
theorem Guarded.operate (stays : s.SweeperStays s')
    (explains : s.core.Explains World more s'.core)
    (soon : time s'.core.hw < since + 2147483648) :
    Guarded World time (d.run more) s'.sinks.sinks passes since := by
  obtain ⟨reached, setup, fresh, -⟩ := guarded.run here explains soon
  rw [← reached] at setup
  refine ⟨fresh, setup.timed guarded.timed, ?_, ?_⟩
  · rw [setup.config]
    exact stays _ guarded.armed
  · rw [setup.config]
    exact guarded.waited

variable [FileHandle η φ]

omit guarded here in
/-- What a pass does before it handles its timers. -/
theorem leads_received (drained : s.collected.drainQueues = .ok s₁) :
    Leads (Act.Within World) s.core s₁.core := by
  have able : FullRepertoire (Act.Within World) := fullRepertoire_within
  have handled := leads_drainQueues_of able (fun _ _ p _ => answerable_within p) drained
  exact (leads_collected_of able.toPolling s).trans handled

/-- A pass either finds the sweeper not due, or the cache is swept in it. -/
theorem Guarded.pass (drained : s.collected.drainQueues = .ok s₁)
    (explains : s.core.Explains World more s₁.expireTimers.core)
    (soon : time s₁.expireTimers.core.hw < since + 2147483648) :
    ∃ since', Guarded World time (d.run more) s₁.expireTimers.sinks.sinks
      ((time s₁.core.hw, time s₁.expireTimers.core.hw) :: passes) since' := by
  obtain ⟨reached, setup, fresh, -⟩ := guarded.run here explains soon
  have received : Leads (Act.Within World) s.core s₁.core := leads_received drained
  have timed : s.core.Timed World time := here ▸ guarded.timed
  have setup₁ : s.core.SameSetup s₁.core := received.sameSetup
  have timed₁ : s₁.core.Timed World time := setup₁.timed timed
  -- the pass begins to handle its timers after `since`, and is over before half the tick space
  have begins : since ≤ time s₁.core.hw := by
    have before : since ≤ time s.core.hw := here ▸ guarded.fresh.begun
    exact Nat.le_trans before (received.time_le timed)
  have ends : time s₁.core.hw ≤ time s₁.expireTimers.core.hw :=
    (leads_expireTimers_of fullRepertoire_within s₁).time_le timed₁
  have config : s₁.expireTimers.core.config = d.core.config := setup.config
  have armed := sweeps_drainQueues drained _ (sweeps_collected s _ guarded.armed)
  have timed' : (d.run more).core.Timed World time := by
    rw [reached]
    exact setup.timed guarded.timed
  have reads : (Timer.arm (UInt32.ofNat since) d.core.config.arpSweepInterval).isDue s₁.core.now =
      true ↔ since + d.core.config.arpSweepInterval.clamped ≤ time s₁.core.hw := by
    show Tick.reached (s₁.core.clock s₁.core.hw) _ = true ↔ _
    rw [timed₁.shown]
    exact Tick.reached_deadline_iff _ begins (by omega)
  cases due : (Timer.arm (UInt32.ofNat since) d.core.config.arpSweepInterval).isDue s₁.core.now with
  | false =>
    rw [due] at reads
    have early : time s₁.core.hw < since + d.core.config.arpSweepInterval.clamped :=
      Nat.lt_of_not_le fun late => Bool.false_ne_true (reads.mpr late)
    refine ⟨since, fresh, timed', ?_, ?_⟩
    · rw [reached, config]
      exact sweeps_expireTimers due armed
    · rw [reached, config]
      exact ⟨_, _, _, rfl, Nat.le_of_lt early⟩
  | true =>
    obtain ⟨c, before, after, unlearned, sweeps⟩ :
      Swept World s₁.core s₁.expireTimers.core _ := expireTimers_swept due armed
    have sweepSetup : s₁.core.SameSetup c := before.sameSetup
    have timedSweep : c.Timed World time := sweepSetup.timed timed₁
    have swept : time c.hw ≤ time s₁.expireTimers.core.hw := after.time_le timedSweep
    have earlier : time c.hw < since + 2147483648 := Nat.lt_of_le_of_lt swept soon
    refine ⟨time c.hw, ?_, timed', ?_, ?_⟩
    · rw [← reached] at after unlearned swept
      exact fresh.swept timed' after.sameSetup unlearned swept earlier
    · rw [reached, config, here, ← setup₁.config, ← sweepSetup.config, ← timedSweep.shown]
      exact sweeps
    · have begins' : time s₁.core.hw ≤ time c.hw := before.time_le timed₁
      exact ⟨_, _, _, rfl, Nat.le_trans begins' (Nat.le_add_right _ _)⟩

end Guarded

/-! ## Runs -/

variable [FileHandle η φ]

/-- A run of a stack during which the sweeper stays registered: the acts on its core that it is made
of, and when the timers of its passes began to be handled and when that was over, the last pass
first. Some passes may count as having been made before. -/
inductive Course (World : (ω → ω) → Prop) (time : ω → Nat) (s₀ : Stack ω η φ)
    (begun : List (Nat × Nat)) : List (Act ω) → List (Nat × Nat) → Stack ω η φ → Prop where
  | start : Course World time s₀ begun [] begun s₀
  /-- The owner does something with the stack, or the world moves on. -/
  | operate {acts more : List (Act ω)} {passes : List (Nat × Nat)} {s s' : Stack ω η φ}
      {command : Command ω η φ} (course : Course World time s₀ begun acts passes s)
      (within : command.Within World) (done : s.perform command = .ok s')
      (stays : s.SweeperStays s') (explains : s.core.Explains World more s'.core) :
      Course World time s₀ begun (acts ++ more) passes s'
  /-- A pass. -/
  | pass {acts more : List (Act ω)} {passes : List (Nat × Nat)} {s s₁ : Stack ω η φ}
      (course : Course World time s₀ begun acts passes s)
      (drained : s.collected.drainQueues = .ok s₁)
      (explains : s.core.Explains World more s₁.expireTimers.core) :
      Course World time s₀ begun (acts ++ more)
        ((time s₁.core.hw, time s₁.expireTimers.core.hw) :: passes) s₁.expireTimers

section Continues

variable {n : Nat} {command : Command ω η φ} {commands : List (Command ω η φ)}

/-- A sink is registered under the name of the sweeper. -/
def SweeperRegistered (s : Stack ω η φ) : Prop := ∃ sink ∈ s.sinks.sinks, sink.id = sweeperId

/-- Anything that is done with a stack continues a run, as long as the sweeper stays registered. -/
theorem Course.perform (course : Course World time s₀ begun acts passes s) (names : s.NamesBelow n)
    (within : command.Within World) (done : s.perform command = .ok s')
    (registered : s'.SweeperRegistered) :
    ∃ more passes', Course World time s₀ begun (acts ++ more) passes' s' := by
  obtain ⟨more, kind, made⟩ := (leads_perform within done).exists_run
  by_cases pass : command = .pump
  · subst pass
    have ran : s.pump = .ok s' := done
    rw [pump_eq] at ran
    obtain ⟨s₁, drained, rfl⟩ := handled_eq_ok ran
    exact ⟨more, _, .pass course drained ⟨kind, made⟩⟩
  · exact ⟨more, passes, .operate course within done
      (sweeperStays_perform names pass done registered) ⟨kind, made⟩⟩

/-- A list of commands makes a course longer, as long as there are names. -/
theorem Course.performAll (course : Course World time s₀ begun acts passes s)
    (names : s.NamesBelow n) (few : n + commands.countP (·.registers) < UInt32.size)
    (within : ∀ command ∈ commands, command.Within World)
    (registered : s.Always SweeperRegistered commands) (ran : s.performAll commands = .ok s') :
    ∃ more passes', Course World time s₀ begun (acts ++ more) passes' s' := by
  induction commands generalizing s acts passes n with
  | nil =>
    cases ran
    exact ⟨[], passes, by rwa [List.append_nil]⟩
  | cons command rest ih =>
    obtain ⟨s₁, done, ran⟩ := exists_of_performAll_cons ran
    rw [List.countP_cons] at few
    obtain ⟨more, passes₁, course₁⟩ := course.perform names (within command List.mem_cons_self) done
      (registered.2 s₁ done).here
    obtain ⟨more', passes', through⟩ := ih course₁ (names.perform (by omega) done) (by omega)
      (fun command mem => within command (List.mem_cons_of_mem _ mem)) (registered.2 s₁ done) ran
    rw [List.append_assoc] at through
    exact ⟨more ++ more', passes', through⟩

end Continues

/-- To the core a course is made of acts. -/
theorem Course.leads (course : Course World time s₀ begun acts passes s) :
    Leads (Act.Within World) s₀.core s.core := by
  induction course with
  | start => exact .refl _
  | operate course within done stays explains ih => exact ih.trans explains.leads
  | pass course drained explains ih => exact ih.trans explains.leads

/-- Nothing is found too late in a run, nor in what is done after it. -/
theorem current_append {d : Diary ω} {more : List (Act ω)}
    (before : ∀ first, first <+: acts → (d.run first).Current time)
    (after : ∀ first, first <+: more → ((d.run acts).run first).Current time) :
    ∀ first, first <+: acts ++ more → (d.run first).Current time := by
  intro first start
  obtain within | ⟨rest, rfl⟩ :=
    List.prefix_or_prefix_of_prefix start (List.prefix_append acts more)
  · exact before first within
  · rw [Diary.run_append]
    exact after rest ((List.prefix_append_right_inj acts).mp start)

/-- **The invariant holds for ever**, and nothing that is found on the way was heard too long ago.
-/
theorem Course.guarded {G : Nat} (course : Course World time s₀ begun acts passes s)
    (started : Guarded World time ⟨s₀.core, []⟩ s₀.sinks.sinks begun (time s₀.core.hw))
    (often : s₀.core.config.arpSweepInterval.clamped + G < 2147483648)
    (paced : Paced G passes (time s.core.hw)) :
    (Diary.run ⟨s₀.core, []⟩ acts).core = s.core ∧
      (∃ since, Guarded World time (Diary.run ⟨s₀.core, []⟩ acts) s.sinks.sinks passes since) ∧
        ∀ first, first <+: acts → (Diary.run ⟨s₀.core, []⟩ first).Current time := by
  have timed : s₀.core.Timed World time := started.timed
  induction course with
  | start =>
    refine ⟨rfl, ⟨_, started⟩, ?_⟩
    intro first start
    rw [List.prefix_nil.mp start]
    exact started.fresh.current timed (Nat.lt_add_of_pos_right (by decide))
  | @operate acts more passes s s' command course within done stays explains ih =>
    have setup := course.leads.sameSetup
    have later : time s.core.hw ≤ time s'.core.hw := explains.leads.time_le (setup.timed timed)
    obtain ⟨here, ⟨since, guarded⟩, current⟩ := ih (paced.mono later)
    have soon : time s'.core.hw < since + 2147483648 :=
      guarded.soon (by rwa [here, setup.config]) paced
    obtain ⟨reached, -, -, after⟩ := guarded.run here explains soon
    have still := guarded.operate here stays explains soon
    rw [Diary.run_append]
    exact ⟨reached, ⟨since, still⟩, current_append current after⟩
  | @pass acts more passes s s₁ course drained explains ih =>
    have setup := course.leads.sameSetup
    have later : time s.core.hw ≤ time s₁.expireTimers.core.hw :=
      explains.leads.time_le (setup.timed timed)
    obtain ⟨-, paced⟩ := paced
    obtain ⟨here, ⟨since, guarded⟩, current⟩ := ih (paced.mono later)
    have soon : time s₁.expireTimers.core.hw < since + 2147483648 :=
      guarded.soon (by rwa [here, setup.config]) paced
    obtain ⟨reached, -, -, after⟩ := guarded.run here explains soon
    have still := guarded.pass here drained explains soon
    rw [Diary.run_append]
    exact ⟨reached, still, current_append current after⟩

/-- **No stale binding is ever found**, if the clock shows true time modulo its size, and the
interval of the sweeper and `G` together are less than half the tick space.

Every run of a stack that was brought up, with its sweeper registered all the time, is a course,
unless it uses up the names of sinks. And in any course, from the coming up of the stack on, in
which no pass ends more than `G` ticks after the one before began: at every moment, however long it
takes, whatever the cache says was heard less than the lifetime of an entry ago, and so was the
binding by which any frame was addressed. -/
theorem bindings_current {device : Device ω} {clock : ω → Tick} {config : StackConfig} {hw hw' : ω}
    {volume : φ} {G : Nat} (truth : TrueTime device clock World time)
    (up : bringUp device clock config hw volume = (.ok s₀, hw'))
    (often : config.arpSweepInterval.clamped + G < 2147483648) :
    (∀ commands s, (∀ command ∈ commands, command.Within World) →
      4 + commands.countP (·.registers) < UInt32.size → s₀.performAll commands = .ok s →
        s₀.Always SweeperRegistered commands →
          ∃ acts passes, Course World time s₀ [(time hw', time hw')] acts passes s) ∧
    ∀ acts passes s, Course World time s₀ [(time hw', time hw')] acts passes s →
      Paced G passes (time s.core.hw) →
        ∀ first, first <+: acts → (Diary.run ⟨s₀.core, []⟩ first).Current time := by
  constructor
  · intro commands s within few ran registered
    obtain ⟨more, passes, course⟩ := Course.start.performAll (namesBelow_bringUp up) few within
      registered ran
    exact ⟨_, passes, course⟩
  · intro acts passes s course paced
    obtain ⟨log, start⟩ := core_bringUp up
    have sinks := sinks_bringUp up
    have hardware : s₀.core.hw = hw' := by rw [start]
    have tunables : s₀.core.config = config := by rw [start]
    have timed : s₀.core.Timed World time := by
      rw [start]
      exact truth
    have started : Guarded World time ⟨s₀.core, []⟩ s₀.sinks.sinks [(time hw', time hw')]
        (time s₀.core.hw) := by
      refine ⟨Diary.fresh_new (by rw [start]) (by rw [start]), timed, ?_, ?_⟩
      · rw [sinks, hardware, ← truth.shown]
        dsimp only
        rw [tunables]
        exact ⟨_, List.mem_cons_of_mem _ (List.mem_cons_of_mem _ List.mem_cons_self), rfl, rfl,
          rfl⟩
      · rw [hardware]
        exact ⟨_, _, _, rfl, Nat.le_add_right _ _⟩
    rw [← tunables] at often
    exact (course.guarded started often paced).2.2

/-! ## Early and late passes -/

/-- A controller that takes every frame and receives none, on hardware that is nothing but the true
time. -/
def idle : Device Nat where
  mac := ⟨2, 0, 0, 0, 0, 1⟩
  name := "idle"
  start time := (.ok (), time)
  halt time := time
  service time := time
  transmit _ time := (.ok (), time)
  canTransmit _ := true
  receive time := (none, time)

/-- Time passes, or stands still. -/
def Passing (f : Nat → Nat) : Prop := ∀ time, time ≤ f time

/-- The clock of the idle controller shows true time. -/
theorem trueTime_idle : TrueTime idle UInt32.ofNat Passing id where
  shown _ := rfl
  transmit _ _ := Nat.le_refl _
  receive _ := Nat.le_refl _
  service _ := Nat.le_refl _
  world may time := may time

/-- A stack that comes up at time zero. -/
def early : Stack Nat RamFile RamVolume :=
  (bringUp idle UInt32.ofNat rented 0 {}).1.toOption.get rfl

/-- The stack comes up at once. -/
theorem bringUp_early : bringUp idle UInt32.ofNat rented 0 {} = (.ok early, 0) := rfl

/-- The stack some time later. -/
def later (s : Stack Nat RamFile RamVolume) (n : Nat) : Stack Nat RamFile RamVolume :=
  { s with core := { s.core with hw := s.core.hw + n } }

/-- A command lets so many ticks pass for the stack. -/
theorem perform_later (s : Stack Nat RamFile RamVolume) (n : Nat) :
    s.perform (.elapse (· + n) id) = .ok (s.later n) := rfl

/-- Time goes by. -/
theorem Course.later {s : Stack Nat RamFile RamVolume} {acts : List (Act Nat)}
    (course : Course Passing id early begun acts passes s) (n : Nat) :
    Course Passing id early begun (acts ++ [.elapse (· + n)]) passes (s.later n) := by
  have passing : (Command.elapse (· + n) id : Command Nat RamFile RamVolume).Within Passing :=
    fun time => Nat.le_add_right time n
  refine course.operate passing (s.perform_later n) (.of_eq rfl) ⟨?_, rfl⟩
  intro a mem
  obtain rfl := List.mem_singleton.mp mem
  refine ⟨trivial, ?_⟩
  rintro f eq
  cases eq
  exact passing

/-- A neighbour tells its address. -/
def arriving : List (Act Nat) :=
  [.count fun n => { n with rxFrames := n.rxFrames + 1 },
    .tell (.frame (.queued neighbourAnswer.length ⟨1⟩))]

/-- A pass in which nothing happens. -/
def idling : List (Act Nat) := [.retry, .service, .receive, .flush]

/-- What a pass does in which nothing happens, any stack may do. -/
theorem within_idling : ∀ a ∈ idling, a.Within Passing := by
  intro a mem
  simp only [idling, List.mem_cons, List.not_mem_nil, or_false] at mem
  rcases mem with rfl | rfl | rfl | rfl <;> exact ⟨trivial, nofun⟩

/-- A pass in which nothing happens may have one more thing to do. -/
theorem within_idling_and {a : Act Nat} (within : a.Within Passing) :
    ∀ b ∈ idling ++ [a], b.Within Passing := by
  intro b mem
  obtain old | new := List.mem_append.mp mem
  · exact within_idling b old
  · exact List.mem_singleton.mp new ▸ within

/-- The neighbour. -/
def hearing : Act Nat := .learn ⟨10, 0, 0, 9⟩ ⟨2, 0, 0, 0, 0, 9⟩

/-- The stack after some time, once a pass has heard the neighbour and before it handles its
timers. -/
def heardAfter (n : Nat) : Stack Nat RamFile RamVolume :=
  (((early.later n).receiveFrame neighbourAnswer).collected.drainQueues).toOption.get rfl

/-- The neighbour is heard in the first pass after some time. -/
theorem course_heardAfter (begun : List (Nat × Nat)) (n : Nat)
    (made : (heardAfter n).expireTimers.core = (heardAfter n).core) :
    Course Passing id early begun ([.elapse (· + n)] ++ arriving ++ (idling ++ [hearing]))
      ((n, n) :: begun) (heardAfter n).expireTimers := by
  have arrived : Course Passing id early begun ([.elapse (· + n)] ++ arriving) begun
      ((early.later n).receiveFrame neighbourAnswer) := by
    have handedIn : (early.later n).perform (.receiveFrame neighbourAnswer) =
      .ok ((early.later n).receiveFrame neighbourAnswer) := rfl
    refine (Course.start.later n).operate ?_ handedIn (sweeps_receiveFrame _ _) ⟨?_, rfl⟩
    · trivial
    intro a mem
    simp only [arriving, List.mem_cons, List.not_mem_nil, or_false] at mem
    obtain rfl | rfl := mem
    · exact ⟨fun _ => ⟨rfl, rfl, rfl⟩, nofun⟩
    · exact ⟨trivial, nofun⟩
  have drained : ((early.later n).receiveFrame neighbourAnswer).collected.drainQueues =
      .ok (heardAfter n) := rfl
  have passed := arrived.pass drained
    ⟨within_idling_and (a := hearing) ⟨trivial, nofun⟩, made⟩
  have began : (heardAfter n).core.hw = n := Nat.zero_add n
  rw [made] at passed
  rw [began] at passed
  exact passed

/-- A second pass comes in time, before it handles its timers. -/
def punctual : Stack Nat RamFile RamVolume :=
  (((heardAfter 0).expireTimers.later 1000).collected.drainQueues).toOption.get rfl

/-- The neighbour is known for a while. -/
theorem bindings_current_neighbourHeard :
    ∃ acts passes s, bringUp idle UInt32.ofNat rented 0 {} = (.ok early, 0) ∧
      Course Passing id early [(0, 0)] acts passes s ∧ Paced 1000 passes s.core.hw ∧
      s.core.resolution s.core.now ⟨10, 0, 0, 9⟩ = .hit ⟨2, 0, 0, 0, 0, 9⟩ ∧
      (Diary.run ⟨early.core, []⟩ acts).Current id := by
  have drained :
      ((heardAfter 0).expireTimers.later 1000).collected.drainQueues = .ok punctual := rfl
  -- the second pass sweeps the cache
  have course := ((course_heardAfter [(0, 0)] 0 rfl).later 1000).pass drained
    ⟨within_idling_and (a := .sweep) ⟨trivial, nofun⟩, rfl⟩
  have paced : Paced 1000 [(1000, 1000), (0, 0), (0, 0)] 1000 := by
    simp [Paced]
  refine ⟨_, _, _, bringUp_early, course, paced, rfl, ?_⟩
  obtain ⟨-, current⟩ := bindings_current trueTime_idle bringUp_early
    (by decide : rented.arpSweepInterval.clamped + 1000 < 2147483648)
  exact current _ _ _ course paced _ List.prefix_rfl

/-- The first pass comes half the tick space and more after the stack came up, and the second,
before it handles its timers, as late after the first as is allowed. -/
def tardy : Stack Nat RamFile RamVolume :=
  (((heardAfter 2147484648).expireTimers.later 2147482647).collected.drainQueues).toOption.get rfl

/-- **Without the first pass there is no such promise.** If it comes too late, neither it nor the
second finds the sweeper due, and what the first has heard is still found in the cache much later.
-/
theorem not_bindings_current_of_late_pass :
    ¬ ∀ G acts passes s, early.core.config.arpSweepInterval.clamped + G < 2147483648 →
      Course Passing id early [] acts passes s → Paced G passes s.core.hw →
        (Diary.run ⟨early.core, []⟩ acts).Current id := by
  intro claim
  have drained : ((heardAfter 2147484648).expireTimers.later 2147482647).collected.drainQueues =
      .ok tardy := rfl
  have course := (((course_heardAfter [] 2147484648 rfl).later 2147482647).pass drained
    ⟨within_idling, rfl⟩).later 31002
  have paced :
      Paced 2147482647 [(4294967295, 4294967295), (2147484648, 2147484648)] 4294998297 := by
    simp [Paced]
  have current := claim 2147482647 _ _ _ (by decide) course paced
  obtain ⟨hw, heard, young⟩ := current.found ⟨10, 0, 0, 9⟩ ⟨2, 0, 0, 0, 0, 9⟩ (.inl rfl)
  have last : some (⟨2, 0, 0, 0, 0, 9⟩, 2147484648) = some ((⟨2, 0, 0, 0, 0, 9⟩ : Mac), hw) := heard
  cases last
  exact absurd young (by decide)

end Stack

end PolledNet
