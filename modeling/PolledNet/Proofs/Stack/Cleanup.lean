import PolledNet.Proofs.Stack.Names
import PolledNet.Proofs.Stack.Ports

/-!
# What a transfer leaves behind

Moving a file in one call is starting a transfer, tending the sinks for a while and taking the
transfer out (`Stack.runsTransfer`). The sink that is put in is the sink that is taken out, because
nobody else has its name; so the roster is the same as before (`Stack.RunsTransfer.roster`).

For the file it is counted how often its number is held or written down as closed (`Stack.tally`).
Tending does not change the count, and at the end nobody holds the file: the sink that did is gone,
and no sink takes over the file of another. So its number is written down once
(`Stack.RunsTransfer.closed`).
-/

namespace PolledNet

variable {ω η φ : Type} [FileHandle η φ]

/-! ## Who holds which file -/

/-- The number of the file that a sink holds. -/
def SinkKind.number? (kind : SinkKind (Numbered η)) : Option Nat :=
  kind.transfer?.bind fun t => t.file.map (·.number)

/-- What becomes of the file of a sink, and of the register: all stays as it is, or the file is
closed and written down. -/
structure Register.Keeps (x y : Option Nat × Register φ) : Prop where
  opened : y.2.opened = x.2.opened
  closed : y.1 = x.1 ∧ y.2.closed = x.2.closed ∨
    y.1 = none ∧ y.2.closed = x.2.closed ++ x.1.toList

namespace Register.Keeps

omit [FileHandle η φ] in
/-- A file that nobody touches is kept. -/
theorem refl (x : Option Nat × Register φ) : Keeps x x := ⟨rfl, .inl ⟨rfl, rfl⟩⟩

omit [FileHandle η φ] in
/-- A file that is kept, or closed once, through two steps is so through both. -/
theorem trans {x y z : Option Nat × Register φ} (first : Keeps x y) (second : Keeps y z) :
    Keeps x z := by
  refine ⟨second.opened.trans first.opened, ?_⟩
  rcases first.closed with ⟨held, closed⟩ | ⟨gone, closed⟩
  · rw [← held, ← closed]
    exact second.closed
  · rcases second.closed with ⟨held, closed'⟩ | ⟨gone', closed'⟩
    · exact .inr ⟨held.trans gone, closed'.trans closed⟩
    · refine .inr ⟨gone', ?_⟩
      rw [closed', closed, gone]
      exact List.append_nil _

omit [FileHandle η φ] in
/-- No number is written down that was not held, and none that is held gets lost. -/
theorem count {x y : Option Nat × Register φ} (keeps : Keeps x y) (n : Nat) :
    y.2.closed.count n + y.1.toList.count n = x.2.closed.count n + x.1.toList.count n := by
  rcases keeps.closed with ⟨held, closed⟩ | ⟨gone, closed⟩
  · rw [held, closed]
  · rw [gone, closed, List.count_append]
    rfl

end Register.Keeps

/-- **A transfer keeps its file, or closes it and lets it go.** -/
theorem Transfer.Changes.keeps_register {t t' : Transfer (Numbered η)} {v v' : Register φ}
    (changes : Transfer.Changes (t, v) (t', v')) :
    Register.Keeps (t.file.map (·.number), v) (t'.file.map (·.number), v') := by
  refine changes.keeps
    (fun y => Register.Keeps (t.file.map (·.number), v) (y.1.file.map (·.number), y.2)) ?_ (.refl _)
  intro x y change before
  refine before.trans ?_
  cases change with
  | notes notes =>
    rw [notes.file]
    exact .refl _
  | uses opened uses =>
    obtain ⟨number, opened', closed⟩ := Numbered.kept_uses uses
    rw [opened]
    exact ⟨opened', .inl ⟨congrArg some number, closed⟩⟩
  | @ends t t' v _ _ released =>
    unfold Transfer.release
    rw [released]
    cases t.file with
    | none => exact .refl _
    | some file => exact ⟨Numbered.close_opened _ _, .inr ⟨rfl, Numbered.close_closed _ _⟩⟩

/-- A sink that is tended keeps its file, or closes it and lets it go. -/
theorem Sink.Tended.keeps_register {x y : Sink (SinkKind (Numbered η)) × Register φ}
    (tended : Sink.Tended x y) :
    Register.Keeps (x.1.kind.number?, x.2) (y.1.kind.number?, y.2) := by
  obtain ⟨⟨_, _, _, _, kind⟩, v⟩ := x
  obtain ⟨⟨_, _, _, _, kind'⟩, v'⟩ := y
  have goes := tended.goes
  dsimp only at goes ⊢
  cases goes with
  | service other same =>
    have none : kind.number? = none := by
      rw [SinkKind.number?, SinkKind.transfer?_eq_none_iff.mpr other]
      rfl
    have none' : kind'.number? = Option.none := by
      rw [SinkKind.number?, SinkKind.transfer?_eq_none_iff.mpr (same ▸ other)]
      rfl
    rw [none, none']
    exact .refl _
  | transfer changes => exact changes.keeps_register

/-- The numbers of the files that sinks hold. -/
def numbersOf (sinks : List (Sink (SinkKind (Numbered η)))) : List Nat :=
  sinks.flatMap fun sink => sink.kind.number?.toList

/-- What becomes of all files while the sinks are tended. -/
theorem Round.count {v v' : Register φ} {sinks sinks' : List (Sink (SinkKind (Numbered η)))}
    (round : Round v sinks v' sinks') (n : Nat) :
    v'.opened = v.opened ∧
      v'.closed.count n + (numbersOf sinks').count n =
        v.closed.count n + (numbersOf sinks).count n := by
  induction round with
  | nil => exact ⟨rfl, rfl⟩
  | cons first _ ih =>
    obtain ⟨opened, total⟩ := ih
    have keeps := first.keeps_register
    have one := keeps.count n
    refine ⟨opened.trans keeps.opened, ?_⟩
    unfold numbersOf at total ⊢
    rw [List.flatMap_cons, List.flatMap_cons, List.count_append, List.count_append]
    dsimp only at one
    omega

/-- What is kept of each sink that is tended is kept of all in a round. -/
theorem Round.each {Holds : Sink (SinkKind η) → Prop} {volume volume' : φ}
    {sinks sinks' : List (Sink (SinkKind η))} (round : Round volume sinks volume' sinks')
    (kept : ∀ x y : Sink (SinkKind η) × φ, Sink.Tended x y → Holds x.1 → Holds y.1)
    (start : ∀ sink ∈ sinks, Holds sink) : ∀ sink ∈ sinks', Holds sink := by
  induction round with
  | nil => exact start
  | cons first _ ih =>
    rw [List.forall_mem_cons] at start ⊢
    exact ⟨kept _ _ first start.1, ih start.2⟩

namespace Stack

/-! ## What is kept while the sinks are tended -/

/-- What is kept of a sink that is tended is kept of all. -/
theorem Tends.each {s s' : Stack ω η φ} (tends : s.Tends s') (Holds : Sink (SinkKind η) → Prop)
    (kept : ∀ x y : Sink (SinkKind η) × φ, Sink.Tended x y → Holds x.1 → Holds y.1)
    (start : ∀ sink ∈ s.sinks.sinks, Holds sink) : ∀ sink ∈ s'.sinks.sinks, Holds sink :=
  tends.keeps (fun s => ∀ sink ∈ s.sinks.sinks, Holds sink)
    (fun _ _ once held => once.round.each kept held) start

/-- How often a file is held or has been closed. -/
def tally (s : Stack ω (Numbered η) (Register φ)) (n : Nat) : Nat :=
  s.volume.closed.count n + (numbersOf s.sinks.sinks).count n

/-- The register knows of all files that are held or have been closed. -/
def Registered (s : Stack ω (Numbered η) (Register φ)) : Prop :=
  ∀ n, s.volume.opened ≤ n → s.tally n = 0

/-- Tending opens no file, and each is held or has been closed as often as before. -/
theorem Tends.tally {s s' : Stack ω (Numbered η) (Register φ)} (tends : s.Tends s') (n : Nat) :
    s'.volume.opened = s.volume.opened ∧ s'.tally n = s.tally n := by
  apply tends.keeps (fun s' => s'.volume.opened = s.volume.opened ∧ s'.tally n = s.tally n) _
    ⟨rfl, rfl⟩
  intro s₁ s₂ once ⟨opened, same⟩
  have count := once.round.count n
  exact ⟨count.1.trans opened, count.2.trans same⟩

variable {s s' : Stack ω η φ} {opener : FileOpener η φ} {job : TransferJob} {patience : Patience ω}
  {answer : Except TransferError TransferReport}

/-- **To wait is to tend the sinks.** -/
theorem tends_pumpUntil {finished : Stack ω η φ → Bool} {answer : Except NetError Unit}
    (waited : s.pumpUntil finished patience = .ok (answer, s')) : s.Tends s' := by
  unfold pumpUntil at waited
  generalize patience.polls = left at waited
  induction left generalizing s with
  | zero =>
    unfold pumpWhileWaiting at waited
    split at waited <;> cases waited
    · exact .refl _
    · exact s.tends_withCore _
  | succ left ih =>
    unfold pumpWhileWaiting at waited
    split at waited
    · cases waited
      exact .refl _
    · obtain ⟨s₁, passed, waited⟩ := exists_ok_of_bind waited
      have polled : s.Tends (s.poll patience (patience.polls - left)) := s.tends_withCore _
      exact (polled.trans (tends_pump passed)).trans (ih waited)

/-- What comes of moving a file in one call. -/
inductive RunsTransfer (s : Stack ω η φ) (opener : FileOpener η φ) (job : TransferJob) :
    Except TransferError TransferReport → Stack ω η φ → Prop where
  /-- The transfer does not begin. -/
  | refused {e : TransferError} {s' : Stack ω η φ} (starts : s.Starts opener job (.error e) s') :
      RunsTransfer s opener job (.error e) s'
  /-- It begins, it is waited for, and it is taken out. -/
  | through {id : SinkId} {s₁ s₂ s' : Stack ω η φ}
      {answer : Except TransferError TransferReport} (starts : s.Starts opener job (.ok id) s₁)
      (tends : s₁.Tends s₂) (finishes : s₂.Finishes id answer s') :
      RunsTransfer s opener job answer s'

/-- **To move a file in one call** is to start a transfer, to tend the sinks, and to take it out. -/
theorem runsTransfer (ran : s.runTransfer opener job patience = .ok (answer, s')) :
    s.RunsTransfer opener job answer s' := by
  have starts := s.starts_startTransfer opener job
  unfold runTransfer at ran
  split at ran
  · rename_i started
    cases ran
    rw [started] at starts
    exact .refused starts
  · rename_i id s₁ started
    rw [started] at starts
    obtain ⟨⟨waited, s₂⟩, passed, ran⟩ := exists_ok_of_bind ran
    have tends := tends_pumpUntil passed
    cases waited with
    | ok =>
      have finishes := s₂.finishes_finishTransfer id
      rw [show s₂.finishTransfer id = (answer, s') from Except.ok.inj ran] at finishes
      exact .through starts tends finishes
    | error =>
      have finishes :=
        finishes_finishTransfer { s₂ with core := s₂.core.tell (.tftp .cancelled) } id
      rw [show finishTransfer _ id = (answer, s') from Except.ok.inj ran] at finishes
      exact .through starts (tends.trans (s₂.tends_withCore _)) finishes

/-! ## The sink that is put in is taken out -/

omit [FileHandle η φ] in
/-- The first enrolment of a name is the one that is taken out. -/
theorem eraseP_named {before after : List Enrolment} {e : Enrolment} {id : SinkId}
    (first : ∀ x ∈ before, x.id ≠ id) (named : e.id = id) :
    (before ++ e :: after).eraseP (·.id = id) = before ++ after := by
  rw [List.eraseP_append_right _ (by simpa using first),
    List.eraseP_cons_of_pos (by simpa using named)]

omit [FileHandle η φ] in
/-- A name that no sink has is on no roster. -/
theorem enrolments_unnamed {sinks : List (Sink (SinkKind η))} {id : SinkId}
    (unnamed : ∀ x ∈ sinks, x.id ≠ id) : ∀ e ∈ sinks.map Sink.enrolment, e.id ≠ id := by
  intro e mem
  obtain ⟨x, old, rfl⟩ := List.mem_map.mp mem
  exact unnamed x old

omit [FileHandle η φ] in
/-- The roster lists the sinks in their order. -/
theorem roster_split {before after : List (Sink (SinkKind η))} {sink : Sink (SinkKind η)}
    (split : s.sinks.sinks = before ++ sink :: after) :
    s.roster =
      before.map Sink.enrolment ++ sink.enrolment :: after.map Sink.enrolment := by
  rw [roster, split, List.map_append, List.map_cons]

/-- Taking a transfer out takes the first of its name off the roster. -/
theorem Finishes.roster {id : SinkId} {before after : List Enrolment} {e : Enrolment}
    (finishes : s.Finishes id answer s') (split : s.roster = before ++ e :: after)
    (first : ∀ x ∈ before, x.id ≠ id) (named : e.id = id) (moves : e.service = .tftp) :
    s'.roster = before ++ after := by
  have erased : s.roster.eraseP (·.id = id) = before ++ after := by
    rw [split, eraseP_named first named]
  cases finishes with
  | unknown none =>
    obtain ⟨left, rest, sinks, rfl, right⟩ := List.map_eq_append_iff.mp split
    obtain ⟨sink, others, rfl, rfl, rfl⟩ := List.map_eq_cons_iff.mp right
    have found : s.sinks.get? id = some sink := by
      refine List.find?_eq_some_iff_append.mpr ⟨decide_eq_true named, left, others, sinks, ?_⟩
      intro x mem
      have other : x.id ≠ id := first x.enrolment (List.mem_map_of_mem mem)
      simpa using other
    rw [transfer?, found] at none
    have moves : sink.kind.service = .tftp := moves
    cases kind : sink.kind <;> simp [kind, SinkKind.service] at moves none
  | ended _ split' first' named' =>
    rw [← erased, roster_split split', eraseP_named (enrolments_unnamed first') named']
    exact List.map_append
  | abandoned _ split' first' named' =>
    rw [← erased, roster_split split', eraseP_named (enrolments_unnamed first') named']
    exact List.map_append

/-- **The roster is the same as before**, however moving the file went. -/
theorem RunsTransfer.roster (runs : s.RunsTransfer opener job answer s') (free : s.NameFree) :
    s'.roster = s.roster := by
  cases runs with
  | refused starts => cases starts <;> rfl
  | through starts tends finishes =>
    cases starts with
    | @started _ port nextPort file volume core sink _ _ _ filter kind =>
      obtain ⟨before, after, split, placed⟩ :=
        exists_place_eq { sink with id := ⟨s.sinks.nextNumber⟩ } s.sinks.sinks
      have same := tends.roster.trans (roster_split placed)
      have first : ∀ x ∈ before.map Sink.enrolment, x.id ≠ ⟨s.sinks.nextNumber⟩ := by
        apply enrolments_unnamed
        intro x mem
        exact free x (by rw [split]; exact List.mem_append_left _ mem)
      rw [finishes.roster same first rfl (by rw [Sink.enrolment, kind]; rfl), Stack.roster, split,
        List.map_append]

/-! ## Its file is closed -/

/-- A sink among others adds the number of its file to theirs. -/
theorem count_numbersOf_middle (before after : List (Sink (SinkKind (Numbered η))))
    (sink : Sink (SinkKind (Numbered η))) (n : Nat) :
    (numbersOf (before ++ sink :: after)).count n =
      (numbersOf (before ++ after)).count n + sink.kind.number?.toList.count n := by
  unfold numbersOf
  rw [List.flatMap_append, List.flatMap_append, List.flatMap_cons, List.count_append,
    List.count_append, List.count_append]
  omega

/-- A transfer that is abandoned is over. -/
theorem cancel_released (up : Uplink (Core ω)) (x : Transfer.Session η (Core ω) φ)
    (tidy : x.transfer.Tidy) : (x.cancel up).transfer.file = none := by
  apply (Transfer.Changes.tidy (x.becomes_cancel up) tidy).released
  rw [Transfer.Session.cancel_transfer]
  exact x.fail_phase up _ _

/-- Taking a transfer out closes its file if that is still open. -/
theorem Finishes.tally {s s' : Stack ω (Numbered η) (Register φ)} {id : SinkId}
    (finishes : s.Finishes id answer s')
    (tidy : ∀ sink ∈ s.sinks.sinks, sink.id = id →
      ∀ t, sink.kind = .tftp t → t.Tidy) (n : Nat) :
    s'.volume.opened = s.volume.opened ∧ s'.tally n = s.tally n := by
  cases finishes with
  | unknown => exact ⟨rfl, rfl⟩
  | @ended before after sink t _ split _ named kind done =>
    have neat := tidy sink (by rw [split]; exact List.mem_append_right _ List.mem_cons_self)
      named t kind
    have none : sink.kind.number? = none := by
      rw [kind, SinkKind.number?, SinkKind.transfer?, Option.bind_some,
        neat.released (neat.outcome.mp done)]
      rfl
    refine ⟨rfl, ?_⟩
    have middle := count_numbersOf_middle before after sink n
    rw [none] at middle
    rw [Stack.tally, Stack.tally, split, middle]
    rfl
  | @abandoned before after sink t x _ split _ named kind _ cancelled =>
    have neat := tidy sink (by rw [split]; exact List.mem_append_right _ List.mem_cons_self)
      named t kind
    have keeps := Transfer.Changes.keeps_register (Transfer.Session.becomes_cancel
      ⟨t, Timer.idle, s.core.tell (.stack (.removed id .tftp)), s.volume⟩ (Core.uplink ω))
    have released := cancel_released (Core.uplink ω)
      ⟨t, Timer.idle, s.core.tell (.stack (.removed id .tftp)), s.volume⟩ neat
    rw [← cancelled] at keeps released
    have count := keeps.count n
    have middle := count_numbersOf_middle before after sink n
    rw [kind] at middle
    rw [released] at count
    refine ⟨keeps.opened, ?_⟩
    rw [Stack.tally, Stack.tally, split, middle]
    change _ = s.volume.closed.count n + (t.file.map (·.number)).toList.count n at count
    change _ = _ + (_ + (t.file.map (·.number)).toList.count n)
    rw [Nat.add_left_comm, ← count, Nat.add_comm]
    rfl

/-- What is taken out is not put back. -/
theorem Finishes.subset {id : SinkId} (finishes : s.Finishes id answer s') :
    ∀ sink ∈ s'.sinks.sinks, sink ∈ s.sinks.sinks := by
  cases finishes with
  | unknown => exact fun _ mem => mem
  | ended _ split =>
    rw [split]
    exact (List.Sublist.append_left (List.sublist_cons_self _ _) _).subset
  | abandoned _ split =>
    rw [split]
    exact (List.Sublist.append_left (List.sublist_cons_self _ _) _).subset

/-- Nobody but the sink of a name holds the file of a number, and its transfer is tidy. -/
structure Holds (id : SinkId) (n : Nat) (sink : Sink (SinkKind (Numbered η))) : Prop where
  tidy : sink.id = id → ∀ t, sink.kind = .tftp t → t.Tidy
  holder : sink.kind.number? = some n → sink.id = id

/-- Nobody else comes to hold the file while a sink is tended, and its transfer stays tidy. -/
theorem Holds.tended {id : SinkId} {n : Nat} {x y : Sink (SinkKind (Numbered η)) × Register φ}
    (tended : Sink.Tended x y) (holds : Holds id n x.1) : Holds id n y.1 := by
  constructor
  · intro named t' kind'
    have named : x.1.id = id := tended.id.symm.trans named
    have goes := tended.goes
    obtain ⟨⟨_, _, _, _, kind⟩, v⟩ := x
    obtain ⟨⟨_, _, _, _, kind''⟩, v'⟩ := y
    dsimp only at kind' goes
    subst kind'
    cases goes with
    | service other same => exact absurd same.symm other
    | transfer changes => exact changes.tidy (holds.tidy named _ rfl)
  · intro held
    rw [tended.id]
    rcases tended.keeps_register.closed with ⟨same, -⟩ | ⟨gone, -⟩
    · exact holds.holder (same.symm.trans held)
    · cases gone.symm.trans held

/-- A number is counted nowhere if no sink holds its file. -/
theorem count_numbersOf_eq_zero_iff {sinks : List (Sink (SinkKind (Numbered η)))} {n : Nat} :
    (numbersOf sinks).count n = 0 ↔ ∀ sink ∈ sinks, sink.kind.number? ≠ some n := by
  simp [numbersOf, List.count_eq_zero]

/-- Nothing is opened for a transfer that does not begin. -/
theorem Starts.opened_of_error {s s' : Stack ω (Numbered η) (Register φ)} {opener : FileOpener η φ}
    {e : TransferError} (starts : s.Starts opener.numbered job (.error e) s') :
    s'.volume.opened = s.volume.opened := by
  cases starts with
  | unconfigured | crowded => rfl
  | unopened _ failed => exact Numbered.not_opened_numbered failed

/-- What a transfer that begins opens: one file, which its sink holds and nobody else. -/
structure Opens (s s' : Stack ω (Numbered η) (Register φ)) (id : SinkId) : Prop where
  name : id = ⟨s.sinks.nextNumber⟩
  opened : s'.volume.opened = s.volume.opened + 1
  tally : s'.tally s.volume.opened = 1
  holds : ∀ x ∈ s'.sinks.sinks, Holds id s.volume.opened x

/-- A transfer that begins opens a file with a new number, and its sink holds it. -/
theorem Starts.opens {s s' : Stack ω (Numbered η) (Register φ)} {opener : FileOpener η φ}
    {id : SinkId} (starts : s.Starts opener.numbered job (.ok id) s') (free : s.NameFree)
    (known : s.Registered) : s.Opens s' id := by
  cases starts with
  | @started ours port nextPort file volume core sink _ _ opened filter kind =>
    obtain ⟨number, next, closed⟩ := Numbered.opened_numbered opened
    have unheld : s.volume.closed.count s.volume.opened +
        (numbersOf s.sinks.sinks).count s.volume.opened = 0 := known _ (Nat.le_refl _)
    refine ⟨rfl, next, ?_, ?_⟩
    · obtain ⟨before, after, split, placed⟩ :=
        exists_place_eq { sink with id := ⟨s.sinks.nextNumber⟩ } s.sinks.sinks
      have held : sink.kind.number? = some s.volume.opened := by
        rw [kind, ← number]
        rfl
      have middle := count_numbersOf_middle before after
        { sink with id := ⟨s.sinks.nextNumber⟩ } s.volume.opened
      rw [split] at unheld
      change volume.closed.count s.volume.opened + (numbersOf (SinkTable.place _ _)).count _ = 1
      rw [placed, middle, closed, held, Option.toList_some, List.count_singleton_self]
      omega
    · intro x mem
      rcases (mem_place_iff _ _ _).mp mem with rfl | old
      · refine ⟨fun _ t eq => ?_, fun _ => rfl⟩
        cases kind.symm.trans eq
        exact ⟨iff_of_false Bool.false_ne_true nofun, nofun⟩
      · refine ⟨fun named => absurd named (free x old), fun mine => ?_⟩
        have none := count_numbersOf_eq_zero_iff.mp (Nat.add_eq_zero_iff.mp unheld).2
        exact absurd mine (none x old)

omit [FileHandle η φ] in
/-- Nobody holds a file that only the sink of a free name could hold, once the roster is as it
was. -/
theorem count_numbersOf_of_roster {s s' : Stack ω (Numbered η) (Register φ)} {n : Nat}
    (free : s.NameFree) (same : s'.roster = s.roster)
    (holds : ∀ x ∈ s'.sinks.sinks, Holds ⟨s.sinks.nextNumber⟩ n x) :
    (numbersOf s'.sinks.sinks).count n = 0 := by
  rw [count_numbersOf_eq_zero_iff]
  intro x mem mine
  have named := (holds x mem).holder mine
  have listed : x.enrolment ∈ s.roster := by
    rw [← same]
    exact List.mem_map_of_mem mem
  obtain ⟨x', mem', same⟩ := List.mem_map.mp listed
  have named' : x'.id = x.id := congrArg Enrolment.id same
  exact free x' mem' (named'.trans named)

/-- **Each file that is opened has been closed once**, however moving it went. -/
theorem RunsTransfer.closed {s s' : Stack ω (Numbered η) (Register φ)} {opener : FileOpener η φ}
    (runs : s.RunsTransfer opener.numbered job answer s') (free : s.NameFree)
    (known : s.Registered) {n : Nat} (new : s.volume.opened ≤ n) (below : n < s'.volume.opened) :
    s'.volume.closed.count n = 1 := by
  have roster := runs.roster free
  cases runs with
  | refused starts =>
    rw [starts.opened_of_error] at below
    exact absurd below (Nat.not_lt_of_le new)
  | @through id s₁ s₂ _ _ starts tends finishes =>
    obtain ⟨rfl, opened₁, once, start⟩ := starts.opens free known
    have waiting := tends.each (Holds _ _) (fun _ _ => Holds.tended) start
    have tidy := fun x mem => (waiting x mem).tidy
    have opened : s'.volume.opened = s.volume.opened + 1 :=
      ((finishes.tally tidy 0).1.trans (tends.tally 0).1).trans opened₁
    obtain rfl : n = s.volume.opened := by
      rw [opened] at below
      exact Nat.le_antisymm (Nat.le_of_lt_succ below) new
    have tally : s'.tally s.volume.opened = 1 :=
      ((finishes.tally tidy _).2.trans (tends.tally _).2).trans once
    have nobody := count_numbersOf_of_roster free roster fun x mem =>
      waiting x (finishes.subset x mem)
    unfold Stack.tally at tally
    rwa [nobody] at tally

/-! ## A transfer that is abandoned -/

/-- The core of a stack from which a transfer is taken out that was not over: if the port of the
server is known, one datagram has been sent there, an error, and else nothing. The log aside, that
is all. -/
def Notified (t : Transfer η) (c c' : Core ω) : Prop :=
  ∃ log log', c' =
    match t.serverPort with
    | none => { c with log }
    | some port =>
      { ({ c with log }.sendDatagram t.localPort t.server port
          (TftpPacket.error Tftp.errorNotDefined TransferError.cancelled.message).octets).2 with
        log := log' }

/-- To end a transfer does nothing to the core but tell the operator, and it is still the transfer
with the server. -/
theorem finish_core (x : Transfer.Session η (Core ω) φ) (result : Except TransferError Unit) :
    (∃ log, (x.finish (Core.uplink ω) result).link = { x.link with log }) ∧
      (x.finish (Core.uplink ω) result).transfer.serverPort = x.transfer.serverPort ∧
      (x.finish (Core.uplink ω) result).transfer.localPort = x.transfer.localPort ∧
      (x.finish (Core.uplink ω) result).transfer.server = x.transfer.server := by
  by_cases done : x.transfer.phase = .done
  · rw [Transfer.Session.finish_of_done _ x done]
    exact ⟨⟨_, rfl⟩, rfl, rfl, rfl⟩
  · refine ⟨?_, ?_⟩
    · have link := x.closeFile_link
      unfold Transfer.Session.finish
      rw [if_neg done]
      generalize x.closeFile = closed at link ⊢
      obtain ⟨answer, transfer, timer, link', volume⟩ := closed
      dsimp only at link
      subst link
      exact ⟨_, rfl⟩
    · rw [Transfer.Session.finish_transfer _ x done]
      exact ⟨rfl, rfl, rfl⟩

/-- To abandon a transfer whose server is known is to end it and to send the server an error. -/
theorem cancel_locked (x : Transfer.Session η (Core ω) φ) {ended : Transfer.Session η (Core ω) φ}
    (finished : x.finish (Core.uplink ω) (.error .cancelled) = ended) {port : UInt16}
    (locked : ended.transfer.serverPort = some port) :
    ∃ log, (x.cancel (Core.uplink ω)).link =
      { (ended.link.sendDatagram ended.transfer.localPort ended.transfer.server port
          (TftpPacket.error Tftp.errorNotDefined TransferError.cancelled.message).octets).2 with
        log } := by
  have failed : x.fail (Core.uplink ω) .cancelled Tftp.errorNotDefined =
      ended.send (Core.uplink ω)
        (.error Tftp.errorNotDefined TransferError.cancelled.message) := by
    unfold Transfer.Session.fail
    rw [finished]
    exact if_pos (by rw [locked]; rfl)
  have sent : (ended.send (Core.uplink ω)
      (.error Tftp.errorNotDefined TransferError.cancelled.message)).2.link =
        (ended.link.sendDatagram ended.transfer.localPort ended.transfer.server port
          (TftpPacket.error Tftp.errorNotDefined TransferError.cancelled.message).octets).2 := by
    unfold Transfer.Session.send
    rw [locked]
    rfl
  unfold Transfer.Session.cancel
  rw [failed, ← sent]
  split <;> rename_i eq <;> rw [eq]
  · exact ⟨_, rfl⟩
  · exact ⟨_, rfl⟩

/-- To abandon a transfer tells its server, once and by an error, if the port of the server is
known. -/
theorem cancel_core (x : Transfer.Session η (Core ω) φ) :
    Notified x.transfer x.link (x.cancel (Core.uplink ω)).link := by
  obtain ⟨⟨log, finished⟩, serverPort, localPort, server⟩ := finish_core x (.error .cancelled)
  unfold Notified
  cases locked : x.transfer.serverPort with
  | none =>
    have failed : x.fail (Core.uplink ω) .cancelled Tftp.errorNotDefined =
        (.ok (), x.finish (Core.uplink ω) (.error .cancelled)) := by
      unfold Transfer.Session.fail
      exact if_neg (by rw [serverPort, locked]; nofun)
    unfold Transfer.Session.cancel
    rw [failed]
    exact ⟨log, log, finished⟩
  | some port =>
    obtain ⟨log', sent⟩ := cancel_locked x rfl (serverPort.trans locked)
    rw [finished, localPort, server] at sent
    exact ⟨log, log', sent⟩

/-- What it means that the transfer of a name, which was not over, is abandoned. -/
structure Abandons (s : Stack ω η φ) (id : SinkId) (t : Transfer η)
    (answer : Except TransferError TransferReport) (s' : Stack ω η φ) : Prop where
  /-- This is the answer. -/
  answer : answer = .error .cancelled
  /-- Its sink is taken out, and no other sink is touched. -/
  sinks : ∃ before sink after, s.sinks.sinks = before ++ sink :: after ∧
    (∀ x ∈ before, x.id ≠ id) ∧ sink.id = id ∧ sink.kind = .tftp t ∧
      s'.sinks = { s.sinks with sinks := before ++ after }
  /-- The cursor over the local ports stays. -/
  nextPort : s'.nextPort = s.nextPort
  /-- The server is told, once and by an error, if its port is known. -/
  notified : Notified t s.core s'.core
  /-- The file is closed, and nothing else is done to the volume. -/
  volume : t.phase ≠ .done → s'.volume = t.release s.volume

/-- **To take a transfer out that is not over abandons it.** -/
theorem abandons_finishTransfer {id : SinkId} {t : Transfer η} (known : s.transfer? id = some t)
    (running : t.isFinished = false) :
    s.Abandons id t (s.finishTransfer id).1 (s.finishTransfer id).2 := by
  have finishes := s.finishes_finishTransfer id
  generalize (s.finishTransfer id).1 = answer, (s.finishTransfer id).2 = s' at finishes ⊢
  cases finishes with
  | unknown none => cases none.symm.trans known
  | ended known' _ _ _ _ done =>
    cases known'.symm.trans known
    cases done.symm.trans running
  | @abandoned before after sink _ x known' split first named kind _ cancelled =>
    cases known'.symm.trans known
    have notified := cancel_core
      ⟨t, Timer.idle, s.core.tell (.stack (.removed id .tftp)), s.volume⟩
    rw [← cancelled] at notified
    refine ⟨?_, ⟨before, sink, after, split, first, named, kind, rfl⟩, rfl, notified, ?_⟩
    · rw [cancelled, Transfer.Session.cancel_transfer]
      by_cases done : t.phase = .done
      · rw [Transfer.Session.fail_transfer_of_done _ _ done]
        have undecided : t.outcome = none := by simpa [Transfer.isFinished] using running
        rw [undecided]
        rfl
      · rw [Transfer.Session.fail_transfer _ _ done]
        rfl
    · intro phase
      change x.volume = _
      rw [cancelled, Transfer.Session.cancel_volume, Transfer.Session.fail_volume _ _ phase,
        Transfer.Session.closeFile_volume]

/-! ## Whatever happens -/

/-- **Transfers clean up after themselves**, whatever the files, the world, the operator and the
server do.

When moving a file in one call is over, for better or worse, the same sinks are registered as
before, in the same order. With files that are registered: every file that was opened meanwhile has
been closed, and only once. And to take a transfer out that is not over abandons it.

That the next name is free holds in every run that does not use up the names
(`nameFree_performAll`). -/
theorem transfers_clean_up (opener : FileOpener η φ) (job : TransferJob) (patience : Patience ω) :
    (∀ (s s' : Stack ω η φ) (answer : Except TransferError TransferReport), s.NameFree →
      s.runTransfer opener job patience = .ok (answer, s') → s'.roster = s.roster) ∧
    (∀ (s s' : Stack ω (Numbered η) (Register φ)) (answer : Except TransferError TransferReport),
      s.NameFree → s.Registered → s.runTransfer opener.numbered job patience = .ok (answer, s') →
        ∀ n, s.volume.opened ≤ n → n < s'.volume.opened → s'.volume.closed.count n = 1) ∧
    ∀ (s : Stack ω η φ) (id : SinkId) (t : Transfer η), s.transfer? id = some t →
      t.isFinished = false → s.Abandons id t (s.finishTransfer id).1 (s.finishTransfer id).2 :=
  ⟨fun _ _ _ free ran => (runsTransfer ran).roster free,
    fun _ _ _ free known ran _ new below => (runsTransfer ran).closed free known new below,
    fun _ _ _ known running => abandons_finishTransfer known running⟩

/-- A stack with registered files, as it comes up. -/
def registering : Stack (Tapped Bench) (Numbered RamFile) (Register RamVolume) :=
  (bringUp observed (·.hw.now) rented { hw := {} } { volume := {} }).1.toOption.get rfl

/-- The operator makes one pass and gives up. -/
def hasty : Patience (Tapped Bench) := { polls := 1, between := fun _ => id }

/-- A file is to be moved, and the operator gives up after one pass: the file that was opened is
closed, once, and the three sinks are left. A transfer that was started and is taken out is
abandoned. -/
theorem transfers_clean_up_hasty :
    ∃ answer s answer' s' id t,
      settled.runTransfer RamFile.open? image hasty = .ok (answer, s) ∧
      answer = .error .cancelled ∧ s.roster = settled.roster ∧
      registering.runTransfer (FileOpener.numbered RamFile.open?) image hasty = .ok (answer', s') ∧
      s'.volume.opened = 1 ∧ s'.volume.closed.count 0 = 1 ∧
      (settled.startTransfer RamFile.open? image).2.transfer? id = some t ∧
      (settled.startTransfer RamFile.open? image).2.Abandons id t
        ((settled.startTransfer RamFile.open? image).2.finishTransfer id).1
        ((settled.startTransfer RamFile.open? image).2.finishTransfer id).2 := by
  obtain ⟨sinks, files, abandoned⟩ :=
    transfers_clean_up (ω := Tapped Bench) RamFile.open? image hasty
  obtain ⟨answer, s, ran, cancelled⟩ : ∃ answer s,
      settled.runTransfer RamFile.open? image hasty = .ok (answer, s) ∧
        answer = .error .cancelled := ⟨_, _, rfl, rfl⟩
  obtain ⟨answer', s', ran', opened⟩ : ∃ answer s,
      registering.runTransfer (FileOpener.numbered RamFile.open?) image hasty = .ok (answer, s) ∧
        s.volume.opened = 1 := ⟨_, _, rfl, rfl⟩
  obtain ⟨id, t, known, running⟩ : ∃ id t,
      (settled.startTransfer RamFile.open? image).2.transfer? id = some t ∧
        t.isFinished = false := ⟨⟨4⟩, _, rfl, rfl⟩
  obtain ⟨hw, up⟩ := bringUp_settled
  obtain ⟨hw', up'⟩ : ∃ hw, bringUp observed (·.hw.now) rented { hw := {} } { volume := {} } =
    (.ok registering, hw) := ⟨_, rfl⟩
  have stays : settled.performAll [] = .ok settled := rfl
  have stays' : registering.performAll [] = .ok registering := rfl
  have free : settled.NameFree := nameFree_performAll up (by decide) stays
  have free' : registering.NameFree := nameFree_performAll up' (by decide) stays'
  have known' : registering.Registered := fun n _ => rfl
  refine ⟨answer, s, answer', s', id, t, ran, cancelled, sinks _ _ _ free ran, ran', opened,
    files _ _ _ free' known' ran' 0 (Nat.le_refl _) ?_, known, abandoned _ _ _ known running⟩
  rw [opened]
  exact Nat.one_pos

end Stack

end PolledNet
