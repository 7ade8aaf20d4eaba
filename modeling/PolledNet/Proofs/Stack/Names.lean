import PolledNet.Proofs.Stack.Turnover

/-!
# Names of sinks

A sink that is registered gets the next name, and a name is a number of 32 bits. As long as the
names have not wrapped, all that were given are below the next one and no two sinks share one
(`Stack.NamesBelow`). A command gives at most one name away, so this holds in every run that does
not use up the names (`Stack.NamesBelow.performAll`): nobody has the next name
(`Stack.nameFree_performAll`), and a name says which sink is meant (`Stack.distinct_performAll`).
-/

namespace PolledNet

variable {ω η φ : Type}

namespace Stack

/-- No sink has the name that the next one gets. -/
def NameFree (s : Stack ω η φ) : Prop := ∀ sink ∈ s.sinks.sinks, sink.id ≠ ⟨s.sinks.nextNumber⟩

/-- At most `n` names are spoken for, and each was given once. -/
structure NamesBelow (s : Stack ω η φ) (n : Nat) : Prop where
  /-- The next name is not above `n`. -/
  next : s.sinks.nextNumber.toNat ≤ n
  /-- The names that were given are below the next one. -/
  below : ∀ sink ∈ s.sinks.sinks, sink.id.number < s.sinks.nextNumber
  /-- No two sinks share a name. -/
  distinct : (s.sinks.sinks.map (·.id)).Nodup

variable {s s' : Stack ω η φ} {n : Nat}

/-- What is below the next name is not the next name. -/
theorem NamesBelow.nameFree (names : s.NamesBelow n) : s.NameFree := by
  intro sink mem same
  have below := names.below sink mem
  rw [same] at below
  exact UInt32.lt_irrefl _ below

/-- Names do not wrap before the last one has been given. -/
theorem toNat_nextNumber {number : UInt32} (few : number.toNat + 1 < UInt32.size) :
    (max (number + 1) 1).toNat = number.toNat + 1 := by
  have sum : (number + 1).toNat = number.toNat + 1 := by
    rw [UInt32.toNat_add]
    exact Nat.mod_eq_of_lt few
  have same : max (number + 1) 1 = number + 1 := by
    change (if number + 1 ≤ 1 then 1 else number + 1) = number + 1
    split
    · rename_i least
      rw [UInt32.le_iff_toNat_le, sum] at least
      apply UInt32.toNat_inj.mp
      rw [sum]
      change 1 = _
      change _ ≤ 1 at least
      omega
    · rfl
  rw [same, sum]

/-- A name that was not given before is given once. -/
theorem NamesBelow.distinct_place (names : s.NamesBelow n) {kept : List (Sink (SinkKind η))}
    (less : kept.Sublist s.sinks.sinks) {new : Sink (SinkKind η)}
    (named : new.id = ⟨s.sinks.nextNumber⟩) : ((SinkTable.place new kept).map (·.id)).Nodup := by
  have others : ∀ sink ∈ kept, sink.id ≠ new.id := by
    intro sink mem
    rw [named]
    exact names.nameFree sink (less.subset mem)
  have distinct := names.distinct.sublist (less.map (·.id))
  obtain ⟨before, after, rfl, eq⟩ := exists_place_eq new kept
  rw [eq, List.map_append, List.map_cons, List.nodup_middle, List.nodup_cons, ← List.map_append]
  refine ⟨?_, distinct⟩
  intro mem
  obtain ⟨sink, mem, same⟩ := List.mem_map.mp mem
  exact others sink mem same

variable [FileHandle η φ] {command : Command ω η φ} {commands : List (Command ω η φ)}

/-- Whoever tends the sinks names none. -/
theorem NamesBelow.tends (names : s.NamesBelow n) (tends : s.Tends s') : s'.NamesBelow n := by
  have ids : s'.sinks.sinks.map (·.id) = s.sinks.sinks.map (·.id) := by
    have same := congrArg (List.map Enrolment.id) tends.roster
    unfold roster at same
    rwa [List.map_map, List.map_map] at same
  refine ⟨?_, ?_, ids ▸ names.distinct⟩
  · rw [tends.nextNumber]
    exact names.next
  · intro sink mem
    have named : sink.id ∈ s.sinks.sinks.map (·.id) := ids ▸ List.mem_map_of_mem mem
    obtain ⟨old, before, same⟩ := List.mem_map.mp named
    rw [tends.nextNumber, ← same]
    exact names.below old before

/-- A command gives at most one name away. -/
theorem NamesBelow.perform (names : s.NamesBelow n)
    (few : n + (if command.registers then 1 else 0) < UInt32.size)
    (done : s.perform command = .ok s') :
    s'.NamesBelow (n + if command.registers then 1 else 0) := by
  by_cases tends : command.Tends
  · have tended := names.tends (tends_perform tends done)
    exact ⟨Nat.le_add_right_of_le tended.next, tended.below, tended.distinct⟩
  obtain ⟨kept, less, left | ⟨new, named, brings, put⟩⟩ := turnover_perform tends done
  · refine ⟨?_, ?_, ?_⟩
    · rw [left]
      exact Nat.le_add_right_of_le names.next
    · rw [left]
      exact fun x mem => names.below x (less.subset mem)
    · rw [left]
      exact names.distinct.sublist (less.map _)
  · rw [brings.registers, if_pos rfl] at few ⊢
    have next : (max (s.sinks.nextNumber + 1) 1).toNat = s.sinks.nextNumber.toNat + 1 :=
      toNat_nextNumber (Nat.lt_of_le_of_lt (Nat.succ_le_succ names.next) few)
    refine ⟨?_, ?_, ?_⟩
    · rw [put, next]
      exact Nat.succ_le_succ names.next
    · rw [put]
      intro x mem
      rw [UInt32.lt_iff_toNat_lt, next]
      rcases (mem_place_iff _ _ _).mp mem with rfl | old
      · rw [named]
        exact Nat.lt_succ_self _
      · have before := names.below x (less.subset old)
        exact Nat.lt_succ_of_lt (UInt32.lt_iff_toNat_lt.mp before)
    · rw [put]
      exact names.distinct_place less named

/-- A run gives away as many names as it has commands that may register a sink. -/
theorem NamesBelow.performAll (names : s.NamesBelow n)
    (few : n + commands.countP (·.registers) < UInt32.size)
    (ran : s.performAll commands = .ok s') :
    s'.NamesBelow (n + commands.countP (·.registers)) := by
  induction commands generalizing s n with
  | nil =>
    cases ran
    exact names
  | cons command rest ih =>
    obtain ⟨s₁, done, ran⟩ := exists_of_performAll_cons ran
    rw [List.countP_cons] at few ⊢
    have one := names.perform (by omega) done
    have all := ih one (by omega) ran
    rwa [Nat.add_assoc, Nat.add_comm (ite _ _ _)] at all

section Runs

variable {device : Device ω} {clock : ω → Tick} {config : StackConfig} {hw hw' : ω} {volume : φ}
  {s₀ : Stack ω η φ} (up : bringUp device clock config hw volume = (.ok s₀, hw'))
  (few : 4 + commands.countP (·.registers) < UInt32.size) (ran : s₀.performAll commands = .ok s)

include up

omit [FileHandle η φ] in
/-- The built-in sinks have the names below the next one. -/
theorem namesBelow_bringUp : s₀.NamesBelow 4 := by
  have sinks := sinks_bringUp up
  have next := (next_bringUp up).1
  refine ⟨?_, ?_, ?_⟩
  · rw [next]
    exact Nat.le_refl _
  · rw [sinks, next]
    intro sink mem
    simp only [List.mem_cons, List.not_mem_nil, or_false] at mem
    rcases mem with rfl | rfl | rfl
    · exact (by decide : (2 : UInt32) < 4)
    · exact (by decide : (3 : UInt32) < 4)
    · exact (by decide : (1 : UInt32) < 4)
  · rw [sinks]
    simp only [List.map_cons, List.map_nil]
    decide

include few ran

/-- **The next name is free** in any run that does not use up the names. -/
theorem nameFree_performAll : s.NameFree :=
  ((namesBelow_bringUp up).performAll few ran).nameFree

/-- **No two sinks share a name** in such a run. -/
theorem distinct_performAll : (s.sinks.sinks.map (·.id)).Nodup :=
  ((namesBelow_bringUp up).performAll few ran).distinct

end Runs

end Stack

end PolledNet
