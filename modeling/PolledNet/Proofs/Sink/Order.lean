import PolledNet.Sink.Table
import Mathlib.Data.List.Nodup

/-!
# The order of the sink table

A frame goes to the first sink of the table that accepts it, and the table never compares sinks when
a frame comes in. That the first is also the best is a property of the table's history: a sink is
put behind all that are at least as specific, and taking sinks out does not change the order of the
others.

The history is kept as a `Ledger`: beside the table, the registrations that are still in force, in
the order in which they were made. **The table is the ledger sorted by falling specificity, equals
in the order of registration** (`Ledger.Sorted`); every operation keeps this
(`Ledger.Sorted.after`), and what a frame finds in a sorted table is the earliest of the most
specific registrations that accept it (`Ledger.Sorted.find?_eq`).
-/

namespace PolledNet

/-- What a table is asked to remember of a sink: its name and its filter. -/
structure Registration where
  /-- The name it was given. -/
  id : SinkId
  /-- What it wants to receive. -/
  filter : Filter
  deriving DecidableEq, Repr

namespace Registration

/-- How specific a registration is. -/
def specificity (r : Registration) : Nat := r.filter.specificity

/-- Of the registrations that accept a frame, none is more specific than this one, which does. -/
def Preferred (r : Registration) (all : List Registration) (frame : FrameInfo)
    (ours : Option Ipv4) : Prop :=
  r.filter.accepts frame ours ∧
    ∀ q ∈ all, q.filter.accepts frame ours → q.specificity ≤ r.specificity

/-- Whether a registration is preferred can be computed. -/
instance (r : Registration) (all : List Registration) (frame : FrameInfo) (ours : Option Ipv4) :
    Decidable (r.Preferred all frame ours) :=
  inferInstanceAs (Decidable (_ ∧ _))

end Registration

section

variable {κ : Type}

/-- The registration of a sink. -/
def Sink.registration (s : Sink κ) : Registration := ⟨s.id, s.filter⟩

/-- The registrations of a table, in its order. -/
def SinkTable.registrations (t : SinkTable κ) : List Registration :=
  t.sinks.map Sink.registration

/-! ## Putting a sink in its place -/

/-- A sink is put in beside the others, and none is lost. -/
theorem mem_place_iff (s t : Sink κ) (l : List (Sink κ)) :
    t ∈ SinkTable.place s l ↔ t = s ∨ t ∈ l := by
  induction l with
  | nil => simp [SinkTable.place]
  | cons u rest ih =>
    simp only [SinkTable.place]
    split
    · simp
    · simp only [List.mem_cons, ih]
      tauto

/-- A sorted list stays sorted. -/
theorem pairwise_place (s : Sink κ) {l : List (Sink κ)}
    (sorted : l.Pairwise fun t u => u.specificity ≤ t.specificity) :
    (SinkTable.place s l).Pairwise fun t u => u.specificity ≤ t.specificity := by
  induction l with
  | nil => simp [SinkTable.place]
  | cons u rest ih =>
    obtain ⟨head, tail⟩ := List.pairwise_cons.mp sorted
    simp only [SinkTable.place]
    split
    · next less =>
      refine List.pairwise_cons.mpr ⟨?_, sorted⟩
      intro t ht
      obtain rfl | ht := List.mem_cons.mp ht
      · exact Nat.le_of_lt less
      · exact Nat.le_trans (head t ht) (Nat.le_of_lt less)
    · next least =>
      refine List.pairwise_cons.mpr ⟨?_, ih tail⟩
      intro t ht
      obtain rfl | ht := (mem_place_iff s t rest).mp ht
      · exact Nat.le_of_not_lt least
      · exact head t ht

/-- Among its equals a new sink comes last, and no other class of equals changes. -/
theorem filter_place (s : Sink κ) (n : Nat) {l : List (Sink κ)}
    (sorted : l.Pairwise fun t u => u.specificity ≤ t.specificity) :
    (SinkTable.place s l).filter (·.specificity = n) =
      l.filter (·.specificity = n) ++ [s].filter (·.specificity = n) := by
  induction l with
  | nil => simp [SinkTable.place]
  | cons u rest ih =>
    obtain ⟨head, tail⟩ := List.pairwise_cons.mp sorted
    simp only [SinkTable.place]
    split
    · next less =>
      by_cases h : s.specificity = n
      · -- nothing behind the place of the new sink is as specific as it
        have none : (u :: rest).filter (·.specificity = n) = [] := by
          rw [List.filter_eq_nil_iff]
          intro t ht
          obtain rfl | ht := List.mem_cons.mp ht
          · simp only [decide_eq_true_eq]
            omega
          · have := head t ht
            simp only [decide_eq_true_eq]
            omega
        rw [List.filter_cons_of_pos (by simpa using h), none]
        simp [h]
      · rw [List.filter_cons_of_neg (by simpa using h)]
        simp [h]
    · by_cases h : u.specificity = n
      · rw [List.filter_cons_of_pos (by simpa using h), List.filter_cons_of_pos (by simpa using h),
          ih tail, List.cons_append]
      · rw [List.filter_cons_of_neg (by simpa using h), List.filter_cons_of_neg (by simpa using h),
          ih tail]

/-! ## Taking a sink out, and attending to it -/

/-- Where names are not shared, taking out the first of a name takes out all of it. -/
theorem eraseP_id_eq_filter (id : SinkId) {l : List (Sink κ)} (distinct : (l.map (·.id)).Nodup) :
    l.eraseP (·.id = id) = l.filter (·.id ≠ id) := by
  induction l with
  | nil => rfl
  | cons s rest ih =>
    obtain ⟨fresh, distinct⟩ := List.nodup_cons.mp distinct
    by_cases h : s.id = id
    · have others : rest.filter (·.id ≠ id) = rest := by
        refine List.filter_eq_self.mpr fun t ht => ?_
        simp only [ne_eq, decide_not, Bool.not_eq_true', decide_eq_false_iff_not]
        intro same
        exact fresh (List.mem_map.mpr ⟨t, ht, same.trans h.symm⟩)
      rw [List.eraseP_cons_of_pos (by simpa using h), List.filter_cons_of_neg (by simpa using h),
        others]
    · rw [List.eraseP_cons_of_neg (by simpa using h), List.filter_cons_of_pos (by simpa using h),
        ih distinct]

/-- A change that leaves a sink its name and its filter: to its queue, its timer or its state. -/
def Sink.Upkeep (f : Sink κ → Sink κ) : Prop := ∀ s, (f s).registration = s.registration

/-- Upkeep of the sink at an index leaves the registrations. -/
theorem registrations_modifyAt (t : SinkTable κ) (i : Nat) {f : Sink κ → Sink κ}
    (keeps : Sink.Upkeep f) : (t.modifyAt i f).registrations = t.registrations := by
  apply List.ext_getElem?
  intro j
  simp only [SinkTable.registrations, SinkTable.modifyAt, List.getElem?_map, List.getElem?_modify]
  cases t.sinks[j]? with
  | none => rfl
  | some s =>
    by_cases h : i = j
    · simp [h, keeps s]
    · simp [h]

/-- Upkeep of the sink of a name leaves the registrations. -/
theorem registrations_modify (t : SinkTable κ) (id : SinkId) {f : Sink κ → Sink κ}
    (keeps : Sink.Upkeep f) : (t.modify id f).registrations = t.registrations := by
  unfold SinkTable.modify
  split
  · exact registrations_modifyAt t _ keeps
  · rfl

/-! ## Looking a frame up -/

/-- The sink that a frame finds is the first that accepts it. -/
theorem registration_find? (t : SinkTable κ) (frame : FrameInfo) (ours : Option Ipv4) :
    ((t.find? frame ours).bind t.at?).map Sink.registration =
      t.registrations.find? (·.filter.accepts frame ours) := by
  unfold SinkTable.find? SinkTable.at? SinkTable.registrations
  rw [← List.find?_eq_bind_findIdx?_getElem?, List.find?_map]
  rfl

/-- The first of a list is the first of any part of the list that it belongs to. -/
theorem find?_filter_of_find? {α : Type} {p q : α → Bool} {l : List α} {a : α}
    (first : l.find? p = some a) (belongs : q a) : (l.filter q).find? p = some a := by
  obtain ⟨accepts, before, behind, rfl, refused⟩ := List.find?_eq_some_iff_append.mp first
  rw [List.find?_eq_some_iff_append]
  refine ⟨accepts, before.filter q, behind.filter q, ?_, ?_⟩
  · rw [List.filter_append, List.filter_cons_of_pos belongs]
  · intro b hb
    exact refused b (List.mem_of_mem_filter hb)

/-! ## Histories of a table -/

/-- What can be asked of a table. -/
inductive TableOp (κ : Type) where
  /-- Registers a sink. -/
  | insert (s : Sink κ)
  /-- Takes the sink of a name out. -/
  | remove (id : SinkId)
  /-- Changes the sink of a name. -/
  | edit (id : SinkId) (f : Sink κ → Sink κ)

/-- Filters and names are as they were registered. -/
def TableOp.KeepsFilters : TableOp κ → Prop
  | .edit _ f => Sink.Upkeep f
  | _ => True

/-- Whether an operation registers a sink. -/
def TableOp.isInsert : TableOp κ → Bool
  | .insert _ => true
  | _ => false

/-- A table, and its registrations in force in the order in which they were made. -/
structure Ledger (κ : Type) where
  /-- The table. -/
  table : SinkTable κ := {}
  /-- The registrations, the earliest first. -/
  kept : List Registration := []

namespace Ledger

/-- What an operation does to the table, and to the registrations in force. -/
def after (l : Ledger κ) : TableOp κ → Ledger κ
  | .insert s =>
    let (id, table) := l.table.insert s
    ⟨table, l.kept ++ [⟨id, s.filter⟩]⟩
  | .remove id =>
    ⟨((l.table.remove? id).map (·.2)).getD l.table, l.kept.filter (·.id ≠ id)⟩
  | .edit id f => { l with table := l.table.modify id f }

/-- A history of the empty table. -/
def of (ops : List (TableOp κ)) : Ledger κ := ops.foldl after {}

/-- The table is the ledger in the order of falling specificity, equals in the order of
registration; and the `n` registrations made so far have had different names. -/
structure Sorted (l : Ledger κ) (n : Nat) : Prop where
  falling : l.table.sinks.Pairwise fun s t => t.specificity ≤ s.specificity
  stable : ∀ k, l.table.registrations.filter (·.specificity = k) =
    l.kept.filter (·.specificity = k)
  distinct : (l.kept.map (·.id)).Nodup
  named : ∀ r ∈ l.kept, r.id.number.toNat ≤ n
  next : l.table.nextNumber.toNat = n + 1

namespace Sorted

variable {l : Ledger κ} {n : Nat}

/-- The table holds the registrations in force and no others. -/
theorem perm (h : l.Sorted n) : l.table.registrations.Perm l.kept := by
  rw [List.perm_iff_count]
  intro r
  have same := congrArg (List.count r) (h.stable r.specificity)
  rwa [List.count_filter (by simp), List.count_filter (by simp)] at same

/-- No two sinks of the table share a name. -/
theorem distinct_sinks (h : l.Sorted n) : (l.table.sinks.map (·.id)).Nodup := by
  have : l.table.sinks.map (·.id) = l.table.registrations.map (·.id) := by
    simp [SinkTable.registrations, Sink.registration]
  rw [this]
  exact (h.perm.map _).nodup_iff.mpr h.distinct

/-- Registrations stand in the table by falling specificity. -/
theorem falling_registrations (h : l.Sorted n) :
    l.table.registrations.Pairwise fun r q => q.specificity ≤ r.specificity :=
  List.pairwise_map.mpr h.falling

/-- The table stays sorted when a sink is registered, as long as there are names. -/
theorem insert (h : l.Sorted n) (few : n + 1 < UInt32.size - 1) (s : Sink κ) :
    (l.after (.insert s)).Sorted (n + 1) := by
  have next : l.table.nextNumber.toNat = n + 1 := h.next
  refine ⟨pairwise_place _ h.falling, fun k => ?_, ?_, ?_, ?_⟩
  · have placed := congrArg (List.map Sink.registration)
      (filter_place { s with id := ⟨l.table.nextNumber⟩ } k h.falling)
    have old := h.stable k
    simp only [SinkTable.registrations, List.filter_map] at old ⊢
    rw [List.map_append] at placed
    refine placed.trans ?_
    rw [after, List.filter_append]
    congr 1
    by_cases hk : s.filter.specificity = k
    · simp [Sink.registration, Sink.specificity, Registration.specificity, SinkTable.insert, hk]
    · simp [Sink.specificity, Registration.specificity, SinkTable.insert, hk]
  · have fresh : (⟨l.table.nextNumber⟩ : SinkId) ∉ l.kept.map (·.id) := by
      intro old
      obtain ⟨r, hr, named⟩ := List.mem_map.mp old
      have := h.named r hr
      rw [named] at this
      change l.table.nextNumber.toNat ≤ n at this
      omega
    simpa [after, SinkTable.insert, List.nodup_append, List.forall_mem_ne'] using
      ⟨h.distinct, by simpa using fresh⟩
  · intro r hr
    obtain hr | hr := List.mem_append.mp hr
    · exact Nat.le_succ_of_le (h.named r hr)
    · rw [List.mem_singleton.mp hr]
      exact Nat.le_of_eq next
  · -- numbers do not wrap before the last one has been given
    show (max (l.table.nextNumber + 1) 1).toNat = n + 2
    have sum : (l.table.nextNumber + 1).toNat = n + 2 := by
      rw [UInt32.toNat_add, next]
      exact Nat.mod_eq_of_lt (show n + 2 < UInt32.size by omega)
    have least : ¬ l.table.nextNumber + 1 ≤ 1 := by
      rw [UInt32.le_iff_toNat_le, sum]
      simp
    rw [show max (l.table.nextNumber + 1) 1 = l.table.nextNumber + 1 from if_neg least, sum]

/-- Taking out a name leaves the sinks of the other names, whether or not there was one of it. -/
theorem sinks_remove (h : l.Sorted n) (id : SinkId) :
    (l.after (.remove id)).table = { l.table with sinks := l.table.sinks.filter (·.id ≠ id) } := by
  simp only [after, SinkTable.remove?, SinkTable.get?]
  cases found : l.table.sinks.find? (·.id = id) with
  | some s =>
    simp only [Option.map_some, Option.getD_some]
    rw [eraseP_id_eq_filter id h.distinct_sinks]
  | none =>
    have others : l.table.sinks.filter (·.id ≠ id) = l.table.sinks := by
      refine List.filter_eq_self.mpr fun s hs => ?_
      simpa using List.find?_eq_none.mp found s hs
    rw [others]
    rfl

/-- A ledger stays sorted when a sink is taken out. -/
theorem remove (h : l.Sorted n) (id : SinkId) : (l.after (.remove id)).Sorted n := by
  have left := h.sinks_remove id
  refine ⟨?_, fun k => ?_, ?_, ?_, ?_⟩
  · rw [left]
    exact h.falling.filter _
  · have old := congrArg (List.filter (·.id ≠ id)) (h.stable k)
    rw [List.filter_comm, List.filter_comm _ _ l.kept] at old
    refine Eq.trans ?_ old
    rw [left]
    simp only [SinkTable.registrations, List.filter_map]
    rfl
  · exact h.distinct.sublist (List.filter_sublist.map _)
  · intro r hr
    exact h.named r (List.mem_of_mem_filter hr)
  · rw [left]
    exact h.next

/-- A ledger stays sorted when a sink is attended to. -/
theorem edit (h : l.Sorted n) (id : SinkId) {f : Sink κ → Sink κ} (keeps : Sink.Upkeep f) :
    (l.after (.edit id f)).Sorted n := by
  have same := registrations_modify l.table id keeps
  refine ⟨?_, fun k => ?_, h.distinct, h.named, ?_⟩
  · have falling := h.falling_registrations
    rw [← same] at falling
    exact List.pairwise_map.mp falling
  · exact (congrArg _ same).trans (h.stable k)
  · simp only [after, SinkTable.modify]
    split
    · exact h.next
    · exact h.next

/-- What a frame finds in a sorted table: the earliest of the registrations that nothing in force
is preferable to. -/
theorem find?_eq (h : l.Sorted n) (frame : FrameInfo) (ours : Option Ipv4) :
    l.table.registrations.find? (·.filter.accepts frame ours) =
      l.kept.find? fun r => r.Preferred l.kept frame ours := by
  cases first : l.table.registrations.find? (·.filter.accepts frame ours) with
  | none =>
    symm
    rw [List.find?_eq_none] at first ⊢
    intro r hr preferred
    exact first r (h.perm.mem_iff.mpr hr) (of_decide_eq_true preferred).1
  | some r =>
    obtain ⟨accepts, before, behind, same, refused⟩ := List.find?_eq_some_iff_append.mp first
    -- what stands before the first refuses the frame, what stands behind it is not more specific
    have best : ∀ q ∈ l.kept, q.filter.accepts frame ours → q.specificity ≤ r.specificity := by
      intro q hq takes
      have falling := h.falling_registrations
      have listed := h.perm.mem_iff.mpr hq
      rw [same] at falling listed
      obtain hq | hq := List.mem_append.mp listed
      · have := refused q hq
        simp [takes] at this
      · obtain rfl | hq := List.mem_cons.mp hq
        · exact Nat.le_refl _
        · exact (List.pairwise_cons.mp (List.pairwise_append.mp falling).2.1).1 q hq
    have listed : r ∈ l.kept := h.perm.mem_iff.mp (List.mem_of_find?_eq_some first)
    -- so the preferred registrations are those of its class that accept the frame
    have preferred : ∀ q ∈ l.kept, decide (q.Preferred l.kept frame ours) =
        (decide (q.specificity = r.specificity) && q.filter.accepts frame ours) := by
      intro q hq
      rw [Bool.eq_iff_iff, decide_eq_true_iff, Bool.and_eq_true, decide_eq_true_iff]
      constructor
      · rintro ⟨takes, most⟩
        exact ⟨Nat.le_antisymm (best q hq takes) (most r listed accepts), takes⟩
      · rintro ⟨level, takes⟩
        exact ⟨takes, fun q' hq' takes' => level ▸ best q' hq' takes'⟩
    symm
    calc l.kept.find? (fun q => q.Preferred l.kept frame ours)
        = (l.kept.filter fun q =>
            decide (q.specificity = r.specificity) && q.filter.accepts frame ours).head? := by
          rw [← List.head?_filter, List.filter_congr preferred]
      _ = (l.kept.filter (·.specificity = r.specificity)).find? (·.filter.accepts frame ours) := by
          rw [← List.head?_filter, List.filter_filter]
          simp only [Bool.and_comm]
      _ = (l.table.registrations.filter (·.specificity = r.specificity)).find?
            (·.filter.accepts frame ours) := by
          rw [h.stable]
      _ = some r := find?_filter_of_find? first (by simp)

/-- A frame finds no sink exactly if no registration in force accepts it. -/
theorem find?_eq_none_iff (h : l.Sorted n) (frame : FrameInfo) (ours : Option Ipv4) :
    l.table.find? frame ours = none ↔ ∀ r ∈ l.kept, ¬ r.filter.accepts frame ours := by
  unfold SinkTable.find?
  rw [List.findIdx?_eq_none_iff]
  constructor
  · intro refused r hr
    obtain ⟨s, hs, rfl⟩ := List.mem_map.mp (h.perm.mem_iff.mpr hr)
    exact Bool.not_eq_true _ ▸ refused s hs
  · intro refused s hs
    have listed : s.registration ∈ l.kept := h.perm.mem_iff.mp (List.mem_map_of_mem hs)
    exact Bool.eq_false_iff.mpr (refused _ listed)

end Sorted

/-- A ledger stays sorted in any operation. -/
theorem Sorted.after {l : Ledger κ} {n : Nat} (h : l.Sorted n) {op : TableOp κ}
    (few : n + op.isInsert.toNat < UInt32.size - 1) (unedited : op.KeepsFilters) :
    (l.after op).Sorted (n + op.isInsert.toNat) := by
  cases op with
  | insert s => exact h.insert few s
  | remove id => exact h.remove id
  | edit id f => exact h.edit id unedited

/-- Every history. -/
theorem Sorted.foldl {ops : List (TableOp κ)} : ∀ {l : Ledger κ} {n : Nat}, l.Sorted n →
    n + ops.countP TableOp.isInsert < UInt32.size - 1 → (∀ op ∈ ops, op.KeepsFilters) →
    (ops.foldl Ledger.after l).Sorted (n + ops.countP TableOp.isInsert) := by
  induction ops with
  | nil =>
    intro l n h few unedited
    exact h
  | cons op rest ih =>
    intro l n h few unedited
    have count : n + (op :: rest).countP TableOp.isInsert =
        n + op.isInsert.toNat + rest.countP TableOp.isInsert := by
      rw [List.countP_cons]
      cases op.isInsert
      · simp
      · simp only [↓reduceIte, Bool.toNat_true]
        omega
    rw [count] at few ⊢
    have one := h.after (by omega) (unedited op List.mem_cons_self)
    exact ih one few fun op' h' => unedited op' (List.mem_cons_of_mem _ h')

/-- An empty table is sorted. -/
theorem sorted_empty : (⟨{}, []⟩ : Ledger κ).Sorted 0 :=
  ⟨.nil, fun _ => rfl, .nil, by simp, rfl⟩

end Ledger

/-- **The most specific sink gets the frame.** After any history of registrations, removals and
attention to the sinks in between, with fewer than `UInt32.size - 1` registrations, the table holds
exactly the registrations in force, in the order of falling specificity, equals in the order of
registration, and no two sinks share a name. So the sink that a frame finds is the earliest
registered of the most specific ones that accept it, and it finds none exactly if none does. -/
theorem SinkTable.find?_earliest_most_specific (ops : List (TableOp κ))
    (few : ops.countP TableOp.isInsert < UInt32.size - 1) (unedited : ∀ op ∈ ops, op.KeepsFilters) :
    let table := (Ledger.of ops).table
    let kept := (Ledger.of ops).kept
    table.registrations.Perm kept ∧
      table.registrations.Pairwise (fun r q => q.specificity ≤ r.specificity) ∧
      (∀ n, table.registrations.filter (·.specificity = n) = kept.filter (·.specificity = n)) ∧
      (table.sinks.map (·.id)).Nodup ∧
      ∀ (frame : FrameInfo) (ours : Option Ipv4),
        ((table.find? frame ours).bind table.at?).map Sink.registration =
            kept.find? (fun r => r.Preferred kept frame ours) ∧
          (table.find? frame ours = none ↔ ∀ r ∈ kept, ¬ r.filter.accepts frame ours) := by
  have h := Ledger.sorted_empty.foldl (by simpa using few) unedited
  refine ⟨h.perm, h.falling_registrations, h.stable, h.distinct_sinks, fun frame ours => ⟨?_, ?_⟩⟩
  · rw [registration_find?]
    exact h.find?_eq frame ours
  · exact h.find?_eq_none_iff frame ours

end

/-- The first sink takes anything, the two others want frames of one type: once the earlier of these
is gone, the later one gets such a frame. -/
theorem SinkTable.find?_earliest_most_specific_afterRemoval :
    let arp : Filter := { ethertype := some 0x0806 }
    let ops : List (TableOp Unit) :=
      [.insert { filter := {}, kind := () }, .insert { filter := arp, kind := () },
        .insert { filter := arp, kind := () }, .edit ⟨3⟩ fun s => { s with queue := {} },
        .remove ⟨2⟩]
    let table := (Ledger.of ops).table
    ((table.find? { ethertype := 0x0806 } none).bind table.at?).map Sink.registration =
      some ⟨⟨3⟩, arp⟩ := by
  intro arp ops table
  have unedited : ∀ op ∈ ops, op.KeepsFilters := by
    simp [ops, TableOp.KeepsFilters, Sink.Upkeep, Sink.registration]
  have few : ops.countP TableOp.isInsert < UInt32.size - 1 := by decide
  obtain ⟨-, -, -, -, finds⟩ := SinkTable.find?_earliest_most_specific ops few unedited
  exact (finds { ethertype := 0x0806 } none).1.trans (by decide)

end PolledNet
