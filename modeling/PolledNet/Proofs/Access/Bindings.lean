import PolledNet.Proofs.Access.Octets
import PolledNet.Proofs.Arp.Cache

/-!
# Checked address bindings

The bindings are looked up by searching for a position, and then read, replaced or removed at that
position. As long as no address has two bindings (`ArpCache.Distinct`), which every operation keeps,
the position exists whenever it is used, and what happens there is what happens to the binding of
the address (`ArpCache.checkedResolve_eq`, `ArpCache.checkedLearn_eq`, `ArpCache.checkedSweep_eq`).
-/

namespace PolledNet

namespace ArpCache

variable {c : ArpCache} {a : Ipv4}

/-! ## One binding for an address -/

/-- No address has two bindings. -/
def Distinct (c : ArpCache) : Prop := (c.entries.map (·.address)).Nodup

/-- An empty cache has no two bindings for an address. -/
theorem distinct_empty : Distinct empty := List.nodup_nil

/-- Leaving some bindings out. -/
theorem Distinct.filter (distinct : c.Distinct) (keep : ArpEntry → Bool) :
    Distinct ⟨c.entries.filter keep⟩ :=
  List.Nodup.sublist (List.Sublist.map _ List.filter_sublist) distinct

/-- A binding that is put in takes the place of the one for its address, if there is one. -/
theorem Distinct.insert (distinct : c.Distinct) (e : ArpEntry) : Distinct (c.insert e) := by
  unfold ArpCache.insert Distinct
  split
  · have same : (c.entries.map fun old => if old.address = e.address then e else old).map
        (·.address) = c.entries.map (·.address) := by
      rw [List.map_map]
      apply List.map_congr_left
      intro old _
      simp only [Function.comp]
      split
      · rename_i eq
        exact eq.symm
      · rfl
    rw [same]
    exact distinct
  · rename_i unknown
    rw [List.map_append, List.nodup_append]
    refine ⟨distinct, by simp, ?_⟩
    intro x known y new eq
    obtain ⟨old, mem, rfl⟩ := List.mem_map.mp known
    rw [List.map_singleton, List.mem_singleton] at new
    exact unknown (List.any_eq_true.mpr ⟨old, mem, decide_eq_true (eq.trans new)⟩)

/-- Asking for an address makes no second binding for it. -/
theorem Distinct.resolve (distinct : c.Distinct) (a : Ipv4) (now retry : Tick) :
    Distinct (c.resolve a now retry).2 := by
  rcases c.resolve_cases a now retry with ⟨mac, eq⟩ | eq | eq | ⟨mac, attempt, eq⟩ <;> rw [eq]
  · exact distinct
  · exact distinct
  · exact distinct.filter _
  · exact distinct.insert _

/-! ## Positions -/

/-- The position of the binding of an address. -/
def position? (c : ArpCache) (a : Ipv4) : Option Nat := c.entries.findIdx? (·.address = a)

/-- An address without a position is unknown. -/
theorem entry?_of_position? (unknown : c.position? a = none) : c.entry? a = none := by
  unfold entry?
  rw [List.find?_eq_none]
  intro x mem
  simpa using List.findIdx?_eq_none_iff.mp unknown x mem

/-- The binding of an unknown address goes behind all others. -/
theorem insert_of_position? (unknown : c.position? a = none) {new : ArpEntry}
    (address : new.address = a) : c.insert new = ⟨c.entries ++ [new]⟩ := by
  have absent : ¬c.entries.any (·.address = new.address) := by
    rw [address, Bool.not_eq_true, List.any_eq_false]
    intro x mem
    simpa using List.findIdx?_eq_none_iff.mp unknown x mem
  rw [ArpCache.insert, if_neg absent]

/-- At its position is the binding of the address, and there is no other. -/
theorem exists_of_position? {i : Nat} (distinct : c.Distinct) (found : c.position? a = some i) :
    ∃ before e after, c.entries = before ++ e :: after ∧ before.length = i ∧ e.address = a ∧
      (∀ x ∈ before, x.address ≠ a) ∧ ∀ x ∈ after, x.address ≠ a := by
  obtain ⟨inside, here, others⟩ := List.findIdx?_eq_some_iff_getElem.mp found
  have here : c.entries[i].address = a := of_decide_eq_true here
  have split : c.entries = c.entries.take i ++ c.entries[i] :: c.entries.drop (i + 1) := by
    rw [List.getElem_cons_drop, List.take_append_drop]
  refine ⟨_, _, _, split, List.length_take_of_le (Nat.le_of_lt inside), here, ?_, ?_⟩
  · intro x mem
    obtain ⟨j, early, rfl⟩ := List.mem_take_iff_getElem.mp mem
    simpa using others j (by omega)
  · intro x mem same
    rw [Distinct, split, List.map_append, List.map_cons, List.nodup_append] at distinct
    refine (List.nodup_cons.mp distinct.2.1).1 ?_
    rw [here, ← same]
    exact List.mem_map_of_mem mem

section Split

variable {before after : List ArpEntry} {e : ArpEntry} (split : c.entries = before ++ e :: after)
  (here : e.address = a) (early : ∀ x ∈ before, x.address ≠ a) (late : ∀ x ∈ after, x.address ≠ a)

include split here early

/-- A binding is found behind those for other addresses. -/
theorem entry?_of_split : c.entry? a = some e := by
  unfold entry?
  rw [split, List.find?_append,
    List.find?_eq_none.mpr fun x mem => by simpa using early x mem, Option.none_or]
  exact List.find?_cons_of_pos (decide_eq_true here)

include late

/-- A binding is replaced at its place. -/
theorem insert_of_split {new : ArpEntry} (address : new.address = a) :
    c.insert new = ⟨before ++ new :: after⟩ := by
  have keeps {l : List ArpEntry} (other : ∀ x ∈ l, x.address ≠ a) :
      (l.map fun old => if old.address = new.address then new else old) = l := by
    rw [address]
    exact List.map_congr_left (fun x mem => if_neg (other x mem)) |>.trans (List.map_id l)
  have known : c.entries.any (·.address = new.address) = true := by
    rw [List.any_eq_true]
    exact ⟨e, split ▸ List.mem_append_right _ List.mem_cons_self,
      decide_eq_true (here.trans address.symm)⟩
  rw [ArpCache.insert, if_pos known, split, List.map_append, List.map_cons, keeps early, keeps late,
    if_pos (here.trans address.symm)]

/-- A binding is erased at its place. -/
theorem erase_of_split : c.erase a = ⟨before ++ after⟩ := by
  have keeps {l : List ArpEntry} (other : ∀ x ∈ l, x.address ≠ a) :
      l.filter (·.address ≠ a) = l :=
    List.filter_eq_self.mpr fun x mem => by simpa using other x mem
  rw [erase, split, List.filter_append, List.filter_cons_of_neg (by simpa using here), keeps early,
    keeps late]

end Split

/-- The only entry of an address is the one that is found. -/
theorem Distinct.entry?_of_mem (distinct : c.Distinct) {e : ArpEntry} (mem : e ∈ c.entries) :
    c.entry? e.address = some e := by
  obtain ⟨before, after, split⟩ := List.append_of_mem mem
  apply entry?_of_split split rfl
  intro x early same
  rw [Distinct, split, List.map_append, List.nodup_append] at distinct
  exact distinct.2.2 x.address (List.mem_map_of_mem early) e.address (by simp) same

/-! ## Checked operations -/

/-- Advances the resolution of `a` and says what to do with a packet for it. -/
def checkedResolve (c : ArpCache) (a : Ipv4) (now retry : Tick) :
    Except Fault (Resolution × ArpCache) :=
  match c.position? a with
  | none => .ok (.sendRequest, ⟨c.entries ++ [request a Mac.zero 1 now retry]⟩)
  | some i => do
    let e ← entryAt? c.entries i
    match e.state with
    | .valid =>
      if Tick.reached now e.stamp then
        return (.sendRequest, ⟨← setEntryAt? c.entries i (request a e.mac 1 now retry)⟩)
      else return (.hit e.mac, c)
    | .resolving attempt =>
      if !Tick.reached now e.stamp then return (.wait, c)
      else if attempt < Arp.maxTries then
        return (.sendRequest,
          ⟨← setEntryAt? c.entries i (request a e.mac (attempt + 1) now retry)⟩)
      else return (.fail, ⟨← removeEntryAt? c.entries i⟩)

/-- The positions that resolving reads and writes exist, if no address has two bindings. -/
theorem checkedResolve_eq (distinct : c.Distinct) (a : Ipv4) (now retry : Tick) :
    c.checkedResolve a now retry = .ok (c.resolve a now retry) := by
  unfold checkedResolve resolve
  cases found : c.position? a with
  | none =>
    rw [ entry?_of_position? found]
    dsimp only
    rw [insert_of_position? found rfl]
  | some i =>
    obtain ⟨before, e, after, split, rfl, here, early, late⟩ := exists_of_position? distinct found
    have read : entryAt? c.entries before.length = .ok e := by rw [split, entryAt?_append]
    have replaced (new : ArpEntry) (address : new.address = a) :
        setEntryAt? c.entries before.length new = .ok (c.insert new).entries := by
      rw [insert_of_split split here early late address, split, setEntryAt?_append]
    have removed : removeEntryAt? c.entries before.length = .ok (c.erase a).entries := by
      rw [erase_of_split split here early late, split, removeEntryAt?_append]
    rw [ entry?_of_split split here early]
    dsimp only
    rw [read, ok_bind]
    cases e.state with
    | valid =>
      dsimp only
      rw [replaced _ rfl]
      exact ite_ok (fun _ => rfl) fun _ => rfl
    | resolving attempt =>
      dsimp only
      rw [replaced _ rfl, removed]
      exact ite_ok (fun _ => rfl) fun _ => ite_ok (fun _ => rfl) fun _ => rfl

/-- Records a binding heard on the wire, whatever was known before. -/
def checkedLearn (c : ArpCache) (a : Ipv4) (mac : Mac) (now ttl : Tick) : Except Fault ArpCache :=
  let e : ArpEntry := ⟨a, mac, .valid, Tick.deadline now ttl⟩
  match c.position? a with
  | none => .ok ⟨c.entries ++ [e]⟩
  | some i => do return ⟨← setEntryAt? c.entries i e⟩

/-- The positions that learning reads and writes exist, if no address has two bindings. -/
theorem checkedLearn_eq (distinct : c.Distinct) (a : Ipv4) (mac : Mac) (now ttl : Tick) :
    c.checkedLearn a mac now ttl = .ok (c.learn a mac now ttl) := by
  unfold checkedLearn learn
  cases found : c.position? a with
  | none => rw [insert_of_position? found rfl]
  | some i =>
    obtain ⟨before, e, after, split, rfl, here, early, late⟩ := exists_of_position? distinct found
    rw [insert_of_split split here early late rfl, split]
    dsimp only
    rw [setEntryAt?_append]
    rfl

/-- Removes the valid entries that have expired, and counts them. -/
def checkedSweep (c : ArpCache) (now : Tick) : Except Fault (Nat × ArpCache) := do
  let kept := c.entries.filter fun e => !e.isStale now
  let removed ← minus? c.entries.length kept.length
  return (removed, ⟨kept⟩)

/-- The positions that a sweep reads and writes exist. -/
theorem checkedSweep_eq (c : ArpCache) (now : Tick) : c.checkedSweep now = .ok (c.sweep now) := by
  unfold checkedSweep sweep
  dsimp only
  rw [minus?_eq (List.length_filter_le _ _)]
  rfl

end ArpCache

end PolledNet
