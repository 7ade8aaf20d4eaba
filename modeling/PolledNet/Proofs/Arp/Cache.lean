import PolledNet.Arp.Cache
import PolledNet.Proofs.Deadline

/-!
# The cache as a map, and repeated resolution

The operations on one address leave the entries of all others alone, and what resolving an address
says depends on its entry only. So resolving one address twice at the same tick either says the
same again, or a request has just gone out: then the second answer is to wait, unless the time
between requests is zero.
-/

namespace PolledNet

namespace ArpCache

variable (c : ArpCache)

/-! ## Entries -/

/-- What was inserted is found. -/
theorem entry?_insert_self (e : ArpEntry) : entry? (c.insert e) e.address = some e := by
  unfold insert entry?
  dsimp only
  split
  · rename_i known
    obtain ⟨old, mem, eq⟩ := List.any_eq_true.mp known
    have here : ((fun old => if old.address = e.address then e else old) old).address =
        e.address := by
      simp only [of_decide_eq_true eq, if_true]
    cases found : (c.entries.map fun old => if old.address = e.address then e else old).find?
        (·.address = e.address) with
    | none =>
      have missed := List.find?_eq_none.mp found _ (List.mem_map_of_mem mem)
      exact absurd (decide_eq_true here) missed
    | some x =>
      obtain ⟨y, -, rfl⟩ := List.mem_map.mp (List.mem_of_find?_eq_some found)
      have address := List.find?_some found
      split at address
      · rename_i same
        rw [if_pos same]
      · rename_i other
        exact absurd (of_decide_eq_true address) other
  · rename_i unknown
    have none : c.entries.find? (·.address = e.address) = none := by
      rw [List.find?_eq_none]
      intro x mem same
      exact unknown (List.any_eq_true.mpr ⟨x, mem, same⟩)
    rw [List.find?_append, none]
    simp

/-- Nothing else is touched by it. -/
theorem entry?_insert_of_ne {e : ArpEntry} {a : Ipv4} (other : a ≠ e.address) :
    entry? (c.insert e) a = entry? c a := by
  unfold insert entry?
  dsimp only
  split
  · rw [List.find?_map]
    have same : ((fun x : ArpEntry => decide (x.address = a)) ∘
        fun old => if old.address = e.address then e else old) =
        fun x : ArpEntry => decide (x.address = a) := by
      funext old
      simp only [Function.comp]
      split
      · rename_i eq
        rw [eq]
      · rfl
    rw [same]
    cases found : c.entries.find? (·.address = a) with
    | none => rfl
    | some x =>
      have address := List.find?_some found
      rw [Option.map_some, if_neg (by rw [of_decide_eq_true address]; exact other)]
  · rw [List.find?_append]
    simp [Ne.symm other]

/-- What was erased is not found. -/
theorem entry?_erase_self (a : Ipv4) : entry? (c.erase a) a = none := by
  simp [erase, entry?]

/-- Nothing else is touched by that. -/
theorem entry?_erase_of_ne {a b : Ipv4} (other : b ≠ a) :
    entry? (c.erase a) b = entry? c b := by
  unfold erase entry?
  rw [List.find?_filter]
  congr 1
  funext x
  by_cases eq : x.address = b <;> simp [eq, other]

/-! ## Resolving -/

variable {c}

/-- What can come of resolving an address. -/
theorem resolve_cases (c : ArpCache) (a : Ipv4) (now retry : Tick) :
    (∃ mac, c.resolve a now retry = (.hit mac, c)) ∨ c.resolve a now retry = (.wait, c) ∨
      c.resolve a now retry = (.fail, c.erase a) ∨
      ∃ mac attempt,
        c.resolve a now retry = (.sendRequest, c.insert (request a mac attempt now retry)) := by
  unfold resolve
  split
  · exact .inr (.inr (.inr ⟨_, _, rfl⟩))
  · split
    · split
      · exact .inr (.inr (.inr ⟨_, _, rfl⟩))
      · exact .inl ⟨_, rfl⟩
    · split
      · exact .inr (.inl rfl)
      · split
        · exact .inr (.inr (.inr ⟨_, _, rfl⟩))
        · exact .inr (.inr (.inl rfl))

/-- Resolving one address leaves the entries of all others alone. -/
theorem resolve_entry?_of_ne {a b : Ipv4} (other : b ≠ a) (now retry : Tick) :
    entry? (c.resolve a now retry).2 b = entry? c b := by
  rcases c.resolve_cases a now retry with ⟨mac, eq⟩ | eq | eq | ⟨mac, attempt, eq⟩ <;> rw [eq]
  · exact c.entry?_erase_of_ne other
  · exact c.entry?_insert_of_ne other

/-- What resolving an address says depends on its entry only. -/
theorem resolve_congr {c' : ArpCache} {a : Ipv4} (same : entry? c' a = entry? c a)
    (now retry : Tick) : (c'.resolve a now retry).1 = (c.resolve a now retry).1 := by
  unfold resolve
  rw [same]
  repeat' split
  all_goals rfl

/-- An address that is known stays as it is. -/
theorem resolve_of_hit {a : Ipv4} {now retry : Tick} {mac : Mac}
    (hit : (c.resolve a now retry).1 = .hit mac) : (c.resolve a now retry).2 = c := by
  rcases c.resolve_cases a now retry with ⟨_, eq⟩ | eq | eq | ⟨_, _, eq⟩ <;> rw [eq] at hit ⊢ <;>
    cases hit

/-- An address that a request is out for stays as it is. -/
theorem resolve_of_wait {a : Ipv4} {now retry : Tick}
    (wait : (c.resolve a now retry).1 = .wait) : (c.resolve a now retry).2 = c := by
  rcases c.resolve_cases a now retry with ⟨_, eq⟩ | eq | eq | ⟨_, _, eq⟩ <;> rw [eq] at wait ⊢ <;>
    cases wait

/-- An address that is given up has no entry any more. -/
theorem entry?_resolve_of_fail {a : Ipv4} {now retry : Tick}
    (fail : (c.resolve a now retry).1 = .fail) : entry? (c.resolve a now retry).2 a = none := by
  rcases c.resolve_cases a now retry with ⟨_, eq⟩ | eq | eq | ⟨_, _, eq⟩ <;> rw [eq] at fail ⊢
  · cases fail
  · cases fail
  · exact c.entry?_erase_self a
  · cases fail

/-- A request that goes out is on record. -/
theorem entry?_resolve_of_sendRequest {a : Ipv4} {now retry : Tick}
    (asks : (c.resolve a now retry).1 = .sendRequest) :
    ∃ mac attempt,
      entry? (c.resolve a now retry).2 a = some (request a mac attempt now retry) := by
  rcases c.resolve_cases a now retry with ⟨_, eq⟩ | eq | eq | ⟨mac, attempt, eq⟩ <;>
    rw [eq] at asks ⊢
  · cases asks
  · cases asks
  · cases asks
  · exact ⟨mac, attempt, c.entry?_insert_self (request a mac attempt now retry)⟩

/-- **Another packet waits for a request just sent**, unless no time is left between requests. -/
theorem resolve_of_request {a : Ipv4} {mac : Mac} {attempt : Nat} {now retry : Tick}
    (sent : entry? c a = some (request a mac attempt now retry)) (apart : retry ≠ 0) :
    (c.resolve a now retry).1 = .wait := by
  have early : Tick.reached now (Tick.deadline now retry) = false := by
    have iff := Tick.reached_after_iff now (e := 0) (Tick.clamped_le retry) (by omega)
    rw [Tick.after_zero, ← Tick.deadline_eq] at iff
    rw [Bool.eq_false_iff, Ne, iff]
    exact Nat.not_le.mpr (Tick.clamped_pos apart)
  unfold resolve
  rw [sent]
  simp only [request, early, Bool.not_false, if_true]

/-! ## Where entries come from -/

/-- An entry was inserted last, or it was there before under another address. -/
theorem mem_insert {e x : ArpEntry} (mem : x ∈ (c.insert e).entries) :
    x = e ∨ (x ∈ c.entries ∧ x.address ≠ e.address) := by
  unfold insert at mem
  dsimp only at mem
  split at mem
  · obtain ⟨old, listed, rfl⟩ := List.mem_map.mp mem
    by_cases same : old.address = e.address
    · exact .inl (if_pos same)
    · rw [if_neg same]
      exact .inr ⟨listed, same⟩
  · rename_i unknown
    obtain listed | last := List.mem_append.mp mem
    · refine .inr ⟨listed, fun same => unknown ?_⟩
      exact List.any_eq_true.mpr ⟨x, listed, decide_eq_true same⟩
    · exact .inl (List.mem_singleton.mp last)

/-- Resolving makes no entry valid. -/
theorem mem_of_mem_resolve {a : Ipv4} {now retry : Tick} {x : ArpEntry}
    (mem : x ∈ (c.resolve a now retry).2.entries) (valid : x.state = .valid) : x ∈ c.entries := by
  obtain ⟨mac, eq⟩ | eq | eq | ⟨mac, attempt, eq⟩ := c.resolve_cases a now retry
  · rwa [eq] at mem
  · rwa [eq] at mem
  · rw [eq] at mem
    exact (List.mem_filter.mp mem).1
  · rw [eq] at mem
    obtain rfl | ⟨listed, -⟩ := mem_insert mem
    · cases valid
    · exact listed

/-- What an entry says can be relied on at `now`. -/
structure Usable (c : ArpCache) (a : Ipv4) (mac : Mac) (now : Tick) (e : ArpEntry) : Prop where
  listed : e ∈ c.entries
  address : e.address = a
  mac : e.mac = mac
  valid : e.state = .valid
  unexpired : Tick.reached now e.stamp = false

/-- A packet goes only where a usable entry sends it. -/
theorem usable_of_hit {a : Ipv4} {now retry : Tick} {mac : Mac}
    (hit : (c.resolve a now retry).1 = .hit mac) : ∃ e, c.Usable a mac now e := by
  unfold resolve at hit
  split at hit
  · cases hit
  · rename_i e found
    have first : c.entries.find? (·.address = a) = some e := found
    have named := List.find?_some first
    have address : e.address = a := of_decide_eq_true named
    split at hit
    · rename_i valid
      split at hit
      · cases hit
      · rename_i unexpired
        cases hit
        exact ⟨e, List.mem_of_find?_eq_some first, address, rfl, valid, by simpa using unexpired⟩
    · split at hit
      · cases hit
      · split at hit <;> cases hit

/-- Only an entry that can be used is looked up. -/
theorem usable_of_lookup? {a : Ipv4} {now : Tick} {mac : Mac} (known : c.lookup? a now = some mac) :
    ∃ e, c.Usable a mac now e := by
  obtain ⟨e, found, rfl⟩ := Option.map_eq_some_iff.mp known
  have fits := List.find?_some found
  simp only [Bool.and_eq_true, decide_eq_true_eq, Bool.not_eq_true'] at fits
  exact ⟨e, List.mem_of_find?_eq_some found, fits.1.1, rfl, fits.1.2, fits.2⟩

end ArpCache

end PolledNet
