import Mathlib.Logic.Function.Basic
import PolledNet.Proofs.Access.Bindings

/-!
# The cache is a finite map

The entries are a list that is searched from the front, but whoever uses the cache may think of it
as a map from addresses to entries (`ArpCache.Bindings`), on which an operation changes the entry of
one address, and sweeping looks at each entry by itself.

* **One step** (`Distinct.entry?_perform`, `Distinct.answer?_eq`): as long as no address has two
  entries, an operation on the list does to what is found what the same operation does to the map,
  and says the same.
* **Any run** (`performAll_actsAsMap`): from the empty cache on it stays like that, whatever is done
  (`ArpCache.ActsAsMap`), and what is said about an address depends on what was done with this
  address and with all of them, not on what was done with others.
-/

namespace PolledNet

/-- The number of a request is one of those that may be made. -/
def ArpState.WithinTries : ArpState → Prop
  | .valid => True
  | .resolving attempt => 1 ≤ attempt ∧ attempt ≤ Arp.maxTries

namespace ArpCache

/-! ## Operations -/

/-- What is done to a cache, or asked of it. -/
inductive Operation where
  /-- A packet for `a` has to be sent. -/
  | resolve (a : Ipv4) (now retry : Tick)
  /-- A binding of `a` is heard. -/
  | learn (a : Ipv4) (mac : Mac) (now ttl : Tick)
  /-- Somebody wants to know the hardware address of `a`. -/
  | lookup (a : Ipv4) (now : Tick)
  /-- What has expired is to go. -/
  | sweep (now : Tick)
  /-- Everything is to go. -/
  | clear
  deriving DecidableEq, Repr

/-- What an operation on one address says about it. -/
inductive Answer where
  | resolution (r : Resolution)
  | binding (mac : Option Mac)
  deriving DecidableEq, Repr

namespace Operation

/-- The address that an operation is about. Sweeping and clearing are about all of them. -/
def address? : Operation → Option Ipv4
  | resolve a .. => some a
  | learn a .. => some a
  | lookup a _ => some a
  | sweep _ => none
  | clear => none

/-- Whether the entry of `b` can matter to an operation, or the operation to it. -/
def concerns (op : Operation) (b : Ipv4) : Bool := op.address?.all (· = b)

end Operation

/-- The cache once an operation is performed. -/
def perform (c : ArpCache) : Operation → ArpCache
  | .resolve a now retry => (c.resolve a now retry).2
  | .learn a mac now ttl => c.learn a mac now ttl
  | .lookup _ _ => c
  | .sweep now => (c.sweep now).2
  | .clear => empty

/-- What an operation says about its address. -/
def answer? (c : ArpCache) : Operation → Option Answer
  | .resolve a now retry => some (.resolution (c.resolve a now retry).1)
  | .lookup a now => some (.binding (c.lookup? a now))
  | .learn .. | .sweep _ | .clear => none

/-- The cache once several operations are performed. -/
def performAll (c : ArpCache) (ops : List Operation) : ArpCache := ops.foldl perform c

/-- All that is said about `b` while operations are performed. -/
def answers (b : Ipv4) : ArpCache → List Operation → List Answer
  | _, [] => []
  | c, op :: ops =>
    (if op.address? = some b then (c.answer? op).toList else []) ++ answers b (c.perform op) ops

/-! ## The map -/

/-- Resolving `a` by its entry alone: what is said, and the entry then. -/
def resolveEntry (a : Ipv4) (now retry : Tick) : Option ArpEntry → Resolution × Option ArpEntry
  | none => (.sendRequest, some (request a Mac.zero 1 now retry))
  | some e =>
    match e.state with
    | .valid =>
      if Tick.reached now e.stamp then (.sendRequest, some (request a e.mac 1 now retry))
      else (.hit e.mac, some e)
    | .resolving attempt =>
      if !Tick.reached now e.stamp then (.wait, some e)
      else if attempt < Arp.maxTries then
        (.sendRequest, some (request a e.mac (attempt + 1) now retry))
      else (.fail, none)

/-- A map from addresses to their entries. -/
abbrev Bindings := Ipv4 → Option ArpEntry

namespace Bindings

/-- The map without entries. -/
def empty : Bindings := fun _ => none

/-- The map once an operation is performed. -/
def perform (m : Bindings) : Operation → Bindings
  | .resolve a now retry => Function.update m a (resolveEntry a now retry (m a)).2
  | .learn a mac now ttl => Function.update m a (some ⟨a, mac, .valid, Tick.deadline now ttl⟩)
  | .lookup _ _ => m
  | .sweep now => fun a => (m a).filter fun e => !e.isStale now
  | .clear => empty

/-- What an operation on the map says about its address. -/
def answer? (m : Bindings) : Operation → Option Answer
  | .resolve a now retry => some (.resolution (resolveEntry a now retry (m a)).1)
  | .lookup a now =>
    some (.binding (((m a).filter fun e => e.state = .valid && !Tick.reached now e.stamp).map
      (·.mac)))
  | .learn .. | .sweep _ | .clear => none

/-- The map once several operations are performed. -/
def performAll (m : Bindings) (ops : List Operation) : Bindings := ops.foldl perform m

variable {m m' : Bindings} {op : Operation} {b : Ipv4}

/-- What becomes of an entry depends on this entry only. -/
theorem perform_congr (same : m b = m' b) (op : Operation) : m.perform op b = m'.perform op b := by
  cases op with
  | resolve a now retry =>
    by_cases here : b = a
    · subst here
      simp [perform, same]
    · simp [perform, Function.update_of_ne here, same]
  | learn a mac now ttl =>
    by_cases here : b = a
    · subst here
      simp [perform]
    · simp [perform, Function.update_of_ne here, same]
  | lookup a now => exact same
  | sweep now => simp [perform, same]
  | clear => rfl

/-- What is said about an address depends on its entry only. -/
theorem answer?_congr (same : m b = m' b) (about : op.address? = some b) :
    m.answer? op = m'.answer? op := by
  cases op <;> simp [Operation.address?] at about <;> simp [answer?, about, same]

/-- A map lists each entry under its own address, and no request beyond the last. -/
structure Regular (m : Bindings) : Prop where
  named : ∀ a e, m a = some e → e.address = a
  tries : ∀ a e, m a = some e → e.state.WithinTries

/-- Nothing is known at first, so nothing is out of order. -/
theorem regular_empty : Regular empty := by
  constructor <;> intro a e found <;> cases found

/-- Putting in an entry of the right name. -/
theorem Regular.update (regular : m.Regular) {a : Ipv4} {e? : Option ArpEntry}
    (new : ∀ e, e? = some e → e.address = a ∧ e.state.WithinTries) :
    Regular (Function.update m a e?) := by
  constructor <;> intro b e found <;> by_cases here : b = a
  · subst here
    rw [Function.update_self] at found
    exact (new e found).1
  · rw [Function.update_of_ne here] at found
    exact regular.named b e found
  · subst here
    rw [Function.update_self] at found
    exact (new e found).2
  · rw [Function.update_of_ne here] at found
    exact regular.tries b e found

/-- Resolving counts the requests and stops at the last. -/
theorem Regular.resolveEntry (regular : m.Regular) (a : Ipv4) (now retry : Tick) (e : ArpEntry)
    (next : (resolveEntry a now retry (m a)).2 = some e) :
    e.address = a ∧ e.state.WithinTries := by
  have first : (1 : Nat) ≤ Arp.maxTries := by decide
  cases found : m a with
  | none =>
    rw [found] at next
    cases next
    exact ⟨rfl, Nat.le_refl 1, first⟩
  | some old =>
    have named := regular.named a old found
    have tries := regular.tries a old found
    rw [found] at next
    simp only [ArpCache.resolveEntry] at next
    split at next
    · split at next <;> cases next
      · exact ⟨rfl, Nat.le_refl 1, first⟩
      · exact ⟨named, tries⟩
    · split at next
      · cases next
        exact ⟨named, tries⟩
      · split at next <;> cases next
        rename_i more
        exact ⟨rfl, Nat.le_add_left 1 _, more⟩

/-- Whatever is done, a map stays regular. -/
theorem Regular.perform (regular : m.Regular) (op : Operation) : Regular (m.perform op) := by
  cases op with
  | resolve a now retry => exact regular.update (regular.resolveEntry a now retry)
  | learn a mac now ttl =>
    apply regular.update
    rintro e ⟨⟩
    exact ⟨rfl, trivial⟩
  | lookup a now => exact regular
  | sweep now =>
    constructor <;> intro a e found
    · exact regular.named a e (Option.eq_some_of_filter_eq_some found)
    · exact regular.tries a e (Option.eq_some_of_filter_eq_some found)
  | clear => exact regular_empty

end Bindings

/-! ## The list as a map -/

/-- Resolving an address says what its entry alone has it say, and leaves what that leaves. -/
theorem resolve_here (c : ArpCache) (a : Ipv4) (now retry : Tick) :
    (c.resolve a now retry).1 = (resolveEntry a now retry <| c.entry? a).1 ∧
      entry? (c.resolve a now retry).2 a = (resolveEntry a now retry <| c.entry? a).2 := by
  have asked (mac : Mac) (attempt : Nat) :
      entry? (c.insert (request a mac attempt now retry)) a =
        some (request a mac attempt now retry) :=
    c.entry?_insert_self (request a mac attempt now retry)
  unfold resolve resolveEntry
  cases found : c.entry? a with
  | none => exact ⟨rfl, asked _ _⟩
  | some e =>
    dsimp only
    cases e.state with
    | valid =>
      dsimp only
      split
      · exact ⟨rfl, asked _ _⟩
      · exact ⟨rfl, found⟩
    | resolving attempt =>
      dsimp only
      split
      · exact ⟨rfl, found⟩
      · split
        · exact ⟨rfl, asked _ _⟩
        · exact ⟨rfl, c.entry?_erase_self a⟩

/-- **An operation on one address leaves the entries of all others alone.** -/
theorem entry?_perform_of_other (c : ArpCache) {op : Operation} {b : Ipv4}
    (other : op.concerns b = false) : entry? (c.perform op) b = c.entry? b := by
  cases op with
  | resolve a now retry =>
    apply resolve_entry?_of_ne
    rintro rfl
    simp [Operation.concerns, Operation.address?] at other
  | learn a mac now ttl =>
    apply entry?_insert_of_ne
    rintro rfl
    simp [Operation.concerns, Operation.address?] at other
  | lookup a now => rfl
  | sweep now => simp [Operation.concerns, Operation.address?] at other
  | clear => simp [Operation.concerns, Operation.address?] at other

section Distinct

variable {c : ArpCache} (distinct : c.Distinct)

include distinct

/-- The entries that are found are those that are listed. -/
theorem Distinct.entry?_eq_some_iff {a : Ipv4} {e : ArpEntry} :
    c.entry? a = some e ↔ e ∈ c.entries ∧ e.address = a := by
  constructor
  · intro found
    exact ⟨List.mem_of_find?_eq_some found, by simpa using List.find?_some found⟩
  · rintro ⟨mem, rfl⟩
    exact distinct.entry?_of_mem mem

/-- Searching for an entry of `a` that has some property is finding the entry of `a` and seeing
whether it has. -/
theorem Distinct.find?_and (a : Ipv4) (q : ArpEntry → Bool) :
    (c.entries.find? fun e => e.address = a && q e) = (Option.filter q <| c.entry? a) := by
  cases found : c.entries.find? fun e => e.address = a && q e with
  | some e =>
    have fits := List.find?_some found
    simp only [Bool.and_eq_true, decide_eq_true_eq] at fits
    have first := distinct.entry?_eq_some_iff.mpr ⟨List.mem_of_find?_eq_some found, fits.1⟩
    rw [first, Option.filter_some, if_pos fits.2]
  | none =>
    symm
    rw [Option.filter_eq_none_iff]
    intro e first
    obtain ⟨mem, named⟩ := distinct.entry?_eq_some_iff.mp first
    simpa [named] using List.find?_eq_none.mp found e mem

/-- What is looked up is the station of the entry of an address, if that is valid and not expired.
-/
theorem Distinct.lookup?_eq (a : Ipv4) (now : Tick) :
    c.lookup? a now = Option.map (·.mac)
      (Option.filter (fun e => e.state = .valid && !Tick.reached now e.stamp) <| c.entry? a) := by
  have search := distinct.find?_and a fun e => e.state = .valid && !Tick.reached now e.stamp
  rw [← search]
  simp [lookup?, Bool.and_assoc]

/-- Sweeping takes out what has expired, and leaves the entries of all other addresses. -/
theorem Distinct.entry?_sweep (now : Tick) (a : Ipv4) :
    entry? (c.sweep now).2 a = (Option.filter (!·.isStale now) <| c.entry? a) := by
  rw [← distinct.find?_and a]
  simp [sweep, entry?, List.find?_filter, Bool.and_comm]

/-- **What is found once an operation is performed** is what the map holds then. -/
theorem Distinct.entry?_perform (op : Operation) :
    entry? (c.perform op) = Bindings.perform c.entry? op := by
  funext b
  cases op with
  | resolve a now retry =>
    by_cases here : b = a
    · subst here
      simp [perform, Bindings.perform, (c.resolve_here b now retry).2]
    · simp [perform, Bindings.perform, Function.update_of_ne here, resolve_entry?_of_ne here]
  | learn a mac now ttl =>
    by_cases here : b = a
    · subst here
      simp only [perform, Bindings.perform, Function.update_self]
      exact c.entry?_insert_self _
    · simp only [perform, Bindings.perform, Function.update_of_ne here]
      exact c.entry?_insert_of_ne here
  | lookup a now => rfl
  | sweep now => exact distinct.entry?_sweep now b
  | clear => rfl

/-- **What an operation says** is what it says on the map. -/
theorem Distinct.answer?_eq (op : Operation) : c.answer? op = Bindings.answer? c.entry? op := by
  cases op with
  | resolve a now retry => simp [answer?, Bindings.answer?, (c.resolve_here a now retry).1]
  | lookup a now => simp [answer?, Bindings.answer?, distinct.lookup?_eq]
  | learn a mac now ttl => rfl
  | sweep now => rfl
  | clear => rfl

/-- No operation makes a second entry. -/
theorem Distinct.perform (op : Operation) : Distinct (c.perform op) := by
  cases op with
  | resolve a now retry => exact distinct.resolve a now retry
  | learn a mac now ttl => exact distinct.insert _
  | lookup a now => exact distinct
  | sweep now => exact distinct.filter _
  | clear => exact distinct_empty

/-- No operation gives an address a second entry. -/
theorem Distinct.performAll (ops : List Operation) : Distinct (c.performAll ops) := by
  induction ops generalizing c with
  | nil => exact distinct
  | cons op ops ih => exact ih (distinct.perform op)

/-- **What is found after any run** is what the map holds then. -/
theorem Distinct.entry?_performAll (ops : List Operation) :
    entry? (c.performAll ops) = Bindings.performAll c.entry? ops := by
  induction ops generalizing c with
  | nil => rfl
  | cons op ops ih =>
    have rest := ih (distinct.perform op)
    rw [distinct.entry?_perform op] at rest
    exact rest

/-- What is said about `b` from now on depends on its entry only. -/
theorem Distinct.answers_congr {c' : ArpCache} (distinct' : c'.Distinct) {b : Ipv4}
    (same : c.entry? b = c'.entry? b) (ops : List Operation) :
    c.answers b ops = c'.answers b ops := by
  induction ops generalizing c c' with
  | nil => rfl
  | cons op ops ih =>
    have next : entry? (c.perform op) b = entry? (c'.perform op) b := by
      rw [distinct.entry?_perform, distinct'.entry?_perform]
      exact Bindings.perform_congr same op
    have rest := ih (distinct.perform op) (distinct'.perform op) next
    simp only [answers, rest]
    split
    · rename_i about
      rw [distinct.answer?_eq, distinct'.answer?_eq, Bindings.answer?_congr same about]
    · rfl

/-- **What is said about `b`** is what would be said if nothing were done with other addresses. -/
theorem Distinct.answers_filter (b : Ipv4) (ops : List Operation) :
    c.answers b ops = c.answers b (ops.filter (·.concerns b)) := by
  induction ops generalizing c with
  | nil => rfl
  | cons op ops ih =>
    have rest := ih (distinct.perform op)
    cases concerned : op.concerns b with
    | true =>
      simp only [List.filter_cons, concerned, if_true, answers, rest]
    | false =>
      have silent : op.address? ≠ some b := by
        intro about
        simp [Operation.concerns, about] at concerned
      have same := c.entry?_perform_of_other concerned
      simp only [List.filter_cons, concerned, answers, if_neg silent, List.nil_append, rest]
      exact (distinct.perform op).answers_congr distinct same _

end Distinct

/-! ## Every run -/

/-- What it means that a cache may be thought of as a finite map. -/
structure ActsAsMap (c : ArpCache) : Prop where
  /-- No address has two entries. -/
  distinct : c.Distinct
  /-- The entries are those that are found under their addresses. -/
  listed : ∀ e, e ∈ c.entries ↔ c.entry? e.address = some e
  /-- No entry counts a request beyond the last. -/
  tries : ∀ e ∈ c.entries, e.state.WithinTries
  /-- Operations do to what is found what they do to a map. -/
  performs : ∀ op, entry? (c.perform op) = Bindings.perform c.entry? op
  /-- They say what they say on a map. -/
  tells : ∀ op, c.answer? op = Bindings.answer? c.entry? op
  /-- What is done with one address changes neither the entry of another nor anything that is ever
  said about it. -/
  apart : ∀ op b, op.concerns b = false → entry? (c.perform op) b = c.entry? b ∧
    ∀ later, (c.perform op).answers b later = c.answers b later
  /-- What is looked up is what a packet would be sent to. -/
  lookup : ∀ a now retry mac, c.lookup? a now = some mac ↔ (c.resolve a now retry).1 = .hit mac
  /-- What is heard takes the place of whatever was known. -/
  learns : ∀ a mac now ttl,
    entry? (c.learn a mac now ttl) a = some ⟨a, mac, .valid, Tick.deadline now ttl⟩
  /-- Sweeping removes the valid entries past their time and no others. -/
  sweeps : ∀ now e, e ∈ (c.sweep now).2.entries ↔
    e ∈ c.entries ∧ ¬(e.state = .valid ∧ Tick.reached now e.stamp = true)
  /-- It counts what it removes. -/
  counts : ∀ now, (c.sweep now).1 = c.entries.countP (·.isStale now)
  /-- Positions in the list are only used while they are right. -/
  positions : ∀ a now delay mac, c.checkedResolve a now delay = .ok (c.resolve a now delay) ∧
    c.checkedLearn a mac now delay = .ok (c.learn a mac now delay)

/-- What is looked up is what resolving would hit. -/
theorem Distinct.lookup?_eq_some_iff {c : ArpCache} (distinct : c.Distinct) (a : Ipv4)
    (now retry : Tick) (mac : Mac) :
    c.lookup? a now = some mac ↔ (c.resolve a now retry).1 = .hit mac := by
  rw [distinct.lookup?_eq, (c.resolve_here a now retry).1]
  unfold resolveEntry
  cases c.entry? a with
  | none => simp
  | some e =>
    obtain ⟨address, known, state, stamp⟩ := e
    rw [Option.filter_some]
    cases state with
    | valid => cases reached : Tick.reached now stamp <;> simp [reached]
    | resolving attempt =>
      dsimp only
      split
      · rename_i fits
        simp at fits
      · split
        · simp
        · split <;> simp

/-- What is left by sweeping is what has not expired. -/
theorem mem_sweep (c : ArpCache) (now : Tick) (e : ArpEntry) : e ∈ (c.sweep now).2.entries ↔
    e ∈ c.entries ∧ ¬(e.state = .valid ∧ Tick.reached now e.stamp = true) := by
  simp only [sweep, ArpEntry.isStale, List.mem_filter, Bool.not_eq_true', ← Bool.not_eq_true,
    Bool.and_eq_true, decide_eq_true_eq]

/-- Sweeping tells how many entries it has taken out. -/
theorem sweep_fst (c : ArpCache) (now : Tick) :
    (c.sweep now).1 = c.entries.countP (·.isStale now) := by
  have all : c.entries.length = c.entries.countP (·.isStale now) +
      c.entries.countP fun e => !e.isStale now := by
    rw [List.length_eq_countP_add_countP (·.isStale now)]
    simp
  rw [sweep, ← List.countP_eq_length_filter]
  omega

/-- A cache without doubles that counts no request beyond the last is a map. -/
theorem Distinct.actsAsMap {c : ArpCache} (distinct : c.Distinct)
    (regular : Bindings.Regular c.entry?) : c.ActsAsMap where
  distinct := distinct
  listed e := by simp [distinct.entry?_eq_some_iff]
  tries e mem := regular.tries e.address e (distinct.entry?_of_mem mem)
  performs := distinct.entry?_perform
  tells := distinct.answer?_eq
  apart op b other := by
    have same := c.entry?_perform_of_other other
    exact ⟨same, (distinct.perform op).answers_congr distinct same⟩
  lookup := distinct.lookup?_eq_some_iff
  learns a mac now ttl := c.entry?_insert_self ⟨a, mac, .valid, Tick.deadline now ttl⟩
  sweeps := c.mem_sweep
  counts := c.sweep_fst
  positions a now delay mac :=
    ⟨checkedResolve_eq distinct a now delay, checkedLearn_eq distinct a mac now delay⟩

/-- The map stays regular through any operations. -/
theorem Bindings.Regular.performAll {m : Bindings} (regular : m.Regular) (ops : List Operation) :
    Regular (m.performAll ops) := by
  induction ops generalizing m with
  | nil => exact regular
  | cons op ops ih => exact ih (regular.perform op)

/-- **Whatever is done to a cache, it is a map**: after any run from the empty cache it acts as one,
holds what the map holds after the same run, and has said about each address what it would have
said if nothing had been done with the others. -/
theorem performAll_actsAsMap (ops : List Operation) :
    (empty.performAll ops).ActsAsMap ∧
      entry? (empty.performAll ops) = Bindings.empty.performAll ops ∧
      ∀ b, empty.answers b ops = empty.answers b (ops.filter (·.concerns b)) := by
  have holds := distinct_empty.entry?_performAll ops
  have regular : Bindings.Regular <| entry? (empty.performAll ops) := by
    rw [holds]
    exact Bindings.regular_empty.performAll ops
  refine ⟨(distinct_empty.performAll ops).actsAsMap regular, holds, ?_⟩
  intro b
  exact distinct_empty.answers_filter b ops

end ArpCache

end PolledNet
