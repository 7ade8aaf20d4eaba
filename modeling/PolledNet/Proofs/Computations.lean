/-!
# Computations that went through

Handlers stop at the first fault. One that has not met any did all of its parts without one, and
proofs take it apart with the lemmas below. Where two computations are compared, it is their going
through and what they come to that matters (`Agree`).
-/

namespace PolledNet

/-- What follows a computation that went through. -/
@[simp] theorem ok_bind {ε α β : Type} (a : α) (f : α → Except ε β) :
    ((Except.ok a : Except ε α) >>= f) = f a := rfl

/-- What follows a computation that is known to go through. -/
theorem bind_of_ok {ε α β : Type} {x : Except ε α} {a : α} (done : x = .ok a)
    (f : α → Except ε β) : (x >>= f) = f a := by
  rw [done, ok_bind]

/-- What is returned is a result. -/
theorem pure_eq_ok {ε α : Type} (a : α) : (pure a : Except ε α) = .ok a := rfl

/-- A function applies to a result. -/
@[simp] theorem map_ok {ε α β : Type} (f : α → β) (a : α) :
    (f <$> (Except.ok a : Except ε α)) = .ok (f a) := rfl

/-- A computation that goes through in either case. -/
theorem ite_ok {ε α : Type} {c : Prop} [Decidable c] {x y : Except ε α} {a b : α}
    (pos : c → x = .ok a) (neg : ¬ c → y = .ok b) :
    (if c then x else y) = .ok (if c then a else b) := by
  by_cases h : c
  · rw [if_pos h, if_pos h, pos h]
  · rw [if_neg h, if_neg h, neg h]

/-- A computation in two parts that went through did so in both. -/
theorem exists_ok_of_bind {ε α β : Type} {x : Except ε α} {f : α → Except ε β} {b : β}
    (done : (x >>= f) = .ok b) : ∃ a, x = .ok a ∧ f a = .ok b := by
  cases x with
  | error e => cases done
  | ok a => exact ⟨a, rfl, done⟩

/-- A result that a function was applied to has an origin. -/
theorem exists_ok_of_map {ε α β : Type} {x : Except ε α} {f : α → β} {b : β}
    (done : x.map f = .ok b) : ∃ a, x = .ok a ∧ f a = b := by
  cases x with
  | error e => cases done
  | ok a => exact ⟨a, rfl, Except.ok.inj done⟩

/-- A computation that has a result went through with it. -/
theorem eq_ok_get {ε α : Type} {x : Except ε α} (some : x.toOption.isSome = true) :
    x = .ok (x.toOption.get some) := by
  cases x with
  | error e => cases some
  | ok a => rfl

/-! ## Two computations -/

/-- Both computations go through, and come to the same. -/
def Agree {ε α : Type} (x y : Except ε α) : Prop := ∃ a, x = .ok a ∧ y = .ok a

section Agree

variable {ε α β : Type} {x y : Except ε α} {f g : α → Except ε β}

/-- Computations with the same result agree. -/
theorem Agree.of_ok {a : α} (left : x = .ok a) (right : y = .ok a) : Agree x y := ⟨a, left, right⟩

/-- A result agrees with itself. -/
theorem Agree.ok (a : α) : Agree (.ok a : Except ε α) (.ok a) := .of_ok rfl rfl

/-- Parts that agree make wholes that agree. -/
theorem Agree.bind (first : Agree x y) (rest : ∀ a, y = .ok a → Agree (f a) (g a)) :
    Agree (x >>= f) (y >>= g) := by
  obtain ⟨a, rfl, rfl⟩ := first
  exact rest a rfl

/-- A choice agrees with a choice if each side does. -/
theorem Agree.ite {c : Prop} [Decidable c] {x' y' : Except ε α} (pos : c → Agree x y)
    (neg : ¬ c → Agree x' y') : Agree (if c then x else x') (if c then y else y') := by
  by_cases h : c
  · rw [if_pos h, if_pos h]
    exact pos h
  · rw [if_neg h, if_neg h]
    exact neg h

end Agree

end PolledNet
