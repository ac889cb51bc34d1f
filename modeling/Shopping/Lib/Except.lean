/-!
# Steps that can raise

A sequence of steps in `Except` answers `ok` exactly when every step does.
These lemmas take such a sequence apart, one bind at a time, so that a proof
about a function that returned has the value of each step by name.
-/

namespace Shopping

section

variable {ε ε' α β : Type}

theorem bind_eq_ok {x : Except ε α} {f : α → Except ε β} {b : β} :
    (x >>= f) = .ok b ↔ ∃ a, x = .ok a ∧ f a = .ok b := by
  cases x with
  | error e =>
    constructor
    · intro h
      cases h
    · intro ⟨a, h, _⟩
      cases h
  | ok a =>
    constructor
    · intro h
      exact ⟨a, rfl, h⟩
    · intro ⟨a', h, hf⟩
      cases h
      exact hf

theorem ok_bind (a : α) (f : α → Except ε β) : (Except.ok a >>= f) = f a := rfl

theorem map_eq_ok {x : Except ε α} {f : α → β} {b : β} :
    x.map f = .ok b ↔ ∃ a, x = .ok a ∧ f a = b := by
  cases x with
  | error e =>
    constructor
    · intro h
      cases h
    · intro ⟨a, h, _⟩
      cases h
  | ok a =>
    constructor
    · intro h
      cases h
      exact ⟨a, rfl, rfl⟩
    · intro ⟨a', h, hf⟩
      cases h
      rw [← hf]
      rfl

theorem mapError_eq_ok {x : Except ε α} {f : ε → ε'} {a : α} :
    x.mapError f = .ok a ↔ x = .ok a := by
  cases x with
  | error e =>
    constructor
    · intro h
      cases h
    · intro h
      cases h
  | ok b =>
    constructor
    · intro h
      cases h
      rfl
    · intro h
      cases h
      rfl

theorem toOption_eq_some {x : Except ε α} {a : α} : x.toOption = some a ↔ x = .ok a := by
  cases x with
  | error e =>
    constructor
    · intro h
      cases h
    · intro h
      cases h
  | ok b =>
    constructor
    · intro h
      cases h
      rfl
    · intro h
      cases h
      rfl

/-! ## Two runs of the same steps -/

variable {γ δ ε₁ ε₂ : Type} {r : α → β → Prop} {q : γ → δ → Prop}

/-- Both raise, or both answer and the answers are related. -/
inductive Both (r : α → β → Prop) : Except ε₁ α → Except ε₂ β → Prop
  | error (e₁ : ε₁) (e₂ : ε₂) : Both r (.error e₁) (.error e₂)
  | ok {a : α} {b : β} (h : r a b) : Both r (.ok a) (.ok b)

/-- Related steps, and related continuations on related answers. -/
theorem Both.bind {x : Except ε α} {y : Except ε' β} {f : α → Except ε γ} {g : β → Except ε' δ}
    (h : Both r x y) (hf : ∀ a b, r a b → Both q (f a) (g b)) : Both q (x >>= f) (y >>= g) := by
  cases h with
  | error e₁ e₂ => exact .error e₁ e₂
  | ok h => exact hf _ _ h

/-- The same step first, and related continuations on its answer. -/
theorem Both.bind_same {x : Except ε α} {f : α → Except ε γ} {g : α → Except ε δ}
    (hf : ∀ a, Both q (f a) (g a)) : Both q (x >>= f) (x >>= g) := by
  cases x with
  | error e => exact .error e e
  | ok a => exact hf a

theorem Both.map {x : Except ε α} {y : Except ε' β} {f : α → γ} {g : β → δ}
    (h : Both r x y) (hf : ∀ a b, r a b → q (f a) (g b)) : Both q (x.map f) (y.map g) := by
  cases h with
  | error e₁ e₂ => exact .error e₁ e₂
  | ok h => exact .ok (hf _ _ h)

theorem Both.map_same {x : Except ε α} {f : α → γ} {g : α → δ}
    (hf : ∀ a, q (f a) (g a)) : Both q (x.map f) (x.map g) := by
  cases x with
  | error e => exact .error e e
  | ok a => exact .ok (hf a)

end

end Shopping
