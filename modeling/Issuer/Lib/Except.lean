import Mathlib

/-!
# Success of a fallible computation

A `do` block over `Except` succeeds exactly when each of its steps does. The lemmas peel such a
block apart: sequencing, a check that throws, and a value returned.
-/

namespace Except

universe u v

variable {ε : Type u} {α β : Type v}

@[simp] theorem bind_eq_ok {x : Except ε α} {f : α → Except ε β} {b : β} :
    (x >>= f) = .ok b ↔ ∃ a, x = .ok a ∧ f a = .ok b := by
  cases x with
  | error e => simp [bind, Except.bind]
  | ok a => simp [bind, Except.bind]

@[simp] theorem pure_eq_ok {a b : α} : (pure a : Except ε α) = .ok b ↔ a = b := by
  simp [pure, Except.pure]

@[simp] theorem ok_bind {a : α} {f : α → Except ε β} : (Except.ok a >>= f) = f a := rfl

@[simp] theorem throw_bind {e : ε} {f : α → Except ε β} : (throw e >>= f : Except ε β) = throw e := rfl

@[simp] theorem map_throw {e : ε} {f : α → β} : (f <$> throw e : Except ε β) = throw e := rfl

@[simp] theorem throw_ne_ok {e : ε} {a : α} : (throw e : Except ε α) ≠ .ok a := by
  simp [throw, throwThe, MonadExceptOf.throw]

@[simp] theorem mapError_eq_ok {ε' : Type u} {x : Except ε α} {f : ε → ε'} {a : α} :
    x.mapError f = .ok a ↔ x = .ok a := by
  cases x with
  | error e => simp [Except.mapError]
  | ok b => simp [Except.mapError]

theorem isOk_iff {x : Except ε α} : x.isOk = true ↔ ∃ a, x = .ok a := by
  cases x with
  | error e => simp [Except.isOk, Except.toBool]
  | ok a => simp [Except.isOk, Except.toBool]

theorem exists_map_eq_ok {x : Except ε α} {f : α → β} : (∃ b, (x >>= fun a => pure (f a)) = .ok b) ↔ ∃ a, x = .ok a := by
  simp only [bind_eq_ok, pure_eq_ok]
  constructor
  · rintro ⟨_, a, ha, _⟩
    exact ⟨a, ha⟩
  · rintro ⟨a, ha⟩
    exact ⟨f a, a, ha, rfl⟩

theorem exists_map₂_eq_ok {γ : Type v} {x : Except ε α} {y : Except ε β} {f : α → β → γ} :
    (∃ c, (x >>= fun a => y >>= fun b => pure (f a b)) = .ok c) ↔ (∃ a, x = .ok a) ∧ ∃ b, y = .ok b := by
  simp only [bind_eq_ok, pure_eq_ok]
  constructor
  · rintro ⟨_, a, ha, b, hb, _⟩
    exact ⟨⟨a, ha⟩, b, hb⟩
  · rintro ⟨⟨a, ha⟩, b, hb⟩
    exact ⟨f a b, a, ha, b, hb, rfl⟩

/-- A check that throws is passed exactly when its condition does not hold. -/
@[simp] theorem check_eq_ok {p : Prop} [Decidable p] {e : ε} {rest : Except ε α} {a : α} :
    (if p then throw e else rest) = .ok a ↔ ¬p ∧ rest = .ok a := by
  by_cases hp : p
  · simp [hp]
  · simp [hp]

@[simp] theorem ensure_eq_ok {p : Prop} [Decidable p] {e : ε} {rest : Except ε α} {a : α} :
    (if p then rest else throw e) = .ok a ↔ p ∧ rest = .ok a := by
  by_cases hp : p
  · simp [hp]
  · simp [hp]

end Except
