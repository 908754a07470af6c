import Mathlib

/-!
# An expiring set

A set of keys, each present up to and including its expiry. `checkAndSet` adds a key that is not
present. Two sets agree from a time on when the same keys are present at all later times; entries
that have expired by then may differ, so dropping them is never seen.
-/

namespace ExpiringSet

variable {κ τ : Type*} [LinearOrder τ]

def Present (s : κ → Option τ) (k : κ) (t : τ) : Prop := ∃ e, s k = some e ∧ t ≤ e

instance decidablePresent (s : κ → Option τ) (k : κ) (t : τ) : Decidable (Present s k t) :=
  match h : s k with
  | none => isFalse fun ⟨_, he, _⟩ => by rw [h] at he; cases he
  | some e => decidable_of_iff (t ≤ e) ⟨fun hle => ⟨e, h, hle⟩, fun ⟨e', he', hle⟩ => by
      rw [h] at he'
      cases he'
      exact hle⟩

def checkAndSet [DecidableEq κ] (s : κ → Option τ) (k : κ) (t expiry : τ) : Bool × (κ → Option τ) :=
  if Present s k t then (false, s) else (true, Function.update s k (some expiry))

def AgreeFrom (t : τ) (s s' : κ → Option τ) : Prop := ∀ k u, t ≤ u → (Present s k u ↔ Present s' k u)

variable {s s' s'' : κ → Option τ} {t u e : τ} {k : κ}

theorem AgreeFrom.refl (t : τ) (s : κ → Option τ) : AgreeFrom t s s := fun _ _ _ => Iff.rfl

theorem AgreeFrom.symm (h : AgreeFrom t s s') : AgreeFrom t s' s := fun k u hu => (h k u hu).symm

theorem AgreeFrom.trans (h : AgreeFrom t s s') (h' : AgreeFrom t s' s'') : AgreeFrom t s s'' :=
  fun k u hu => (h k u hu).trans (h' k u hu)

theorem AgreeFrom.mono (h : AgreeFrom t s s') (hle : t ≤ u) : AgreeFrom u s s' :=
  fun k v hv => h k v (le_trans hle hv)

/-- Expired entries may be dropped. -/
theorem agreeFrom_of_dropped (h : ∀ k, s' k = s k ∨ s' k = none ∧ ∃ e, s k = some e ∧ e < t) : AgreeFrom t s s' := by
  intro k u hu
  unfold Present
  rcases h k with heq | ⟨hnone, e, he, hlt⟩
  · rw [heq]
  · rw [hnone, he]
    constructor
    · rintro ⟨e', he', hle⟩
      cases he'
      exact absurd (lt_of_le_of_lt hle (lt_of_lt_of_le hlt hu)) (lt_irrefl u)
    · rintro ⟨e', he', -⟩
      cases he'

theorem agreeFrom_update [DecidableEq κ] (h : AgreeFrom t s s') (k : κ) (e : τ) :
    AgreeFrom t (Function.update s k (some e)) (Function.update s' k (some e)) := by
  intro a u hu
  unfold Present
  by_cases ha : a = k
  · subst ha
    rw [Function.update_self, Function.update_self]
  · rw [Function.update_of_ne ha, Function.update_of_ne ha]
    exact h a u hu

/-- Sets that agree answer alike and still agree. -/
theorem checkAndSet_agree [DecidableEq κ] (h : AgreeFrom t s s') (hle : t ≤ u) :
    (checkAndSet s k u e).1 = (checkAndSet s' k u e).1 ∧
      AgreeFrom t (checkAndSet s k u e).2 (checkAndSet s' k u e).2 := by
  have hk := h k u hle
  unfold checkAndSet
  by_cases hp : Present s k u
  · rw [if_pos hp, if_pos (hk.mp hp)]
    exact ⟨rfl, h⟩
  · rw [if_neg hp, if_neg fun hp' => hp (hk.mpr hp')]
    exact ⟨rfl, agreeFrom_update h k e⟩

end ExpiringSet
