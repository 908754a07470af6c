import Issuer.Lib.Store

/-!
# One alarm for many entries

Entries of a table fall due at different times and one alarm looks after all of them; setting it
replaces the one before. `Covered`: nothing is stored unless an alarm is pending that is in time for it.
Removing entries keeps a cover, storing one needs the new alarm to be in time for the entry and for
all others, and a clean-up that rings at the earliest due time it met needs an entry among those it
met for each one that stays.
-/

namespace Alarm

open Store

section
variable {κ β τ : Type} [Ord κ]

def Covered (inTime : κ → β → τ → Prop) (m : Table κ β) (alarm : Option τ) : Prop :=
  ∀ (k : κ) (v : β), m[k]? = some v → ∃ due, alarm = some due ∧ inTime k v due

variable {inTime : κ → β → τ → Prop} {m m' : Table κ β} {alarm : Option τ}

theorem covered_of_subset (h : Covered inTime m alarm) (hsub : ∀ (k : κ) (v : β), m'[k]? = some v → m[k]? = some v) :
    Covered inTime m' alarm := fun k v hv => h k v (hsub k v hv)

theorem covered_of_forall {due : τ} (h : ∀ (k : κ) (v : β), m[k]? = some v → inTime k v due) :
    Covered inTime m (some due) := fun k v hv => ⟨due, rfl, h k v hv⟩

theorem covered_empty [Std.TransOrd κ] (alarm : Option τ) : Covered inTime ({} : Table κ β) alarm := by
  intro k v h
  simp at h

variable [Std.TransOrd κ] [Std.LawfulEqOrd κ] [DecidableEq κ]

theorem covered_erase (h : Covered inTime m alarm) (k : κ) : Covered inTime (m.erase k) alarm := by
  apply covered_of_subset h
  intro a v hv
  rw [erase_get] at hv
  by_cases hka : k = a
  · rw [if_pos hka] at hv; cases hv
  · rw [if_neg hka] at hv; exact hv

theorem covered_insert {k : κ} {v : β} {due : τ} (hself : inTime k v due)
    (hothers : ∀ (a : κ) (w : β), a ≠ k → m[a]? = some w → inTime a w due) : Covered inTime (m.insert k v) (some due) := by
  apply covered_of_forall
  intro a w hw
  rw [insert_get] at hw
  by_cases hka : k = a
  · rw [if_pos hka] at hw; cases hw; subst hka; exact hself
  · rw [if_neg hka] at hw; exact hothers a w (Ne.symm hka) hw

end

/-! ## Clean-up -/

section
variable {κ β τ σ : Type} [Ord κ] [LinearOrder τ] (judge : κ → β → Verdict τ)

theorem earlier_le (due : τ) (next : Option τ) : ∃ e, earlier due next = some e ∧ e ≤ due := by
  cases next with
  | none => exact ⟨due, rfl, le_refl _⟩
  | some e => exact ⟨min e due, rfl, min_le_right _ _⟩

theorem sweepStep_le {acc : Table κ β × Option τ} {e : τ} (h : acc.2 = some e) (k : κ) :
    ∃ e', (sweepStep judge acc k).2 = some e' ∧ e' ≤ e := by
  unfold sweepStep
  cases acc.1[k]? with
  | none => exact ⟨e, h, le_refl _⟩
  | some v =>
    simp only
    cases judge k v with
    | skip => exact ⟨e, h, le_refl _⟩
    | drop => exact ⟨e, h, le_refl _⟩
    | keep due => exact ⟨min e due, by simp [earlier, h], min_le_left _ _⟩

theorem foldl_sweepStep_le (ks : List κ) : ∀ (acc : Table κ β × Option τ) (e : τ), acc.2 = some e →
    ∃ e', (ks.foldl (sweepStep judge) acc).2 = some e' ∧ e' ≤ e := by
  induction ks with
  | nil => intro acc e h; exact ⟨e, h, le_refl _⟩
  | cons k ks ih =>
    intro acc e h
    obtain ⟨e₁, h₁, hle₁⟩ := sweepStep_le judge h k
    obtain ⟨e₂, h₂, hle₂⟩ := ih (sweepStep judge acc k) e₁ h₁
    exact ⟨e₂, h₂, le_trans hle₂ hle₁⟩

variable [Std.TransOrd κ] [Std.LawfulEqOrd κ] [DecidableEq κ]

theorem foldl_sweepStep_kept (ks : List κ) : ∀ (acc : Table κ β × Option τ) {k : κ} {v : β} {due : τ}, k ∈ ks →
    acc.1[k]? = some v → judge k v = .keep due → ∃ e, (ks.foldl (sweepStep judge) acc).2 = some e ∧ e ≤ due := by
  induction ks with
  | nil => intro acc k v due hk; cases hk
  | cons a ks ih =>
    intro acc k v due hk hv hj
    by_cases ha : a = k
    · subst ha
      have hstep : sweepStep judge acc a = (acc.1, earlier due acc.2) := by
        unfold sweepStep
        simp only [hv, hj]
      obtain ⟨e, he, hle⟩ := earlier_le due acc.2
      obtain ⟨e', he', hle'⟩ := foldl_sweepStep_le judge ks (sweepStep judge acc a) e (by rw [hstep]; exact he)
      exact ⟨e', he', le_trans hle' hle⟩
    · have hk' : k ∈ ks := (List.mem_cons.mp hk).resolve_left (Ne.symm ha)
      refine ih (sweepStep judge acc a) hk' ?_ hj
      rcases sweepStep_get judge acc a k with heq | ⟨-, w, hw, hdrop⟩
      · rw [heq, hv]
      · rw [hv] at hw; cases hw; rw [hj] at hdrop; cases hdrop

theorem foldl_sweepStep_dropped (ks : List κ) : ∀ (acc : Table κ β × Option τ) {k : κ} {v : β}, k ∈ ks →
    acc.1[k]? = some v → judge k v = .drop → (ks.foldl (sweepStep judge) acc).1[k]? = none := by
  induction ks with
  | nil => intro acc k v hk; cases hk
  | cons a ks ih =>
    intro acc k v hk hv hj
    by_cases ha : a = k
    · subst ha
      have hgone : (sweepStep judge acc a).1[a]? = none := by
        unfold sweepStep
        simp [hv, hj]
      rcases foldl_sweepStep_get judge a ks (sweepStep judge acc a) with heq | ⟨hnone, -⟩
      · rw [List.foldl_cons, heq, hgone]
      · exact hnone
    · have hk' : k ∈ ks := (List.mem_cons.mp hk).resolve_left (Ne.symm ha)
      rcases sweepStep_get judge acc a k with heq | ⟨hnone, -⟩
      · exact ih (sweepStep judge acc a) hk' (by rw [heq, hv]) hj
      · rcases foldl_sweepStep_get judge k ks (sweepStep judge acc a) with heq' | ⟨hnone', -⟩
        · rw [List.foldl_cons, heq', hnone]
        · exact hnone'

/-- **A clean-up that rings again.** Each entry is met and dropped, or an entry that is met and kept
rings in time for it. -/
theorem covered_sweep {inTime : κ → β → σ → Prop} {ring : τ → σ} {m : Table κ β} {ks : List κ}
    (hmono : ∀ k v a b, a ≤ b → inTime k v (ring b) → inTime k v (ring a))
    (h : ∀ (k : κ) (v : β), m[k]? = some v → (k ∈ ks ∧ judge k v = .drop) ∨
      ∃ k' ∈ ks, ∃ v' due, m[k']? = some v' ∧ judge k' v' = .keep due ∧ inTime k v (ring due)) :
    Covered inTime (sweep judge m ks).1 ((sweep judge m ks).2.map ring) := by
  intro k v hv
  rcases h k v (sweep_subset judge hv) with ⟨hk, hdrop⟩ | ⟨k', hk', v', due, hv', hkeep, hring⟩
  · have hgone := foldl_sweepStep_dropped judge ks (m, none) hk (sweep_subset judge hv) hdrop
    rw [sweep, hgone] at hv
    cases hv
  · obtain ⟨e, he, hle⟩ := foldl_sweepStep_kept judge ks (m, none) hk' hv' hkeep
    refine ⟨ring e, ?_, hmono k v e due hle hring⟩
    rw [sweep, he, Option.map_some]

end

end Alarm
