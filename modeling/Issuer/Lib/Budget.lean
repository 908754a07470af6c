import Issuer.Lib.Runs

/-!
# Budgets per key

Each input of a run draws on the budget of its key: it is accepted while less than the limit is used, and uses one
more then. A run accepts what its inputs ask of each key, up to what is left of it.
-/

namespace Runs

section
variable {σ ι κ : Type*} [DecidableEq κ] {step : σ → ι → σ} {hit : σ → ι → Bool} {key : ι → κ} {limit : Nat}
  {used : σ → κ → Nat} {I : σ → Prop} {ok : ι → Prop}

/-- What the keys can still accept of the inputs. -/
def granted (key : ι → κ) (limit : Nat) (used : κ → Nat) (keys : Finset κ) (is : List ι) : Nat :=
  keys.sum fun k => min (is.countP fun i => key i = k) (limit - used k)

theorem granted_nil (used : κ → Nat) (keys : Finset κ) : granted key limit used keys [] = 0 := by
  simp [granted]

theorem granted_cons {used used' : κ → Nat} {keys : Finset κ} {i : ι} {is : List ι} (hi : key i ∈ keys)
    (hother : ∀ k, k ≠ key i → used' k = used k)
    (hself : used' (key i) = if used (key i) < limit then used (key i) + 1 else used (key i)) :
    granted key limit used keys (i :: is) = (if used (key i) < limit then 1 else 0) + granted key limit used' keys is := by
  unfold granted
  rw [← Finset.add_sum_erase keys _ hi, ← Finset.add_sum_erase keys (fun k => min _ (limit - used' k)) hi]
  have hrest : ((keys.erase (key i)).sum fun k => min ((i :: is).countP fun j => key j = k) (limit - used k)) =
      (keys.erase (key i)).sum fun k => min (is.countP fun j => key j = k) (limit - used' k) := by
    refine Finset.sum_congr rfl fun k hk => ?_
    have hne : k ≠ key i := Finset.ne_of_mem_erase hk
    rw [hother k hne, List.countP_cons_of_neg (by simpa using hne.symm)]
  have hcount : ((i :: is).countP fun j => key j = key i) = (is.countP fun j => key j = key i) + 1 :=
    List.countP_cons_of_pos (by simp)
  rw [hrest, hcount, hself]
  by_cases hfull : used (key i) < limit
  · simp only [if_pos hfull]
    omega
  · simp only [if_neg hfull]
    omega

theorem hits_eq_granted (keys : Finset κ)
    (hstep : ∀ s i, I s → ok i → I (step s i) ∧ hit s i = decide (used s (key i) < limit) ∧
      (∀ k, k ≠ key i → used (step s i) k = used s k) ∧
      used (step s i) (key i) = if used s (key i) < limit then used s (key i) + 1 else used s (key i)) :
    ∀ (is : List ι) (s : σ), I s → (∀ i ∈ is, ok i ∧ key i ∈ keys) →
      hits step hit s is = granted key limit (used s) keys is := by
  intro is
  induction is with
  | nil => intro s _ _; rw [granted_nil]; rfl
  | cons i is ih =>
    intro s hs hok
    obtain ⟨hi, hkey⟩ := hok i List.mem_cons_self
    obtain ⟨hnext, hhit, hother, hself⟩ := hstep s i hs hi
    rw [hits, ih _ hnext fun j hj => hok j (List.mem_cons_of_mem i hj), granted_cons hkey hother hself, hhit]
    simp

/-- **One budget.** Where only some inputs draw on a budget and the others leave it alone, a run accepts what draws on
it, up to what is left. -/
theorem hits_eq_min {draws : ι → Bool} {used : σ → Nat}
    (hstep : ∀ s i, I s → ok i → I (step s i) ∧ hit s i = (draws i && decide (used s < limit)) ∧
      used (step s i) = if draws i = true ∧ used s < limit then used s + 1 else used s) :
    ∀ (is : List ι) (s : σ), I s → (∀ i ∈ is, ok i) → hits step hit s is = min (is.countP draws) (limit - used s) := by
  intro is
  induction is with
  | nil => intro s _ _; simp [hits]
  | cons i is ih =>
    intro s hs hok
    obtain ⟨hnext, hhit, hused⟩ := hstep s i hs (hok i List.mem_cons_self)
    rw [hits, ih _ hnext fun j hj => hok j (List.mem_cons_of_mem i hj), hhit, hused]
    by_cases hdraws : draws i = true
    · rw [List.countP_cons_of_pos hdraws]
      by_cases hroom : used s < limit
      · simp only [hdraws, hroom, decide_true, Bool.and_self, and_self, if_true]
        omega
      · simp only [hdraws, hroom, decide_false, Bool.and_false, and_false, Bool.false_eq_true, if_false]
        omega
    · rw [List.countP_cons_of_neg hdraws]
      simp [hdraws]

theorem granted_singleton (used : κ → Nat) (k : κ) (is : List ι) : granted key limit used {k} is ≤ limit - used k := by
  simp [granted]

end

end Runs
