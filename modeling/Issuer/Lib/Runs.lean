import Mathlib

/-!
# Runs of a step function

A run feeds inputs to a step function one after another. Each input makes its clock readings
between `start` and `stop`; a run is `Ordered` when no reading goes back behind an earlier one.

`exec_invariant` and `exec_timed` carry an invariant along a run, the second one relative to the
time reached. `hits_le_one` is the rule for one-time tokens: an accepted input sets a guard, the
guard outlives every step up to a deadline and refuses further ones, so at most one input is
accepted up to that deadline.

`outputs` collects what the steps of a run answer. `outputs_eq_of_simulates` is the simulation rule for
two step functions under one clock, `outputs_eq_of_skipped` the one for a run and the same run without
some of its inputs, `outputs_filter` removes the steps that neither answer nor change anything.
-/

namespace Runs

section
variable {σ ι : Type*} (step : σ → ι → σ)

def exec (s : σ) (is : List ι) : σ := is.foldl step s

@[simp] theorem exec_nil (s : σ) : exec step s [] = s := rfl

@[simp] theorem exec_cons (s : σ) (i : ι) (is : List ι) :
    exec step s (i :: is) = exec step (step s i) is := rfl

theorem exec_append (s : σ) (is js : List ι) : exec step s (is ++ js) = exec step (exec step s is) js :=
  List.foldl_append

def Along (ok : σ → ι → Prop) : σ → List ι → Prop
  | _, [] => True
  | s, i :: is => ok s i ∧ Along ok (step s i) is

instance decidableAlong (ok : σ → ι → Prop) [∀ s i, Decidable (ok s i)] : ∀ (s : σ) (is : List ι),
    Decidable (Along step ok s is)
  | _, [] => inferInstanceAs (Decidable True)
  | s, i :: is =>
    have := decidableAlong ok (step s i) is
    inferInstanceAs (Decidable (ok s i ∧ Along step ok (step s i) is))

theorem along_of_forall {ok : ι → Prop} : ∀ (is : List ι) (s : σ), (∀ i ∈ is, ok i) → Along step (fun _ => ok) s is
  | [], _, _ => trivial
  | i :: is, s, h =>
    ⟨h i (by simp), along_of_forall is (step s i) fun j hj => h j (List.mem_cons_of_mem i hj)⟩

theorem along_append {ok : σ → ι → Prop} : ∀ (is js : List ι) (s : σ), Along step ok s (is ++ js) ↔
    Along step ok s is ∧ Along step ok (exec step s is) js
  | [], js, s => by simp [Along]
  | i :: is, js, s => by simp [Along, along_append is js (step s i), and_assoc]

theorem along_and {ok : σ → ι → Prop} {p : ι → Prop} : ∀ (is : List ι) (s : σ), Along step ok s is →
    (∀ i ∈ is, p i) → Along step (fun s i => ok s i ∧ p i) s is
  | [], _, _, _ => trivial
  | i :: is, s, hok, hp =>
    ⟨⟨hok.1, hp i (by simp)⟩, along_and is (step s i) hok.2 fun j hj => hp j (List.mem_cons_of_mem i hj)⟩

theorem exec_invariant {I : σ → Prop} {ok : σ → ι → Prop}
    (hstep : ∀ s i, I s → ok s i → I (step s i)) :
    ∀ (is : List ι) (s : σ), I s → Along step ok s is → I (exec step s is)
  | [], _, hs, _ => hs
  | i :: is, s, hs, hok => exec_invariant hstep is (step s i) (hstep s i hs hok.1) hok.2

theorem exec_preserves {I : σ → Prop} (hstep : ∀ s i, I s → I (step s i)) (is : List ι) (s : σ) (hs : I s) :
    I (exec step s is) := by
  induction is generalizing s with
  | nil => exact hs
  | cons i is ih => exact ih (step s i) (hstep s i hs)

end

section
variable {σ ι τ : Type*} [Preorder τ] (start stop : ι → τ)

def Ordered : τ → List ι → Prop
  | _, [] => True
  | t, i :: is => t ≤ start i ∧ start i ≤ stop i ∧ Ordered (stop i) is

def endTime : τ → List ι → τ
  | t, [] => t
  | _, i :: is => endTime (stop i) is

instance decidableOrdered [DecidableLE τ] : ∀ (t : τ) (is : List ι), Decidable (Ordered start stop t is)
  | _, [] => inferInstanceAs (Decidable True)
  | t, i :: is =>
    have := decidableOrdered (stop i) is
    inferInstanceAs (Decidable (t ≤ start i ∧ start i ≤ stop i ∧ Ordered start stop (stop i) is))

variable {start stop}

omit [Preorder τ] in
theorem endTime_append : ∀ (is js : List ι) (t : τ), endTime stop t (is ++ js) = endTime stop (endTime stop t is) js
  | [], _, _ => rfl
  | i :: is, js, _ => endTime_append is js (stop i)

theorem ordered_append : ∀ (is js : List ι) (t : τ), Ordered start stop t (is ++ js) ↔
    Ordered start stop t is ∧ Ordered start stop (endTime stop t is) js
  | [], js, t => by simp [Ordered, endTime]
  | i :: is, js, t => by simp [Ordered, endTime, ordered_append is js (stop i), and_assoc]

theorem ordered_le_start : ∀ (is : List ι) (t : τ), Ordered start stop t is → ∀ i ∈ is, t ≤ start i
  | [], _, _, _, hi => absurd hi List.not_mem_nil
  | j :: is, t, h, i, hi => by
    rcases List.mem_cons.mp hi with rfl | hi
    · exact h.1
    · exact le_trans (le_trans h.1 h.2.1) (ordered_le_start is (stop j) h.2.2 i hi)

theorem exec_timed (step : σ → ι → σ) {I : τ → σ → Prop} {ok : σ → ι → Prop}
    (hstep : ∀ t s i, I t s → t ≤ start i → start i ≤ stop i → ok s i → I (stop i) (step s i)) :
    ∀ (is : List ι) (t : τ) (s : σ), I t s → Ordered start stop t is → Along step ok s is →
      I (endTime stop t is) (exec step s is)
  | [], _, _, hs, _, _ => hs
  | i :: is, t, s, hs, ho, hok =>
    exec_timed step hstep is (stop i) (step s i) (hstep t s i hs ho.1 ho.2.1 hok.1) ho.2.2 hok.2

end

/-! ## Accepting at most once -/

section
variable {σ ι τ : Type*} [LinearOrder τ] {start stop : ι → τ} (step : σ → ι → σ)

def hits (hit : σ → ι → Bool) : σ → List ι → Nat
  | _, [] => 0
  | s, i :: is => (if hit s i then 1 else 0) + hits hit (step s i) is

variable {step} {hit : σ → ι → Bool} {ok : σ → ι → Prop} {G : σ → Prop} {e : τ}

theorem hits_late (hdue : ∀ s i, ok s i → hit s i = true → start i ≤ e) :
    ∀ (is : List ι) (t : τ) (s : σ), e < t → Ordered start stop t is → Along step ok s is →
      hits step hit s is = 0
  | [], _, _, _, _, _ => rfl
  | i :: is, t, s, ht, ho, hok => by
    have hi : hit s i = false := by
      refine Bool.eq_false_iff.mpr fun h => ?_
      exact absurd (hdue s i hok.1 h) (not_le.mpr (lt_of_lt_of_le ht ho.1))
    have hstop : e < stop i := lt_of_lt_of_le ht (le_trans ho.1 ho.2.1)
    simp [hits, hi, hits_late hdue is (stop i) (step s i) hstop ho.2.2 hok.2]

theorem hits_guarded (hdue : ∀ s i, ok s i → hit s i = true → start i ≤ e)
    (hkeep : ∀ s i, ok s i → G s → stop i ≤ e → G (step s i))
    (hdeny : ∀ s i, ok s i → G s → start i ≤ e → hit s i = false) :
    ∀ (is : List ι) (t : τ) (s : σ), G s → Ordered start stop t is → Along step ok s is →
      hits step hit s is = 0
  | [], _, _, _, _, _ => rfl
  | i :: is, t, s, hg, ho, hok => by
    have hi : hit s i = false := by
      refine Bool.eq_false_iff.mpr fun h => ?_
      rw [hdeny s i hok.1 hg (hdue s i hok.1 h)] at h
      cases h
    rcases le_or_gt (stop i) e with hle | hlt
    · simp [hits, hi, hits_guarded hdue hkeep hdeny is (stop i) (step s i) (hkeep s i hok.1 hg hle)
        ho.2.2 hok.2]
    · simp [hits, hi, hits_late hdue is (stop i) (step s i) hlt ho.2.2 hok.2]

/-- **One-time acceptance.** Hits happen up to the deadline only, a hit sets the guard, and the
guard lasts up to the deadline and refuses hits. -/
theorem hits_le_one (hdue : ∀ s i, ok s i → hit s i = true → start i ≤ e)
    (hset : ∀ s i, ok s i → hit s i = true → stop i ≤ e → G (step s i))
    (hkeep : ∀ s i, ok s i → G s → stop i ≤ e → G (step s i))
    (hdeny : ∀ s i, ok s i → G s → start i ≤ e → hit s i = false) :
    ∀ (is : List ι) (t : τ) (s : σ), Ordered start stop t is → Along step ok s is →
      hits step hit s is ≤ 1
  | [], _, _, _, _ => Nat.zero_le _
  | i :: is, t, s, ho, hok => by
    cases hi : hit s i with
    | false =>
      have := hits_le_one hdue hset hkeep hdeny is (stop i) (step s i) ho.2.2 hok.2
      simpa [hits, hi] using this
    | true =>
      have h0 : hits step hit (step s i) is = 0 := by
        rcases le_or_gt (stop i) e with hle | hlt
        · exact hits_guarded hdue hkeep hdeny is (stop i) (step s i) (hset s i hok.1 hi hle)
            ho.2.2 hok.2
        · exact hits_late hdue is (stop i) (step s i) hlt ho.2.2 hok.2
      simp [hits, hi, h0]

end

/-! ## Answers -/

section
variable {σ σ' ι ω τ : Type*}

def outputs (step : σ → ι → σ) (out : σ → ι → Option ω) : σ → List ι → List ω
  | _, [] => []
  | s, i :: is => (out s i).toList ++ outputs step out (step s i) is

/-- **Simulation.** States that are related at a time answer alike and stay related. -/
theorem outputs_eq_of_simulates [Preorder τ] {start stop : ι → τ} {step : σ → ι → σ} {step' : σ' → ι → σ'}
    {out : σ → ι → Option ω} {out' : σ' → ι → Option ω} {ok : ι → Prop} {R : τ → σ → σ' → Prop}
    (hstep : ∀ t s s' i, R t s s' → t ≤ start i → start i ≤ stop i → ok i →
      out s i = out' s' i ∧ R (stop i) (step s i) (step' s' i)) :
    ∀ (is : List ι) (t : τ) (s : σ) (s' : σ'), R t s s' → Ordered start stop t is → (∀ i ∈ is, ok i) →
      outputs step out s is = outputs step' out' s' is
  | [], _, _, _, _, _, _ => rfl
  | i :: is, t, s, s', hr, ho, hok => by
    obtain ⟨hout, hr'⟩ := hstep t s s' i hr ho.1 ho.2.1 (hok i (by simp))
    rw [outputs, outputs, hout, outputs_eq_of_simulates hstep is (stop i) _ _ hr' ho.2.2
      fun j hj => hok j (List.mem_cons_of_mem i hj)]

/-- **Skipping inputs.** Inputs that are skipped answer nothing and keep two runs related, the others keep
them related and answer alike in both: the run without the former answers as the whole run does. -/
theorem outputs_eq_of_skipped [Preorder τ] {start stop : ι → τ} {step : σ → ι → σ} {out : σ → ι → Option ω}
    {skip : ι → Bool} {ok : σ → ι → Prop} {R : τ → σ → σ → Prop}
    (hskip : ∀ t s s' i, skip i = true → R t s s' → t ≤ start i → start i ≤ stop i → ok s i →
      out s i = none ∧ R (stop i) (step s i) s')
    (hkeep : ∀ t s s' i, skip i = false → R t s s' → t ≤ start i → start i ≤ stop i → ok s i →
      out s i = out s' i ∧ R (stop i) (step s i) (step s' i)) :
    ∀ (is : List ι) (t : τ) (s s' : σ), R t s s' → Ordered start stop t is → Along step ok s is →
      outputs step out s is = outputs step out s' (is.filter fun i => !skip i) := by
  intro is
  induction is with
  | nil => intro t s s' _ _ _; rfl
  | cons i is ih =>
    intro t s s' hr ho hok
    by_cases hi : skip i = true
    · obtain ⟨hout, hr'⟩ := hskip t s s' i hi hr ho.1 ho.2.1 hok.1
      rw [List.filter_cons_of_neg (by simp [hi]), outputs, hout, ih (stop i) _ _ hr' ho.2.2 hok.2]
      rfl
    · have hi' : skip i = false := by simpa using hi
      obtain ⟨hout, hr'⟩ := hkeep t s s' i hi' hr ho.1 ho.2.1 hok.1
      rw [List.filter_cons_of_pos (by simp [hi']), outputs, outputs, hout, ih (stop i) _ _ hr' ho.2.2 hok.2]

theorem outputs_filter {step : σ → ι → σ} {out : σ → ι → Option ω} (p : ι → Bool)
    (hsilent : ∀ s i, p i = false → out s i = none ∧ step s i = s) :
    ∀ (is : List ι) (s : σ), outputs step out s is = outputs step out s (is.filter p)
  | [], _ => rfl
  | i :: is, s => by
    cases hp : p i with
    | true => rw [List.filter_cons_of_pos hp, outputs, outputs, outputs_filter p hsilent is]
    | false =>
      obtain ⟨hout, hs⟩ := hsilent s i hp
      rw [List.filter_cons_of_neg (by simp [hp]), outputs, hout, hs, outputs_filter p hsilent is]
      rfl

end

end Runs
