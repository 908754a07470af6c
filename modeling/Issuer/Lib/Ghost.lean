import Issuer.Lib.Prog

/-!
# Pools of programs that follow a protocol

Every program of a pool keeps a ghost state of its own. The invariant of the world may speak of all the ghost
states; what a program is promised may differ from one program to the next.
-/

namespace Pool

section
variable {ω Op ε η α G : Type} {Ans : Op → Type} (handle : ω → ε → (o : Op) → Ans o × ω) (react : ω → η → ω)
  {next : G → (o : Op) → Ans o → G} {P : G → Op → Prop} {A : Nat → G → (o : Op) → Ans o → Prop} {R : (Nat → G) → ω → Prop}
  {Q : Nat → G → α → Prop} {ok : Pool ω Op Ans α → Turn ε η → Prop}

theorem step_follows
    (hop : ∀ s γ i e o k, ok s (.proc i e) → s.procs i = .ask o k → P (γ i) o → R γ s.world →
      A i (γ i) o (handle s.world e o).1 ∧
        R (Function.update γ i (next (γ i) o (handle s.world e o).1)) (handle s.world e o).2)
    (henv : ∀ s γ h, ok s (.env h) → R γ s.world → R γ (react s.world h))
    {s : Pool ω Op Ans α} {γ : Nat → G} {turn : Turn ε η} (hr : R γ s.world)
    (hp : ∀ i, (s.procs i).Follows next P (A i) (Q i) (γ i)) (hok : ok s turn) :
    ∃ γ', R γ' (step handle react s turn).world ∧
      ∀ i, ((step handle react s turn).procs i).Follows next P (A i) (Q i) (γ' i) := by
  cases turn with
  | env h => exact ⟨γ, henv s γ h hok hr, hp⟩
  | proc i e =>
    have hi := hp i
    rcases (s.procs i).advance_cases handle s.world e with ⟨a, hret, hadv⟩ | ⟨o, k, hask, hadv⟩
    · rw [hret] at hi
      refine ⟨γ, ?_, fun j => ?_⟩
      · simp only [step, hadv]; exact hr
      · simp only [step, hadv]
        by_cases hj : j = i
        · subst hj; rw [Function.update_self]; exact hi
        · rw [Function.update_of_ne hj]; exact hp j
    · rw [hask] at hi
      obtain ⟨hans, hkeep⟩ := hop s γ i e o k hok hask hi.1 hr
      refine ⟨Function.update γ i (next (γ i) o (handle s.world e o).1), ?_, fun j => ?_⟩
      · simp only [step, hadv]; exact hkeep
      · simp only [step, hadv]
        by_cases hj : j = i
        · subst hj; rw [Function.update_self, Function.update_self]; exact hi.2 _ hans
        · rw [Function.update_of_ne hj, Function.update_of_ne hj]; exact hp j

/-- **Pools that follow a protocol.** The invariant holds along the run, and every program goes on as its
protocol says. -/
theorem pool_follows
    (hop : ∀ s γ i e o k, ok s (.proc i e) → s.procs i = .ask o k → P (γ i) o → R γ s.world →
      A i (γ i) o (handle s.world e o).1 ∧
        R (Function.update γ i (next (γ i) o (handle s.world e o).1)) (handle s.world e o).2)
    (henv : ∀ s γ h, ok s (.env h) → R γ s.world → R γ (react s.world h))
    (turns : List (Turn ε η)) (s : Pool ω Op Ans α) {γ : Nat → G} (hr : R γ s.world)
    (hp : ∀ i, (s.procs i).Follows next P (A i) (Q i) (γ i)) (hok : Runs.Along (step handle react) ok s turns) :
    ∃ γ', R γ' (Runs.exec (step handle react) s turns).world ∧
      ∀ i, ((Runs.exec (step handle react) s turns).procs i).Follows next P (A i) (Q i) (γ' i) := by
  refine Runs.exec_invariant (step handle react)
    (I := fun s => ∃ γ, R γ s.world ∧ ∀ i, (s.procs i).Follows next P (A i) (Q i) (γ i)) ?_ turns s ⟨γ, hr, hp⟩ hok
  rintro s turn ⟨γ, hr, hp⟩ hturn
  exact step_follows handle react hop henv hr hp hturn

end

end Pool
