import Issuer.Lib.Runs

/-!
# A value that is kept for a while

A slot of the state holds a value and the time it was filled. It is read for the lifetime of its value, and
nothing fills it while it can be read. Then what is read is what the history has filled it with, not too long
ago (`read_iff`).
-/

namespace TtlSlot

open Runs

section
variable {σ ι α : Type*}

def read (ttl : α → Int) (now : Int) : Option (α × Int) → Option α
  | some (a, filled) => if 0 ≤ now - filled ∧ now - filled < ttl a then some a else none
  | none => none

/-- `fill` says what an input puts into the slot. -/
structure Keeps (step : σ → ι → σ) (time : ι → Int) (ttl : α → Int) (slot : σ → Option (α × Int))
    (fill : σ → ι → Option α) : Prop where
  filled : ∀ s i a, fill s i = some a → slot (step s i) = some (a, time i)
  left : ∀ s i, fill s i = none → slot (step s i) = slot s
  guarded : ∀ s i, (read ttl (time i) (slot s)).isSome = true → fill s i = none

variable {step : σ → ι → σ} {time : ι → Int} {ttl : α → Int} {slot : σ → Option (α × Int)} {fill : σ → ι → Option α}
  {s₀ : σ} {a : α}

theorem read_eq_some {now : Int} {o : Option (α × Int)} :
    read ttl now o = some a ↔ ∃ t, o = some (a, t) ∧ t ≤ now ∧ now < t + ttl a := by
  rcases o with _ | ⟨b, t⟩
  · simp [read]
  · simp only [read, Option.some.injEq, Prod.mk.injEq]
    constructor
    · intro h
      split at h
      · cases h
        exact ⟨t, ⟨rfl, rfl⟩, by omega, by omega⟩
      · cases h
    · rintro ⟨u, ⟨rfl, rfl⟩, hle, hlt⟩
      rw [if_pos ⟨by omega, by omega⟩]

theorem filled_of_slot (hk : Keeps step time ttl slot fill) (hnone : slot s₀ = none) {t : Int} (is : List ι)
    (h : slot (exec step s₀ is) = some (a, t)) :
    ∃ past i rest, is = past ++ i :: rest ∧ fill (exec step s₀ past) i = some a ∧ time i = t := by
  induction is using List.reverseRecOn with
  | nil =>
    rw [exec_nil, hnone] at h
    cases h
  | append_singleton is i ih =>
    rw [exec_append, exec_cons, exec_nil] at h
    cases hfill : fill (exec step s₀ is) i with
    | none =>
      rw [hk.left _ _ hfill] at h
      obtain ⟨past, j, rest, rfl, hj, ht⟩ := ih h
      exact ⟨past, j, rest ++ [i], by simp, hj, ht⟩
    | some b =>
      rw [hk.filled _ _ _ hfill] at h
      obtain ⟨rfl, rfl⟩ := Prod.mk.inj (Option.some.inj h)
      exact ⟨is, i, [], rfl, hfill, rfl⟩

theorem slot_of_filled (hk : Keeps step time ttl slot fill) {t : Int} (is : List ι) (s : σ) (h : slot s = some (a, t))
    (his : ∀ i ∈ is, t ≤ time i ∧ time i < t + ttl a) : slot (exec step s is) = some (a, t) := by
  induction is generalizing s with
  | nil => exact h
  | cons i is ih =>
    have hread : read ttl (time i) (slot s) = some a := read_eq_some.mpr ⟨t, h, his i (by simp)⟩
    have hfill := hk.guarded s i (by rw [hread]; rfl)
    exact ih (step s i) (by rw [hk.left _ _ hfill, h]) fun j hj => his j (List.mem_cons_of_mem i hj)

/-- **What is read.** Along a run whose clock does not go back, a slot that starts empty hands out what some
input has put there within its lifetime. -/
theorem read_iff (hk : Keeps step time ttl slot fill) (hnone : slot s₀ = none) {is : List ι} {now : Int}
    (hordered : is.Pairwise fun i j => time i ≤ time j) (hnow : ∀ i ∈ is, time i ≤ now) :
    read ttl now (slot (exec step s₀ is)) = some a ↔
      ∃ past i rest, is = past ++ i :: rest ∧ fill (exec step s₀ past) i = some a ∧ now < time i + ttl a := by
  rw [read_eq_some]
  constructor
  · rintro ⟨t, hslot, -, hlt⟩
    obtain ⟨past, i, rest, his, hfill, rfl⟩ := filled_of_slot hk hnone is hslot
    exact ⟨past, i, rest, his, hfill, hlt⟩
  · rintro ⟨past, i, rest, rfl, hfill, hlt⟩
    have hafter := (List.pairwise_cons.mp (List.pairwise_append.mp hordered).2.1).1
    refine ⟨time i, ?_, hnow i (by simp), hlt⟩
    rw [exec_append, exec_cons]
    apply slot_of_filled hk rest _ (hk.filled _ _ _ hfill)
    intro j hj
    exact ⟨hafter j hj, lt_of_le_of_lt (hnow j (by simp [hj])) hlt⟩

end

end TtlSlot
