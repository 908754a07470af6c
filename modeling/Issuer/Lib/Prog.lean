import Mathlib
import Issuer.Lib.Runs

/-!
# Programs that ask the world, and pools of them

A `Prog` asks for operations and goes on with their answers. A `Pool` is a world shared by any
number of programs; one turn lets one program make one operation, or lets the environment act, so a
run of turns is an interleaving of the programs.

`Follows` holds a program to a protocol with a state of its own; `stepLogged` keeps the operations that were
made, so that a property of the order of operations can be stated.

`Safe P A Q`: the program only asks for operations with `P` and, as long as it is answered within
`A`, returns only values with `Q`. `safe_bind` composes such programs and `pool_safe` carries a pool
of them along a run. `Within n` bounds the operations of a program; `exec_returns` says that it has
returned after that many turns of its own.
-/

inductive Prog (Op : Type) (Ans : Op → Type) (α : Type) where
  | ret (a : α)
  | ask (o : Op) (k : Ans o → Prog Op Ans α)

namespace Prog

section
variable {Op : Type} {Ans : Op → Type} {α β : Type}

def bind : Prog Op Ans α → (α → Prog Op Ans β) → Prog Op Ans β
  | .ret a, f => f a
  | .ask o k, f => .ask o fun x => (k x).bind f

instance : Monad (Prog Op Ans) where
  pure := .ret
  bind := Prog.bind

def op (o : Op) : Prog Op Ans (Ans o) := .ask o .ret

def next : Prog Op Ans α → Option Op
  | .ret _ => none
  | .ask o _ => some o

def result : Prog Op Ans α → Option α
  | .ret a => some a
  | .ask _ _ => none

theorem result_eq_some {p : Prog Op Ans α} {a : α} : p.result = some a ↔ p = .ret a := by
  cases p <;> simp [result]

@[simp] theorem pure_eq (a : α) : (pure a : Prog Op Ans α) = .ret a := rfl

@[simp] theorem ret_bind (a : α) (f : α → Prog Op Ans β) : (Prog.ret a >>= f) = f a := rfl

@[simp] theorem ask_bind (o : Op) (k : Ans o → Prog Op Ans α) (f : α → Prog Op Ans β) :
    (Prog.ask o k >>= f) = .ask o fun x => k x >>= f := rfl

@[simp] theorem op_bind (o : Op) (f : Ans o → Prog Op Ans β) :
    ((op o : Prog Op Ans (Ans o)) >>= f) = .ask o f := rfl

theorem bind_assoc {γ : Type} (f : α → Prog Op Ans β) (g : β → Prog Op Ans γ) : ∀ p : Prog Op Ans α,
    (p >>= f >>= g) = (p >>= fun a => f a >>= g)
  | .ret _ => rfl
  | .ask o k => congrArg (Prog.ask o) (funext fun x => bind_assoc f g (k x))

def lift {Op' : Type} {Ans' : Op' → Type} (f : Op → Op') (back : (o : Op) → Ans' (f o) → Ans o) : Prog Op Ans α → Prog Op' Ans' α
  | .ret a => .ret a
  | .ask o k => .ask (f o) fun x => (k (back o x)).lift f back

theorem lift_bind {Op' : Type} {Ans' : Op' → Type} (f : Op → Op') (back : (o : Op) → Ans' (f o) → Ans o)
    (g : α → Prog Op Ans β) : ∀ p : Prog Op Ans α, (p >>= g).lift f back = (p.lift f back >>= fun a => (g a).lift f back)
  | .ret _ => rfl
  | .ask o k => congrArg (Prog.ask (f o)) (funext fun x => lift_bind f back g (k (back o x)))

/-! ## Safe programs -/

def Safe (P : Op → Prop) (A : (o : Op) → Ans o → Prop) (Q : α → Prop) : Prog Op Ans α → Prop
  | .ret a => Q a
  | .ask o k => P o ∧ ∀ x, A o x → (k x).Safe P A Q

theorem safe_bind {P : Op → Prop} {A : (o : Op) → Ans o → Prop} {Q : α → Prop} {Q' : β → Prop}
    {f : α → Prog Op Ans β} : ∀ (p : Prog Op Ans α), p.Safe P A Q → (∀ a, Q a → (f a).Safe P A Q') →
      (p >>= f).Safe P A Q'
  | .ret a, hp, hf => hf a hp
  | .ask _ k, hp, hf => ⟨hp.1, fun x hx => safe_bind (k x) (hp.2 x hx) hf⟩

/-- A safe program is safe with more operations and better answers. -/
theorem safe_weaken {P P' : Op → Prop} {A A' : (o : Op) → Ans o → Prop} {Q : α → Prop} (hP : ∀ o, P o → P' o)
    (hA : ∀ o x, A' o x → A o x) : ∀ p : Prog Op Ans α, p.Safe P A Q → p.Safe P' A' Q
  | .ret _, h => h
  | .ask o k, h => ⟨hP o h.1, fun x hx => safe_weaken hP hA (k x) (h.2 x (hA o x hx))⟩

theorem safe_mono {P P' : Op → Prop} {A : (o : Op) → Ans o → Prop} {Q Q' : α → Prop} (hP : ∀ o, P o → P' o)
    (hQ : ∀ a, Q a → Q' a) : ∀ p : Prog Op Ans α, p.Safe P A Q → p.Safe P' A Q'
  | .ret a, h => hQ a h
  | .ask o k, h => ⟨hP o h.1, fun x hx => safe_mono hP hQ (k x) (h.2 x hx)⟩

theorem safe_any : ∀ p : Prog Op Ans α, p.Safe (fun _ => True) (fun _ _ => True) fun _ => True
  | .ret _ => trivial
  | .ask _ k => ⟨trivial, fun x _ => safe_any (k x)⟩

theorem safe_op {P : Op → Prop} {A : (o : Op) → Ans o → Prop} {Q : β → Prop} {o : Op} {f : Ans o → Prog Op Ans β}
    (ho : P o) (hf : ∀ x, A o x → (f x).Safe P A Q) : ((op o : Prog Op Ans (Ans o)) >>= f).Safe P A Q :=
  ⟨ho, hf⟩

theorem safe_lift {Op' : Type} {Ans' : Op' → Type} {f : Op → Op'} {back : (o : Op) → Ans' (f o) → Ans o} {P : Op → Prop}
    {A : (o : Op) → Ans o → Prop} {P' : Op' → Prop} {A' : (o : Op') → Ans' o → Prop} {Q : α → Prop}
    (hP : ∀ o, P o → P' (f o)) (hA : ∀ o x, A' (f o) x → A o (back o x)) : ∀ p : Prog Op Ans α, p.Safe P A Q →
      (p.lift f back).Safe P' A' Q
  | .ret _, h => h
  | .ask o k, h => ⟨hP o h.1, fun x hx => safe_lift hP hA (k (back o x)) (h.2 (back o x) (hA o x hx))⟩

/-! ## Protocols

A program that follows a protocol: a ghost state changes with each operation and its answer. `P` says which
operations the protocol allows, `A` which answers it is promised, `Q` what may be returned.
-/

section
variable {G : Type} (next : G → (o : Op) → Ans o → G) (P : G → Op → Prop) (A : G → (o : Op) → Ans o → Prop)

def Follows (Q : G → α → Prop) : G → Prog Op Ans α → Prop
  | g, .ret a => Q g a
  | g, .ask o k => P g o ∧ ∀ x, A g o x → (k x).Follows Q (next g o x)

variable {next P A}

theorem follows_mono {Q Q' : G → α → Prop} (hQ : ∀ g a, Q g a → Q' g a) : ∀ (p : Prog Op Ans α) (g : G),
    p.Follows next P A Q g → p.Follows next P A Q' g
  | .ret a, g, h => hQ g a h
  | .ask _ k, _, h => ⟨h.1, fun x hx => follows_mono hQ (k x) _ (h.2 x hx)⟩

theorem follows_bind {Q : G → α → Prop} {Q' : G → β → Prop} {f : α → Prog Op Ans β}
    (hf : ∀ g a, Q g a → (f a).Follows next P A Q' g) : ∀ (p : Prog Op Ans α) (g : G),
    p.Follows next P A Q g → (p >>= f).Follows next P A Q' g
  | .ret a, g, hp => hf g a hp
  | .ask _ k, _, hp => ⟨hp.1, fun x hx => follows_bind hf (k x) _ (hp.2 x hx)⟩

end

/-! ## What a program can become -/

inductive Reach (p : Prog Op Ans α) : Prog Op Ans α → Prop
  | refl : Reach p p
  | answer {o : Op} {k : Ans o → Prog Op Ans α} (h : Reach p (.ask o k)) (x : Ans o) : Reach p (k x)

theorem reach_ret {a : α} {q : Prog Op Ans α} (h : (ret a : Prog Op Ans α).Reach q) : q = .ret a := by
  induction h with
  | refl => rfl
  | answer h x ih => cases ih

theorem reach_safe {P : Op → Prop} {Q : α → Prop} {p q : Prog Op Ans α} (hp : p.Safe P (fun _ _ => True) Q)
    (h : p.Reach q) : q.Safe P (fun _ _ => True) Q := by
  induction h with
  | refl => exact hp
  | answer h x ih => exact ih.2 x trivial

/-! ## Bounded programs -/

def Within : Nat → Prog Op Ans α → Prop
  | _, .ret _ => True
  | 0, .ask _ _ => False
  | n + 1, .ask _ k => ∀ x, (k x).Within n

theorem within_mono : ∀ {n m : Nat} (p : Prog Op Ans α), n ≤ m → p.Within n → p.Within m
  | _, _, .ret _, _, _ => by simp [Within]
  | 0, _, .ask _ _, _, h => absurd h (by simp [Within])
  | n + 1, 0, .ask _ _, hle, _ => absurd hle (by omega)
  | n + 1, m + 1, .ask _ k, hle, h => fun x => within_mono (k x) (by omega) (h x)

theorem within_bind {f : α → Prog Op Ans β} {m : Nat} : ∀ {n : Nat} (p : Prog Op Ans α), p.Within n →
    (∀ a, (f a).Within m) → (p >>= f).Within (n + m)
  | n, .ret a, _, hf => within_mono (f a) (by omega) (hf a)
  | 0, .ask _ _, h, _ => absurd h (by simp [Within])
  | n + 1, .ask o k, h, hf => by
    rw [ask_bind, Nat.add_right_comm]
    exact fun x => within_bind (k x) (h x) hf

theorem within_op {o : Op} {f : Ans o → Prog Op Ans β} {n : Nat} (hf : ∀ x, (f x).Within n) :
    ((op o : Prog Op Ans (Ans o)) >>= f).Within (n + 1) := hf

/-! ## One turn -/

section
variable {ω ε : Type} (handle : ω → ε → (o : Op) → Ans o × ω)

def advance (w : ω) (e : ε) : Prog Op Ans α → Prog Op Ans α × ω
  | .ret a => (.ret a, w)
  | .ask o k => (k (handle w e o).1, (handle w e o).2)

/-- Some turns of one program in a row. -/
def feed : List ε → Prog Op Ans α → ω → Prog Op Ans α × ω
  | [], p, w => (p, w)
  | e :: es, p, w => feed es (p.advance handle w e).1 (p.advance handle w e).2

@[simp] theorem feed_nil (p : Prog Op Ans α) (w : ω) : feed handle ([] : List ε) p w = (p, w) := rfl

@[simp] theorem feed_ret (es : List ε) (a : α) (w : ω) : feed handle es (ret a : Prog Op Ans α) w = (ret a, w) := by
  induction es with
  | nil => rfl
  | cons e es ih => exact ih

@[simp] theorem feed_ask (e : ε) (es : List ε) (o : Op) (k : Ans o → Prog Op Ans α) (w : ω) :
    feed handle (e :: es) (ask o k) w = feed handle es (k (handle w e o).1) (handle w e o).2 := rfl

/-- A program that runs alone, all its operations under one `e`. -/
def run (e : ε) : Prog Op Ans α → ω → α × ω
  | .ret a, w => (a, w)
  | .ask o k, w => (k (handle w e o).1).run e (handle w e o).2

@[simp] theorem run_ret (e : ε) (a : α) (w : ω) : (ret a : Prog Op Ans α).run handle e w = (a, w) := rfl

@[simp] theorem run_ask (e : ε) (o : Op) (k : Ans o → Prog Op Ans α) (w : ω) :
    (ask o k).run handle e w = (k (handle w e o).1).run handle e (handle w e o).2 := rfl

theorem run_bind (e : ε) (f : α → Prog Op Ans β) : ∀ (p : Prog Op Ans α) (w : ω),
    (p >>= f).run handle e w = (f (p.run handle e w).1).run handle e (p.run handle e w).2
  | .ret _, _ => rfl
  | .ask o k, w => run_bind e f (k (handle w e o).1) (handle w e o).2

/-- A program that runs alone, its operations under the `e`s in turn. -/
def play : (Nat → ε) → Prog Op Ans α → ω → α × ω
  | _, .ret a, w => (a, w)
  | e, .ask o k, w => (k (handle w (e 0) o).1).play (fun n => e (n + 1)) (handle w (e 0) o).2

@[simp] theorem play_ret (e : Nat → ε) (a : α) (w : ω) : (ret a : Prog Op Ans α).play handle e w = (a, w) := rfl

@[simp] theorem play_ask (e : Nat → ε) (o : Op) (k : Ans o → Prog Op Ans α) (w : ω) :
    (ask o k).play handle e w = (k (handle w (e 0) o).1).play handle (fun n => e (n + 1)) (handle w (e 0) o).2 := rfl

theorem feed_play (d : ε) : ∀ (es : List ε) (p : Prog Op Ans α) (w : ω) {a : α} {w' : ω},
    feed handle es p w = (ret a, w') → p.play handle (fun n => es.getD n d) w = (a, w')
  | [], p, w, a, w', h => by
    simp only [feed_nil, Prod.mk.injEq] at h
    obtain ⟨rfl, rfl⟩ := h
    rfl
  | e :: es, .ret b, w, a, w', h => by
    simp only [feed_ret, Prod.mk.injEq, ret.injEq] at h
    obtain ⟨rfl, rfl⟩ := h
    rfl
  | e :: es, .ask o k, w, a, w', h => feed_play d es (k (handle w e o).1) (handle w e o).2 h

/-- The operations of `f` come under later `e`s. -/
theorem play_bind (f : α → Prog Op Ans β) : ∀ (p : Prog Op Ans α) (e : Nat → ε) (w : ω), ∃ n,
    (p >>= f).play handle e w = (f (p.play handle e w).1).play handle (fun m => e (m + n)) (p.play handle e w).2
  | .ret _, _, _ => ⟨0, rfl⟩
  | .ask o k, e, w => by
    obtain ⟨n, hn⟩ := play_bind f (k (handle w (e 0) o).1) (fun n => e (n + 1)) (handle w (e 0) o).2
    exact ⟨n + 1, hn⟩

/-- The operations that `play` makes, each with the `e` it came under. -/
def history : (Nat → ε) → Prog Op Ans α → ω → List (ε × Op)
  | _, .ret _, _ => []
  | e, .ask o k, w => (e 0, o) :: (k (handle w (e 0) o).1).history (fun n => e (n + 1)) (handle w (e 0) o).2

@[simp] theorem history_ret (e : Nat → ε) (a : α) (w : ω) : (ret a : Prog Op Ans α).history handle e w = [] := rfl

@[simp] theorem history_ask (e : Nat → ε) (o : Op) (k : Ans o → Prog Op Ans α) (w : ω) :
    (ask o k).history handle e w =
      (e 0, o) :: (k (handle w (e 0) o).1).history handle (fun n => e (n + 1)) (handle w (e 0) o).2 := rfl

theorem safe_history {P : Op → Prop} {Q : α → Prop} : ∀ (p : Prog Op Ans α) (e : Nat → ε) (w : ω),
    p.Safe P (fun _ _ => True) Q → ∀ x ∈ p.history handle e w, P x.2
  | .ret _, _, _, _, _, hx => absurd hx List.not_mem_nil
  | .ask o k, e, w, h, x, hx => by
    rcases List.mem_cons.mp hx with rfl | hx
    · exact h.1
    · exact safe_history (k (handle w (e 0) o).1) _ _ (h.2 _ trivial) x hx

/-- What the safe operations keep, a safe program keeps. -/
theorem safe_play {P : Op → Prop} {Q : α → Prop} {R : ω → Prop} (hop : ∀ w e o, P o → R w → R (handle w e o).2) :
    ∀ (p : Prog Op Ans α) (e : Nat → ε) (w : ω), p.Safe P (fun _ _ => True) Q → R w →
      Q (p.play handle e w).1 ∧ R (p.play handle e w).2
  | .ret _, _, _, h, hw => ⟨h, hw⟩
  | .ask o k, e, w, h, hw =>
    safe_play hop (k (handle w (e 0) o).1) _ _ (h.2 _ trivial) (hop w (e 0) o h.1 hw)

/-- The operations that `run` makes. -/
def trace (e : ε) : Prog Op Ans α → ω → List Op
  | .ret _, _ => []
  | .ask o k, w => o :: (k (handle w e o).1).trace e (handle w e o).2

@[simp] theorem trace_ret (e : ε) (a : α) (w : ω) : (ret a : Prog Op Ans α).trace handle e w = [] := rfl

@[simp] theorem trace_ask (e : ε) (o : Op) (k : Ans o → Prog Op Ans α) (w : ω) :
    (ask o k).trace handle e w = o :: (k (handle w e o).1).trace handle e (handle w e o).2 := rfl

theorem trace_bind (e : ε) (f : α → Prog Op Ans β) : ∀ (p : Prog Op Ans α) (w : ω),
    (p >>= f).trace handle e w = p.trace handle e w ++ (f (p.run handle e w).1).trace handle e (p.run handle e w).2
  | .ret _, _ => rfl
  | .ask o k, w => congrArg (o :: ·) (trace_bind e f (k (handle w e o).1) (handle w e o).2)

/-- The world after the first `n` operations of `run`. -/
def after (e : ε) : Nat → Prog Op Ans α → ω → ω
  | 0, _, w => w
  | _ + 1, .ret _, w => w
  | n + 1, .ask o k, w => (k (handle w e o).1).after e n (handle w e o).2

theorem advance_cases (w : ω) (e : ε) (p : Prog Op Ans α) :
    (∃ a, p = .ret a ∧ advance handle w e p = (.ret a, w)) ∨
      ∃ o k, p = .ask o k ∧ advance handle w e p = (k (handle w e o).1, (handle w e o).2) := by
  cases p with
  | ret a => exact .inl ⟨a, rfl, rfl⟩
  | ask o k => exact .inr ⟨o, k, rfl, rfl⟩

end

end

end Prog

/-! ## Pools -/

structure Pool (ω Op : Type) (Ans : Op → Type) (α : Type) where
  world : ω
  procs : Nat → Prog Op Ans α

inductive Turn (ε η : Type) where
  | proc (i : Nat) (e : ε)
  | env (h : η)

namespace Pool

section
variable {ω Op ε η : Type} {Ans : Op → Type} {α : Type}
  (handle : ω → ε → (o : Op) → Ans o × ω) (react : ω → η → ω)

def step (s : Pool ω Op Ans α) : Turn ε η → Pool ω Op Ans α
  | .proc i e => ⟨((s.procs i).advance handle s.world e).2,
      Function.update s.procs i ((s.procs i).advance handle s.world e).1⟩
  | .env h => { s with world := react s.world h }

/-- **Safe pools.** Where the run meets its condition, the operations with `P` keep `R` and, where `R` holds,
answer within `A`, and the environment keeps `R`. Then a pool of safe programs stays one. -/
theorem pool_safe_along {P : Op → Prop} {A : (o : Op) → Ans o → Prop} {R : ω → Prop} {Q : Nat → α → Prop}
    {ok : Pool ω Op Ans α → Turn ε η → Prop}
    (hop : ∀ s i e o k, ok s (.proc i e) → s.procs i = .ask o k → P o → R s.world →
      A o (handle s.world e o).1 ∧ R (handle s.world e o).2)
    (henv : ∀ s h, ok s (.env h) → R s.world → R (react s.world h))
    (turns : List (Turn ε η)) (s : Pool ω Op Ans α) (hr : R s.world) (hp : ∀ i, (s.procs i).Safe P A (Q i))
    (hok : Runs.Along (step handle react) ok s turns) :
    R (Runs.exec (step handle react) s turns).world ∧
      ∀ i, ((Runs.exec (step handle react) s turns).procs i).Safe P A (Q i) := by
  refine Runs.exec_invariant (step handle react) (I := fun s => R s.world ∧ ∀ i, (s.procs i).Safe P A (Q i)) ?_
    turns s ⟨hr, hp⟩ hok
  intro s turn ⟨hr, hp⟩ hturn
  cases turn with
  | env h => exact ⟨henv s h hturn hr, hp⟩
  | proc i e =>
    have hi := hp i
    rcases (s.procs i).advance_cases handle s.world e with ⟨a, hret, hadv⟩ | ⟨o, k, hask, hadv⟩
    · rw [hret] at hi
      refine ⟨?_, fun j => ?_⟩
      · simp only [step, hadv]; exact hr
      · simp only [step, hadv]
        by_cases hj : j = i
        · subst hj; rw [Function.update_self]; exact hi
        · rw [Function.update_of_ne hj]; exact hp j
    · rw [hask] at hi
      obtain ⟨hans, hkeep⟩ := hop s i e o k hturn hask hi.1 hr
      refine ⟨?_, fun j => ?_⟩
      · simp only [step, hadv]; exact hkeep
      · simp only [step, hadv]
        by_cases hj : j = i
        · subst hj; rw [Function.update_self]; exact hi.2 _ hans
        · rw [Function.update_of_ne hj]; exact hp j

theorem pool_safe {P : Op → Prop} {A : (o : Op) → Ans o → Prop} {R : ω → Prop} {Q : Nat → α → Prop}
    (hop : ∀ w e o, P o → R w → A o (handle w e o).1 ∧ R (handle w e o).2) (henv : ∀ w h, R w → R (react w h))
    (turns : List (Turn ε η)) (s : Pool ω Op Ans α) (hr : R s.world) (hp : ∀ i, (s.procs i).Safe P A (Q i)) :
    R (Runs.exec (step handle react) s turns).world ∧
      ∀ i, ((Runs.exec (step handle react) s turns).procs i).Safe P A (Q i) := by
  have halong : Runs.Along (step handle react) (fun _ _ => True) s turns :=
    Runs.along_of_forall _ turns s fun _ _ => trivial
  exact pool_safe_along handle react (fun s _ e o _ _ _ ho hw => hop s.world e o ho hw)
    (fun s h _ hw => henv s.world h hw) turns s hr hp halong

variable {handle react}

/-- Turns of other programs and of the environment leave a program where it is. -/
theorem step_procs_of_ne {s : Pool ω Op Ans α} {turn : Turn ε η} {i : Nat} (h : ∀ e, turn ≠ .proc i e) :
    (step handle react s turn).procs i = s.procs i := by
  cases turn with
  | env _ => rfl
  | proc j e =>
    have hij : i ≠ j := fun hij => h e (by rw [hij])
    exact Function.update_of_ne hij _ _

theorem exec_procs_of_ne {i : Nat} : ∀ (turns : List (Turn ε η)) (s : Pool ω Op Ans α),
    (∀ turn ∈ turns, ∀ e, turn ≠ .proc i e) → (Runs.exec (step handle react) s turns).procs i = s.procs i
  | [], _, _ => rfl
  | turn :: turns, s, h => by
    rw [Runs.exec_cons, exec_procs_of_ne turns _ fun x hx => h x (List.mem_cons_of_mem turn hx)]
    exact step_procs_of_ne (h turn (by simp))

theorem exec_alone (i : Nat) : ∀ (es : List ε) (s : Pool ω Op Ans α),
    Runs.exec (step handle react) s (es.map (Turn.proc i)) =
      ⟨((s.procs i).feed handle es s.world).2, Function.update s.procs i ((s.procs i).feed handle es s.world).1⟩
  | [], s => by simp
  | e :: es, s => by
    rw [List.map_cons, Runs.exec_cons, exec_alone i es]
    simp only [step, Function.update_self, Function.update_idem]
    rfl

def turnsOf (i : Nat) (turns : List (Turn ε η)) : Nat :=
  turns.countP fun
    | .proc j _ => i == j
    | .env _ => false

/-- A program that returns within `n` operations has returned after `n` turns of its own. -/
theorem exec_returns {i : Nat} : ∀ (turns : List (Turn ε η)) (s : Pool ω Op Ans α) (n : Nat),
    (s.procs i).Within n → n ≤ turnsOf i turns → ∃ a, (Runs.exec (step handle react) s turns).procs i = .ret a := by
  intro turns
  induction turns with
  | nil =>
    intro s n hw hn
    have h0 : n = 0 := by simpa [turnsOf] using hn
    subst h0
    cases hp : s.procs i with
    | ret a => exact ⟨a, hp⟩
    | ask o k => rw [hp] at hw; exact absurd hw (by simp [Prog.Within])
  | cons turn turns ih =>
    intro s n hw hn
    rw [Runs.exec_cons]
    by_cases hturn : ∃ e, turn = .proc i e
    · obtain ⟨e, rfl⟩ := hturn
      have hcount : turnsOf i (.proc i e :: turns) = turnsOf i turns + 1 := by simp [turnsOf]
      rcases (s.procs i).advance_cases handle s.world e with ⟨a, hret, hadv⟩ | ⟨o, k, hask, hadv⟩
      · refine ih _ 0 ?_ (Nat.zero_le _)
        simp only [step, hadv, Function.update_self, Prog.Within]
      · cases n with
        | zero => rw [hask] at hw; exact absurd hw (by simp [Prog.Within])
        | succ n =>
          rw [hask] at hw
          refine ih _ n ?_ (by omega)
          simp only [step, hadv, Function.update_self]
          exact hw _
    · have hne : ∀ e, turn ≠ .proc i e := fun e he => hturn ⟨e, he⟩
      have hcount : turnsOf i (turn :: turns) = turnsOf i turns := by
        cases turn with
        | env _ => simp [turnsOf]
        | proc j e =>
          have hij : i ≠ j := fun hij => hne e (by rw [hij])
          simp [turnsOf, hij]
      refine ih _ n ?_ (by omega)
      rw [step_procs_of_ne hne]
      exact hw

/-! ## Logged runs -/

variable (handle react)

/-- The operation of a turn, with the program that makes it. -/
def made (s : Pool ω Op Ans α) : Turn ε η → List (Nat × Op)
  | .proc i _ => ((s.procs i).next.map fun o => (i, o)).toList
  | .env _ => []

def stepLogged (s : Pool ω Op Ans α × List (Nat × Op)) (turn : Turn ε η) : Pool ω Op Ans α × List (Nat × Op) :=
  (step handle react s.1 turn, s.2 ++ s.1.made turn)

theorem stepLogged_cases (s : Pool ω Op Ans α × List (Nat × Op)) (i : Nat) (e : ε) :
    stepLogged handle react s (.proc i e) = s ∨ ∃ o k, s.1.procs i = .ask o k ∧
      stepLogged handle react s (.proc i e) =
        (⟨(handle s.1.world e o).2, Function.update s.1.procs i (k (handle s.1.world e o).1)⟩, s.2 ++ [(i, o)]) := by
  cases hp : s.1.procs i with
  | ret a =>
    refine .inl ?_
    have hsame : Function.update s.1.procs i (.ret a) = s.1.procs := by
      rw [← hp]
      exact Function.update_eq_self i s.1.procs
    simp only [stepLogged, step, made, hp, Prog.advance, Prog.next, hsame, Option.map_none, Option.toList_none, List.append_nil]
  | ask o k =>
    refine .inr ⟨o, k, rfl, ?_⟩
    simp only [stepLogged, step, made, hp, Prog.advance, Prog.next, Option.map_some, Option.toList_some]

/-- Where an entry of a log stands after one more. -/
theorem split_snoc {β : Type} {log before after : List β} {e x : β} (h : log ++ [e] = before ++ x :: after) :
    (before = log ∧ x = e ∧ after = []) ∨ ∃ after', after = after' ++ [e] ∧ log = before ++ x :: after' := by
  rcases List.eq_nil_or_concat after with rfl | ⟨after', e', rfl⟩
  · obtain ⟨hlog, he⟩ := List.append_inj' h rfl
    cases he
    exact .inl ⟨hlog.symm, rfl, rfl⟩
  · rw [List.concat_eq_append, ← List.cons_append, ← List.append_assoc] at h
    obtain ⟨hlog, he⟩ := List.append_inj' h rfl
    cases he
    exact .inr ⟨after', List.concat_eq_append, hlog⟩

end

end Pool
