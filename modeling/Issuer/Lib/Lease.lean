import Issuer.Lib.Prog

/-!
# Sections under a lease

Programs of a pool that ask for a lease, work on the data of the world once it is granted, and go on to other things.
A lease keeps the others out until it ends, also when its program is never heard of again.

`Leased` remembers when each lease ends. Where every operation of a section happens before its lease ends, the
sections have worked on the data one after the other, in the order of the grants: `Serial` names the blocks.
-/

namespace Lease

/-- A pool with a lease: `work` embeds the operations on the data, `enter i` asks for the lease of program `i`, which
ends at `term e` when it is granted under `e`. -/
structure Setting (ω δ τ Op DOp ε η : Type) (Ans : Op → Type) (DAns : DOp → Type) where
  handle : ω → ε → (o : Op) → Ans o × ω
  react : ω → η → ω
  handleD : δ → ε → (o : DOp) → DAns o × δ
  view : ω → δ
  work : DOp → Op
  back : (o : DOp) → Ans (work o) → DAns o
  working : Op → Bool
  enter : Nat → Op
  grant : (i : Nat) → Ans (enter i)
  granted : Nat → (o : Op) → Ans o → Bool
  term : ε → τ
  start : Turn ε η → τ
  stop : Turn ε η → τ
  Held : ω → Nat → τ → Prop
  Outer : Nat → Op → Prop
  fair : ε → Op → Bool

section
variable {ω δ τ Op DOp ε η α β : Type} {Ans : Op → Type} {DAns : DOp → Type}

/-- `Held` is what keeps the others out. Operations with `Outer` stay off the data and off the leases of others. -/
structure Setting.Lawful [LT τ] (S : Setting ω δ τ Op DOp ε η Ans DAns) : Prop where
  work_data : ∀ w e o, S.view (S.handle w e (S.work o)).2 = (S.handleD (S.view w) e o).2 ∧
    S.back o (S.handle w e (S.work o)).1 = (S.handleD (S.view w) e o).1
  work_held : ∀ w e o i x, S.Held w i x → S.Held (S.handle w e (S.work o)).2 i x
  work_working : ∀ o, S.working (S.work o) = true
  work_granted : ∀ i o x, S.granted i (S.work o) x = false
  outer_view : ∀ w e i o, S.Outer i o → S.view (S.handle w e o).2 = S.view w
  outer_granted : ∀ i o x, S.Outer i o → S.granted i o x = false
  outer_held : ∀ w e i j o x, S.Outer j o → i ≠ j → S.fair e o = true → S.Held w i x → S.start (.proc j e) < x →
    S.Held (S.handle w e o).2 i x
  enter_view : ∀ w e i, S.view (S.handle w e (S.enter i)).2 = S.view w
  enter_grant : ∀ w e i, S.granted i (S.enter i) (S.handle w e (S.enter i)).1 = true →
    (S.handle w e (S.enter i)).1 = S.grant i ∧ S.Held (S.handle w e (S.enter i)).2 i (S.term e)
  enter_held : ∀ w e i j x, i ≠ j → S.fair e (S.enter j) = true → S.Held w i x → S.start (.proc j e) < x →
    S.granted j (S.enter j) (S.handle w e (S.enter j)).1 = false ∧ S.Held (S.handle w e (S.enter j)).2 i x
  env_view : ∀ w h, S.view (S.react w h) = S.view w
  env_held : ∀ w h i x, S.Held w i x → S.start (.env h) < x → S.Held (S.react w h) i x

variable (S : Setting ω δ τ Op DOp ε η Ans DAns)

/-! ## Runs with the ends of the leases -/

structure Leased (ω τ Op : Type) (Ans : Op → Type) (α : Type) where
  pool : Pool ω Op Ans α
  lease : Nat → Option τ

def Leased.step (s : Leased ω τ Op Ans α) (turn : Turn ε η) : Leased ω τ Op Ans α where
  pool := s.pool.step S.handle S.react turn
  lease :=
    match turn with
    | .proc i e =>
      match s.pool.procs i with
      | .ask o _ => if S.granted i o (S.handle s.pool.world e o).1 then Function.update s.lease i (some (S.term e)) else s.lease
      | .ret _ => s.lease
    | .env _ => s.lease

/-- Work is done before the lease ends, and what is asked of the leases is answered fairly. -/
def InTerm [LT τ] [DecidableLT τ] (s : Leased ω τ Op Ans α) : Turn ε η → Bool
  | .proc i e => (s.pool.procs i).next.all fun o =>
      S.fair e o && (!S.working o || (s.lease i).all fun x => decide (S.start (.proc i e) < x))
  | .env _ => true

theorem exec_leased : ∀ (turns : List (Turn ε η)) (s : Leased ω τ Op Ans α),
    (Runs.exec (Leased.step S) s turns).pool = Runs.exec (Pool.step S.handle S.react) s.pool turns
  | [], _ => rfl
  | turn :: turns, s => exec_leased turns (s.step S turn)

theorem inTerm_ask [LT τ] [DecidableLT τ] {s : Leased ω τ Op Ans α} {i : Nat} {e : ε} {o : Op} {k : Ans o → Prog Op Ans α}
    (h : InTerm S s (.proc i e) = true) (hp : s.pool.procs i = .ask o k) :
    S.fair e o = true ∧ (S.working o = true → ∀ x, s.lease i = some x → S.start (.proc i e) < x) := by
  simp only [InTerm, hp, Prog.next, Option.all_some, Bool.and_eq_true, Bool.or_eq_true, Bool.not_eq_true'] at h
  refine ⟨h.1, fun hw x hx => ?_⟩
  rcases h.2 with hnot | hall
  · rw [hw] at hnot
    cases hnot
  · simpa [hx] using hall

/-! ## Programs with a section -/

variable (body : Nat → Prog DOp DAns β) (Done : Nat → Option β → α → Prop)

/-- What is left of a program when `q` is left of its section. -/
def inside (post : β → Prog Op Ans α) (q : Prog DOp DAns β) : Prog Op Ans α := q.lift S.work S.back >>= post

abbrev Leaves (i : Nat) (b : β) (p : Prog Op Ans α) : Prop := p.Safe (S.Outer i) (fun _ _ => True) (Done i (some b))

inductive Enters (i : Nat) : Prog Op Ans α → Prop
  | ret {a : α} (h : Done i none a) : Enters i (.ret a)
  | outer {o : Op} {k : Ans o → Prog Op Ans α} (ho : S.Outer i o) (hk : ∀ x, Enters i (k x)) : Enters i (.ask o k)
  | enter {k : Ans (S.enter i) → Prog Op Ans α} {post : β → Prog Op Ans α} (hpost : ∀ b, Leaves S Done i b (post b))
      (hin : k (S.grant i) = inside S post (body i))
      (hout : ∀ x, S.granted i (S.enter i) x = false → Enters i (k x)) : Enters i (.ask (S.enter i) k)

/-- The section of a program with the `e`s of its operations. -/
abbrev Block (ε : Type) := Nat × List ε

def blockStep (d : δ) (b : Block ε) : δ := ((body b.1).feed S.handleD b.2 d).2

abbrev dataAt (d : δ) (bs : List (Block ε)) : δ := Runs.exec (blockStep S body) d bs

def leftOf (d : δ) (i : Nat) (es : List ε) : Prog DOp DAns β := ((body i).feed S.handleD es d).1

/-! ## The invariant -/

/-- The program of a block: it is in its section, and has the lease to itself until that ends; or it has left it. -/
def Placed [LT τ] (d : δ) (t : τ) (s : Leased ω τ Op Ans α) (before : List (Block ε)) (i : Nat) (es : List ε)
    (after : List (Block ε)) : Prop :=
  ∃ x, s.lease i = some x ∧
    ((∃ post, (∀ b, Leaves S Done i b (post b)) ∧
        s.pool.procs i = inside S post (leftOf S body (dataAt S body d before) i es) ∧
        (t < x → after = [] ∧ S.Held s.pool.world i x)) ∨
      ∃ b, leftOf S body (dataAt S body d before) i es = .ret b ∧ Leaves S Done i b (s.pool.procs i))

structure Serial [LT τ] (d : δ) (t : τ) (s : Leased ω τ Op Ans α) (bs : List (Block ε)) : Prop where
  data : S.view s.pool.world = dataAt S body d bs
  nodup : (bs.map Prod.fst).Nodup
  outside : ∀ i, i ∉ bs.map Prod.fst → Enters S body Done i (s.pool.procs i)
  placed : ∀ before i es after, bs = before ++ (i, es) :: after → Placed S body Done d t s before i es after

/-- Along the turns blocks only come after the others, made of turns that were taken. -/
structure Grows (bs bs' : List (Block ε)) (turns : List (Turn ε η)) : Prop where
  order : bs.map Prod.fst <+: bs'.map Prod.fst
  ticks : ∀ block ∈ bs', ∀ e ∈ block.2, (∃ block' ∈ bs, e ∈ block'.2) ∨ ∃ i, Turn.proc i e ∈ turns

variable {S body Done}

theorem play_dead {handle : δ → ε → (o : DOp) → DAns o × δ} {dead : ε} (hdead : ∀ w o, (handle w dead o).2 = w) :
    ∀ (p : Prog DOp DAns β) (w : δ), (p.play handle (fun _ => dead) w).2 = w
  | .ret _, _ => rfl
  | .ask o k, w => by
    rw [Prog.play_ask, play_dead hdead (k (handle w dead o).1), hdead]

theorem feed_stopped {handle : δ → ε → (o : DOp) → DAns o × δ} {dead : ε} (hdead : ∀ w o, (handle w dead o).2 = w) :
    ∀ (es : List ε) (p : Prog DOp DAns β) (w : δ),
      (p.feed handle es w).2 = (p.play handle (fun n => es.getD n dead) w).2
  | [], p, w => (play_dead hdead p w).symm
  | _ :: _, .ret a, w => by rw [Prog.feed_ret, Prog.play_ret]
  | e :: es, .ask o k, w => feed_stopped hdead es (k (handle w e o).1) (handle w e o).2

/-- What comes of a section, whether it is gone on with or not, comes of it alone with other operations that do nothing. -/
theorem feed_alone {handle : δ → ε → (o : DOp) → DAns o × δ} {dead : ε} (hdead : ∀ w o, (handle w dead o).2 = w) (es : List ε)
    (p : Prog DOp DAns β) (w : δ) : ∃ e : Nat → ε, (∀ n, e n ∈ es ∨ e n = dead) ∧
      (p.feed handle es w).2 = (p.play handle e w).2 ∧
      ∀ b, (p.feed handle es w).1 = .ret b → (p.play handle e w).1 = b := by
  refine ⟨fun n => es.getD n dead, fun n => ?_, feed_stopped hdead es p w, fun b hb => ?_⟩
  · dsimp only
    rw [List.getD_eq_getElem?_getD]
    cases hget : es[n]? with
    | none => exact .inr rfl
    | some e => exact .inl (List.mem_of_getElem? hget)
  · exact congrArg Prod.fst (Prog.feed_play handle dead es p w (Prod.ext hb rfl))

theorem feed_append {handle : δ → ε → (o : DOp) → DAns o × δ} : ∀ (es es' : List ε) (p : Prog DOp DAns β) (w : δ),
    p.feed handle (es ++ es') w = (p.feed handle es w).1.feed handle es' (p.feed handle es w).2
  | [], _, _, _ => rfl
  | e :: es, es', p, w => feed_append es es' (p.advance handle w e).1 (p.advance handle w e).2

theorem enters_bind {γ : Type} {i : Nat} {f : γ → Prog Op Ans α} (hf : ∀ c, Enters S body Done i (f c)) :
    ∀ p : Prog Op Ans γ, p.Safe (S.Outer i) (fun _ _ => True) (fun _ => True) → Enters S body Done i (p >>= f)
  | .ret c, _ => hf c
  | .ask _ k, hp => .outer hp.1 fun x => enters_bind hf (k x) (hp.2 x trivial)

theorem enters_safe {i : Nat} : ∀ p : Prog Op Ans α, p.Safe (S.Outer i) (fun _ _ => True) (Done i none) →
    Enters S body Done i p
  | .ret _, hp => .ret hp
  | .ask _ k, hp => .outer hp.1 fun x => enters_safe (k x) (hp.2 x trivial)

theorem grows_same (bs : List (Block ε)) (turns : List (Turn ε η)) : Grows bs bs turns :=
  ⟨List.prefix_refl _, fun block hblock _ he => .inl ⟨block, hblock, he⟩⟩

theorem grows_enter (bs : List (Block ε)) (i : Nat) (turns : List (Turn ε η)) : Grows bs (bs ++ [(i, [])]) turns := by
  refine ⟨by simp, fun block hblock _ he => ?_⟩
  rcases List.mem_append.mp hblock with hblock | hblock
  · exact .inl ⟨block, hblock, he⟩
  · simp only [List.mem_singleton] at hblock
    subst hblock
    cases he

theorem grows_work (before : List (Block ε)) (i : Nat) (es : List ε) (e : ε) :
    Grows (before ++ [(i, es)]) (before ++ [(i, es ++ [e])]) [(Turn.proc i e : Turn ε η)] := by
  refine ⟨by simp, fun block hblock e' he => ?_⟩
  rcases List.mem_append.mp hblock with hblock | hblock
  · exact .inl ⟨block, List.mem_append_left _ hblock, he⟩
  · simp only [List.mem_singleton] at hblock
    subst hblock
    rcases List.mem_append.mp he with he | he
    · exact .inl ⟨(i, es), by simp, he⟩
    · simp only [List.mem_singleton] at he
      subst he
      exact .inr ⟨i, List.mem_singleton_self _⟩

theorem grows_trans {bs bs' bs'' : List (Block ε)} {turn : Turn ε η} {turns : List (Turn ε η)} (h : Grows bs bs' [turn])
    (h' : Grows bs' bs'' turns) : Grows bs bs'' (turn :: turns) := by
  refine ⟨h.order.trans h'.order, fun block hblock e he => ?_⟩
  rcases h'.ticks block hblock e he with ⟨block', hblock', he'⟩ | ⟨i, hi⟩
  · rcases h.ticks block' hblock' e he' with hold | ⟨i, hi⟩
    · exact .inl hold
    · exact .inr ⟨i, List.mem_cons.mpr (.inl (List.mem_singleton.mp hi))⟩
  · exact .inr ⟨i, List.mem_cons_of_mem turn hi⟩

def turnOf : Turn ε η → Option Nat
  | .proc i _ => some i
  | .env _ => none

theorem mem_before {order order' before after : List Nat} {i j : Nat} (h : order <+: order') (hi : i ∈ order) (hj : j ∉ order)
    (hsplit : order' = before ++ j :: after) : i ∈ before := by
  have hbefore : before ++ [j] <+: order' := ⟨after, by rw [hsplit]; simp⟩
  rcases List.prefix_or_prefix_of_prefix h hbefore with hle | hle
  · rcases List.mem_append.mp (hle.subset hi) with hib | hij
    · exact hib
    · exact absurd (List.mem_singleton.mp hij ▸ hi) hj
  · exact absurd (hle.subset (by simp)) hj

theorem inside_ask {post : β → Prog Op Ans α} {o : DOp} {k : DAns o → Prog DOp DAns β} :
    inside S post (.ask o k) = .ask (S.work o) fun x => inside S post (k (S.back o x)) := rfl

theorem inside_ret {post : β → Prog Op Ans α} {b : β} : inside S post (.ret b) = post b := rfl

section
variable [LinearOrder τ] {d : δ} {t t' : τ} {s s' : Leased ω τ Op Ans α} {bs : List (Block ε)} {i : Nat} {e : ε}

theorem placed_frame {before after after' : List (Block ε)} {j : Nat} {es : List ε}
    (h : Placed S body Done d t s before j es after) (hproc : s'.pool.procs j = s.pool.procs j)
    (hlease : s'.lease j = s.lease j)
    (hkeep : ∀ x, t' < x → (t < x → after = [] ∧ S.Held s.pool.world j x) → after' = [] ∧ S.Held s'.pool.world j x) :
    Placed S body Done d t' s' before j es after' := by
  obtain ⟨x, hx, hplace⟩ := h
  refine ⟨x, hlease.trans hx, ?_⟩
  rw [hproc]
  rcases hplace with ⟨post, hpost, hin, hheld⟩ | hleft
  · exact .inl ⟨post, hpost, hin, fun hlt => hkeep x hlt hheld⟩
  · exact .inr hleft

theorem serial_off (h : Serial S body Done d t s bs) (htt : t ≤ t') {v : ω} {q : Prog Op Ans α}
    (hs' : s' = ⟨⟨v, Function.update s.pool.procs i q⟩, s.lease⟩) (hview : S.view v = S.view s.pool.world)
    (hheld : ∀ j x, j ≠ i → t' < x → S.Held s.pool.world j x → S.Held v j x)
    (hout : i ∉ bs.map Prod.fst → Enters S body Done i q)
    (hin : ∀ before es after, bs = before ++ (i, es) :: after →
      ∃ b, leftOf S body (dataAt S body d before) i es = .ret b ∧ Leaves S Done i b q) :
    Serial S body Done d t' s' bs := by
  subst hs'
  refine ⟨hview.trans h.data, h.nodup, ?_, ?_⟩
  · intro j hj
    by_cases hji : j = i
    · subst hji
      simp only [Function.update_self]
      exact hout hj
    · simp only [Function.update_of_ne hji]
      exact h.outside j hj
  · intro before j es after hbs
    by_cases hji : j = i
    · subst hji
      obtain ⟨x, hx, -⟩ := h.placed before j es after hbs
      refine ⟨x, hx, .inr ?_⟩
      simp only [Function.update_self]
      exact hin before es after hbs
    · refine placed_frame (h.placed before j es after hbs) (Function.update_of_ne hji _ _) rfl fun x hlt hold => ?_
      obtain ⟨hafter, hheldj⟩ := hold (lt_of_le_of_lt htt hlt)
      exact ⟨hafter, hheld j x hji hlt hheldj⟩

theorem serial_enter (hS : S.Lawful) (h : Serial S body Done d t s bs) (hi : i ∉ bs.map Prod.fst)
    {k : Ans (S.enter i) → Prog Op Ans α} {post : β → Prog Op Ans α} (hpost : ∀ b, Leaves S Done i b (post b))
    (hin : k (S.grant i) = inside S post (body i)) (hfair : S.fair e (S.enter i) = true) (ht : t ≤ S.start (.proc i e))
    (htt : S.start (.proc i e) ≤ t')
    (hgrant : S.granted i (S.enter i) (S.handle s.pool.world e (S.enter i)).1 = true)
    (hs' : s' = ⟨⟨(S.handle s.pool.world e (S.enter i)).2,
      Function.update s.pool.procs i (k (S.handle s.pool.world e (S.enter i)).1)⟩,
      Function.update s.lease i (some (S.term e))⟩) :
    Serial S body Done d t' s' (bs ++ [(i, [])]) := by
  subst hs'
  obtain ⟨hanswer, hheld⟩ := hS.enter_grant _ _ _ hgrant
  have hne : ∀ j, j ∈ bs.map Prod.fst → j ≠ i := fun j hj hji => hi (hji ▸ hj)
  refine ⟨?_, ?_, ?_, ?_⟩
  · rw [dataAt, Runs.exec_append]
    exact (hS.enter_view _ _ _).trans h.data
  · rw [List.map_append, List.nodup_append]
    exact ⟨h.nodup, by simp, fun j hj j' hj' => by simp only [List.map_cons, List.map_nil, List.mem_singleton] at hj'
                                                   exact hj' ▸ hne j hj⟩
  · intro j hj
    simp only [List.map_append, List.map_cons, List.map_nil, List.mem_append, List.mem_singleton, not_or] at hj
    simp only [Function.update_of_ne hj.2]
    exact h.outside j hj.1
  · intro before j es after hbs
    rcases Pool.split_snoc hbs with ⟨rfl, hblock, rfl⟩ | ⟨after', rfl, hbs'⟩
    · cases hblock
      refine ⟨S.term e, Function.update_self .., .inl ⟨post, hpost, ?_, fun _ => ⟨rfl, hheld⟩⟩⟩
      simp only [Function.update_self, hanswer]
      exact hin
    · -- while its lease lasts, a program keeps the others out
      have hji : j ≠ i := hne j (by rw [hbs']; simp)
      refine placed_frame (h.placed before j es after' hbs') (Function.update_of_ne hji _ _) (Function.update_of_ne hji _ _)
        fun x hlt hold => ?_
      obtain ⟨-, hheldj⟩ := hold (lt_of_le_of_lt (le_trans ht htt) hlt)
      have hrefused := (hS.enter_held _ e j i x hji hfair hheldj (lt_of_le_of_lt htt hlt)).1
      rw [hgrant] at hrefused
      cases hrefused

theorem serial_work (hS : S.Lawful) (h : Serial S body Done d t s bs) {before : List (Block ε)} {es : List ε} {x : τ}
    (hbs : bs = before ++ [(i, es)]) (hx : s.lease i = some x) (hheld : S.Held s.pool.world i x)
    {post : β → Prog Op Ans α} (hpost : ∀ b, Leaves S Done i b (post b)) {o : DOp} {k : DAns o → Prog DOp DAns β}
    (hleft : leftOf S body (dataAt S body d before) i es = .ask o k) (htt : t ≤ t')
    (hs' : s' = ⟨⟨(S.handle s.pool.world e (S.work o)).2, Function.update s.pool.procs i
      (inside S post (k (S.back o (S.handle s.pool.world e (S.work o)).1)))⟩, s.lease⟩)
    (hkeep : S.Held (S.handle s.pool.world e (S.work o)).2 i x) : Serial S body Done d t' s' (before ++ [(i, es ++ [e])]) := by
  subst hs' hbs
  obtain ⟨hdata, hback⟩ := hS.work_data s.pool.world e o
  have hview : S.view s.pool.world = ((body i).feed S.handleD es (dataAt S body d before)).2 := by
    rw [h.data, dataAt, Runs.exec_append]
    rfl
  have hfeed : (body i).feed S.handleD (es ++ [e]) (dataAt S body d before) =
      (k (S.back o (S.handle s.pool.world e (S.work o)).1), S.view (S.handle s.pool.world e (S.work o)).2) := by
    rw [feed_append, show ((body i).feed S.handleD es (dataAt S body d before)).1 = .ask o k from hleft, ← hview, Prog.feed_ask,
      Prog.feed_nil, hdata, hback]
  refine ⟨?_, ?_, ?_, ?_⟩
  · rw [dataAt, Runs.exec_append]
    exact (congrArg Prod.snd hfeed).symm
  · simpa using h.nodup
  · intro j hj
    have hji : j ≠ i := by
      rintro rfl
      simp at hj
    simp only [Function.update_of_ne hji]
    exact h.outside j (by simpa using hj)
  · intro before' j es' after hsplit
    rcases Pool.split_snoc hsplit with ⟨rfl, hblock, rfl⟩ | ⟨after', rfl, hbefore⟩
    · cases hblock
      refine ⟨x, hx, .inl ⟨post, hpost, ?_, fun _ => ⟨rfl, hkeep⟩⟩⟩
      simp only [Function.update_self, leftOf, hfeed]
    · have hji : j ≠ i := by
        rintro rfl
        have hnodup := h.nodup
        rw [hbefore] at hnodup
        simp [List.nodup_append] at hnodup
      have hlast := h.placed before' j es' (after' ++ [(i, es)]) (by rw [hbefore]; simp)
      refine placed_frame hlast
        (Function.update_of_ne hji _ _) rfl fun y hlt hold => ?_
      exact absurd (hold (lt_of_le_of_lt htt hlt)).1 (by simp)

theorem exists_block (h : i ∈ bs.map Prod.fst) : ∃ before es after, bs = before ++ (i, es) :: after := by
  obtain ⟨⟨j, es⟩, hmem, rfl⟩ := List.mem_map.mp h
  obtain ⟨before, after, hsplit⟩ := List.append_of_mem hmem
  exact ⟨before, es, after, hsplit⟩

theorem block_unique {before before' after after' : List (Block ε)} {es es' : List ε} (hnodup : (bs.map Prod.fst).Nodup)
    (h : bs = before ++ (i, es) :: after) (h' : bs = before' ++ (i, es') :: after') :
    before = before' ∧ es = es' ∧ after = after' := by
  induction before generalizing before' bs with
  | nil =>
    cases before' with
    | nil =>
      rw [h] at h'
      simpa using h'
    | cons b before' =>
      subst h
      simp only [List.nil_append, List.cons_append, List.cons.injEq] at h'
      obtain ⟨rfl, rfl⟩ := h'
      simp at hnodup
  | cons b before ih =>
    cases before' with
    | nil =>
      subst h
      simp only [List.nil_append, List.cons_append, List.cons.injEq] at h'
      obtain ⟨rfl, rfl⟩ := h'
      simp at hnodup
    | cons b' before' =>
      subst h
      simp only [List.cons_append, List.cons.injEq] at h'
      obtain ⟨rfl, h'⟩ := h'
      simp only [List.cons_append, List.map_cons, List.nodup_cons] at hnodup
      obtain ⟨rfl, hes, hafter⟩ := ih hnodup.2 rfl h'
      exact ⟨rfl, hes, hafter⟩

theorem serial_left (hS : S.Lawful) (h : Serial S body Done d t s bs) {before after : List (Block ε)} {es : List ε} {b : β}
    (hbs : bs = before ++ (i, es) :: after) (hleft : leftOf S body (dataAt S body d before) i es = .ret b)
    (hleaves : Leaves S Done i b (s.pool.procs i)) (ht : t ≤ S.start (.proc i e)) (hts : S.start (.proc i e) ≤ S.stop (.proc i e))
    (hok : InTerm S s (.proc i e) = true) : Serial S body Done d (S.stop (.proc i e)) (s.step S (.proc i e)) bs := by
  have hmem : i ∈ bs.map Prod.fst := by simp [hbs]
  have hsame : ∀ p', Leaves S Done i b p' → ∀ before' es' after', bs = before' ++ (i, es') :: after' →
      ∃ b, leftOf S body (dataAt S body d before') i es' = .ret b ∧ Leaves S Done i b p' := by
    intro p' hp' before' es' after' hbs'
    obtain ⟨rfl, rfl, -⟩ := block_unique h.nodup hbs hbs'
    exact ⟨b, hleft, hp'⟩
  cases hp : s.pool.procs i with
  | ret a =>
    rw [hp] at hleaves
    refine serial_off (i := i) (v := s.pool.world) (q := .ret a) h (le_trans ht hts) ?_ rfl (fun _ _ _ _ hheld => hheld)
      (fun hi => absurd hmem hi) (hsame _ hleaves)
    simp only [Leased.step, Pool.step, hp, Prog.advance]
  | ask o k =>
    rw [hp] at hleaves
    obtain ⟨hfair, -⟩ := inTerm_ask S hok hp
    refine serial_off (i := i) h (le_trans ht hts) (v := (S.handle s.pool.world e o).2)
      (q := k (S.handle s.pool.world e o).1) ?_ (hS.outer_view _ _ _ _ hleaves.1)
      (fun j x hji hlt hheld => hS.outer_held _ _ _ _ _ _ hleaves.1 hji hfair hheld (lt_of_le_of_lt hts hlt))
      (fun hi => absurd hmem hi) (hsame _ (hleaves.2 _ trivial))
    simp only [Leased.step, Pool.step, hp, Prog.advance, hS.outer_granted _ _ _ hleaves.1, Bool.false_eq_true, if_false]

/-- **Step lemma.** -/
theorem serial_step (hS : S.Lawful) (h : Serial S body Done d t s bs)
    {turn : Turn ε η} (ht : t ≤ S.start turn) (hts : S.start turn ≤ S.stop turn) (hok : InTerm S s turn = true) :
    ∃ bs', Serial S body Done d (S.stop turn) (s.step S turn) bs' ∧ Grows bs bs' [turn] := by
  cases turn with
  | env al =>
    refine ⟨bs, ⟨(hS.env_view _ _).trans h.data, h.nodup, h.outside, fun before j es after hbs => ?_⟩, grows_same _ _⟩
    refine placed_frame (h.placed before j es after hbs) rfl rfl fun x hlt hold => ?_
    obtain ⟨hafter, hheld⟩ := hold (lt_of_le_of_lt (le_trans ht hts) hlt)
    exact ⟨hafter, hS.env_held _ _ _ _ hheld (lt_of_le_of_lt hts hlt)⟩
  | proc i e =>
    by_cases hi : i ∈ bs.map Prod.fst
    · obtain ⟨before, es, after, hbs⟩ := exists_block hi
      obtain ⟨x, hx, ⟨post, hpost, hproc, hplace⟩ | ⟨b, hleft, hleaves⟩⟩ := h.placed before i es after hbs
      · cases hleft : leftOf S body (dataAt S body d before) i es with
        | ret b =>
          rw [hleft, inside_ret] at hproc
          exact ⟨bs, serial_left hS h hbs hleft (hproc ▸ hpost b) ht hts hok, grows_same _ _⟩
        | ask o k =>
          rw [hleft, inside_ask] at hproc
          -- the lease has not ended, so this is the last block
          have hlt := (inTerm_ask S hok hproc).2 (hS.work_working o) x hx
          obtain ⟨rfl, hheld⟩ := hplace (lt_of_le_of_lt ht hlt)
          refine ⟨_, serial_work hS h hbs hx hheld hpost hleft (le_trans ht hts) ?_ (hS.work_held _ e o _ _ hheld),
            hbs ▸ grows_work before i es e⟩
          simp only [Leased.step, Pool.step, hproc, Prog.advance, hS.work_granted, Bool.false_eq_true, if_false]
      · exact ⟨bs, serial_left hS h hbs hleft hleaves ht hts hok, grows_same _ _⟩
    · have hnone : ∀ (p' : Prog Op Ans α) before es after, bs = before ++ (i, es) :: after →
          ∃ b, leftOf S body (dataAt S body d before) i es = .ret b ∧ Leaves S Done i b p' := by
        intro p' before es after hbs
        exact absurd (by simp [hbs]) hi
      cases hp : s.pool.procs i with
      | ret a =>
        refine ⟨bs, serial_off (i := i) (v := s.pool.world) (q := .ret a) h (le_trans ht hts) ?_ rfl
          (fun _ _ _ _ hheld => hheld) (fun _ => hp ▸ h.outside i hi) (hnone _), grows_same _ _⟩
        simp only [Leased.step, Pool.step, hp, Prog.advance]
      | ask o k =>
        obtain ⟨hfair, -⟩ := inTerm_ask S hok hp
        have henters := h.outside i hi
        rw [hp] at henters
        cases henters with
        | outer ho hk =>
          refine ⟨bs, serial_off (i := i) h (le_trans ht hts) (v := (S.handle s.pool.world e o).2)
            (q := k (S.handle s.pool.world e o).1) ?_ (hS.outer_view _ _ _ _ ho)
            (fun j x hji hlt hheld => hS.outer_held _ _ _ _ _ _ ho hji hfair hheld (lt_of_le_of_lt hts hlt))
            (fun _ => hk _) (hnone _), grows_same _ _⟩
          simp only [Leased.step, Pool.step, hp, Prog.advance, hS.outer_granted _ _ _ ho, Bool.false_eq_true, if_false]
        | @enter k post hpost hin hout =>
          cases hgrant : S.granted i (S.enter i) (S.handle s.pool.world e (S.enter i)).1 with
          | true =>
            refine ⟨bs ++ [(i, [])], serial_enter hS h hi hpost hin hfair ht hts hgrant ?_, grows_enter bs i _⟩
            simp only [Leased.step, Pool.step, hp, Prog.advance, hgrant, if_true]
          | false =>
            refine ⟨bs, serial_off (i := i) h (le_trans ht hts) (v := (S.handle s.pool.world e (S.enter i)).2)
              (q := k (S.handle s.pool.world e (S.enter i)).1) ?_ (hS.enter_view _ _ _)
              (fun j x hji hlt hheld => (hS.enter_held _ _ _ _ _ hji hfair hheld (lt_of_le_of_lt hts hlt)).2)
              (fun _ => hout _ hgrant) (hnone _), grows_same _ _⟩
            simp only [Leased.step, Pool.step, hp, Prog.advance, hgrant, Bool.false_eq_true, if_false]

/-- **Run lemma.** The blocks at any time on the way are the first ones in the end. -/
theorem serial_run (hS : S.Lawful) : ∀ (turns : List (Turn ε η)) (t : τ) (s : Leased ω τ Op Ans α) (bs : List (Block ε)),
    Serial S body Done d t s bs → Runs.Ordered S.start S.stop t turns →
    Runs.Along (Leased.step S) (fun s turn => InTerm S s turn = true) s turns →
    ∃ bs', Serial S body Done d (Runs.endTime S.stop t turns) (Runs.exec (Leased.step S) s turns) bs' ∧ Grows bs bs' turns ∧
      ∀ sofar rest, turns = sofar ++ rest → ∃ bs₁,
        Serial S body Done d (Runs.endTime S.stop t sofar) (Runs.exec (Leased.step S) s sofar) bs₁ ∧ Grows bs₁ bs' rest
  | [], _, _, bs, h, _, _ => by
    refine ⟨bs, h, grows_same _ _, fun sofar rest hsplit => ?_⟩
    obtain ⟨rfl, rfl⟩ := List.append_eq_nil_iff.mp hsplit.symm
    exact ⟨bs, h, grows_same _ _⟩
  | turn :: turns, t, s, bs, h, hclock, hok => by
    obtain ⟨bs', hstep, hgrows⟩ := serial_step hS h hclock.1 hclock.2.1 hok.1
    obtain ⟨bs'', hrun, hgrows', hway⟩ := serial_run hS turns (S.stop turn) (s.step S turn) bs' hstep hclock.2.2 hok.2
    refine ⟨bs'', hrun, grows_trans hgrows hgrows', fun sofar rest hsplit => ?_⟩
    cases sofar with
    | nil =>
      rw [List.nil_append] at hsplit
      exact ⟨bs, h, hsplit ▸ grows_trans hgrows hgrows'⟩
    | cons turn' sofar =>
      obtain ⟨rfl, hrest⟩ := List.cons.inj hsplit
      exact hway sofar rest hrest

theorem serial_start {p : Pool ω Op Ans α} (hp : ∀ i, Enters S body Done i (p.procs i)) (t : τ) :
    Serial S body Done (S.view p.world) t ⟨p, fun _ => none⟩ [] := by
  refine ⟨rfl, by simp, fun i _ => hp i, fun before j es after hbs => ?_⟩
  simp at hbs

omit [LinearOrder τ] in
theorem lease_turn : ∀ (turns : List (Turn ε η)) (s : Leased ω τ Op Ans α), s.lease i = none →
    (Runs.exec (Leased.step S) s turns).lease i ≠ none → ∃ e, Turn.proc i e ∈ turns
  | [], s, hs, h => absurd hs h
  | turn :: turns, s, hs, h => by
    by_cases hstep : (s.step S turn).lease i = none
    · obtain ⟨e, he⟩ := lease_turn turns (s.step S turn) hstep h
      exact ⟨e, List.mem_cons_of_mem turn he⟩
    · cases turn with
      | env al => exact absurd hs hstep
      | proc j e =>
        refine ⟨e, ?_⟩
        by_cases hji : i = j
        · subst hji
          exact List.mem_cons_self
        · refine absurd hs ?_
          simp only [Leased.step] at hstep
          cases hp : s.pool.procs j with
          | ret a => simpa [hp] using hstep
          | ask o k =>
            simp only [hp] at hstep
            split at hstep
            · rwa [Function.update_of_ne hji] at hstep
            · exact hstep

theorem block_turn {p : Pool ω Op Ans α} {turns : List (Turn ε η)}
    (h : Serial S body Done d t (Runs.exec (Leased.step S) ⟨p, fun _ => none⟩ turns) bs) (hi : i ∈ bs.map Prod.fst) :
    ∃ e, Turn.proc i e ∈ turns := by
  obtain ⟨before, es, after, hbs⟩ := exists_block hi
  obtain ⟨x, hx, -⟩ := h.placed before i es after hbs
  refine lease_turn (S := S) turns ⟨p, fun _ => none⟩ rfl ?_
  rw [hx]
  simp

theorem blocks_le_turns {p : Pool ω Op Ans α} {turns : List (Turn ε η)}
    (h : Serial S body Done d t (Runs.exec (Leased.step S) ⟨p, fun _ => none⟩ turns) bs) : bs.length ≤ turns.length := by
  have hsub : bs.map Prod.fst ⊆ turns.filterMap turnOf := by
    intro i hi
    obtain ⟨e, he⟩ := block_turn h hi
    exact List.mem_filterMap.mpr ⟨_, he, rfl⟩
  calc bs.length = (bs.map Prod.fst).length := (List.length_map _).symm
    _ ≤ (turns.filterMap turnOf).length := (List.subperm_of_subset h.nodup hsub).length_le
    _ ≤ turns.length := List.length_filterMap_le _ _

theorem serial_ret (h : Serial S body Done d t s bs) {a : α}
    (ha : s.pool.procs i = .ret a) : Done i none a ∨ ∃ before es after b, bs = before ++ (i, es) :: after ∧
      leftOf S body (dataAt S body d before) i es = .ret b ∧ Done i (some b) a := by
  by_cases hi : i ∈ bs.map Prod.fst
  · obtain ⟨before, es, after, hbs⟩ := exists_block hi
    refine .inr ⟨before, es, after, ?_⟩
    obtain ⟨x, -, ⟨post, hpost, hproc, -⟩ | ⟨b, hleft, hleaves⟩⟩ := h.placed before i es after hbs
    · cases hleft : leftOf S body (dataAt S body d before) i es with
      | ask o k =>
        rw [hleft, inside_ask, ha] at hproc
        cases hproc
      | ret b =>
        rw [hleft, inside_ret, ha] at hproc
        have hleaves := hpost b
        rw [← hproc] at hleaves
        exact ⟨b, hbs, rfl, hleaves⟩
    · rw [ha] at hleaves
      exact ⟨b, hbs, hleft, hleaves⟩
  · have henters := h.outside i hi
    rw [ha] at henters
    cases henters with
    | ret hdone => exact .inl hdone

end

end

end Lease
