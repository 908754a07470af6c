import Issuer.Lib.Lease

/-!
# The order of sections under a lease

Where each block of a run is one operation on the data, whatever turns it had, the run is linearizable: `InOrder` says
that the data and the replies are those of the operations one after the other, in an order that keeps to real time.
-/

namespace Lease

open Runs

section
variable {ω δ τ Op DOp ε η α β ρ : Type} {Ans : Op → Type} {DAns : DOp → Type}
  (S : Setting ω δ τ Op DOp ε η Ans DAns) (Done : Nat → Option β → α → Prop) (apply : δ → ρ → β × δ)

abbrev applyStep (d : δ) (r : ρ) : δ := (apply d r).2

/-- The operations of a run, each with the program whose section it is. -/
structure InOrder (p : Pool ω Op Ans α) (turns : List (Turn ε η)) (order : List (Nat × ρ)) : Prop where
  once : (order.map Prod.fst).Nodup
  data : S.view (exec (Pool.step S.handle S.react) p turns).world =
    exec (applyStep apply) (S.view p.world) (order.map Prod.snd)
  replies : ∀ i a, (exec (Pool.step S.handle S.react) p turns).procs i = .ret a → Done i none a ∨
    ∃ earlier r later, order = earlier ++ (i, r) :: later ∧
      Done i (some (apply (exec (applyStep apply) (S.view p.world) (earlier.map Prod.snd)) r).1) a
  realTime : ∀ sofar rest, turns = sofar ++ rest → ∀ i a, (exec (Pool.step S.handle S.react) p sofar).procs i = .ret a →
    ¬Done i none a → ∀ j, (∀ e, Turn.proc j e ∉ sofar) →
    ∀ earlier r later, order = earlier ++ (j, r) :: later → i ∈ earlier.map Prod.fst

variable (body : Nat → Prog DOp DAns β)

structure Amounts (d : δ) (i : Nat) (es : List ε) (r : ρ) : Prop where
  data : blockStep S body d (i, es) = applyStep apply d r
  result : ∀ b, leftOf S body d i es = .ret b → (apply d r).1 = b

variable {S Done apply body} {Fits : Nat → List ε → ρ → Prop}

theorem blocks_order (hblock : ∀ d i es, ∃ r, Fits i es r ∧ Amounts S apply body d i es r) : ∀ (bs : List (Block ε)) (d : δ),
    ∃ order : List (Nat × ρ), order.map Prod.fst = bs.map Prod.fst ∧
      dataAt S body d bs = exec (applyStep apply) d (order.map Prod.snd) ∧
      (∀ before i es after, bs = before ++ (i, es) :: after → ∃ earlier r later, order = earlier ++ (i, r) :: later ∧
        ∀ b, leftOf S body (dataAt S body d before) i es = .ret b →
          (apply (exec (applyStep apply) d (earlier.map Prod.snd)) r).1 = b) ∧
      ∀ p ∈ order, ∃ es, (p.1, es) ∈ bs ∧ Fits p.1 es p.2 := by
  intro bs
  induction bs with
  | nil =>
    refine fun d => ⟨[], rfl, rfl, ?_, fun p hp => by cases hp⟩
    intro before i es after hbs
    simp at hbs
  | cons block bs ih =>
    intro d
    obtain ⟨j, es'⟩ := block
    obtain ⟨r, hfits, hdata, hresult⟩ := hblock d j es'
    obtain ⟨order, hfst, hrest, hsplit, hall⟩ := ih (applyStep apply d r)
    refine ⟨(j, r) :: order, by simp [hfst], ?_, ?_, ?_⟩
    · rw [dataAt, exec_cons, hdata, List.map_cons, exec_cons]
      exact hrest
    · intro before i es after hbs
      cases before with
      | nil =>
        simp only [List.nil_append, List.cons.injEq, Prod.mk.injEq] at hbs
        obtain ⟨⟨rfl, rfl⟩, rfl⟩ := hbs
        exact ⟨[], r, order, rfl, hresult⟩
      | cons block before =>
        simp only [List.cons_append, List.cons.injEq] at hbs
        obtain ⟨rfl, hbs⟩ := hbs
        obtain ⟨earlier, r', later, horder, hresult'⟩ := hsplit before i es after hbs
        refine ⟨(j, r) :: earlier, r', later, by rw [horder, List.cons_append], fun b hb => ?_⟩
        rw [dataAt, exec_cons, hdata] at hb
        exact hresult' b hb
    · intro p hp
      rcases List.mem_cons.mp hp with rfl | hp
      · exact ⟨es', List.mem_cons_self, hfits⟩
      · obtain ⟨es, hmem, hp⟩ := hall p hp
        exact ⟨es, List.mem_cons_of_mem _ hmem, hp⟩

variable [LinearOrder τ]

/-- **Linearizability.** The operations fit the turns of their programs. -/
theorem inOrder (hS : S.Lawful) (hblock : ∀ d i es, ∃ r, Fits i es r ∧ Amounts S apply body d i es r) {p : Pool ω Op Ans α}
    (hp : ∀ i, Enters S body Done i (p.procs i)) {turns : List (Turn ε η)} {t : τ} (hclock : Ordered S.start S.stop t turns)
    (hok : Along (Leased.step S) (fun s turn => InTerm S s turn = true) ⟨p, fun _ => none⟩ turns) :
    ∃ order, InOrder S Done apply p turns order ∧ order.length ≤ turns.length ∧
      ∀ x ∈ order, ∃ es, (∀ e ∈ es, ∃ j, Turn.proc j e ∈ turns) ∧ Fits x.1 es x.2 := by
  obtain ⟨bs, hserial, hgrows, hway⟩ := serial_run hS turns t _ [] (serial_start hp t) hclock hok
  obtain ⟨order, hfst, hdata, hsplit, hall⟩ := blocks_order hblock bs (S.view p.world)
  refine ⟨order, ⟨?once, ?data, ?replies, ?realTime⟩, ?length, ?fits⟩
  case once => exact hfst ▸ hserial.nodup
  case data =>
    rw [← hdata, ← exec_leased S turns ⟨p, fun _ => none⟩]
    exact hserial.data
  case replies =>
    intro i a hi
    rw [← exec_leased S turns ⟨p, fun _ => none⟩] at hi
    rcases serial_ret hserial hi with hnone | ⟨before, es, after, b, hbs, hleft, hdone⟩
    · exact .inl hnone
    · obtain ⟨earlier, r, later, horder, hresult⟩ := hsplit before i es after hbs
      refine .inr ⟨earlier, r, later, horder, ?_⟩
      rw [hresult b hleft]
      exact hdone
  case realTime =>
    intro sofar rest hturns i a hi hdone j hj earlier r later horder
    -- the blocks at that time have one for `i` and none for `j`
    obtain ⟨bs₁, hserial₁, hgrows₁⟩ := hway sofar rest hturns
    have hi₁ : i ∈ bs₁.map Prod.fst := by
      rw [← exec_leased S sofar ⟨p, fun _ => none⟩] at hi
      rcases serial_ret hserial₁ hi with hnone | ⟨before, es, after, b, hbs₁, -⟩
      · exact absurd hnone hdone
      · simp [hbs₁]
    have hj₁ : j ∉ bs₁.map Prod.fst := by
      intro hmem
      obtain ⟨e, he⟩ := block_turn hserial₁ hmem
      exact hj e he
    have hbs : bs.map Prod.fst = earlier.map Prod.fst ++ j :: later.map Prod.fst := by
      rw [← hfst, horder, List.map_append, List.map_cons]
    exact mem_before hgrows₁.order hi₁ hj₁ hbs
  case length =>
    rw [show order.length = bs.length from by simpa using congrArg List.length hfst]
    exact blocks_le_turns hserial
  case fits =>
    intro x hx
    obtain ⟨es, hmem, hfits⟩ := hall x hx
    refine ⟨es, fun e he => ?_, hfits⟩
    rcases hgrows.ticks _ hmem e he with ⟨block, hblock, -⟩ | hturn
    · cases hblock
    · exact hturn

end

end Lease
