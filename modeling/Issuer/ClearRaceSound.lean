import Issuer.ClearRace

/-!
# Runs of one clear and any number of records

Each turn keeps the calls side by side and the calls one after another in step: a record takes effect
with its write, the clear with its first delete.
-/

namespace Issuer

open Rust Store Runs

/-! ## One turn -/

section
variable {a : Actor} {token : Nat → String} {t₀ t τ : Int} {start : LimitsPool} {s : TimedPool} {cl : ClearPhase}
  {ph : Nat → Phase} {blocks : List (Nat × List UInt64)}

def Extends (blocks blocks' : List (Nat × List UInt64)) : Prop :=
  blocks' = blocks ∨ ∃ i times, i ∉ blocks.map Prod.fst ∧ blocks' = blocks ++ [(i, times)]

/-- A turn that writes a count within its term: no other call can write any more, and this one took effect in the
moment of the write. -/
theorem Racing.written (h : Racing a token t τ s cl ph)
    (hsolo : Solo a t₀ start blocks (replyOf cl ph) s.pool.world.kv[a.counter]? τ)
    (hv : validateActor a.actorType a.actorId = .ok ()) (hinj : Function.Injective token) {i : Nat} (hi : i ≠ 0)
    (hentry : start.procs i = recording a (token i) (.ahead (.ret true))) {tk : Tick} (hstart : t ≤ nowEpochSecs tk.now)
    (hstop : nowEpochSecs tk.now ≤ nowEpochSecs tk.arm) {cur : Nat} (hphi : ph i = .counted cur)
    (hin : nowEpochSecs tk.now < s.since i + maxLockTtlSeconds) {kv : Kv String}
    (hput : kvPut tk.kvFails s.pool.world.kv tk.now (some lockoutTrackingWindow) a.counter (toString (satAddU32 cur 1)) = .ok kv)
    {since : Nat → Int} (hsince : ∀ j, j ≠ i → since j = s.since j) :
    ∃ ph' τ' blocks', Racing a token (nowEpochSecs tk.arm) τ' ⟨⟨{ s.pool.world with kv := kv },
        Function.update s.pool.procs i (recording a (token i) (.stored (satAddU32 cur 1)))⟩, since⟩ cl ph' ∧
      Solo a t₀ start blocks' (replyOf cl ph') kv[a.counter]? τ' ∧ Extends blocks blocks' := by
  have htime : t ≤ nowEpochSecs tk.arm := by omega
  have hcrit : (ph i).Critical := by rw [hphi]; trivial
  obtain ⟨r, hτ, hrt, hcount⟩ := h.current i cur hi hphi (by omega)
  obtain ⟨hname, htoken⟩ := h.valid i hcrit
  have hget := get_congr hsolo.counter (secs r)
  have hnext : nextCount a (exec LimitsPool.step start (inTurn blocks)).world.kv r = satAddU32 cur 1 := by
    rw [nextCount, hget, hcount]
  obtain ⟨locks, hfeed, hfree⟩ := record_feed (p := tk.now) hv hname htoken (hsolo.free r hτ)
  rw [hnext, ← hentry] at hfeed
  have hnone : replyOf cl ph i = none := by simp [replyOf, hi, hphi, Phase.count]
  have happend : Solo a t₀ start _ _ _ (nowEpochSecs tk.now) := hsolo.append hnone hfeed
    ⟨hτ, le_refl _, le_refl _, le_refl _, by simp only [turnStart, turnStop, Tick.at]; omega, le_refl _, le_refl _, le_refl _, trivial⟩
    rfl fun _ _ => hfree _
  have hwritten : kv[a.counter]? = (Store.put (exec LimitsPool.step start (inTurn blocks)).world.kv (secs tk.now)
      (some lockoutTrackingWindow) a.counter (toString (satAddU32 cur 1)))[a.counter]? := by
    rw [kvPut_ok hput]
    simp only [Store.put, insert_get, if_true]
  refine ⟨Function.update ph i (.stored (satAddU32 cur 1)), nowEpochSecs tk.now, blocks ++ [(i, [r, r, tk.now, tk.now])],
    ?_, ?_, .inr ⟨i, _, ?_, rfl⟩⟩
  · refine h.record hi hinj htime hstop hsince (fun _ _ _ _ hl => hl) trivial (fun hc => absurd hc id)
      (fun hc => absurd hc id) fun j cur' hj0 hph hlt => ?_
    -- another call that could still write would hold the same lock
    exfalso
    by_cases hj : j = i
    · subst hj
      rw [Function.update_self] at hph
      cases hph
    · rw [Function.update_of_ne hj] at hph
      rw [hsince j hj] at hlt
      have hj' := h.backed j hj0 (by rw [hph]; trivial) (by omega)
      exact hj (hinj (holds_unique hj' (h.backed i hi hcrit (by omega))))
  · rw [replyOf_update hi, hwritten]
    exact happend
  · rw [hsolo.members, hnone]
    simp

theorem Racing.proc (h : Racing a token t τ s cl ph)
    (hsolo : Solo a t₀ start blocks (replyOf cl ph) s.pool.world.kv[a.counter]? τ)
    (hv : validateActor a.actorType a.actorId = .ok ()) (hinj : Function.Injective token) {i : Nat} (hi : i ≠ 0)
    (hentry : start.procs i = recording a (token i) (.ahead (.ret true))) {tk : Tick} (hstart : t ≤ nowEpochSecs tk.now)
    (hstop : nowEpochSecs tk.now ≤ nowEpochSecs tk.arm) (hfault : Faultless (.proc i tk))
    (hok : InTime a s (.proc i tk) = true) :
    ∃ ph' τ' blocks', Racing a token (nowEpochSecs tk.arm) τ' (s.step (.proc i tk)) cl ph' ∧
      Solo a t₀ start blocks' (replyOf cl ph') (s.step (.proc i tk)).pool.world.kv[a.counter]? τ' ∧ Extends blocks blocks' := by
  obtain ⟨ph', hadv, hmoves⟩ := advance_moves hv (token i) (fun r => .ret (.counted r)) s.pool.world tk (ph i)
  have hr : s.pool.procs i = (ph i).render a (token i) fun r => .ret (.counted r) := h.rendered i hi
  have hstep : s.step (.proc i tk) = ⟨⟨((s.pool.procs i).advance LimitsWorld.handle s.pool.world tk).2,
      Function.update s.pool.procs i (recording a (token i) ph')⟩, (s.step (.proc i tk)).since⟩ := by
    simp only [TimedPool.step, Pool.step, hr]
    rw [hadv]
  have hsince : ∀ j, j ≠ i → (s.step (.proc i tk)).since j = s.since j := fun j hj => since_of_ne hj
  have htime : t ≤ nowEpochSecs tk.arm := by omega
  have hplain := h.plain i
  rw [← hr] at hmoves
  rw [hstep]
  generalize ((s.pool.procs i).advance LimitsWorld.handle s.pool.world tk).2 = w at hmoves
  generalize hphi : ph i = phi at hmoves
  rw [hphi] at hr hplain
  -- a turn that writes no count leaves the calls that have taken effect
  have hsame : ∀ {ph'' : Phase}, ph''.count = phi.count → w.kv[a.counter]? = s.pool.world.kv[a.counter]? →
      Solo a t₀ start blocks (replyOf cl (Function.update ph i ph'')) w.kv[a.counter]? τ := by
    intro ph'' hcount hkv
    rw [replyOf_quiet (by rw [hcount, hphi]), hkv]
    exact hsolo
  cases hmoves with
  | prepare o k =>
    obtain ⟨b, hb⟩ := hplain
    cases hb
  | enter b answer hacq =>
    have hread : tk.faults.read (lockKey a.lock) = .success := by rw [hfault.1]; rfl
    have hown : (s.step (.proc i tk)).since i = nowEpochSecs tk.now := by
      simp only [TimedPool.step, hr, render_entry hv, Function.update_self]
    refine ⟨_, τ, blocks, h.quiet hi hinj htime rfl hsince ?_ trivial (fun _ => acquire_valid hacq) ?_ ?_, hsame rfl rfl, .inl rfl⟩
    · intro tok e _ hlt hl
      have := acquire_ok_expired hacq hl hread
      omega
    · intro _ _
      rw [hown]
      exact acquire_ok_term hacq
    · intro cur hcur
      cases hcur
  | refused b e hacq =>
    have hread : tk.faults.read (lockKey a.lock) = .success := by rw [hfault.1]; rfl
    refine ⟨_, τ, blocks, h.quiet hi hinj htime rfl hsince ?_ rfl (fun hc => absurd hc id) (fun hc => absurd hc id) ?_,
      hsame rfl rfl, .inl rfl⟩
    · exact fun tok e _ hlt hl => acquire_holds hl (by omega) fun _ => hread
    · intro cur hcur
      cases hcur
  | read data hget =>
    have hown : (s.step (.proc i tk)).since i = s.since i := by
      simp only [TimedPool.step, hr, render_locked]
    have hcrit : (ph i).Critical := by rw [hphi]; trivial
    refine ⟨_, τ, blocks, h.quiet hi hinj htime rfl hsince (fun _ _ _ _ hl => hl) trivial (fun _ => h.valid i hcrit) ?_ ?_,
      hsame rfl rfl, .inl rfl⟩
    · intro _ hlt
      rw [hown] at hlt ⊢
      exact h.backed i hi hcrit (by omega)
    · intro cur hcur
      cases hcur
      refine ⟨tk.now, le_trans h.past hstart, hstop, ?_⟩
      simp only [kvGet, hfault.2, Bool.false_eq_true, if_false, Except.ok.injEq] at hget
      rw [hget]
  | readFailed e hget =>
    simp [kvGet, hfault.2] at hget
  | put cur kv hput =>
    have hin : nowEpochSecs tk.now < s.since i + maxLockTtlSeconds := by
      simpa [InTime, hr, Phase.render, Prog.next] using hok
    exact h.written hsolo hv hinj hi hentry hstart hstop hphi hin hput hsince
  | putFailed cur e hput =>
    have httl : ¬lockoutTrackingWindow < kvMinTtl := by decide
    simp [kvPut, hfault.2, httl] at hput
  | release n =>
    refine ⟨_, τ, blocks, h.quiet hi hinj htime rfl hsince ?_ rfl (fun hc => absurd hc id) (fun hc => absurd hc id) ?_,
      hsame rfl rfl, .inl rfl⟩
    · exact fun tok e hne _ hl => release_holds hl fun hk => hne hk.2.symm
    · intro cur hcur
      cases hcur
  | giveUp e => exact absurd hplain id
  | leave r o k =>
    cases (show _ = _ from hplain)
  | rest r x =>
    refine ⟨_, τ, blocks, h.quiet hi hinj htime rfl hsince (fun _ _ _ _ hl => hl) hplain (fun hc => absurd hc id)
      (fun hc => absurd hc id) ?_, hsame rfl rfl, .inl rfl⟩
    intro cur hcur
    cases hcur

/-- A turn of the clearing call, which has no say over the locks. -/
theorem Racing.clearing_turn (h : Racing a token t τ s cl ph) {t' τ' : Int} {cl' : ClearPhase} {kv : Kv String}
    (htime : t ≤ t') (hpast : τ' ≤ t')
    (hcur : ∀ j cur, j ≠ 0 → ph j = .counted cur → t' < s.since j + maxLockTtlSeconds →
      ∃ r : UInt64, τ' ≤ nowEpochSecs r ∧ nowEpochSecs r ≤ t' ∧
        failureCount a.threshold (Store.get kv (secs r) a.counter) = cur) :
    Racing a token t' τ' ⟨⟨{ s.pool.world with kv := kv }, Function.update s.pool.procs 0 (cl'.render a)⟩, s.since⟩ cl' ph := by
  refine ⟨by simp only [Function.update_self], fun i hi => ?_, h.plain, h.valid, fun i hi hcrit hlt => ?_, hcur, hpast⟩
  · simp only [Function.update_of_ne hi]
    exact h.rendered i hi
  · exact h.backed i hi hcrit (by simp only at hlt; omega)

theorem Racing.clear (h : Racing a token t τ s cl ph)
    (hsolo : Solo a t₀ start blocks (replyOf cl ph) s.pool.world.kv[a.counter]? τ)
    (hentry : start.procs 0 = ClearPhase.before.render a) {tk : Tick} (hstart : t ≤ nowEpochSecs tk.now)
    (hstop : nowEpochSecs tk.now ≤ nowEpochSecs tk.arm) (hfault : Faultless (.proc 0 tk))
    (hspares : SparesCounts a s (.proc 0 tk)) :
    ∃ cl' τ' blocks', Racing a token (nowEpochSecs tk.arm) τ' (s.step (.proc 0 tk)) cl' ph ∧
      Solo a t₀ start blocks' (replyOf cl' ph) (s.step (.proc 0 tk)).pool.world.kv[a.counter]? τ' ∧ Extends blocks blocks' := by
  have hp := h.clearing
  have htime : t ≤ nowEpochSecs tk.arm := by omega
  -- the reads that count keep their times where the counter is left alone
  have hkept : ∀ kv : Kv String, kv[a.counter]? = s.pool.world.kv[a.counter]? → ∀ j cur, j ≠ 0 → ph j = .counted cur →
      nowEpochSecs tk.arm < s.since j + maxLockTtlSeconds → ∃ r : UInt64, τ ≤ nowEpochSecs r ∧
        nowEpochSecs r ≤ nowEpochSecs tk.arm ∧ failureCount a.threshold (Store.get kv (secs r) a.counter) = cur := by
    intro kv hkv j cur hj hph hlt
    obtain ⟨r, hτ, hr, hcount⟩ := h.current j cur hj hph (by omega)
    exact ⟨r, hτ, by omega, by rw [get_congr hkv]; exact hcount⟩
  cases cl with
  | before =>
    have hstep : s.step (.proc 0 tk) = ⟨⟨{ s.pool.world with kv := s.pool.world.kv.erase a.counter },
        Function.update s.pool.procs 0 (ClearPhase.between.render a)⟩, s.since⟩ := by
      simp [TimedPool.step, Pool.step, hp, ClearPhase.render, Prog.advance, LimitsWorld.handle, hfault.2]
    have hnone : replyOf .before ph 0 = none := by simp [replyOf]
    have hfeed := clear_feed (a := a) (w := (exec LimitsPool.step start (inTurn blocks)).world) tk.now
    rw [← hentry] at hfeed
    have happend : Solo a t₀ start _ _ _ (nowEpochSecs tk.now) := hsolo.append hnone hfeed
      ⟨le_trans h.past hstart, le_refl _, le_refl _, le_refl _, trivial⟩ rfl
      fun now hnow => hsolo.free now (le_trans (le_trans h.past hstart) hnow)
    have hreply : replyOf .between ph = Function.update (replyOf .before ph) 0 (some (.cleared (.ok ()))) := by
      funext j
      by_cases hj : j = 0
      · subst hj
        simp [replyOf]
      · simp [replyOf, hj]
    refine ⟨.between, nowEpochSecs tk.now, blocks ++ [(0, [tk.now, tk.now])], ?_, ?_, .inr ⟨0, _, ?_, rfl⟩⟩
    · rw [hstep]
      refine h.clearing_turn htime hstop fun j cur hj hph hlt => ⟨tk.now, le_refl _, hstop, ?_⟩
      -- whoever is about to write has read that there were no failures, and now there are none
      have hwrite : (s.pool.procs j).next =
          some (.kvPut (some lockoutTrackingWindow) a.counter (toString (satAddU32 cur 1))) := by
        rw [h.rendered j hj, hph]
        rfl
      have hone := hspares (by rw [hp]; rfl) j _ _ hwrite
      have hcur : satAddU32 cur 1 = 1 := toString_injective hone
      have hzero : cur = 0 := by
        simp only [satAddU32, u32Max] at hcur
        omega
      simp [Store.get, failureCount, hzero]
    · rw [hreply, hstep]
      have hgone : (s.pool.world.kv.erase a.counter)[a.counter]? =
          (((exec LimitsPool.step start (inTurn blocks)).world.kv.erase a.counter).erase a.flag)[a.counter]? := by
        rw [erase_get_of_ne _ (flag_ne_counter a)]
        simp
      rw [hgone]
      exact happend
    · rw [hsolo.members, hnone]
      simp
  | between =>
    have hstep : s.step (.proc 0 tk) = ⟨⟨{ s.pool.world with kv := s.pool.world.kv.erase a.flag },
        Function.update s.pool.procs 0 (ClearPhase.done.render a)⟩, s.since⟩ := by
      simp [TimedPool.step, Pool.step, hp, ClearPhase.render, clearFlag, Prog.advance, LimitsWorld.handle, hfault.2]
    have hsame : (s.pool.world.kv.erase a.flag)[a.counter]? = s.pool.world.kv[a.counter]? :=
      erase_get_of_ne _ (flag_ne_counter a)
    refine ⟨.done, τ, blocks, ?_, ?_, .inl rfl⟩
    · rw [hstep]
      exact h.clearing_turn htime (le_trans h.past htime) (hkept _ hsame)
    · rw [hstep, hsame]
      have hreply : replyOf .done ph = replyOf .between ph := by
        funext j
        simp [replyOf]
      rw [hreply]
      exact hsolo
  | done =>
    have hstep : s.step (.proc 0 tk) = ⟨⟨{ s.pool.world with kv := s.pool.world.kv },
        Function.update s.pool.procs 0 (ClearPhase.done.render a)⟩, s.since⟩ := by
      simp [TimedPool.step, Pool.step, hp, ClearPhase.render, Prog.advance]
    refine ⟨.done, τ, blocks, ?_, ?_, .inl rfl⟩
    · rw [hstep]
      exact h.clearing_turn htime (le_trans h.past htime) (hkept _ rfl)
    · rw [hstep]
      exact hsolo

theorem Racing.env (h : Racing a token t τ s cl ph) {al : LockAlarm} (hstart : t ≤ nowEpochSecs al.now)
    (hstop : nowEpochSecs al.now ≤ nowEpochSecs al.arm) :
    Racing a token (nowEpochSecs al.arm) τ (s.step (.env al)) cl ph := by
  refine ⟨h.clearing, h.rendered, h.plain, h.valid, fun i hi hcrit hlt => ?_, fun i cur hi hph hlt => ?_, ?_⟩
  · have hsoon : nowEpochSecs al.arm < s.since i + maxLockTtlSeconds := hlt
    exact react_holds (h.backed i hi hcrit (by omega)) (by omega)
  · have hsoon : nowEpochSecs al.arm < s.since i + maxLockTtlSeconds := hlt
    obtain ⟨r, hτ, hr, hcount⟩ := h.current i cur hi hph (by omega)
    exact ⟨r, hτ, by omega, hcount⟩
  · have := h.past
    omega

/-! ## Replies and the order of the calls -/

theorem Racing.answered (h : Racing a token t τ s cl ph) (hv : validateActor a.actorType a.actorId = .ok ()) {i : Nat}
    (hi : Answered (s.pool.procs i)) : (replyOf cl ph i).isSome = true := by
  by_cases h0 : i = 0
  · subst h0
    rw [Answered, h.clearing] at hi
    cases cl with
    | before | between => simp [ClearPhase.render, clearFlag] at hi
    | done => simp [replyOf]
  · have hplain := h.plain i
    have hret : ∃ x, (ph i).render a (token i) (fun r => .ret (.counted r)) = .ret x := by
      rcases hi with ⟨n, hi⟩ | hi
      · exact ⟨_, (h.rendered i h0).symm.trans hi⟩
      · exact ⟨_, (h.rendered i h0).symm.trans hi⟩
    obtain ⟨x, hx⟩ := hret
    obtain ⟨r, hr⟩ := render_ret hv hx
    rw [Answered, h.rendered i h0, hr] at hi
    rw [hr] at hplain
    cases (show _ = _ from hplain)
    simp only [replyOf, h0, if_false, hr]
    cases r with
    | error e => simp [recording, Phase.render] at hi
    | ok n => rfl

theorem Racing.unstarted (h : Racing a token t τ s cl ph) (hv : validateActor a.actorType a.actorId = .ok ())
    (hclear : start.procs 0 = ClearPhase.before.render a)
    (hrecord : ∀ i, i ≠ 0 → start.procs i = recording a (token i) (.ahead (.ret true))) {i : Nat}
    (hi : s.pool.procs i = start.procs i) : replyOf cl ph i = none := by
  by_cases h0 : i = 0
  · subst h0
    rw [h.clearing, hclear] at hi
    cases cl with
    | before => rfl
    | between =>
      simp only [ClearPhase.render, clearFlag, Prog.ask.injEq, LimitsOp.kvDelete.injEq] at hi
      exact absurd hi.1 (flag_ne_counter a)
    | done => simp [ClearPhase.render] at hi
  · rw [h.rendered i h0, hrecord i h0, recording, recording, render_entry hv] at hi
    have hplain := h.plain i
    simp only [replyOf, h0, if_false]
    cases hph : ph i with
    | ahead p => rfl
    | locked => rfl
    | counted cur => rfl
    | aborted e => rfl
    | stored n =>
      rw [hph] at hi
      simp [Phase.render] at hi
    | after r q =>
      rw [hph] at hi hplain
      cases (show _ = _ from hplain)
      simp [Phase.render] at hi

theorem Racing.settled (h : Racing a token t τ s cl ph) (hv : validateActor a.actorType a.actorId = .ok ())
    (hclear : start.procs 0 = ClearPhase.before.render a)
    (hrecord : ∀ i, i ≠ 0 → start.procs i = recording a (token i) (.ahead (.ret true))) {i : Nat}
    (hi : s.pool.procs i = start.procs i ∨ ∃ x, s.pool.procs i = .ret x) {r : LimitsReply} (hr : replyOf cl ph i = some r) :
    s.pool.procs i = .ret r := by
  rcases hi with hi | ⟨x, hx⟩
  · rw [h.unstarted hv hclear hrecord hi] at hr
    cases hr
  · by_cases h0 : i = 0
    · subst h0
      rw [h.clearing] at hx ⊢
      cases cl with
      | before | between => simp [ClearPhase.render, clearFlag] at hx
      | done =>
        simp only [replyOf, reduceCtorEq, if_true, if_false, Option.some.injEq] at hr
        rw [← hr]
        rfl
    · rw [h.rendered i h0] at hx ⊢
      obtain ⟨y, hy⟩ := render_ret hv hx
      have hplain := h.plain i
      rw [hy] at hplain ⊢
      cases (show _ = _ from hplain)
      simp only [replyOf, h0, if_false, hy] at hr
      cases y with
      | error e => cases hr
      | ok n =>
        cases hr
        rfl

theorem precedes_snoc {turns : List LimitsTurn} {turn : LimitsTurn} {i j : Nat} (h : Precedes start (turns ++ [turn]) i j) :
    Precedes start turns i j ∨ Answered ((exec LimitsPool.step start (turns ++ [turn])).procs i) ∧
      (exec LimitsPool.step start (turns ++ [turn])).procs j = start.procs j := by
  obtain ⟨xs, ys, heq, hi, hj⟩ := h
  rcases List.eq_nil_or_concat ys with rfl | ⟨ys, y, rfl⟩
  · rw [List.append_nil] at heq
    rw [heq]
    exact .inr ⟨hi, hj⟩
  · rw [List.concat_eq_append, ← List.append_assoc] at heq
    exact .inl ⟨xs, ys, (List.append_inj' heq rfl).1, hi, hj⟩

/-- Along every run, beside the two invariants: who answered before another call started comes first. -/
theorem run_racing (hv : validateActor a.actorType a.actorId = .ok ()) (hinj : Function.Injective token)
    (hclear : start.procs 0 = ClearPhase.before.render a)
    (hrecord : ∀ i, i ≠ 0 → start.procs i = recording a (token i) (.ahead (.ret true)))
    (hfree : lockFree start.world.locks a.lock t₀ = true) (turns : List LimitsTurn)
    (hclock : Ordered turnStart turnStop t₀ turns) (hfaults : ∀ turn ∈ turns, Faultless turn)
    (hok : Along TimedPool.step (fun s turn => InTime a s turn = true ∧ SparesCounts a s turn) ⟨start, fun _ => 0⟩ turns) :
    ∃ cl ph τ blocks,
      Racing a token (endTime turnStop t₀ turns) τ (exec TimedPool.step ⟨start, fun _ => 0⟩ turns) cl ph ∧
      Solo a t₀ start blocks (replyOf cl ph) (exec TimedPool.step ⟨start, fun _ => 0⟩ turns).pool.world.kv[a.counter]? τ ∧
      ∀ i j, Precedes start turns i j → i ∈ blocks.map Prod.fst ∧
        (j ∈ blocks.map Prod.fst → [i, j].Sublist (blocks.map Prod.fst)) := by
  induction turns using List.reverseRecOn with
  | nil =>
    have hracing : Racing a token t₀ t₀ ⟨start, fun _ => 0⟩ .before fun _ => .ahead (.ret true) :=
      ⟨hclear, hrecord, fun _ => ⟨true, rfl⟩, fun _ hc => absurd hc id, fun _ _ hc => absurd hc id,
        fun _ _ _ hph => (by cases hph), le_refl _⟩
    have hreply : replyOf .before (fun _ => .ahead (.ret true)) = fun _ => none := by
      funext i
      simp [replyOf, Phase.count]
    refine ⟨.before, _, t₀, [], hracing, ?_, ?_⟩
    · rw [hreply]
      exact solo_start rfl hfree
    · rintro i j ⟨xs, ys, heq, hi, -⟩
      obtain ⟨rfl, -⟩ := List.append_eq_nil_iff.mp heq.symm
      have hanswer := hracing.answered hv hi
      rw [hreply] at hanswer
      cases hanswer
  | append_singleton turns turn ih =>
    obtain ⟨hclock, hstart, hstop, -⟩ := (ordered_append turns [turn] t₀).mp hclock
    obtain ⟨hok, hturn, -⟩ := (along_append TimedPool.step turns [turn] _).mp hok
    obtain ⟨cl, ph, τ, blocks, hracing, hsolo, horder⟩ := ih hclock (fun x hx => hfaults x (by simp [hx])) hok
    have hfault := hfaults turn (by simp)
    rw [exec_append, endTime_append]
    have hmove : ∃ cl' ph' τ' blocks',
        Racing a token (turnStop turn) τ' ((exec TimedPool.step ⟨start, fun _ => 0⟩ turns).step turn) cl' ph' ∧
        Solo a t₀ start blocks' (replyOf cl' ph')
          ((exec TimedPool.step ⟨start, fun _ => 0⟩ turns).step turn).pool.world.kv[a.counter]? τ' ∧
        Extends blocks blocks' := by
      cases turn with
      | env al => exact ⟨cl, ph, τ, blocks, hracing.env hstart hstop, hsolo, .inl rfl⟩
      | proc i tk =>
        by_cases h0 : i = 0
        · subst h0
          obtain ⟨cl', τ', blocks', h⟩ := hracing.clear hsolo hclear hstart hstop hfault hturn.2
          exact ⟨cl', ph, τ', blocks', h⟩
        · obtain ⟨ph', τ', blocks', h⟩ := hracing.proc hsolo hv hinj h0 (hrecord i h0) hstart hstop hfault hturn.1
          exact ⟨cl, ph', τ', blocks', h⟩
    obtain ⟨cl', ph', τ', blocks', hracing', hsolo', hextends⟩ := hmove
    refine ⟨cl', ph', τ', blocks', hracing', hsolo', fun i j hij => ?_⟩
    have hpool := exec_timedPool (turns ++ [turn]) ⟨start, fun _ => 0⟩
    rw [exec_append] at hpool
    rcases precedes_snoc hij with hij | ⟨hi, hj⟩
    · obtain ⟨hi, hlater⟩ := horder i j hij
      rcases hextends with rfl | ⟨k, times, hk, rfl⟩
      · exact ⟨hi, hlater⟩
      · rw [List.map_append]
        refine ⟨List.mem_append_left _ hi, fun hj => ?_⟩
        rcases List.mem_append.mp hj with hj | hj
        · exact (hlater hj).trans (List.sublist_append_left _ _)
        · have hjk : j = k := by simpa using hj
          subst hjk
          exact (List.singleton_sublist.mpr hi).append (List.Sublist.refl [j])
    · rw [← hpool] at hi hj
      refine ⟨(hsolo'.members i).mpr (hracing'.answered hv hi), fun hmem => ?_⟩
      rw [hsolo'.members, hracing'.unstarted hv hclear hrecord hj] at hmem
      cases hmem

end

/-! ## Every run -/

def clearPool (hashIp : String → String) (a : Actor) (token : Nat → String) (w : LimitsWorld) : LimitsPool :=
  limitsPool hashIp (clearAndRecords a token) w

theorem exec_refused {start : LimitsPool} (hret : ∀ i, ∃ r, start.procs i = .ret r) (turns : List LimitsTurn) :
    (exec LimitsPool.step start turns).procs = start.procs ∧ (exec LimitsPool.step start turns).world.kv = start.world.kv := by
  refine exec_preserves LimitsPool.step (I := fun s => s.procs = start.procs ∧ s.world.kv = start.world.kv) ?_ turns start
    ⟨rfl, rfl⟩
  rintro s turn ⟨hprocs, hkv⟩
  cases turn with
  | env al => exact ⟨hprocs, hkv⟩
  | proc i tk =>
    obtain ⟨r, hr⟩ := hret i
    have hi : s.procs i = .ret r := by rw [hprocs, hr]
    refine ⟨?_, ?_⟩
    · simp only [LimitsPool.step, Pool.step, hi, Prog.advance]
      rw [← hi, Function.update_eq_self, hprocs]
    · simp only [LimitsPool.step, Pool.step, hi, Prog.advance]
      exact hkv

/-- One clear and any number of records, in any order of their turns, all returned: where the delete of the
counter meets no count that is about to be written, they are worth some order of themselves that keeps who came
before whom. -/
theorem clear_and_records_worth_an_order (hashIp : String → String) (a : Actor) (token : Nat → String) (w : LimitsWorld)
    (turns : List LimitsTurn) (t : Int) (hinj : Function.Injective token) (hfree : lockFree w.locks a.lock t = true)
    (hclock : Ordered turnStart turnStop t turns) (hfaults : ∀ turn ∈ turns, Faultless turn)
    (hok : Along TimedPool.step (fun s turn => InTime a s turn = true ∧ SparesCounts a s turn)
      ⟨clearPool hashIp a token w, fun _ => 0⟩ turns)
    (hsettled : ∀ i, (exec LimitsPool.step (clearPool hashIp a token w) turns).procs i = (clearPool hashIp a token w).procs i ∨
      ∃ x, (exec LimitsPool.step (clearPool hashIp a token w) turns).procs i = .ret x) :
    ∃ blocks, Worth a t (clearPool hashIp a token w) (exec LimitsPool.step (clearPool hashIp a token w) turns) blocks ∧
      ∀ i j, Precedes (clearPool hashIp a token w) turns i j → j ∈ blocks.map Prod.fst →
        [i, j].Sublist (blocks.map Prod.fst) := by
  have hpool := exec_timedPool turns ⟨clearPool hashIp a token w, fun _ => 0⟩
  cases hv : validateActor a.actorType a.actorId with
  | error e =>
    have hrefused : ∀ i, (clearPool hashIp a token w).procs i = .ret (.cleared (.error e)) ∨
        (clearPool hashIp a token w).procs i = .ret (.counted (.error e)) := by
      intro i
      cases i with
      | zero => exact .inl (by simp [clearPool, limitsPool, clearAndRecords, LimitsCall.prog, clearAuthFailures, hv])
      | succ i => exact .inr (by simp [clearPool, limitsPool, clearAndRecords, LimitsCall.prog, recordAuthFailure, hv])
    obtain ⟨hprocs, hkv⟩ := exec_refused (fun i => (hrefused i).elim (fun h => ⟨_, h⟩) fun h => ⟨_, h⟩) turns
    have hnone : ∀ i, ¬Answered ((exec LimitsPool.step (clearPool hashIp a token w) turns).procs i) := by
      intro i
      rw [hprocs, Answered]
      rcases hrefused i with h | h
      · simp [h]
      · simp [h]
    refine ⟨[], ⟨by simp, trivial, fun i => by simp [hnone i], by simp, ?_⟩, by simp⟩
    rw [hkv]
    rfl
  | ok u =>
    have hclear : (clearPool hashIp a token w).procs 0 = ClearPhase.before.render a := clear_prog hashIp token hv
    have hrecord : ∀ i, i ≠ 0 → (clearPool hashIp a token w).procs i = recording a (token i) (.ahead (.ret true)) :=
      fun i hi => record_prog hashIp token hi
    obtain ⟨cl, ph, τ, blocks, hracing, hsolo, horder⟩ := run_racing hv hinj hclear hrecord hfree turns hclock hfaults hok
    generalize exec TimedPool.step ⟨clearPool hashIp a token w, fun _ => 0⟩ turns = s at hracing hsolo hpool
    simp only at hpool
    rw [← hpool] at hsettled ⊢
    have hreply : ∀ i, i ∈ blocks.map Prod.fst → ∃ r, replyOf cl ph i = some r ∧ s.pool.procs i = .ret r := by
      intro i hi
      obtain ⟨r, hr⟩ := Option.isSome_iff_exists.mp ((hsolo.members i).mp hi)
      exact ⟨r, hr, hracing.settled hv hclear hrecord (hsettled i) hr⟩
    refine ⟨blocks, ⟨hsolo.once, hsolo.clock, fun i => ⟨fun hi => ?_, fun hi => ?_⟩, fun i hi => ?_, hsolo.counter⟩,
      fun i j hij => (horder i j hij).2⟩
    · obtain ⟨r, hr, hp⟩ := hreply i hi
      rw [Answered, hp]
      by_cases h0 : i = 0
      · simp only [replyOf, h0, if_true] at hr
        cases cl with
        | before => cases hr
        | between | done => cases hr; exact .inr rfl
      · simp only [replyOf, h0, if_false, Option.map_eq_some_iff] at hr
        obtain ⟨n, -, rfl⟩ := hr
        exact .inl ⟨n, rfl⟩
    · exact (hsolo.members i).mpr (hracing.answered hv hi)
    · obtain ⟨r, hr, hp⟩ := hreply i hi
      rw [hsolo.procs, hr, hp]
      rfl

/-! ## A clear that meets a count -/

def fourFailures : LimitsWorld :=
  ⟨fun _ => .empty, Store.put ∅ 0 (some lockoutTrackingWindow) slowActor.counter "4"⟩

/-- The clear comes while the record holds the lock and before it has read. -/
def clearFirst : List LimitsTurn :=
  [.proc 1 (.at 1000), .proc 0 (.at 1000), .proc 1 (.at 1000), .proc 0 (.at 2000), .proc 1 (.at 2000), .proc 1 (.at 2000)]

/-- The clear comes between the read and the write of the record. -/
def clearBetween : List LimitsTurn :=
  List.replicate 2 (.proc 1 (.at 1000)) ++ List.replicate 2 (.proc 0 (.at 1000)) ++ List.replicate 2 (.proc 1 (.at 1000))

def isCleared : Limits LimitsReply → Bool
  | .ret (.cleared (.ok ())) => true
  | _ => false

theorem isCleared_eq {p : Limits LimitsReply} (h : isCleared p = true) : p = .ret (.cleared (.ok ())) := by
  unfold isCleared at h
  split at h
  · rfl
  · cases h

theorem faultless_at {turns : List LimitsTurn} (h : ∀ turn ∈ turns, ∃ i now, turn = .proc i (.at now)) :
    ∀ turn ∈ turns, Faultless turn := by
  intro turn hturn
  obtain ⟨i, now, rfl⟩ := h turn hturn
  exact ⟨rfl, rfl⟩

theorem clear_play {a : Actor} {e : Nat → Tick} {w w' : LimitsWorld}
    (h : (ClearPhase.before.render a).play LimitsWorld.handle e w = (.cleared (.ok ()), w')) : w'.kv[a.counter]? = none := by
  simp only [ClearPhase.render, clearFlag, Prog.play_ask, LimitsWorld.handle] at h
  by_cases h0 : (e 0).kvFails = true
  · simp [h0] at h
  · simp only [h0, Bool.false_eq_true, if_false, Prog.play_ask, LimitsWorld.handle] at h
    by_cases h1 : (e (0 + 1)).kvFails = true
    · simp [h1] at h
    · simp only [h1, Bool.false_eq_true, if_false, Prog.play_ret, Prod.mk.injEq, true_and] at h
      rw [← h, erase_get_of_ne _ (flag_ne_counter a)]
      simp

theorem record_play {a : Actor} {token : String} (hv : validateActor a.actorType a.actorId = .ok ()) {e : Nat → Tick}
    {w w' : LimitsWorld} {n : Nat} (hnone : w.kv[a.counter]? = none)
    (h : (recording a token (.ahead (.ret true))).play LimitsWorld.handle e w = (.counted (.ok n), w')) : n = 1 := by
  rw [recording, render_entry hv] at h
  simp only [Prog.play_ask, LimitsWorld.handle] at h
  cases hacq : (acquireResourceLockWithTtl (e 0).faults (e 0).now (e 0).arm a.lock token maxLockTtlSeconds.toNat w.locks).1 with
  | error err => simp [hacq] at h
  | ok tok =>
    simp only [hacq] at h
    rw [render_locked] at h
    simp only [Prog.play_ask, LimitsWorld.handle, kvGet, Store.get, hnone] at h
    by_cases hread : (e (0 + 1)).kvFails = true
    · simp [hread, Phase.render] at h
    · simp only [hread, Bool.false_eq_true, if_false, Phase.render, Prog.play_ask, Prog.play_ret, failureCount] at h
      generalize hans : ((LimitsWorld.handle _ _ (.kvPut (some lockoutTrackingWindow) a.counter _)).1) = ans at h
      cases ans with
      | error u => simp at h
      | ok u =>
        simp only [Prod.mk.injEq, LimitsReply.counted.injEq, Except.ok.injEq] at h
        rw [← h.1]
        decide

abbrev fourPool : LimitsPool := clearPool hexHash slowActor toString fourFailures

theorem fourPool_idle {turns : List LimitsTurn} (h : ∀ turn ∈ turns, turn = .proc 0 (.at 1000) ∨ turn = .proc 0 (.at 2000) ∨
    turn = .proc 1 (.at 1000) ∨ turn = .proc 1 (.at 2000)) {i : Nat} (hi : 2 ≤ i) :
    (exec LimitsPool.step fourPool turns).procs i = fourPool.procs i := by
  refine Pool.exec_procs_of_ne turns fourPool fun turn hturn e heq => ?_
  rcases h turn hturn with rfl | rfl | rfl | rfl
  all_goals
    cases heq
    omega

theorem between_replies : isCleared ((exec LimitsPool.step fourPool clearBetween).procs 0) = true ∧
    okCount ((exec LimitsPool.step fourPool clearBetween).procs 1) = some 5 ∧
    ((exec LimitsPool.step fourPool clearBetween).world.kv[slowActor.counter]?).map (·.value) = some "5" := by
  decide +kernel

theorem order_of_two {calls : List Nat} (hnd : calls.Nodup) (hmem : ∀ i, i ∈ calls ↔ i = 0 ∨ i = 1) :
    calls = [0, 1] ∨ calls = [1, 0] := by
  have hperm : calls.Perm [0, 1] := (List.perm_ext_iff_of_nodup hnd (by decide)).mpr fun i => by simp [hmem]
  obtain ⟨x, y, rfl⟩ := List.length_eq_two.mp hperm.length_eq
  have hx := (hmem x).mp (by simp)
  have hy := (hmem y).mp (by simp)
  have hne : x ≠ y := by simpa using hnd
  rcases hx with rfl | rfl
  · rcases hy with rfl | rfl
    · exact absurd rfl hne
    · exact .inl rfl
  · rcases hy with rfl | rfl
    · exact .inr rfl
    · exact absurd rfl hne

theorem blocks_of_two {blocks : List (Nat × List UInt64)} {i j : Nat} (h : blocks.map Prod.fst = [i, j]) :
    ∃ es fs, blocks = [(i, es), (j, fs)] := by
  obtain ⟨b, rest, rfl, rfl, hrest⟩ := List.map_eq_cons_iff.mp h
  obtain ⟨c, rest, rfl, rfl, hnil⟩ := List.map_eq_cons_iff.mp hrest
  rw [List.map_eq_nil_iff.mp hnil]
  exact ⟨b.2, c.2, rfl⟩

theorem exec_two (s : LimitsPool) {i j : Nat} (hij : j ≠ i) (es fs : List UInt64) : ∃ p w q w',
    Prog.feed LimitsWorld.handle (es.map Tick.at) (s.procs i) s.world = (p, w) ∧
    Prog.feed LimitsWorld.handle (fs.map Tick.at) (s.procs j) w = (q, w') ∧
    exec LimitsPool.step s (inTurn [(i, es), (j, fs)]) = ⟨w', Function.update (Function.update s.procs i p) j q⟩ := by
  refine ⟨_, _, _, _, rfl, rfl, ?_⟩
  have hturns : inTurn [(i, es), (j, fs)] = (es.map Tick.at).map (Turn.proc i) ++ (fs.map Tick.at).map (Turn.proc j) := by
    simp [inTurn]
  rw [hturns, exec_append]
  refine (congrArg (exec LimitsPool.step · _) (Pool.exec_alone i (es.map Tick.at) s)).trans ?_
  refine (Pool.exec_alone j (fs.map Tick.at) _).trans ?_
  simp only [Function.update_of_ne hij]

/-- The clear has succeeded, and the fifth failure is on record. -/
theorem clear_between_worth_no_order :
    Ordered turnStart turnStop 1 clearBetween ∧ (∀ turn ∈ clearBetween, Faultless turn) ∧
    lockFree fourFailures.locks slowActor.lock 1 = true ∧
    Along TimedPool.step (fun s turn => InTime slowActor s turn = true) ⟨fourPool, fun _ => 0⟩ clearBetween ∧
    (∀ i, (exec LimitsPool.step fourPool clearBetween).procs i = fourPool.procs i ∨
      ∃ x, (exec LimitsPool.step fourPool clearBetween).procs i = .ret x) ∧
    ¬∃ blocks, Worth slowActor 1 fourPool (exec LimitsPool.step fourPool clearBetween) blocks := by
  obtain ⟨hzero, hone, hcounter⟩ := between_replies
  have hcleared := isCleared_eq hzero
  have hcounted := okCount_some hone
  have hidle : ∀ i, 2 ≤ i → (exec LimitsPool.step fourPool clearBetween).procs i = fourPool.procs i := fun i hi =>
    fourPool_idle (by simp [clearBetween]) hi
  have hv : validateActor slowActor.actorType slowActor.actorId = .ok () := by decide +kernel
  have hclear : fourPool.procs 0 = ClearPhase.before.render slowActor := clear_prog hexHash toString hv
  refine ⟨by decide, faultless_at (by simp [clearBetween]), by decide +kernel, by decide +kernel, fun i => ?_, ?_⟩
  · by_cases hi : 2 ≤ i
    · exact .inl (hidle i hi)
    · have hi' : i = 0 ∨ i = 1 := by omega
      rcases hi' with rfl | rfl
      · exact .inr ⟨_, hcleared⟩
      · exact .inr ⟨_, hcounted⟩
  · rintro ⟨blocks, hworth⟩
    have hcalls : ∀ i, i ∈ blocks.map Prod.fst ↔ i = 0 ∨ i = 1 := by
      intro i
      rw [hworth.answered]
      constructor
      · intro hi
        by_contra hne
        rw [hidle i (by omega), Answered] at hi
        obtain ⟨j, rfl⟩ : ∃ j, i = j + 1 := ⟨i - 1, by omega⟩
        have hprog : fourPool.procs (j + 1) = recording slowActor (toString (j + 1)) (.ahead (.ret true)) := rfl
        rw [hprog, recording, render_entry hv] at hi
        simp at hi
      · rintro (rfl | rfl)
        · exact .inr hcleared
        · exact .inl ⟨5, hcounted⟩
    rcases order_of_two hworth.once hcalls with h | h
    · -- after the clear the record counts from nothing
      obtain ⟨es, fs, rfl⟩ := blocks_of_two h
      obtain ⟨p, w, q, w', hfeed, hfeed', hexec⟩ := exec_two fourPool (i := 0) (j := 1) (by decide) es fs
      have hp := hworth.replies 0 (by simp)
      have hq := hworth.replies 1 (by simp)
      rw [hexec, hcleared] at hp
      rw [hexec, hcounted] at hq
      simp only [ne_eq, zero_ne_one, not_false_eq_true, Function.update_of_ne, Function.update_self] at hp hq
      subst hp hq
      rw [hclear] at hfeed
      have hgone := clear_play (a := slowActor) (Prog.feed_play LimitsWorld.handle (.at 0) _ _ _ hfeed)
      have hfive := record_play hv hgone (Prog.feed_play LimitsWorld.handle (.at 0) _ (recording slowActor (toString 1) _) _ hfeed')
      cases hfive
    · -- after the record the clear leaves no count
      obtain ⟨es, fs, rfl⟩ := blocks_of_two h
      obtain ⟨p, w, q, w', hfeed, hfeed', hexec⟩ := exec_two fourPool (i := 1) (j := 0) (by decide) es fs
      have hq := hworth.replies 0 (by simp)
      have hleft := hworth.counter
      rw [hexec, hcleared] at hq
      rw [hexec] at hleft
      simp only [Function.update_self] at hq hleft
      subst hq
      rw [hclear] at hfeed'
      have hgone := clear_play (a := slowActor) (Prog.feed_play LimitsWorld.handle (.at 0) _ _ _ hfeed')
      rw [← hleft, hgone] at hcounter
      cases hcounter

theorem clear_under_way_worth_an_order :
    ∃ blocks, Worth slowActor 1 fourPool (exec LimitsPool.step fourPool clearFirst) blocks ∧
      ∀ i j, Precedes fourPool clearFirst i j → j ∈ blocks.map Prod.fst → [i, j].Sublist (blocks.map Prod.fst) := by
  have hv : validateActor slowActor.actorType slowActor.actorId = .ok () := by decide +kernel
  have hnext : ∀ j ttl v, ((fourPool.step (.proc 1 (.at 1000))).procs j).next ≠ some (.kvPut ttl slowActor.counter v) := by
    intro j ttl v
    by_cases hj : j = 1
    · subst hj
      have hread : ((fourPool.step (.proc 1 (.at 1000))).procs 1).next = some (.kvGet slowActor.counter) := by decide +kernel
      rw [hread]
      simp
    · rw [Pool.step_procs_of_ne fun e he => hj (by cases he; rfl)]
      cases j with
      | zero =>
        have hclear : fourPool.procs 0 = ClearPhase.before.render slowActor := clear_prog hexHash toString hv
        rw [hclear]
        simp [ClearPhase.render, Prog.next]
      | succ j =>
        have hrecord : fourPool.procs (j + 1) = recording slowActor (toString (j + 1)) (.ahead (.ret true)) := rfl
        rw [hrecord, recording, render_entry hv]
        simp [Prog.next]
  have hspares : Along TimedPool.step (fun s turn => InTime slowActor s turn = true ∧ SparesCounts slowActor s turn)
      ⟨fourPool, fun _ => 0⟩ clearFirst := by
    -- nobody has a count to write when the counter goes, and no other turn deletes it
    exact ⟨⟨by decide +kernel, fun h => absurd h (by decide +kernel)⟩, ⟨by decide +kernel, fun _ j ttl v h => absurd h (hnext j ttl v)⟩,
      ⟨by decide +kernel, fun h => absurd h (by decide +kernel)⟩, ⟨by decide +kernel, fun h => absurd h (by decide +kernel)⟩,
      ⟨by decide +kernel, fun h => absurd h (by decide +kernel)⟩, ⟨by decide +kernel, fun h => absurd h (by decide +kernel)⟩, trivial⟩
  refine clear_and_records_worth_an_order hexHash slowActor toString fourFailures clearFirst 1
    (fun _ _ h => toString_injective h) (by decide +kernel) (by decide) (faultless_at (by simp [clearFirst])) hspares
    fun i => ?_
  by_cases hi : 2 ≤ i
  · exact .inl (fourPool_idle (by simp [clearFirst]) hi)
  · have hi' : i = 0 ∨ i = 1 := by omega
    have hzero : isCleared ((exec LimitsPool.step fourPool clearFirst).procs 0) = true := by decide +kernel
    have hone : okCount ((exec LimitsPool.step fourPool clearFirst).procs 1) = some 1 := by decide +kernel
    rcases hi' with rfl | rfl
    · exact .inr ⟨_, isCleared_eq hzero⟩
    · exact .inr ⟨_, okCount_some hone⟩

end Issuer
