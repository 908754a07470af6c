import Issuer.ShardedLimitSound

/-!
# Sharded calls at the same time

The check and the increment of a call are apart, so a call may be admitted on a sum that leaves out
calls admitted before it. `TrackedPool` keeps who was admitted, whose increment is written, and whose
was written when a call began to read. Where a call never leaves out more than seven of the admitted
ones, and no increment is lost, at most seven calls too many are allowed.
-/

namespace Issuer

open Rust Store Runs

abbrev ShardedPool := Pool ShardedWorld ShardedOp ShardedOp.Ans RateLimitResult

abbrev ShardedTurn := Turn ShardedTick Empty

abbrev ShardedPool.step : ShardedPool → ShardedTurn → ShardedPool := Pool.step ShardedWorld.handle fun w _ => w

/-- Calls of `check_blind_issuance_sharded` for one issuer. -/
def shardedPool (id : String) (limit : UInt32) (w : ShardedWorld) : ShardedPool :=
  ⟨w, fun _ => checkBlindIssuanceSharded id limit.toNat⟩

structure TrackedPool where
  pool : ShardedPool
  admitted : Finset Nat
  counted : Finset Nat
  begun : Nat → Finset Nat

namespace TrackedPool

/-- What an operation of call `i` says of it: the first shard is read, a shard is picked, a count is written. -/
def track (id : String) (hour : Nat) (s : TrackedPool) (i : Nat) : ShardedOp → TrackedPool
  | .nextBlindShard => { s with admitted := insert i s.admitted }
  | .limits (.kvPut _ _ _) => { s with counted := insert i s.counted }
  | .limits (.kvGet key) =>
    if key = shardKey id 0 hour ∧ i ∉ s.admitted then { s with begun := Function.update s.begun i s.counted } else s
  | .limits _ => s

def step (id : String) (hour : Nat) (s : TrackedPool) (turn : ShardedTurn) : TrackedPool :=
  let tracked := match turn with
    | .proc i _ =>
      match (s.pool.procs i).next with
      | some o => s.track id hour i o
      | none => s
    | .env _ => s
  { tracked with pool := s.pool.step turn }

/-- A call that picks a shard leaves out at most seven of the calls admitted before it; one that writes a
shard finds there the count it read. -/
def CarefulOp (s : TrackedPool) (i : Nat) : ShardedOp → Prop
  | .nextBlindShard => (s.admitted \ s.begun i).card ≤ 7
  | .limits (.kvPut _ key value) => value = toString (s.pool.world.count key + 1)
  | .limits _ => True

instance decidableCarefulOp (s : TrackedPool) (i : Nat) : ∀ o : ShardedOp, Decidable (s.CarefulOp i o)
  | .nextBlindShard => inferInstanceAs (Decidable ((s.admitted \ s.begun i).card ≤ 7))
  | .limits (.kvPut _ key value) => inferInstanceAs (Decidable (value = toString (s.pool.world.count key + 1)))
  | .limits .now | .limits (.kvGet _) | .limits (.kvDelete _) | .limits (.acquire _ _ _) | .limits (.release _ _) =>
    inferInstanceAs (Decidable True)

def Careful (s : TrackedPool) : ShardedTurn → Bool
  | .proc i _ => (s.pool.procs i).next.all fun o => decide (s.CarefulOp i o)
  | .env _ => true

theorem carefulOp_of_next {s : TrackedPool} {i : Nat} {t : ShardedTick} {o : ShardedOp} (h : s.Careful (.proc i t) = true)
    (ho : (s.pool.procs i).next = some o) : s.CarefulOp i o := by
  simpa only [Careful, ho, Option.all_some, decide_eq_true_eq] using h

end TrackedPool

def ShardedTurn.InHour (hour : Nat) : ShardedTurn → Prop
  | .proc _ t => t.kvFails = false ∧ hourOf t.now = hour
  | .env _ => True

/-! ## Phases of a call -/

inductive ShardPhase where
  | ahead
  | timed
  | summing (retry read aggregate : Nat)
  | picked (retry aggregate shard : Nat)
  | reread (retry aggregate shard count : Nat)
  | done (r : RateLimitResult)

namespace ShardPhase

def render (id : String) (limit hour : Nat) : ShardPhase → Sharded RateLimitResult
  | .ahead => checkBlindIssuanceSharded id limit
  | .timed => Sharded.limits Limits.now >>= fun t =>
      Sharded.limits (sumShards id hour (List.range blindShardCount) 0) >>=
        enforceAggregate id limit hour (min (satAddU64 hour 3600 - secs t) u32Max)
  | .summing retry read aggregate =>
      Sharded.limits (sumShards id hour ((List.range blindShardCount).drop read) aggregate) >>=
        enforceAggregate id limit hour retry
  | .picked retry aggregate shard => Sharded.limits (checkKvCounter (shardKey id shard hour) u32Max 7200) >>= fun _ =>
      pure ⟨true, satAddU32 aggregate 1, limit, retry, false⟩
  | .reread retry aggregate shard count =>
      .ask (.limits (.kvPut (some 7200) (shardKey id shard hour) (toString (satAddU32 count 1)))) fun _ =>
        .ret ⟨true, satAddU32 aggregate 1, limit, retry, false⟩
  | .done r => .ret r

/-- What the tracked state says of a call in this phase. While it sums, what it has and what is still to
be read are at least the increments written when it began. -/
def Tracked (id : String) (hour : Nat) (s : TrackedPool) (i : Nat) : ShardPhase → Prop
  | .ahead | .timed => i ∉ s.admitted
  | .summing _ read aggregate => i ∉ s.admitted ∧ read ≤ blindShardCount ∧ (read = 0 → aggregate = 0) ∧ (0 < read → min (s.begun i).card u32Max ≤
      aggregate + (((List.range blindShardCount).drop read).map fun j => s.pool.world.count (shardKey id j hour)).sum)
  | .picked _ _ shard | .reread _ _ shard _ => i ∈ s.admitted ∧ i ∉ s.counted ∧ shard < blindShardCount
  | .done r => r.allowed = true → i ∈ s.admitted

end ShardPhase

section
variable {id : String} {limit hour retry aggregate read shard count : Nat} {w : ShardedWorld} {t : ShardedTick}

theorem InHour.within (ht : t.kvFails = false ∧ hourOf t.now = hour) : t.Within hour := by
  obtain ⟨hkv, hhour⟩ := ht
  unfold hourOf at hhour
  exact ⟨hkv, by omega, by omega⟩

/-! ## The next operation of each phase -/

theorem next_ahead : (ShardPhase.ahead.render id limit hour).next = some (.limits .now) := rfl

theorem next_timed : (ShardPhase.timed.render id limit hour).next = some (.limits .now) := rfl

theorem next_picked : ((ShardPhase.picked retry aggregate shard).render id limit hour).next =
    some (.limits (.kvGet (shardKey id shard hour))) := rfl

theorem next_reread : ((ShardPhase.reread retry aggregate shard count).render id limit hour).next =
    some (.limits (.kvPut (some 7200) (shardKey id shard hour) (toString (satAddU32 count 1)))) := rfl

theorem drop_range_cons (hread : read < blindShardCount) :
    (List.range blindShardCount).drop read = read :: (List.range blindShardCount).drop (read + 1) := by
  rw [List.drop_eq_getElem_cons (by rw [List.length_range]; exact hread), List.getElem_range]

theorem next_summing (hread : read < blindShardCount) : ((ShardPhase.summing retry read aggregate).render id limit hour).next =
    some (.limits (.kvGet (shardKey id read hour))) := by
  rw [ShardPhase.render, drop_range_cons hread]
  rfl

theorem render_summed : (ShardPhase.summing retry blindShardCount aggregate).render id limit hour =
    enforceAggregate id limit hour retry (.ok aggregate) := rfl

theorem render_refused (hfull : limit ≤ aggregate) : (ShardPhase.summing retry blindShardCount aggregate).render id limit hour =
    .ret ⟨false, aggregate, limit, retry, false⟩ := by
  rw [render_summed]
  simp [enforceAggregate, hfull]

theorem render_admitted (hroom : aggregate < limit) : (ShardPhase.summing retry blindShardCount aggregate).render id limit hour =
    .ask .nextBlindShard fun shard => (ShardPhase.picked retry aggregate shard).render id limit hour := by
  have hbelow : ¬limit ≤ aggregate := by omega
  rw [render_summed]
  simp only [enforceAggregate, ge_iff_le, if_neg hbelow, Prog.op_bind, ShardPhase.render]

/-! ## One turn of each phase -/

theorem advance_ahead (hhour : hourOf t.now = hour) : (ShardPhase.ahead.render id limit hour).advance ShardedWorld.handle w t =
    (ShardPhase.timed.render id limit hour, w) := by
  subst hhour
  rfl

theorem advance_timed : (ShardPhase.timed.render id limit hour).advance ShardedWorld.handle w t =
    ((ShardPhase.summing (min (satAddU64 hour 3600 - secs t.now) u32Max) 0 0).render id limit hour, w) := rfl

theorem advance_summing (ht : t.Within hour) (hl : w.Lasts (shardKey id read hour) (hour + 7200)) (hread : read < blindShardCount) :
    ((ShardPhase.summing retry read aggregate).render id limit hour).advance ShardedWorld.handle w t =
      ((ShardPhase.summing retry (read + 1) (satAddU32 aggregate (w.count (shardKey id read hour)))).render id limit hour, w) := by
  rw [ShardPhase.render, drop_range_cons hread]
  simp only [sumShards, checkKvCounterReadOnly, Limits.kvGet, Prog.op_bind, Prog.ask_bind, Sharded.limits, Prog.lift,
    Prog.advance, handle_read ht hl, Prog.pure_eq, Prog.ret_bind, count_eq, Bool.false_eq_true, if_false, ShardPhase.render]

theorem advance_admitted (hroom : aggregate < limit) :
    ((ShardPhase.summing retry blindShardCount aggregate).render id limit hour).advance ShardedWorld.handle w t =
      ((ShardPhase.picked retry aggregate (w.cursor t.isolate % 8).toNat).render id limit hour, w.advanced t.isolate) := by
  rw [render_admitted hroom]
  rfl

theorem advance_picked (ht : t.Within hour) (hl : w.Lasts (shardKey id shard hour) (hour + 7200)) :
    ((ShardPhase.picked retry aggregate shard).render id limit hour).advance ShardedWorld.handle w t =
      ((if u32Max ≤ w.count (shardKey id shard hour) then ShardPhase.done ⟨true, satAddU32 aggregate 1, limit, retry, false⟩
        else ShardPhase.reread retry aggregate shard (w.count (shardKey id shard hour))).render id limit hour, w) := by
  simp only [ShardPhase.render, checkKvCounter, Limits.kvGet, Prog.op_bind, Prog.ask_bind, Sharded.limits, Prog.lift,
    Prog.advance, handle_read ht hl, count_eq]
  by_cases hfull : u32Max ≤ w.count (shardKey id shard hour)
  · simp [hfull, Prog.lift]
  · simp [hfull, Prog.lift, count_eq]

theorem advance_reread (ht : t.Within hour) :
    ((ShardPhase.reread retry aggregate shard count).render id limit hour).advance ShardedWorld.handle w t =
      ((ShardPhase.done ⟨true, satAddU32 aggregate 1, limit, retry, false⟩).render id limit hour,
        w.written t (shardKey id shard hour) (satAddU32 count 1)) := by
  simp only [ShardPhase.render, Prog.advance, handle_write ht]

end

/-! ## The invariant -/

structure Bounded (id : String) (limit hour : Nat) (s : TrackedPool) (ph : Nat → ShardPhase) : Prop where
  rendered : ∀ i, s.pool.procs i = (ph i).render id limit hour
  lasts : ∀ shard, s.pool.world.Lasts (shardKey id shard hour) (hour + 7200)
  total : s.pool.world.shardSum id hour = s.counted.card
  few : s.admitted.card ≤ limit + 7
  subset : s.counted ⊆ s.admitted
  tracked : ∀ i, (ph i).Tracked id hour s i

section
variable {id : String} {limit hour : Nat} {s s' : TrackedPool} {ph : Nat → ShardPhase} {i : Nat} {ph' : ShardPhase}

theorem ShardPhase.Tracked.frame {j : Nat} {p : ShardPhase} (h : p.Tracked id hour s j) (hbegun : s'.begun j = s.begun j)
    (hadmitted : j ∈ s'.admitted ↔ j ∈ s.admitted) (hcounted : j ∈ s'.counted ↔ j ∈ s.counted)
    (hcount : ∀ shard, s.pool.world.count (shardKey id shard hour) ≤ s'.pool.world.count (shardKey id shard hour)) :
    p.Tracked id hour s' j := by
  cases p with
  | ahead => exact fun hj => h (hadmitted.mp hj)
  | timed => exact fun hj => h (hadmitted.mp hj)
  | summing retry read aggregate =>
    obtain ⟨hout, hall, hstart, hsum⟩ := h
    refine ⟨fun hj => hout (hadmitted.mp hj), hall, hstart, fun hread => ?_⟩
    rw [hbegun]
    have hmono := List.sum_le_sum (l := (List.range blindShardCount).drop read) fun shard _ => hcount shard
    have hbound := hsum hread
    omega
  | picked retry aggregate shard => exact ⟨hadmitted.mpr h.1, fun hj => h.2.1 (hcounted.mp hj), h.2.2⟩
  | reread retry aggregate shard count => exact ⟨hadmitted.mpr h.1, fun hj => h.2.1 (hcounted.mp hj), h.2.2⟩
  | done r => exact fun hr => hadmitted.mpr (h hr)

/-- A turn of call `i`. -/
theorem Bounded.turn (h : Bounded id limit hour s ph) (hprocs : s'.pool.procs = Function.update s.pool.procs i (ph'.render id limit hour))
    (hlasts : ∀ shard, s'.pool.world.Lasts (shardKey id shard hour) (hour + 7200))
    (htotal : s'.pool.world.shardSum id hour = s'.counted.card) (hfew : s'.admitted.card ≤ limit + 7)
    (hsubset : s'.counted ⊆ s'.admitted) (hown : ph'.Tracked id hour s' i)
    (hothers : ∀ j, j ≠ i → s'.begun j = s.begun j ∧ (j ∈ s'.admitted ↔ j ∈ s.admitted) ∧ (j ∈ s'.counted ↔ j ∈ s.counted))
    (hcount : ∀ shard, s.pool.world.count (shardKey id shard hour) ≤ s'.pool.world.count (shardKey id shard hour)) :
    Bounded id limit hour s' (Function.update ph i ph') := by
  refine ⟨fun j => ?_, hlasts, htotal, hfew, hsubset, fun j => ?_⟩
  · rw [hprocs]
    by_cases hj : j = i
    · subst hj
      rw [Function.update_self, Function.update_self]
    · rw [Function.update_of_ne hj, Function.update_of_ne hj]
      exact h.rendered j
  · by_cases hj : j = i
    · subst hj
      rw [Function.update_self]
      exact hown
    · rw [Function.update_of_ne hj]
      obtain ⟨hbegun, hadmitted, hcounted⟩ := hothers j hj
      exact (h.tracked j).frame hbegun hadmitted hcounted hcount

/-! ## One turn -/

theorem step_proc {t : ShardedTick} {p p' : Sharded RateLimitResult} {o : ShardedOp} {w : ShardedWorld}
    (hr : s.pool.procs i = p) (hnext : p.next = some o) (hadv : p.advance ShardedWorld.handle s.pool.world t = (p', w)) :
    s.step id hour (.proc i t) = { s.track id hour i o with pool := ⟨w, Function.update s.pool.procs i p'⟩ } := by
  subst hr
  simp only [TrackedPool.step, hnext, ShardedPool.step, Pool.step, hadv]

theorem step_returned {t : ShardedTick} {r : RateLimitResult} (hr : s.pool.procs i = .ret r) :
    s.step id hour (.proc i t) = s := by
  have hsame : Function.update s.pool.procs i (.ret r) = s.pool.procs := by
    rw [← hr]
    exact Function.update_eq_self i s.pool.procs
  simp only [TrackedPool.step, hr, Prog.next, ShardedPool.step, Pool.step, Prog.advance, hsame]

theorem step_pool (turn : ShardedTurn) : (s.step id hour turn).pool = s.pool.step turn := by
  cases turn <;> rfl

theorem sum_drop_succ {read : Nat} (hread : read < blindShardCount) (c : Nat → Nat) :
    (((List.range blindShardCount).drop read).map c).sum =
      c read + (((List.range blindShardCount).drop (read + 1)).map c).sum := by
  rw [drop_range_cons hread, List.map_cons, List.sum_cons]

/-- A call that reads a shard. -/
theorem Bounded.read (h : Bounded id limit hour s ph) {t : ShardedTick} (ht : t.Within hour) {retry read aggregate : Nat}
    (hph : ph i = .summing retry read aggregate) (hread : read < blindShardCount) :
    Bounded id limit hour (s.step id hour (.proc i t)) (Function.update ph i
      (.summing retry (read + 1) (satAddU32 aggregate (s.pool.world.count (shardKey id read hour))))) := by
  have hr := h.rendered i
  have hown := h.tracked i
  rw [hph] at hr hown
  obtain ⟨hout, -, hstart, hsum⟩ := hown
  rw [step_proc hr (next_summing hread) (advance_summing ht (h.lasts read) hread)]
  have hsplit := sum_drop_succ hread fun j => s.pool.world.count (shardKey id j hour)
  by_cases hfirst : read = 0
  · subst hfirst
    have htotal := h.total
    rw [shardSum_eq] at htotal
    rw [List.drop_zero] at hsplit
    rw [hstart rfl]
    simp only [TrackedPool.track, hout, not_false_eq_true, and_self, if_true]
    refine h.turn rfl h.lasts h.total h.few h.subset ⟨hout, hread, fun hz => absurd hz (by omega), fun _ => ?_⟩ (fun j hj => ?_) fun _ => le_refl _
    · simp only [Function.update_self, satAddU32]
      omega
    · exact ⟨Function.update_of_ne hj _ _, Iff.rfl, Iff.rfl⟩
  · have hlater : ¬(shardKey id read hour = shardKey id 0 hour ∧ i ∉ s.admitted) := fun hk => hfirst (shardKey_injective hk.1).1
    simp only [TrackedPool.track, if_neg hlater]
    refine h.turn rfl h.lasts h.total h.few h.subset ⟨hout, hread, fun hz => absurd hz (by omega), fun _ => ?_⟩ (fun j hj => ?_) fun _ => le_refl _
    · have hbound := hsum (by omega)
      simp only [satAddU32]
      omega
    · exact ⟨rfl, Iff.rfl, Iff.rfl⟩

/-- A call is admitted: it and the seven it left out come on top of those it counted. -/
theorem Bounded.pick (h : Bounded id limit hour s ph) (hlimit : limit ≤ u32Max) {t : ShardedTick} {retry aggregate : Nat}
    (hph : ph i = .summing retry blindShardCount aggregate) (hroom : aggregate < limit)
    (hcareful : (s.admitted \ s.begun i).card ≤ 7) :
    ∃ shard, Bounded id limit hour (s.step id hour (.proc i t)) (Function.update ph i (.picked retry aggregate shard)) := by
  have hr := h.rendered i
  have hown := h.tracked i
  rw [hph] at hr hown
  obtain ⟨hout, -, -, hsum⟩ := hown
  have hnext : ((ShardPhase.summing retry blindShardCount aggregate).render id limit hour).next = some .nextBlindShard := by
    rw [render_admitted hroom]
    rfl
  refine ⟨(s.pool.world.cursor t.isolate % 8).toNat, ?_⟩
  rw [step_proc hr hnext (advance_admitted hroom)]
  simp only [TrackedPool.track]
  have hbegun : (s.begun i).card < limit := by
    have hbound := hsum (by decide)
    rw [List.drop_eq_nil_of_le (by rw [List.length_range])] at hbound
    simp only [List.map_nil, List.sum_nil, Nat.add_zero] at hbound
    omega
  refine h.turn rfl h.lasts h.total ?_ (h.subset.trans (Finset.subset_insert _ _))
    ⟨Finset.mem_insert_self _ _, fun hc => hout (h.subset hc), cursor_lt _ _⟩ (fun j hj => ?_) fun _ => le_refl _
  · have hsplit := Finset.card_le_card_sdiff_add_card (s := s.admitted) (t := s.begun i)
    rw [Finset.card_insert_of_notMem hout]
    omega
  · exact ⟨rfl, by simp [hj], Iff.rfl⟩

/-- A call that reads its shard again. -/
theorem Bounded.reread (h : Bounded id limit hour s ph) {t : ShardedTick} (ht : t.Within hour) {retry aggregate shard : Nat}
    (hph : ph i = .picked retry aggregate shard) :
    ∃ ph', Bounded id limit hour (s.step id hour (.proc i t)) (Function.update ph i ph') := by
  have hr := h.rendered i
  have hown := h.tracked i
  rw [hph] at hr hown
  obtain ⟨hin, hout, hshard⟩ := hown
  have hlater : ¬(shardKey id shard hour = shardKey id 0 hour ∧ i ∉ s.admitted) := fun hk => hk.2 hin
  rw [step_proc hr next_picked (advance_picked ht (h.lasts shard))]
  simp only [TrackedPool.track, if_neg hlater]
  by_cases hfull : u32Max ≤ s.pool.world.count (shardKey id shard hour)
  · rw [if_pos hfull]
    exact ⟨_, h.turn rfl h.lasts h.total h.few h.subset (fun _ => hin) (fun j _ => ⟨rfl, Iff.rfl, Iff.rfl⟩) fun _ => le_refl _⟩
  · rw [if_neg hfull]
    exact ⟨_, h.turn rfl h.lasts h.total h.few h.subset ⟨hin, hout, hshard⟩ (fun j _ => ⟨rfl, Iff.rfl, Iff.rfl⟩)
      fun _ => le_refl _⟩

/-- A call that writes the count after the one that it finds. -/
theorem Bounded.write (h : Bounded id limit hour s ph) {t : ShardedTick} (ht : t.Within hour) {retry aggregate shard count : Nat}
    (hph : ph i = .reread retry aggregate shard count)
    (hcareful : toString (satAddU32 count 1) = toString (s.pool.world.count (shardKey id shard hour) + 1)) :
    Bounded id limit hour (s.step id hour (.proc i t))
      (Function.update ph i (.done ⟨true, satAddU32 aggregate 1, limit, retry, false⟩)) := by
  have hr := h.rendered i
  have hown := h.tracked i
  rw [hph] at hr hown
  obtain ⟨hin, hout, hshard⟩ := hown
  have hvalue : satAddU32 count 1 = s.pool.world.count (shardKey id shard hour) + 1 := toString_injective hcareful
  have hmax : s.pool.world.count (shardKey id shard hour) < u32Max := by
    have hle : satAddU32 count 1 ≤ u32Max := Nat.min_le_right _ _
    omega
  rw [step_proc hr next_reread (advance_reread ht), hvalue]
  simp only [TrackedPool.track]
  refine h.turn rfl (fun shard' => lasts_written (h.lasts shard') (by have := ht.2.1; omega)) ?_ h.few
    (Finset.insert_subset hin h.subset) (fun _ => hin) (fun j hj => ⟨rfl, Iff.rfl, by simp [hj]⟩) fun shard' => ?_
  · have hsum := shardSum_increment (t := t) hshard hmax hour
    rw [if_pos rfl] at hsum
    rw [Finset.card_insert_of_notMem hout, ← h.total]
    exact hsum
  · exact (Nat.le_add_right _ _).trans (count_increment (t := t) hmax shard' hour).ge

theorem Bounded.proc (h : Bounded id limit hour s ph) (hlimit : limit ≤ u32Max) {t : ShardedTick}
    (ht : t.kvFails = false ∧ hourOf t.now = hour) (hcareful : s.Careful (.proc i t) = true) :
    ∃ ph', Bounded id limit hour (s.step id hour (.proc i t)) ph' := by
  have hr := h.rendered i
  have hown := h.tracked i
  cases hph : ph i with
  | ahead =>
    rw [hph] at hr hown
    rw [step_proc hr next_ahead (advance_ahead ht.2)]
    exact ⟨_, h.turn rfl h.lasts h.total h.few h.subset hown (fun j _ => ⟨rfl, Iff.rfl, Iff.rfl⟩) fun _ => le_refl _⟩
  | timed =>
    rw [hph] at hr hown
    rw [step_proc hr next_timed advance_timed]
    exact ⟨_, h.turn rfl h.lasts h.total h.few h.subset ⟨hown, Nat.zero_le _, fun _ => rfl, fun hz => absurd hz (by omega)⟩
      (fun j _ => ⟨rfl, Iff.rfl, Iff.rfl⟩) fun _ => le_refl _⟩
  | summing retry read aggregate =>
    by_cases hread : read < blindShardCount
    · exact ⟨_, h.read (InHour.within ht) hph hread⟩
    · rw [hph] at hown
      obtain rfl : read = blindShardCount := by
        have hall := hown.2.1
        omega
      rw [hph] at hr
      by_cases hfull : limit ≤ aggregate
      · rw [render_refused hfull] at hr
        rw [step_returned hr]
        exact ⟨ph, h⟩
      · have hroom : aggregate < limit := by omega
        have hfew : (s.admitted \ s.begun i).card ≤ 7 := TrackedPool.carefulOp_of_next (o := .nextBlindShard) hcareful (by rw [hr, render_admitted hroom]; rfl)
        obtain ⟨shard, hnext⟩ := h.pick hlimit hph hroom hfew
        exact ⟨_, hnext⟩
  | picked retry aggregate shard =>
    obtain ⟨ph', hnext⟩ := h.reread (InHour.within ht) hph
    exact ⟨_, hnext⟩
  | reread retry aggregate shard count =>
    rw [hph] at hr
    have hvalue := TrackedPool.carefulOp_of_next hcareful (by rw [hr]; exact next_reread)
    exact ⟨_, h.write (InHour.within ht) hph hvalue⟩
  | done r =>
    rw [hph] at hr
    rw [step_returned hr]
    exact ⟨ph, h⟩

end

/-! ## Every run -/

def startTracked (id : String) (limit : UInt32) (w : ShardedWorld) : TrackedPool :=
  ⟨shardedPool id limit w, ∅, ∅, fun _ => ∅⟩

theorem exec_tracked (id : String) (hour : Nat) (turns : List ShardedTurn) (s : TrackedPool) :
    (exec (TrackedPool.step id hour) s turns).pool = exec ShardedPool.step s.pool turns := by
  induction turns generalizing s with
  | nil => rfl
  | cons turn turns ih =>
    rw [exec_cons, exec_cons, ih, step_pool]

/-- A call that was allowed is among the admitted ones. -/
theorem Bounded.allowed {id : String} {limit hour : Nat} {s : TrackedPool} {ph : Nat → ShardPhase} {i : Nat} {r : RateLimitResult}
    (h : Bounded id limit hour s ph) (hret : s.pool.procs i = .ret r) (hr : r.allowed = true) : i ∈ s.admitted := by
  have hown := h.tracked i
  have hrendered := h.rendered i
  rw [hret] at hrendered
  cases hph : ph i with
  | ahead | timed | picked | reread =>
    rw [hph] at hrendered
    cases hrendered
  | summing retry read aggregate =>
    rw [hph] at hrendered hown
    by_cases hread : read < blindShardCount
    · rw [ShardPhase.render, drop_range_cons hread] at hrendered
      cases hrendered
    · obtain rfl : read = blindShardCount := by
        have hall := hown.2.1
        omega
      by_cases hfull : limit ≤ aggregate
      · rw [render_refused hfull] at hrendered
        cases hrendered
        cases hr
      · rw [render_admitted (Nat.not_le.mp hfull)] at hrendered
        cases hrendered
  | done r' =>
    rw [hph] at hrendered hown
    cases hrendered
    exact hown hr

/-- **Bounded over-admission.** In a run where a call that picks a shard leaves out at most seven of the
admitted ones and no increment is lost, at most `limit + 7` calls are allowed. -/
theorem careful_calls_allowed_le (id : String) (limit : UInt32) (hour : Nat) (w : ShardedWorld)
    (hfresh : ∀ shard, w.limits.kv[shardKey id shard hour]? = none) (turns : List ShardedTurn)
    (hhour : ∀ turn ∈ turns, turn.InHour hour)
    (hcareful : Along (TrackedPool.step id hour) (fun s turn => s.Careful turn = true) (startTracked id limit w) turns)
    (allowed : Finset Nat)
    (hallowed : ∀ i ∈ allowed, ∃ r, (exec ShardedPool.step (shardedPool id limit w) turns).procs i = .ret r ∧ r.allowed = true) :
    allowed.card ≤ limit.toNat + 7 := by
  have hstart : Bounded id limit.toNat hour (startTracked id limit w) fun _ => .ahead := by
    refine ⟨fun _ => rfl, fun shard entry hentry => ?_, ?_, Nat.zero_le _, Finset.empty_subset _, fun _ => Finset.notMem_empty _⟩
    · have hnone : w.limits.kv[shardKey id shard hour]? = some entry := hentry
      rw [hfresh] at hnone
      cases hnone
    · simp [startTracked, shardedPool, ShardedWorld.shardSum, ShardedWorld.count, hfresh]
  obtain ⟨ph, hend⟩ := exec_invariant (TrackedPool.step id hour)
    (I := fun s => ∃ ph, Bounded id limit.toNat hour s ph) (fun s turn hs hturn => by
      obtain ⟨ph, hs⟩ := hs
      cases turn with
      | proc i t => exact hs.proc limit_le_u32Max hturn.2 hturn.1
      | env x => exact x.elim) turns _ ⟨_, hstart⟩ (along_and _ turns _ hcareful hhour)
  have hsub : allowed ⊆ (exec (TrackedPool.step id hour) (startTracked id limit w) turns).admitted := by
    intro i hi
    obtain ⟨r, hret, hr⟩ := hallowed i hi
    refine hend.allowed ?_ hr
    rw [exec_tracked]
    exact hret
  exact (Finset.card_le_card hsub).trans hend.few

/-! ## Nine calls at once -/

/-- Nine calls read all shards, then each adds itself. -/
def nineTurns : List ShardedTurn :=
  ((List.range 9).flatMap fun i => List.replicate 10 (.proc i (steadyTick 0))) ++
    (List.range 9).flatMap fun i => List.replicate 3 (.proc i (steadyTick 0))

theorem nine_calls_allowed :
    (∀ i ∈ Finset.range 9, ∃ r, (exec ShardedPool.step (shardedPool "i" 1 emptyWorld) nineTurns).procs i = .ret r ∧
      r.allowed = true) ∧ UInt32.toNat 1 + 7 < (Finset.range 9).card := by
  have hall : ∀ i ∈ Finset.range 9,
      ((exec ShardedPool.step (shardedPool "i" 1 emptyWorld) nineTurns).procs i).result.any (·.allowed) = true := by
    decide +kernel
  refine ⟨fun i hi => ?_, by decide⟩
  obtain ⟨r, hret, hr⟩ := (Option.any_eq_true _ _).mp (hall i hi)
  exact ⟨r, Prog.result_eq_some.mp hret, hr⟩

/-- Eight calls in step with each other: all read before any of them picks its shard. -/
def eightTurns : List ShardedTurn := (List.range 13).flatMap fun _ => (List.range 8).map fun i => .proc i (steadyTick 0)

theorem eight_at_once_allowed : (Finset.range 8).card ≤ UInt32.toNat 1 + 7 := by
  refine careful_calls_allowed_le "i" 1 0 emptyWorld (fun _ => rfl) eightTurns ?_ (by decide +kernel) (Finset.range 8) ?_
  · intro turn hturn
    simp only [eightTurns, List.mem_flatMap, List.mem_map] at hturn
    obtain ⟨_, -, i, -, rfl⟩ := hturn
    exact ⟨rfl, rfl⟩
  · intro i hi
    have hall : ∀ i ∈ Finset.range 8,
        ((exec ShardedPool.step (shardedPool "i" 1 emptyWorld) eightTurns).procs i).result.any (·.allowed) = true := by
      decide +kernel
    obtain ⟨r, hret, hr⟩ := (Option.any_eq_true _ _).mp (hall i hi)
    exact ⟨r, Prog.result_eq_some.mp hret, hr⟩

end Issuer
