import Issuer.ShardedLimit

/-!
# The sharded counter refines a single one

Call after call, the eight shards hold together what one counter would hold: the number of calls
admitted in the hour. So the sharded check and `check_blind_issuance` answer alike.
-/

namespace Issuer

open Rust Store Runs

/-! ## Stored counts -/

namespace ShardedWorld
variable (w : ShardedWorld)

def count (key : String) : Nat := ((w.limits.kv[key]?).bind fun e => parseU32 e.value).getD 0

/-- The entry of `key` is seen by every read before `deadline`. -/
def Lasts (key : String) (deadline : Nat) : Prop :=
  ∀ e, w.limits.kv[key]? = some e → ∃ x, e.expires = some x ∧ deadline ≤ x

def written (t : ShardedTick) (key : String) (n : Nat) : ShardedWorld :=
  { w with limits := { w.limits with kv := Store.put w.limits.kv (secs t.now) (some 7200) key (toString n) } }

end ShardedWorld

/-- The operation succeeds within two hours from the beginning of `hour`. -/
def ShardedTick.Within (hour : Nat) (t : ShardedTick) : Prop :=
  t.kvFails = false ∧ hour ≤ secs t.now ∧ secs t.now < hour + 7200

section
variable {w : ShardedWorld} {t : ShardedTick} {key : String} {hour : Nat}

theorem handle_read (ht : t.Within hour) (hl : w.Lasts key (hour + 7200)) :
    w.handle t (.limits (.kvGet key)) = (.ok ((w.limits.kv[key]?).map (·.value)), w) := by
  simp only [ShardedWorld.handle, kvGetKept, ht.1, Bool.false_eq_true, if_false]
  by_cases hk : t.keeps = true
  · simp only [hk, if_true]
  · rw [if_neg hk]
    cases he : w.limits.kv[key]? with
    | none => simp [Store.get, he]
    | some e =>
      obtain ⟨x, hx, hle⟩ := hl e he
      have hlive : e.live (secs t.now) = true := by
        have hlt : secs t.now < x := by
          have := ht.2.2
          omega
        simp [Entry.live, hx, hlt]
      simp [Store.get, he, hlive]

theorem handle_write (ht : t.Within hour) (n : Nat) :
    w.handle t (.limits (.kvPut (some 7200) key (toString n))) = (.ok (), w.written t key n) := by
  simp [ShardedWorld.handle, LimitsWorld.handle, kvPut, ht.1, kvMinTtl, ShardedWorld.written]

theorem count_eq : (((w.limits.kv[key]?).map (·.value)).bind parseU32).getD 0 = w.count key := by
  unfold ShardedWorld.count
  cases w.limits.kv[key]? <;> rfl

theorem count_written {n : Nat} (hn : n ≤ u32Max) (a : String) :
    (w.written t key n).count a = if key = a then n else w.count a := by
  simp only [ShardedWorld.count, ShardedWorld.written, Store.put, insert_get]
  by_cases h : key = a
  · simp only [if_pos h, Option.bind_some, parseU32_toString hn, Option.getD_some]
  · simp only [if_neg h]

theorem lasts_written {n deadline : Nat} {a : String} (hl : w.Lasts a deadline) (hd : deadline ≤ secs t.now + 7200) :
    (w.written t key n).Lasts a deadline := by
  intro e he
  simp only [ShardedWorld.written, Store.put, insert_get] at he
  by_cases h : key = a
  · rw [if_pos h] at he
    cases he
    exact ⟨secs t.now + 7200, rfl, hd⟩
  · rw [if_neg h] at he
    exact hl e he

/-! ## The programs -/

variable {α : Type} {e : Nat → ShardedTick}

theorem play_checkKvCounter (he : ∀ n, (e n).Within hour) (hl : w.Lasts key (hour + 7200)) (limit : Nat)
    (f : Bool × Nat × Nat × Bool → Sharded α) :
    (Sharded.limits (checkKvCounter key limit 7200) >>= f).play ShardedWorld.handle e w =
      if limit ≤ w.count key then (f (false, w.count key, limit, false)).play ShardedWorld.handle (fun n => e (n + 1)) w
      else (f (true, satAddU32 (w.count key) 1, limit, false)).play ShardedWorld.handle (fun n => e (n + 2))
        (w.written (e 1) key (satAddU32 (w.count key) 1)) := by
  simp only [checkKvCounter, Limits.kvGet, Prog.op_bind, Sharded.limits, Prog.lift, Prog.ask_bind, Prog.play_ask,
    handle_read (he 0) hl, count_eq]
  by_cases h : limit ≤ w.count key
  · simp [h, Prog.lift]
  · simp [h, Prog.lift, handle_write (he 1), count_eq]

theorem play_sumShards (he : ∀ n, (e n).Within hour) {id : String} (hl : ∀ shard, w.Lasts (shardKey id shard hour) (hour + 7200))
    (f : Except Nat Nat → Sharded α) (shards : List Nat) (aggregate : Nat) :
    ∃ m, (Sharded.limits (sumShards id hour shards aggregate) >>= f).play ShardedWorld.handle e w =
      (f (.ok (shards.foldl (fun sum shard => satAddU32 sum (w.count (shardKey id shard hour))) aggregate))).play
        ShardedWorld.handle (fun n => e (n + m)) w := by
  induction shards generalizing e aggregate with
  | nil => exact ⟨0, rfl⟩
  | cons shard shards ih =>
    obtain ⟨m, hm⟩ := ih (fun n => he (n + 1)) (satAddU32 aggregate (w.count (shardKey id shard hour)))
    refine ⟨m + 1, ?_⟩
    have hread := handle_read (he 0) (hl shard)
    simp only [sumShards, checkKvCounterReadOnly, Limits.kvGet, Prog.op_bind, Prog.ask_bind, Sharded.limits, Prog.lift,
      Prog.play_ask, hread, Prog.pure_eq, Prog.ret_bind, count_eq, Bool.false_eq_true, if_false, List.foldl_cons]
    exact hm

end

/-! ## One call -/

def ShardedWorld.shardSum (w : ShardedWorld) (id : String) (hour : Nat) : Nat :=
  ∑ shard ∈ Finset.range blindShardCount, w.count (shardKey id shard hour)

/-- Every hour has the count that `n` gives, spread over its shards. -/
structure ShardedTally (id : String) (n : Nat → Nat) (w : ShardedWorld) : Prop where
  total : ∀ hour, w.shardSum id hour = n hour
  lasts : ∀ shard hour, w.Lasts (shardKey id shard hour) (hour + 7200)

/-- Every hour has the count that `n` gives, in its one entry. -/
structure SingleTally (id : String) (n : Nat → Nat) (w : ShardedWorld) : Prop where
  total : ∀ hour, w.count (blindKey id hour) = n hour
  lasts : ∀ hour, w.Lasts (blindKey id hour) (hour + 7200)

def countOne (n : Nat → Nat) (hour : Nat) : Nat → Nat := Function.update n hour (n hour + 1)

theorem foldl_satAddU32 (c : Nat → Nat) : ∀ (shards : List Nat) (a : Nat), a + (shards.map c).sum ≤ u32Max →
    shards.foldl (fun sum shard => satAddU32 sum (c shard)) a = a + (shards.map c).sum
  | [], _, _ => rfl
  | shard :: shards, a, h => by
    simp only [List.map_cons, List.sum_cons] at h ⊢
    have hfirst : satAddU32 a (c shard) = a + c shard := satAddU32_of_le (by omega)
    rw [List.foldl_cons, hfirst, foldl_satAddU32 c shards _ (by omega)]
    omega

section
variable {id : String} {n : Nat → Nat} {w : ShardedWorld} {hour limit : Nat} {e : Nat → ShardedTick}

theorem shardSum_eq : w.shardSum id hour =
    ((List.range blindShardCount).map fun shard => w.count (shardKey id shard hour)).sum := by
  simp only [ShardedWorld.shardSum, blindShardCount, Finset.sum_range_succ, List.range_succ]
  simp [Nat.add_assoc]

theorem count_le_shardSum {shard : Nat} (hs : shard < blindShardCount) : w.count (shardKey id shard hour) ≤ w.shardSum id hour :=
  Finset.single_le_sum (f := fun shard => w.count (shardKey id shard hour)) (fun _ _ => Nat.zero_le _) (Finset.mem_range.mpr hs)

theorem count_increment {t : ShardedTick} {shard : Nat} (hmax : w.count (shardKey id shard hour) < u32Max) (j hour' : Nat) :
    (w.written t (shardKey id shard hour) (w.count (shardKey id shard hour) + 1)).count (shardKey id j hour') =
      w.count (shardKey id j hour') + if hour' = hour ∧ j = shard then 1 else 0 := by
  rw [count_written (by omega)]
  by_cases hk : shardKey id shard hour = shardKey id j hour'
  · obtain ⟨rfl, rfl⟩ := shardKey_injective hk
    simp
  · have hne : ¬(hour' = hour ∧ j = shard) := fun hj => hk (by rw [hj.1, hj.2])
    rw [if_neg hk, if_neg hne]
    rfl

theorem shardSum_increment {t : ShardedTick} {shard : Nat} (hs : shard < blindShardCount)
    (hmax : w.count (shardKey id shard hour) < u32Max) (hour' : Nat) :
    (w.written t (shardKey id shard hour) (w.count (shardKey id shard hour) + 1)).shardSum id hour' =
      w.shardSum id hour' + if hour' = hour then 1 else 0 := by
  unfold ShardedWorld.shardSum
  rw [Finset.sum_congr rfl fun j _ => count_increment hmax j hour', Finset.sum_add_distrib]
  by_cases hh : hour' = hour
  · simp [hh, hs]
  · simp [hh]

theorem ShardedTally.written (h : ShardedTally id n w) {t : ShardedTick} (ht : t.Within hour) {shard : Nat}
    (hs : shard < blindShardCount) (hmax : w.count (shardKey id shard hour) < u32Max) (cursor : Nat → UInt64) :
    ShardedTally id (countOne n hour)
      (ShardedWorld.written { w with cursor := cursor } t (shardKey id shard hour) (w.count (shardKey id shard hour) + 1)) := by
  refine ⟨fun hour' => ?_, fun shard' hour' => ?_⟩
  · have hsum := shardSum_increment (w := { w with cursor := cursor }) (t := t) hs hmax hour'
    refine hsum.trans ?_
    have htotal : ShardedWorld.shardSum { w with cursor := cursor } id hour' = n hour' := h.total hour'
    rw [htotal]
    by_cases hh : hour' = hour
    · subst hh
      simp [countOne]
    · simp [countOne, hh]
  · by_cases hh : hour' = hour
    · subst hh
      exact lasts_written (h.lasts shard' hour') (by have := ht.2.1; omega)
    · intro entry hentry
      refine h.lasts shard' hour' entry ?_
      have hne : shardKey id shard hour ≠ shardKey id shard' hour' := fun hk => hh (shardKey_injective hk).2.symm
      simpa only [ShardedWorld.written, Store.put, insert_get_of_ne _ hne] using hentry

theorem SingleTally.written (h : SingleTally id n w) {t : ShardedTick} (ht : t.Within hour) (hmax : n hour < u32Max) :
    SingleTally id (countOne n hour) (w.written t (blindKey id hour) (n hour + 1)) := by
  refine ⟨fun hour' => ?_, fun hour' => ?_⟩
  · rw [count_written (by omega)]
    by_cases hh : hour' = hour
    · subst hh
      simp [countOne]
    · have hne : blindKey id hour ≠ blindKey id hour' := fun hk => hh (blindKey_injective hk).symm
      simp [countOne, hh, hne, h.total]
  · by_cases hh : hour' = hour
    · subst hh
      exact lasts_written (h.lasts hour') (by have := ht.2.1; omega)
    · intro entry hentry
      refine h.lasts hour' entry ?_
      have hne : blindKey id hour ≠ blindKey id hour' := fun hk => hh (blindKey_injective hk).symm
      simpa only [ShardedWorld.written, Store.put, insert_get_of_ne _ hne] using hentry

theorem cursor_lt (w : ShardedWorld) (isolate : Nat) : (w.cursor isolate % 8).toNat < blindShardCount := by
  have hmod : (w.cursor isolate % 8).toNat = (w.cursor isolate).toNat % 8 := UInt64.toNat_mod ..
  rw [hmod]
  exact Nat.mod_lt _ (by decide)

def ShardedWorld.advanced (w : ShardedWorld) (isolate : Nat) : ShardedWorld :=
  { w with cursor := Function.update w.cursor isolate (w.cursor isolate + 1) }

@[simp] theorem count_advanced (w : ShardedWorld) (isolate : Nat) (key : String) : (w.advanced isolate).count key = w.count key := rfl

theorem play_enforceAggregate (he : ∀ k, (e k).Within hour) (hl : ∀ shard, w.Lasts (shardKey id shard hour) (hour + 7200))
    (hmax : ∀ shard < blindShardCount, w.count (shardKey id shard hour) < u32Max) {aggregate : Nat} (hlow : aggregate < limit)
    (retry : Nat) :
    ∃ shard < blindShardCount, (enforceAggregate id limit hour retry (.ok aggregate)).play ShardedWorld.handle e w =
      (⟨true, satAddU32 aggregate 1, limit, retry, false⟩,
        (w.advanced (e 0).isolate).written (e 2) (shardKey id shard hour) (w.count (shardKey id shard hour) + 1)) := by
  have hcursor := cursor_lt w (e 0).isolate
  refine ⟨(w.cursor (e 0).isolate % 8).toNat, hcursor, ?_⟩
  have hcount := hmax _ hcursor
  have hbelow : ¬limit ≤ aggregate := by omega
  have hroom : ¬u32Max ≤ w.count (shardKey id (w.cursor (e 0).isolate % 8).toNat hour) := by omega
  have hlasts : (w.advanced (e 0).isolate).Lasts (shardKey id (w.cursor (e 0).isolate % 8).toNat hour) (hour + 7200) := hl _
  have hincrement := play_checkKvCounter (fun k => he (k + 1)) hlasts u32Max
    fun _ => (pure ⟨true, satAddU32 aggregate 1, limit, retry, false⟩ : Sharded RateLimitResult)
  simp only [enforceAggregate, ge_iff_le, if_neg hbelow, Prog.op_bind, Prog.play_ask]
  have hnext : satAddU32 (w.count (shardKey id (w.cursor (e 0).isolate % 8).toNat hour)) 1 =
      w.count (shardKey id (w.cursor (e 0).isolate % 8).toNat hour) + 1 := satAddU32_of_le (by omega)
  refine hincrement.trans ?_
  rw [count_advanced, if_neg hroom, hnext]
  rfl

theorem play_sharded (h : ShardedTally id n w) (he : ∀ m, (e m).Within (hourOf (e 0).now)) (hn : n (hourOf (e 0).now) ≤ limit)
    (hlimit : limit ≤ u32Max) :
    ∃ retry, if limit ≤ n (hourOf (e 0).now) then
        (checkBlindIssuanceSharded id limit).play ShardedWorld.handle e w =
          (⟨false, n (hourOf (e 0).now), limit, retry, false⟩, w)
      else ∃ shard m cursor, shard < blindShardCount ∧
        (checkBlindIssuanceSharded id limit).play ShardedWorld.handle e w =
          (⟨true, n (hourOf (e 0).now) + 1, limit, retry, false⟩,
            ShardedWorld.written { w with cursor := cursor } (e m) (shardKey id shard (hourOf (e 0).now))
              (w.count (shardKey id shard (hourOf (e 0).now)) + 1)) := by
  set hour := hourOf (e 0).now
  obtain ⟨m, hm⟩ := play_sumShards (e := fun k => e (k + 2)) (fun k => he (k + 2)) (fun shard => h.lasts shard hour)
    (enforceAggregate id limit hour (min (satAddU64 hour 3600 - secs (e 1).now) u32Max)) (List.range blindShardCount) 0
  have hsum : (List.range blindShardCount).foldl (fun sum shard => satAddU32 sum (w.count (shardKey id shard hour))) 0 = n hour := by
    have htotal := h.total hour
    rw [shardSum_eq] at htotal
    rw [foldl_satAddU32 _ _ _ (by omega), Nat.zero_add, htotal]
  have hplay : (checkBlindIssuanceSharded id limit).play ShardedWorld.handle e w =
      (enforceAggregate id limit hour (min (satAddU64 hour 3600 - secs (e 1).now) u32Max) (.ok (n hour))).play
        ShardedWorld.handle (fun k => e (k + m + 2)) w := by
    rw [← hsum]
    exact hm
  refine ⟨min (satAddU64 hour 3600 - secs (e 1).now) u32Max, ?_⟩
  by_cases hfull : limit ≤ n hour
  · rw [if_pos hfull, hplay]
    simp [enforceAggregate, hfull]
  · rw [if_neg hfull]
    have hmax : ∀ shard < blindShardCount, w.count (shardKey id shard hour) < u32Max := by
      intro shard hs
      have hle : w.count (shardKey id shard hour) ≤ w.shardSum id hour := count_le_shardSum hs
      rw [h.total hour] at hle
      omega
    obtain ⟨shard, hs, hcall⟩ := play_enforceAggregate (e := fun k => e (k + m + 2)) (fun k => he (k + m + 2))
      (fun shard => h.lasts shard hour) hmax (Nat.not_le.mp hfull) (min (satAddU64 hour 3600 - secs (e 1).now) u32Max)
    refine ⟨shard, 2 + m + 2, (w.advanced (e (0 + m + 2)).isolate).cursor, hs, ?_⟩
    rw [hplay, hcall, satAddU32_of_le (by omega)]
    rfl

theorem play_single (h : SingleTally id n w) (he : ∀ m, (e m).Within (hourOf (e 0).now)) (hlimit : limit ≤ u32Max) :
    ∃ retry, (Sharded.limits (checkBlindIssuance id limit)).play ShardedWorld.handle e w =
      if limit ≤ n (hourOf (e 0).now) then (⟨false, n (hourOf (e 0).now), limit, retry, false⟩, w)
      else (⟨true, n (hourOf (e 0).now) + 1, limit, retry, false⟩,
        w.written (e 2) (blindKey id (hourOf (e 0).now)) (n (hourOf (e 0).now) + 1)) := by
  set hour := hourOf (e 0).now
  have hcounter := play_checkKvCounter (e := fun k => e (k + 1)) (fun k => he (k + 1)) (h.lasts hour)
    limit fun r => Sharded.limits do
      let nowActual := secs (← Limits.now)
      pure (RateLimitResult.mk r.1 r.2.1 r.2.2.1 (min (satAddU64 hour 3600 - nowActual) u32Max) r.2.2.2)
  have hplay : (Sharded.limits (checkBlindIssuance id limit)).play ShardedWorld.handle e w =
      (Sharded.limits (checkKvCounter (blindKey id hour) limit 7200) >>= fun r => Sharded.limits do
        let nowActual := secs (← Limits.now)
        pure (RateLimitResult.mk r.1 r.2.1 r.2.2.1 (min (satAddU64 hour 3600 - nowActual) u32Max) r.2.2.2)).play
          ShardedWorld.handle (fun k => e (k + 1)) w := by
    rw [Sharded.limits, ← Prog.lift_bind]
    rfl
  rw [hplay, hcounter, h.total hour]
  by_cases hfull : limit ≤ n hour
  · exact ⟨min (satAddU64 hour 3600 - secs (e 2).now) u32Max, by rw [if_pos hfull, if_pos hfull]; rfl⟩
  · have hnext : satAddU32 (n hour) 1 = n hour + 1 := satAddU32_of_le (by omega)
    exact ⟨min (satAddU64 hour 3600 - secs (e 3).now) u32Max, by rw [if_neg hfull, if_neg hfull, hnext]; rfl⟩

end

/-! ## Calls one after another -/

/-- One call, made of the sharded counter and of the single one, with the ticks of its operations. -/
structure SequentialCall where
  sharded : Nat → ShardedTick
  single : Nat → ShardedTick

/-- Nothing fails, the clock does not go back behind the first reading, and the call is over within an hour. -/
def Steady (e : Nat → ShardedTick) : Prop :=
  ∀ m, (e m).kvFails = false ∧ (e 0).now ≤ (e m).now ∧ secs (e m).now ≤ secs (e 0).now + 3600

namespace SequentialCall

def hour (c : SequentialCall) : Nat := hourOf (c.sharded 0).now

structure Timely (c : SequentialCall) : Prop where
  sharded : Steady c.sharded
  single : Steady c.single
  sameHour : hourOf (c.single 0).now = c.hour

end SequentialCall

theorem Steady.within {e : Nat → ShardedTick} (h : Steady e) (m : Nat) : (e m).Within (hourOf (e 0).now) := by
  obtain ⟨hkv, hle, hend⟩ := h m
  have hstart : secs (e 0).now ≤ secs (e m).now := secs_mono hle
  unfold ShardedTick.Within hourOf
  exact ⟨hkv, by omega, by omega⟩

section
variable (id : String) (limit : UInt32)

def shardedCall (w : ShardedWorld) (c : SequentialCall) : RateLimitResult × ShardedWorld :=
  (checkBlindIssuanceSharded id limit.toNat).play ShardedWorld.handle c.sharded w

def singleCall (w : ShardedWorld) (c : SequentialCall) : RateLimitResult × ShardedWorld :=
  (Sharded.limits (checkBlindIssuance id limit.toNat)).play ShardedWorld.handle c.single w

def RateLimitResult.verdict (r : RateLimitResult) : Bool × Nat := (r.allowed, r.currentCount)

def allowedIn (hour : Nat) (w : ShardedWorld) (c : SequentialCall) : Bool :=
  decide (c.hour = hour) && (shardedCall id limit w c).1.allowed

variable {id limit} {n : Nat → Nat} {w₁ w₂ : ShardedWorld}

theorem limit_le_u32Max : limit.toNat ≤ u32Max := by
  have := limit.toNat_lt
  unfold u32Max
  omega

theorem call_refines {c : SequentialCall} (hc : c.Timely) (h₁ : ShardedTally id n w₁) (h₂ : SingleTally id n w₂)
    (hn : ∀ hour, n hour ≤ limit.toNat) :
    (shardedCall id limit w₁ c).1.verdict = (singleCall id limit w₂ c).1.verdict ∧
      ∃ n', ShardedTally id n' (shardedCall id limit w₁ c).2 ∧ SingleTally id n' (singleCall id limit w₂ c).2 ∧
        (∀ hour, n' hour ≤ limit.toNat) ∧
        ∀ hour, n' hour = n hour + if allowedIn id limit hour w₁ c then 1 else 0 := by
  obtain ⟨retry₁, hplay₁⟩ := play_sharded h₁ hc.sharded.within (hn _) limit_le_u32Max
  have hsingle := hc.single.within
  obtain ⟨retry₂, hplay₂⟩ := play_single h₂ hsingle limit_le_u32Max
  rw [hc.sameHour] at hsingle hplay₂
  have hhour : hourOf (c.sharded 0).now = c.hour := rfl
  rw [hhour] at hplay₁
  by_cases hfull : limit.toNat ≤ n c.hour
  · rw [if_pos hfull] at hplay₁ hplay₂
    have h₁' : shardedCall id limit w₁ c = _ := hplay₁
    have h₂' : singleCall id limit w₂ c = _ := hplay₂
    refine ⟨by rw [h₁', h₂']; rfl, n, by rw [h₁']; exact h₁, by rw [h₂']; exact h₂, hn, fun hour => ?_⟩
    simp [allowedIn, h₁']
  · rw [if_neg hfull] at hplay₁ hplay₂
    obtain ⟨shard, m, isolate, hs, hplay₁⟩ := hplay₁
    have h₁' : shardedCall id limit w₁ c = _ := hplay₁
    have h₂' : singleCall id limit w₂ c = _ := hplay₂
    have hmax : n c.hour < u32Max := lt_of_lt_of_le (Nat.not_le.mp hfull) limit_le_u32Max
    have hshard : w₁.count (shardKey id shard c.hour) < u32Max := by
      have hle : w₁.count (shardKey id shard c.hour) ≤ w₁.shardSum id c.hour := count_le_shardSum hs
      rw [h₁.total c.hour] at hle
      omega
    refine ⟨by rw [h₁', h₂']; rfl, countOne n c.hour, ?_, ?_, fun hour => ?_, fun hour => ?_⟩
    · rw [h₁']
      exact h₁.written (hc.sharded.within m) hs hshard _
    · rw [h₂']
      exact h₂.written (hsingle 2) hmax
    · by_cases hh : hour = c.hour
      · subst hh
        simp only [countOne, Function.update_self]
        omega
      · simp only [countOne, Function.update_of_ne hh]
        exact hn hour
    · by_cases hh : hour = c.hour
      · subst hh
        simp [countOne, allowedIn, h₁']
      · simp [countOne, allowedIn, hh, Ne.symm hh]

abbrev shardedVerdicts (id : String) (limit : UInt32) : ShardedWorld → List SequentialCall → List (Bool × Nat) :=
  outputs (fun w c => (shardedCall id limit w c).2) fun w c => some (shardedCall id limit w c).1.verdict

abbrev singleVerdicts (id : String) (limit : UInt32) : ShardedWorld → List SequentialCall → List (Bool × Nat) :=
  outputs (fun w c => (singleCall id limit w c).2) fun w c => some (singleCall id limit w c).1.verdict

/-- The number of calls of an hour that were allowed. -/
abbrev allowedCount (id : String) (limit : UInt32) (hour : Nat) : ShardedWorld → List SequentialCall → Nat :=
  hits (fun w c => (shardedCall id limit w c).2) (allowedIn id limit hour)

abbrev afterSharded (id : String) (limit : UInt32) : ShardedWorld → List SequentialCall → ShardedWorld :=
  exec fun w c => (shardedCall id limit w c).2

theorem run_refines (calls : List SequentialCall) (hcalls : ∀ c ∈ calls, c.Timely) (h₁ : ShardedTally id n w₁)
    (h₂ : SingleTally id n w₂) (hn : ∀ hour, n hour ≤ limit.toNat) :
    shardedVerdicts id limit w₁ calls = singleVerdicts id limit w₂ calls ∧
      ∃ n', ShardedTally id n' (afterSharded id limit w₁ calls) ∧ (∀ hour, n' hour ≤ limit.toNat) ∧
        ∀ hour, n' hour = n hour + allowedCount id limit hour w₁ calls := by
  induction calls generalizing w₁ w₂ n with
  | nil => exact ⟨rfl, n, h₁, hn, fun hour => rfl⟩
  | cons c calls ih =>
    obtain ⟨hverdict, n', h₁', h₂', hn', hcount⟩ := call_refines (hcalls c (List.mem_cons_self ..)) h₁ h₂ hn
    obtain ⟨hverdicts, n'', h₁'', hn'', hcounts⟩ := ih (fun d hd => hcalls d (List.mem_cons_of_mem _ hd)) h₁' h₂' hn'
    refine ⟨?_, n'', h₁'', hn'', fun hour => ?_⟩
    · simp only [shardedVerdicts, singleVerdicts, outputs, Option.toList_some, List.singleton_append, List.cons.injEq]
      exact ⟨hverdict, hverdicts⟩
    · rw [hcounts, hcount, Nat.add_assoc]
      rfl

/-- **The sharded counter refines a single counter.** Call after call the two answer alike; in every hour
at most `limit` calls are allowed, and the eight shards add up to their number. -/
theorem sharded_refines_single (id : String) (limit : UInt32) (w₁ w₂ : ShardedWorld) (calls : List SequentialCall)
    (hfresh₁ : ∀ shard hour, w₁.limits.kv[shardKey id shard hour]? = none)
    (hfresh₂ : ∀ hour, w₂.limits.kv[blindKey id hour]? = none) (hcalls : ∀ c ∈ calls, c.Timely) :
    shardedVerdicts id limit w₁ calls = singleVerdicts id limit w₂ calls ∧
      ∀ hour, allowedCount id limit hour w₁ calls ≤ limit.toNat ∧
        (afterSharded id limit w₁ calls).shardSum id hour = allowedCount id limit hour w₁ calls := by
  have h₁ : ShardedTally id (fun _ => 0) w₁ := by
    refine ⟨fun hour => ?_, fun shard hour entry hentry => ?_⟩
    · simp [ShardedWorld.shardSum, ShardedWorld.count, hfresh₁]
    · rw [hfresh₁] at hentry
      cases hentry
  have h₂ : SingleTally id (fun _ => 0) w₂ := by
    refine ⟨fun hour => ?_, fun hour entry hentry => ?_⟩
    · simp [ShardedWorld.count, hfresh₂]
    · rw [hfresh₂] at hentry
      cases hentry
  obtain ⟨hverdicts, n, htally, hn, hcount⟩ := run_refines calls hcalls h₁ h₂ fun _ => Nat.zero_le limit.toNat
  refine ⟨hverdicts, fun hour => ?_⟩
  have htotal : n hour = allowedCount id limit hour w₁ calls := by rw [hcount, Nat.zero_add]
  exact ⟨by rw [← htotal]; exact hn hour, by rw [htally.total, htotal]⟩

end

/-! ## The cursor wraps and the hour rolls over -/

def steadyTick (ms : UInt64) : ShardedTick := { Tick.at ms with isolate := 0, keeps := false }

def callAt (ms : UInt64) : SequentialCall := ⟨fun _ => steadyTick ms, fun _ => steadyTick ms⟩

theorem callAt_timely (ms : UInt64) : (callAt ms).Timely := by
  have hsteady : Steady fun _ => steadyTick ms := fun m => ⟨rfl, UInt64.le_refl _, by simp⟩
  exact ⟨hsteady, hsteady, rfl⟩

/-- The cursor is one below its wrap. -/
def emptyWorld : ShardedWorld := ⟨⟨fun _ => .empty, ∅⟩, fun _ => 18446744073709551615⟩

/-- Three calls in the last second of an hour, one in the first of the next. -/
def rollOverCalls : List SequentialCall := [callAt 3599000, callAt 3599500, callAt 3599900, callAt 3600000]

theorem third_call_refused :
    shardedVerdicts "i" 2 emptyWorld rollOverCalls = [(true, 1), (true, 2), (false, 2), (true, 1)] ∧
    singleVerdicts "i" 2 emptyWorld rollOverCalls = [(true, 1), (true, 2), (false, 2), (true, 1)] ∧
    (afterSharded "i" 2 emptyWorld rollOverCalls).shardSum "i" 0 = 2 := by
  have h := sharded_refines_single "i" 2 emptyWorld emptyWorld rollOverCalls (fun _ _ => rfl) (fun _ => rfl) (by
    intro c hc
    simp only [rollOverCalls, List.mem_cons, List.not_mem_nil, or_false] at hc
    rcases hc with rfl | rfl | rfl | rfl
    · exact callAt_timely 3599000
    · exact callAt_timely 3599500
    · exact callAt_timely 3599900
    · exact callAt_timely 3600000)
  have hrun : shardedVerdicts "i" 2 emptyWorld rollOverCalls = [(true, 1), (true, 2), (false, 2), (true, 1)] := by decide +kernel
  have hcount : allowedCount "i" 2 0 emptyWorld rollOverCalls = 2 := by decide +kernel
  exact ⟨hrun, h.1.symm.trans hrun, (h.2 0).2.trans hcount⟩

end Issuer
