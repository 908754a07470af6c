import Issuer.ShardedLimitSound

/-!
# Failing reads of the sharded counter

A call makes nine reads: it sums the eight shards and, once admitted, reads the picked shard again to
increment it. A read that fails while summing rejects the request. The outcome of the last one is
dropped: where it fails the request stays admitted and nothing is counted.

The operations of a call come under `e 0`, `e 1` (the clock), `e 2` to `e 9` (the sum), `e 10` (the
cursor), `e 11` and `e 12` (the increment).
-/

namespace Issuer

open Rust Store

/-- The count that a read under `t` finds, if it succeeds. -/
def ShardedWorld.seen (w : ShardedWorld) (t : ShardedTick) (key : String) : Nat :=
  (((kvGetKept false t.keeps w.limits.kv t.now key).toOption.bind id).bind parseU32).getD 0

/-! ## The sum -/

section
variable (id : String) (e : Nat → ShardedTick) (w : ShardedWorld)

def SummingReadFails : Prop := ∃ shard < blindShardCount, (e (shard + 2)).kvFails = true

def summed (hour : Nat) (e : Nat → ShardedTick) : List Nat → Nat → Nat
  | [], aggregate => aggregate
  | shard :: shards, aggregate =>
    summed hour (fun n => e (n + 1)) shards (satAddU32 aggregate (w.seen (e 0) (shardKey id shard hour)))

def shardReads (hour : Nat) (e : Nat → ShardedTick) : List Nat → List (ShardedTick × ShardedOp)
  | [] => []
  | shard :: shards => (e 0, .limits (.kvGet (shardKey id shard hour))) :: shardReads hour (fun n => e (n + 1)) shards

variable {id e w} {α : Type} {hour : Nat} (f : Except Nat Nat → Sharded α)

theorem handle_get {t : ShardedTick} (w : ShardedWorld) (key : String) (ht : t.kvFails = false) :
    ∃ data, w.handle t (.limits (.kvGet key)) = (.ok data, w) ∧ (data.bind parseU32).getD 0 = w.seen t key := by
  simp only [ShardedWorld.handle, ShardedWorld.seen, kvGetKept, ht, Bool.false_eq_true, if_false]
  split
  · exact ⟨_, rfl, rfl⟩
  · exact ⟨_, rfl, rfl⟩

theorem handle_get_fails {t : ShardedTick} {key : String} (ht : t.kvFails = true) :
    w.handle t (.limits (.kvGet key)) = (.error (), w) := by
  simp [ShardedWorld.handle, kvGetKept, ht]

theorem play_sum_ok {f : Except Nat Nat → Sharded α} (shards : List Nat) (aggregate : Nat)
    (he : ∀ i < shards.length, (e i).kvFails = false) :
    (Sharded.limits (sumShards id hour shards aggregate) >>= f).play ShardedWorld.handle e w =
        (f (.ok (summed id w hour e shards aggregate))).play ShardedWorld.handle (fun n => e (n + shards.length)) w ∧
      (Sharded.limits (sumShards id hour shards aggregate) >>= f).history ShardedWorld.handle e w =
        shardReads id hour e shards ++
          (f (.ok (summed id w hour e shards aggregate))).history ShardedWorld.handle (fun n => e (n + shards.length)) w := by
  induction shards generalizing e aggregate with
  | nil => exact ⟨rfl, rfl⟩
  | cons shard shards ih =>
    obtain ⟨data, hread, hcount⟩ := handle_get w (shardKey id shard hour) (he 0 (by simp))
    obtain ⟨hplay, hhist⟩ := ih (e := fun n => e (n + 1)) (satAddU32 aggregate (w.seen (e 0) (shardKey id shard hour)))
      fun i hi => he (i + 1) (by simpa using hi)
    simp only [sumShards, checkKvCounterReadOnly, Limits.kvGet, Prog.op_bind, Prog.ask_bind, Sharded.limits, Prog.lift,
      Prog.play_ask, Prog.history_ask, hread, Prog.pure_eq, Prog.ret_bind, hcount, Bool.false_eq_true, if_false]
    simp only [Sharded.limits] at hplay hhist
    rw [hplay, hhist]
    exact ⟨rfl, rfl⟩

theorem play_sum_fails {f : Except Nat Nat → Sharded α} (shards : List Nat) (aggregate : Nat)
    (he : ∃ i < shards.length, (e i).kvFails = true) :
    ∃ a m, (Sharded.limits (sumShards id hour shards aggregate) >>= f).play ShardedWorld.handle e w =
      (f (.error a)).play ShardedWorld.handle (fun n => e (n + m)) w := by
  induction shards generalizing e aggregate with
  | nil =>
    obtain ⟨i, hi, -⟩ := he
    exact absurd hi (Nat.not_lt_zero i)
  | cons shard shards ih =>
    simp only [sumShards, checkKvCounterReadOnly, Limits.kvGet, Prog.op_bind, Prog.ask_bind, Sharded.limits, Prog.lift,
      Prog.play_ask]
    by_cases h0 : (e 0).kvFails = true
    · refine ⟨aggregate, 1, ?_⟩
      simp only [handle_get_fails h0, Prog.pure_eq, Prog.ret_bind, if_true, Prog.lift]
    · obtain ⟨data, hread, hcount⟩ := handle_get w (shardKey id shard hour) (Bool.eq_false_of_not_eq_true h0)
      obtain ⟨i, hi, hfail⟩ := he
      have hrest : ∃ i < shards.length, (e (i + 1)).kvFails = true := by
        cases i with
        | zero => exact absurd hfail h0
        | succ i => exact ⟨i, by simpa using hi, hfail⟩
      obtain ⟨a, m, hplay⟩ := ih (e := fun n => e (n + 1)) (satAddU32 aggregate (w.seen (e 0) (shardKey id shard hour))) hrest
      refine ⟨a, m + 1, ?_⟩
      simp only [hread, Prog.pure_eq, Prog.ret_bind, hcount, Bool.false_eq_true, if_false]
      exact hplay

theorem play_increment (key : String) (r : RateLimitResult) :
    ((Sharded.limits (checkKvCounter key u32Max 7200) >>= fun _ => pure r).play ShardedWorld.handle e w).1 = r ∧
      if (e 0).kvFails = true ∨ u32Max ≤ w.seen (e 0) key then
        (Sharded.limits (checkKvCounter key u32Max 7200) >>= fun _ => (pure r : Sharded RateLimitResult)).history
          ShardedWorld.handle e w = [(e 0, .limits (.kvGet key))]
      else
        (Sharded.limits (checkKvCounter key u32Max 7200) >>= fun _ => (pure r : Sharded RateLimitResult)).history
          ShardedWorld.handle e w = [(e 0, .limits (.kvGet key)),
            (e 1, .limits (.kvPut (some 7200) key (toString (w.seen (e 0) key + 1))))] ∧
        ((Sharded.limits (checkKvCounter key u32Max 7200) >>= fun _ => pure r).play ShardedWorld.handle e w).2.limits =
          if (e 1).kvFails then w.limits else (w.written (e 1) key (w.seen (e 0) key + 1)).limits := by
  simp only [checkKvCounter, Limits.kvGet, Prog.op_bind, Sharded.limits, Prog.lift, Prog.ask_bind, Prog.play_ask, Prog.history_ask]
  by_cases h0 : (e 0).kvFails = true
  · simp [handle_get_fails h0, h0, Prog.lift]
  · obtain ⟨data, hread, hcount⟩ := handle_get w key (Bool.eq_false_of_not_eq_true h0)
    simp only [hread, hcount, h0, Bool.false_eq_true, false_or]
    by_cases hfull : u32Max ≤ w.seen (e 0) key
    · simp [hfull, Prog.lift]
    · have hnext : satAddU32 (w.seen (e 0) key) 1 = w.seen (e 0) key + 1 := satAddU32_of_le (by omega)
      simp only [ge_iff_le, hfull, if_false, hcount, hnext, Prog.pure_eq, Prog.lift, Prog.ask_bind, Prog.ret_bind,
        Prog.play_ask, Prog.play_ret, Prog.history_ask, Prog.history_ret, true_and]
      by_cases h1 : (e 1).kvFails = true
      · simp [ShardedWorld.handle, LimitsWorld.handle, kvPut, h1]
      · simp [ShardedWorld.handle, LimitsWorld.handle, kvPut, h1, kvMinTtl, ShardedWorld.written, hcount, hnext]

theorem shardReads_fails {shards : List Nat} {t : ShardedTick} {o : ShardedOp} (h : (t, o) ∈ shardReads id hour e shards) :
    ∃ i < shards.length, t = e i := by
  induction shards generalizing e with
  | nil => cases h
  | cons shard shards ih =>
    rcases List.mem_cons.mp h with heq | h
    · cases heq
      exact ⟨0, by simp, rfl⟩
    · obtain ⟨i, hi, rfl⟩ := ih h
      exact ⟨i + 1, by simpa using hi, rfl⟩

theorem shardReads_no_put {shards : List Nat} {t : ShardedTick} {ttl : Option Nat} {key value : String} :
    (t, ShardedOp.limits (.kvPut ttl key value)) ∉ shardReads id hour e shards := by
  induction shards generalizing e with
  | nil => exact List.not_mem_nil
  | cons shard shards ih =>
    intro hmem
    rcases List.mem_cons.mp hmem with heq | hmem
    · cases heq
    · exact ih hmem

end

/-! ## The call -/

section
variable (id : String) (limit : Nat) (e : Nat → ShardedTick) (w : ShardedWorld)

abbrev afterCall : RateLimitResult × ShardedWorld := (checkBlindIssuanceSharded id limit).play ShardedWorld.handle e w

abbrev callHistory : List (ShardedTick × ShardedOp) := (checkBlindIssuanceSharded id limit).history ShardedWorld.handle e w

def pickedKey : String := shardKey id (w.cursor (e 10).isolate % 8).toNat (hourOf (e 0).now)

def callSum : Nat := summed id w (hourOf (e 0).now) (fun n => e (n + 2)) (List.range blindShardCount) 0

def ReadFailed : Prop := ∃ t key, (t, ShardedOp.limits (.kvGet key)) ∈ callHistory id limit e w ∧ t.kvFails = true

/-- The call writes one more than it found to one shard, and unless that write fails the namespace then
holds it and is otherwise as it was. -/
def CountsOne : Prop := ∃ shard < blindShardCount, ∃ t,
  let key := shardKey id shard (hourOf (e 0).now)
  let next := w.seen (e 11) key + 1
  (t, ShardedOp.limits (.kvPut (some 7200) key (toString next))) ∈ callHistory id limit e w ∧
    (afterCall id limit e w).2.limits = if t.kvFails then w.limits else (w.written t key next).limits

structure FailClosed : Prop where
  rejects : ReadFailed id limit e w → (afterCall id limit e w).1.allowed = false ∧ (afterCall id limit e w).1.readFailed = true
  counts : (afterCall id limit e w).1.allowed = true → CountsOne id limit e w

variable {e}

theorem call_sum_fails (h : SummingReadFails e) :
    ∃ aggregate, afterCall id limit e w = (⟨false, aggregate, limit, readFailureRetryAfterSecs, true⟩, w) := by
  obtain ⟨aggregate, m, hplay⟩ := @play_sum_fails id (fun n => e (n + 2)) w _ (hourOf (e 0).now)
    (enforceAggregate id limit (hourOf (e 0).now) (min (satAddU64 (hourOf (e 0).now) 3600 - secs (e 1).now) u32Max))
    (List.range blindShardCount) 0 (by simpa [SummingReadFails] using h)
  exact ⟨aggregate, hplay⟩

theorem call_summed (h : ¬SummingReadFails e) :
    ∃ retry, afterCall id limit e w =
        (enforceAggregate id limit (hourOf (e 0).now) retry (.ok (callSum id e w))).play ShardedWorld.handle
          (fun n => e (n + 10)) w ∧
      callHistory id limit e w = (e 0, .limits .now) :: (e 1, .limits .now) ::
        (shardReads id (hourOf (e 0).now) (fun n => e (n + 2)) (List.range blindShardCount) ++
          (enforceAggregate id limit (hourOf (e 0).now) retry (.ok (callSum id e w))).history ShardedWorld.handle
            (fun n => e (n + 10)) w) := by
  have he : ∀ i < (List.range blindShardCount).length, (e (i + 2)).kvFails = false := by
    intro i hi
    refine Bool.eq_false_of_not_eq_true fun hfail => h ⟨i, by simpa using hi, hfail⟩
  obtain ⟨hplay, hhist⟩ := @play_sum_ok id (fun n => e (n + 2)) w _ (hourOf (e 0).now)
    (enforceAggregate id limit (hourOf (e 0).now) (min (satAddU64 (hourOf (e 0).now) 3600 - secs (e 1).now) u32Max))
    (List.range blindShardCount) 0 he
  refine ⟨min (satAddU64 (hourOf (e 0).now) 3600 - secs (e 1).now) u32Max, hplay, ?_⟩
  exact congrArg (fun l => (e 0, ShardedOp.limits .now) :: (e 1, ShardedOp.limits .now) :: l) hhist

theorem summing_reads_succeed (h : ¬SummingReadFails e) {t : ShardedTick} {o : ShardedOp} {hour : Nat}
    (hmem : (t, o) ∈ shardReads id hour (fun n => e (n + 2)) (List.range blindShardCount)) : t.kvFails = false := by
  obtain ⟨shard, hshard, rfl⟩ := shardReads_fails hmem
  exact Bool.eq_false_of_not_eq_true fun hfail => h ⟨shard, by simpa using hshard, hfail⟩

theorem call_full (h : ¬SummingReadFails e) (hfull : limit ≤ callSum id e w) :
    (afterCall id limit e w).1.allowed = false ∧ ¬ReadFailed id limit e w := by
  obtain ⟨retry, hplay, hhist⟩ := call_summed id limit w h
  simp only [enforceAggregate, ge_iff_le, if_pos hfull, Prog.pure_eq, Prog.play_ret, Prog.history_ret, List.append_nil] at hplay hhist
  refine ⟨by rw [hplay], ?_⟩
  rintro ⟨t, key, hmem, hfail⟩
  rw [hhist] at hmem
  simp only [List.mem_cons, Prod.mk.injEq, ShardedOp.limits.injEq, reduceCtorEq, and_false, false_or] at hmem
  rw [summing_reads_succeed id h hmem] at hfail
  cases hfail

/-- What an admitted call does: nothing after a failing read of the picked shard or a full counter, else one write. -/
theorem call_admitted (h : ¬SummingReadFails e) (hlow : callSum id e w < limit) :
    ∃ retry, (afterCall id limit e w).1 = ⟨true, satAddU32 (callSum id e w) 1, limit, retry, false⟩ ∧
      if (e 11).kvFails = true ∨ u32Max ≤ w.seen (e 11) (pickedKey id e w) then
        callHistory id limit e w = (e 0, .limits .now) :: (e 1, .limits .now) ::
          (shardReads id (hourOf (e 0).now) (fun n => e (n + 2)) (List.range blindShardCount) ++
            [(e 10, .nextBlindShard), (e 11, .limits (.kvGet (pickedKey id e w)))])
      else
        callHistory id limit e w = (e 0, .limits .now) :: (e 1, .limits .now) ::
          (shardReads id (hourOf (e 0).now) (fun n => e (n + 2)) (List.range blindShardCount) ++
            [(e 10, .nextBlindShard), (e 11, .limits (.kvGet (pickedKey id e w))),
              (e 12, .limits (.kvPut (some 7200) (pickedKey id e w) (toString (w.seen (e 11) (pickedKey id e w) + 1))))]) ∧
        (afterCall id limit e w).2.limits = if (e 12).kvFails then w.limits
          else (w.written (e 12) (pickedKey id e w) (w.seen (e 11) (pickedKey id e w) + 1)).limits := by
  obtain ⟨retry, hplay, hhist⟩ := call_summed id limit w h
  refine ⟨retry, ?_⟩
  have hbelow : ¬limit ≤ callSum id e w := by omega
  simp only [enforceAggregate, ge_iff_le, if_neg hbelow, Prog.op_bind, Prog.play_ask, Prog.history_ask, Nat.zero_add] at hplay hhist
  obtain ⟨hanswer, hcount⟩ := play_increment (e := fun n => e (n + 1 + 10)) (w := w.advanced (e 10).isolate)
    (pickedKey id e w) ⟨true, satAddU32 (callSum id e w) 1, limit, retry, false⟩
  rw [hplay, hhist]
  refine ⟨hanswer, ?_⟩
  split
  · rename_i hskip
    rw [if_pos (by exact hskip)] at hcount
    exact congrArg _ (congrArg _ (congrArg _ (congrArg _ hcount)))
  · rename_i hwrite
    rw [if_neg (by exact hwrite)] at hcount
    exact ⟨congrArg _ (congrArg _ (congrArg _ (congrArg _ hcount.1))), hcount.2⟩

/-- The re-read of the picked shard succeeds and finds room. -/
def RereadSound (id : String) (e : Nat → ShardedTick) (w : ShardedWorld) : Prop :=
  (e 11).kvFails = false ∧ w.seen (e 11) (pickedKey id e w) < u32Max

theorem skips_iff : (e 11).kvFails = true ∨ u32Max ≤ w.seen (e 11) (pickedKey id e w) ↔ ¬RereadSound id e w := by
  unfold RereadSound
  rw [Bool.eq_false_iff, ← Nat.not_le]
  tauto

theorem failClosed_of_sum_fails (h : SummingReadFails e) : FailClosed id limit e w := by
  obtain ⟨aggregate, hcall⟩ := call_sum_fails id limit w h
  refine ⟨fun _ => by rw [hcall]; exact ⟨rfl, rfl⟩, fun hallowed => ?_⟩
  rw [hcall] at hallowed
  cases hallowed

theorem failClosed_of_full (h : ¬SummingReadFails e) (hfull : limit ≤ callSum id e w) : FailClosed id limit e w := by
  obtain ⟨hrefused, hreads⟩ := call_full id limit w h hfull
  refine ⟨fun hfail => absurd hfail hreads, fun hallowed => ?_⟩
  rw [hrefused] at hallowed
  cases hallowed

theorem failClosed_of_reread (h : ¬SummingReadFails e) (hlow : callSum id e w < limit) (hsound : RereadSound id e w) :
    FailClosed id limit e w := by
  obtain ⟨retry, -, hcount⟩ := call_admitted id limit w h hlow
  rw [if_neg (fun hskip => (skips_iff id w).mp hskip hsound)] at hcount
  obtain ⟨hhist, hlimits⟩ := hcount
  refine ⟨?rejects, fun _ => ?counts⟩
  case rejects =>
    rintro ⟨t, key, hmem, hfail⟩
    rw [hhist] at hmem
    simp only [List.mem_cons, List.mem_append, List.not_mem_nil, Prod.mk.injEq, ShardedOp.limits.injEq, LimitsOp.kvGet.injEq,
      reduceCtorEq, and_false, or_false, false_or] at hmem
    rcases hmem with hmem | ⟨rfl, -⟩
    · rw [summing_reads_succeed id h hmem] at hfail
      cases hfail
    · rw [hsound.1] at hfail
      cases hfail
  case counts =>
    exact ⟨_, cursor_lt w (e 10).isolate, e 12, by rw [hhist]; simp [pickedKey], hlimits⟩

theorem not_failClosed_of_skip (h : ¬SummingReadFails e) (hlow : callSum id e w < limit) (hskip : ¬RereadSound id e w) :
    ¬FailClosed id limit e w := by
  obtain ⟨retry, hanswer, hcount⟩ := call_admitted id limit w h hlow
  have hallowed : (afterCall id limit e w).1.allowed = true := by rw [hanswer]
  rw [if_pos ((skips_iff id w).mpr hskip)] at hcount
  intro hclosed
  rcases (skips_iff id w).mpr hskip with hfail | hfull
  · -- the failing re-read is not answered
    have hread : ReadFailed id limit e w := ⟨e 11, pickedKey id e w, by rw [hcount]; simp, hfail⟩
    rw [(hclosed.rejects hread).1] at hallowed
    cases hallowed
  · -- a full shard is not written
    obtain ⟨shard, -, t, hmem, -⟩ := hclosed.counts hallowed
    rw [hcount] at hmem
    simp only [List.mem_cons, List.mem_append, List.not_mem_nil, Prod.mk.injEq, ShardedOp.limits.injEq, reduceCtorEq,
      and_false, or_false, false_or] at hmem
    exact shardReads_no_put hmem

/-- **The sharded check fails closed**, except for the last of its reads: exactly where a summing read fails,
the sum has reached the limit, or the picked shard is read again and found not to be full. -/
theorem sharded_fail_closed_iff (id : String) (limit : Nat) (e : Nat → ShardedTick) (w : ShardedWorld) :
    FailClosed id limit e w ↔ SummingReadFails e ∨ limit ≤ callSum id e w ∨ RereadSound id e w := by
  by_cases hsum : SummingReadFails e
  · exact iff_of_true (failClosed_of_sum_fails id limit w hsum) (.inl hsum)
  by_cases hfull : limit ≤ callSum id e w
  · exact iff_of_true (failClosed_of_full id limit w hsum hfull) (.inr (.inl hfull))
  have hlow : callSum id e w < limit := Nat.not_le.mp hfull
  by_cases hsound : RereadSound id e w
  · exact iff_of_true (failClosed_of_reread id limit w hsum hlow hsound) (.inr (.inr hsound))
  · refine iff_of_false (not_failClosed_of_skip id limit w hsum hlow hsound) ?_
    rintro (h | h | h)
    · exact hsum h
    · exact hfull h
    · exact hsound h

end

/-! ## The ninth read fails -/

def failingReread (n : Nat) : ShardedTick := { steadyTick 0 with kvFails := n == 11 }

/-- Nothing stored, a limit of 5: the call is allowed although its last read failed, and writes nothing. -/
theorem failing_reread_allowed : ¬FailClosed "i" 5 failingReread emptyWorld ∧
    (afterCall "i" 5 failingReread emptyWorld).1 = ⟨true, 1, 5, 3600, false⟩ ∧
    (callHistory "i" 5 failingReread emptyWorld).any (fun x => x.2 matches .limits (.kvPut ..)) = false := by
  have hallowed : (afterCall "i" 5 failingReread emptyWorld).1 = ⟨true, 1, 5, 3600, false⟩ := by decide +kernel
  have hsum : ¬SummingReadFails failingReread := by
    rintro ⟨shard, hshard, hfail⟩
    have heleven : shard + 2 = 11 := by simpa [failingReread] using hfail
    unfold blindShardCount at hshard
    omega
  obtain ⟨-, -, hhist⟩ := call_admitted "i" 5 emptyWorld hsum (by decide +kernel)
  rw [if_pos (.inl rfl)] at hhist
  refine ⟨fun hclosed => ?_, hallowed, by decide +kernel⟩
  have hread : ReadFailed "i" 5 failingReread emptyWorld := ⟨failingReread 11, pickedKey "i" failingReread emptyWorld, by
    rw [hhist]
    simp, rfl⟩
  have hrefused := (hclosed.rejects hread).1
  rw [hallowed] at hrefused
  cases hrefused

end Issuer
