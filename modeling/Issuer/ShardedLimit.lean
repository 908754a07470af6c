import Issuer.Limits

/-!
# The sharded issuance counter (`check_blind_issuance_sharded`)

The counter of an issuer and an hour is spread over eight keys. A call reads and sums all of them,
compares the sum with the limit, and adds one to the key that the round-robin cursor of its isolate
picks.

An entry of KV lives at least for the lifetime it was put with: a read after that may still see it.
-/

namespace Issuer

open Rust Store

def blindShardCount : Nat := 8

structure ShardedWorld where
  limits : LimitsWorld
  cursor : Nat → UInt64

inductive ShardedOp where
  | limits (o : LimitsOp)
  | nextBlindShard
deriving DecidableEq, Repr

abbrev ShardedOp.Ans : ShardedOp → Type
  | .limits o => o.Ans
  | .nextBlindShard => Nat

abbrev Sharded := Prog ShardedOp ShardedOp.Ans

abbrev Sharded.limits {α : Type} (p : Limits α) : Sharded α := p.lift ShardedOp.limits fun _ x => x

/-- `keeps`: a read sees an entry that is past its lifetime. -/
structure ShardedTick extends Tick where
  isolate : Nat
  keeps : Bool

def kvGetKept (fails keeps : Bool) (kv : Kv String) (now : UInt64) (key : String) : Except Unit (Option String) :=
  if fails then .error ()
  else if keeps then .ok (kv[key]?.map (·.value))
  else .ok (Store.get kv (secs now) key)

def ShardedWorld.handle (w : ShardedWorld) (t : ShardedTick) : (o : ShardedOp) → o.Ans × ShardedWorld
  | .limits (.kvGet key) => (kvGetKept t.kvFails t.keeps w.limits.kv t.now key, w)
  | .limits o => ((w.limits.handle t.toTick o).1, { w with limits := (w.limits.handle t.toTick o).2 })
  -- `fetch_add` wraps
  | .nextBlindShard => ((w.cursor t.isolate % 8).toNat,
      { w with cursor := Function.update w.cursor t.isolate (w.cursor t.isolate + 1) })

/-! ## The counter -/

def shardKey (hashedIssuerId : String) (shard hour : Nat) : String :=
  "blind:" ++ hashedIssuerId ++ ":" ++ toString shard ++ "|" ++ toString hour

def readFailureRetryAfterSecs : Nat := 5

/-- `(allowed_unused, current_count, limit_unused, read_failed)`. -/
def checkKvCounterReadOnly (key : String) : Limits (Bool × Nat × Nat × Bool) := do
  match ← Limits.kvGet key with
  | .error () => pure (false, 0, 0, true)
  | .ok data => pure (true, (data.bind parseU32).getD 0, 0, false)

/-- The sum of the shards, or what was summed up to the first read that failed. -/
def sumShards (hashedIssuerId : String) (hour : Nat) : List Nat → Nat → Limits (Except Nat Nat)
  | [], aggregate => pure (.ok aggregate)
  | shard :: shards, aggregate => do
    let (_, shardCount, _, readFailed) ← checkKvCounterReadOnly (shardKey hashedIssuerId shard hour)
    if readFailed then pure (.error aggregate)
    else sumShards hashedIssuerId hour shards (satAddU32 aggregate shardCount)

/-- The ceiling is enforced before anything is written; then one shard is incremented. -/
def enforceAggregate (hashedIssuerId : String) (limit hour retryAfter : Nat) : Except Nat Nat → Sharded RateLimitResult
  | .error aggregate => pure ⟨false, aggregate, limit, readFailureRetryAfterSecs, true⟩
  | .ok aggregate =>
    if aggregate ≥ limit then pure ⟨false, aggregate, limit, retryAfter, false⟩
    else do
      let shard ← Prog.op ShardedOp.nextBlindShard
      let _ ← Sharded.limits (checkKvCounter (shardKey hashedIssuerId shard hour) u32Max 7200)
      pure ⟨true, satAddU32 aggregate 1, limit, retryAfter, false⟩

def checkBlindIssuanceSharded (hashedIssuerId : String) (limit : Nat) : Sharded RateLimitResult := do
  let hour := hourOf (← Sharded.limits Limits.now)
  let nowActual := secs (← Sharded.limits Limits.now)
  let retryAfter := min (satAddU64 hour 3600 - nowActual) u32Max
  let aggregate ← Sharded.limits (sumShards hashedIssuerId hour (List.range blindShardCount) 0)
  enforceAggregate hashedIssuerId limit hour retryAfter aggregate

/-! ## Keys -/

theorem toString_bar_inj {m n : Nat} {s t : String} (h : toString m ++ "|" ++ s = toString n ++ "|" ++ t) : m = n ∧ s = t := by
  have h' : toString m ++ ("|" ++ s) = toString n ++ ("|" ++ t) := by simpa only [String.append_assoc] using h
  obtain ⟨hmn, hst⟩ := append_sep_inj (toString_nat_decimal m) (toString_nat_decimal n) (by decide) h'
  exact ⟨toString_injective hmn, hst⟩

theorem shardKey_injective {id : String} {i j h k : Nat} (he : shardKey id i h = shardKey id j k) : i = j ∧ h = k := by
  have h' : "blind:" ++ id ++ ":" ++ (toString i ++ "|" ++ toString h) = "blind:" ++ id ++ ":" ++ (toString j ++ "|" ++ toString k) := by
    simpa only [shardKey, String.append_assoc] using he
  obtain ⟨hij, hhk⟩ := toString_bar_inj ((String.append_right_inj _).mp h')
  exact ⟨hij, toString_injective hhk⟩

theorem blindKey_injective {id : String} {h k : Nat} (he : blindKey id h = blindKey id k) : h = k := by
  have h' : "blind:" ++ id ++ "|" ++ toString h = "blind:" ++ id ++ "|" ++ toString k := by
    simpa only [blindKey, String.append_assoc] using he
  exact toString_injective ((String.append_right_inj _).mp h')

end Issuer
