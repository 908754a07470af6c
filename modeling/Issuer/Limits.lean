import Issuer.ResourceLockDo
import Issuer.Lib.Prog

/-!
# The rate-limit namespace and its counters

The programs here and in `Lockout` share one world: the `ISSUER_RATE_LIMITS` namespace, whose
values are texts, and the lock objects. Each operation of a program is atomic; the environment runs
the alarms of the lock objects.

`check_kv_counter` reads, compares and writes back a counter; `check_blind_issuance` keeps one per
identity and clock hour.
-/

namespace Issuer

open Rust Store

structure LimitsWorld where
  locks : ResourceShards
  kv : Kv String

inductive LimitsOp where
  | now
  | kvGet (key : String)
  | kvPut (ttl : Option Nat) (key value : String)
  | kvDelete (key : String)
  | acquire (resourceKey token : String) (ttlSeconds : Nat)
  | release (resourceKey token : String)
deriving DecidableEq, Repr

abbrev LimitsOp.Ans : LimitsOp → Type
  | .now => UInt64
  | .kvGet _ => Except Unit (Option String)
  | .kvPut _ _ _ => Except Unit Unit
  | .kvDelete _ => Except Unit Unit
  | .acquire _ _ _ => Except ApiError String
  | .release _ _ => Unit

abbrev Limits := Prog LimitsOp LimitsOp.Ans

namespace Limits

abbrev now : Limits UInt64 := Prog.op LimitsOp.now

abbrev kvGet (key : String) : Limits (Except Unit (Option String)) := Prog.op (LimitsOp.kvGet key)

abbrev kvPut (ttl : Option Nat) (key value : String) : Limits (Except Unit Unit) := Prog.op (LimitsOp.kvPut ttl key value)

abbrev kvDelete (key : String) : Limits (Except Unit Unit) := Prog.op (LimitsOp.kvDelete key)

abbrev acquire (resourceKey token : String) (ttlSeconds : Nat) : Limits (Except ApiError String) :=
  Prog.op (LimitsOp.acquire resourceKey token ttlSeconds)

abbrev release (resourceKey token : String) : Limits Unit := Prog.op (LimitsOp.release resourceKey token)

end Limits

/-- When an operation happens and what fails under it; `arm` is the reading at which a lock object
sets its alarm. -/
structure Tick where
  now : UInt64
  arm : UInt64
  faults : Faults
  kvFails : Bool

def Tick.at (t : UInt64) : Tick := ⟨t, t, .none, false⟩

def LimitsWorld.handle (w : LimitsWorld) (t : Tick) : (o : LimitsOp) → o.Ans × LimitsWorld
  | .now => (t.now, w)
  | .kvGet key => (kvGet t.kvFails w.kv t.now key, w)
  | .kvPut ttl key value =>
    match kvPut t.kvFails w.kv t.now ttl key value with
    | .ok kv => (.ok (), { w with kv := kv })
    | .error () => (.error (), w)
  | .kvDelete key => if t.kvFails then (.error (), w) else (.ok (), { w with kv := w.kv.erase key })
  | .acquire resourceKey token ttlSeconds =>
    let (answer, locks) := acquireResourceLockWithTtl t.faults t.now t.arm resourceKey token ttlSeconds w.locks
    (answer, { w with locks := locks })
  | .release resourceKey token => ((), { w with locks := releaseResourceLock t.faults resourceKey token w.locks })

structure LockAlarm where
  shard : Fin resourceLockShardCount
  faults : Faults
  now : UInt64
  arm : UInt64

def LimitsWorld.react (w : LimitsWorld) (a : LockAlarm) : LimitsWorld :=
  { w with locks := Function.update w.locks a.shard ((w.locks a.shard).onAlarm a.faults a.now a.arm) }

/-! ## Counters -/

/-- `(allowed, count, limit, read_failed)`. A counter that does not parse counts as 0, and a failing
write goes unnoticed. -/
def checkKvCounter (key : String) (limit ttlSecs : Nat) : Limits (Bool × Nat × Nat × Bool) := do
  match ← Limits.kvGet key with
  | .error () => pure (false, 0, limit, true)
  | .ok data =>
    let count := (data.bind parseU32).getD 0
    if count ≥ limit then pure (false, count, limit, false)
    else
      let next := satAddU32 count 1
      let _ ← Limits.kvPut (some ttlSecs) key (toString next)
      pure (true, next, limit, false)

structure RateLimitResult where
  allowed : Bool
  currentCount : Nat
  limit : Nat
  retryAfterSecs : Nat
  readFailed : Bool
deriving DecidableEq, Repr

def hourOf (now : UInt64) : Nat := secs now / 3600 * 3600

def blindKey (issuerId : String) (hour : Nat) : String := "blind:" ++ issuerId ++ "|" ++ toString hour

def checkBlindIssuance (issuerId : String) (limit : Nat) : Limits RateLimitResult := do
  let hour := hourOf (← Limits.now)
  let (allowed, count, limit, readFailed) ← checkKvCounter (blindKey issuerId hour) limit 7200
  let nowActual := secs (← Limits.now)
  pure ⟨allowed, count, limit, min (satAddU64 hour 3600 - nowActual) u32Max, readFailed⟩

end Issuer
