import Issuer.Http
import Issuer.Identifier
import Issuer.Lib.Json

/-!
# One-time resources and locks (`ResourceLockDO`)

One Durable Object holds consumption records under `consumed:{type}:{id}` and locks under
`lock:{key}`. A consumption record counts up to and including `consumed_at` plus the lifetime of
its type, a lock up to but not including `expires_at`. The alarm looks at the first 1000 keys and
drops what has reached its end.

All handlers read with `.await.ok().flatten()`: a failing read and a value that does not decode
both look like an empty slot.
-/

namespace Issuer

open Rust Store

def resourceTtlSeconds (resourceType : String) : Int :=
  if resourceType = "pickup" then 300
  else if resourceType = "challenge" then 120
  else if resourceType = "nonce" then 300
  else if resourceType = "quota" then 3600
  else 300

def maxLockTtlSeconds : Int := 30

def maxLockNameLength : Nat := 256

def maxLockTokenLength : Nat := 256

def maxListEntries : Nat := 1000

def isLockNameChar (c : Char) : Bool :=
  c.isAlphanum || c == '-' || c == '_' || c == ':' || c == '.'

def validateLockName (name : String) : Except ApiError Unit :=
  if name.isEmpty then .error (.badRequest "Lock name must not be empty")
  else if name.utf8ByteSize > maxLockNameLength then
    .error (.badRequest s!"Lock name too long (max {maxLockNameLength} characters)")
  else if !name.toList.all isLockNameChar then
    .error (.badRequest
      "Lock name contains invalid characters (allowed: alphanumeric, hyphen, underscore, colon, period)")
  else .ok ()

/-! ## Stored records -/

structure ConsumptionRecord where
  consumedAt : Int
  resourceType : String
  resourceId : String
  metadata : Option Json
deriving Repr

structure LockRecord where
  lockToken : String
  acquiredAt : Int
  expiresAt : Int
  resourceKey : String
deriving DecidableEq, Repr

inductive ResourceRecord where
  | consumption (r : ConsumptionRecord)
  | lock (r : LockRecord)
deriving Repr

structure ResourceLockDo where
  storage : Table String (Cell ResourceRecord)
  alarm : Option Nat

def ResourceLockDo.empty : ResourceLockDo := ⟨{}, none⟩

def consumedKey (resourceType resourceId : String) : String := "consumed:" ++ resourceType ++ ":" ++ resourceId

def lockKey (resourceKey : String) : String := "lock:" ++ resourceKey

def readConsumption (fl : Faults) (m : Table String (Cell ResourceRecord)) (key : String) :
    Option ConsumptionRecord :=
  match storageGet fl m key with
  | .ok (some (.record (.consumption r))) => some r
  | _ => none

def readLock (fl : Faults) (m : Table String (Cell ResourceRecord)) (key : String) : Option LockRecord :=
  match storageGet fl m key with
  | .ok (some (.record (.lock r))) => some r
  | _ => none

/-- A handler that does not answer 200: it answers with an error, or an operation of the platform
failed under it. -/
inductive DoFailure where
  | response (e : ApiError)
  | platform
deriving DecidableEq, Repr

/-- `set_alarm(offset)`, an offset from the platform's clock in milliseconds. -/
def ResourceLockDo.setAlarm (d : ResourceLockDo) (arm : UInt64) (offsetMs : Int) : ResourceLockDo :=
  { d with alarm := some (arm.toNat + offsetMs.toNat) }

/-! ## Consuming -/

structure ConsumeResourceRequest where
  resourceType : String
  resourceId : String
  metadata : Option Json
deriving Repr

structure ConsumeResourceResponse where
  allowed : Bool
  reason : String
  consumedAt : Option Int
  firstMetadata : Option Json
deriving Repr

/-- The clock readings of one call: for the stored record, for the new record, and when the alarm
is armed. -/
structure ConsumeReadings where
  check : UInt64
  create : UInt64
  arm : UInt64
deriving DecidableEq, Repr

def ConsumeReadings.at (t : UInt64) : ConsumeReadings := ⟨t, t, t⟩

def ConsumptionRecord.isStale (r : ConsumptionRecord) (now : Int) : Bool :=
  decide (now > satAddI64 r.consumedAt (resourceTtlSeconds r.resourceType))

def ResourceLockDo.markConsumed (fl : Faults) (t : ConsumeReadings) (body : ConsumeResourceRequest)
    (d : ResourceLockDo) : Except DoFailure ConsumeResourceResponse × ResourceLockDo :=
  let record : ConsumptionRecord := ⟨nowEpochSecs t.create, body.resourceType, body.resourceId, body.metadata⟩
  if fl.put then (.error .platform, d)
  else
    let key := consumedKey body.resourceType body.resourceId
    let d := { d with storage := d.storage.insert key (.record (.consumption record)) }
    if fl.setAlarm then (.error .platform, d)
    else (.ok ⟨true, "Resource consumed successfully", none, none⟩,
      d.setAlarm t.arm (satMulI64 (resourceTtlSeconds body.resourceType) 1000))

def validateResource (resourceType resourceId : String) : Except ApiError Unit := do
  validateIdentifier resourceType "resource_type"
  validateIdentifier resourceId "resource_id"

def ResourceLockDo.consumeResource (fl : Faults) (t : ConsumeReadings) (body : ConsumeResourceRequest)
    (d : ResourceLockDo) : Except DoFailure ConsumeResourceResponse × ResourceLockDo :=
  match validateResource body.resourceType body.resourceId with
  | .error e => (.error (.response e), d)
  | .ok () =>
    let key := consumedKey body.resourceType body.resourceId
    match readConsumption fl d.storage key with
    | some record =>
      if record.isStale (nowEpochSecs t.check) then
        markConsumed fl t body { d with storage := storageDelete fl d.storage key }
      else (.ok ⟨false, "Resource already consumed", some record.consumedAt, record.metadata⟩, d)
    | none => markConsumed fl t body d

/-! ## Checking and resetting -/

structure CheckConsumedResponse where
  consumed : Bool
  consumedAt : Option Int
  metadata : Option Json
deriving Repr

def ResourceLockDo.checkConsumed (fl : Faults) (now : UInt64) (resourceType resourceId : String)
    (d : ResourceLockDo) : Except DoFailure CheckConsumedResponse × ResourceLockDo :=
  match validateResource resourceType resourceId with
  | .error e => (.error (.response e), d)
  | .ok () =>
    let key := consumedKey resourceType resourceId
    match readConsumption fl d.storage key with
    | some r =>
      if r.isStale (nowEpochSecs now) then
        (.ok ⟨false, none, none⟩, { d with storage := storageDelete fl d.storage key })
      else (.ok ⟨true, some r.consumedAt, r.metadata⟩, d)
    | none => (.ok ⟨false, none, none⟩, d)

def allowedResetEnvs : List String := ["sandbox", "development", "test", "staging"]

/-- `environment` is the lower-cased variable, `production` where it is not set. -/
def ResourceLockDo.resetResource (fl : Faults) (environment resourceType resourceId : String)
    (d : ResourceLockDo) : Except DoFailure ConsumeResourceResponse × ResourceLockDo :=
  if environment ∉ allowedResetEnvs then
    (.error (.response (.forbidden "Reset not allowed in this environment")), d)
  else
    match validateResource resourceType resourceId with
    | .error e => (.error (.response e), d)
    | .ok () =>
      let key := consumedKey resourceType resourceId
      if fl.delete key then (.error .platform, d)
      else (.ok ⟨true, "Resource reset successfully", none, none⟩, { d with storage := d.storage.erase key })

/-! ## Locks -/

structure AcquireLockRequest where
  lockToken : String
  ttlSeconds : Nat
  resourceKey : String
deriving DecidableEq, Repr

structure AcquireLockResponse where
  acquired : Bool
  reason : String
deriving DecidableEq, Repr

structure ReleaseLockResponse where
  released : Bool
  reason : String
deriving DecidableEq, Repr

def validateLockToken (token : String) : Except ApiError Unit :=
  if token.isEmpty then .error (.badRequest "lock_token is required")
  else if token.utf8ByteSize > maxLockTokenLength then
    .error (.badRequest s!"lock_token too long (max {maxLockTokenLength} characters)")
  else .ok ()

def AcquireLockRequest.validate (body : AcquireLockRequest) : Except ApiError Unit := do
  validateLockToken body.lockToken
  if body.ttlSeconds = 0 then throw (.badRequest "ttl_seconds must be at least 1")
  validateLockName body.resourceKey

def AcquireLockRequest.ttl (body : AcquireLockRequest) : Int := min (toI64OrMax body.ttlSeconds) maxLockTtlSeconds

def LockRecord.held (r : LockRecord) (now : Int) : Bool := decide (now < r.expiresAt)

def ResourceLockDo.grantLock (fl : Faults) (now arm : UInt64) (body : AcquireLockRequest)
    (d : ResourceLockDo) : Except DoFailure AcquireLockResponse × ResourceLockDo :=
  let record : LockRecord :=
    ⟨body.lockToken, nowEpochSecs now, satAddI64 (nowEpochSecs now) body.ttl, body.resourceKey⟩
  if fl.put then (.error .platform, d)
  else
    let d := { d with storage := d.storage.insert (lockKey body.resourceKey) (.record (.lock record)) }
    if fl.setAlarm then (.error .platform, d)
    else (.ok ⟨true, "Lock acquired"⟩, d.setAlarm arm (satMulI64 (satAddI64 body.ttl 1) 1000))

def ResourceLockDo.handleAcquireLock (fl : Faults) (now arm : UInt64) (body : AcquireLockRequest)
    (d : ResourceLockDo) : Except DoFailure AcquireLockResponse × ResourceLockDo :=
  match body.validate with
  | .error e => (.error (.response e), d)
  | .ok () =>
    match readLock fl d.storage (lockKey body.resourceKey) with
    | some record =>
      if record.held (nowEpochSecs now) then (.ok ⟨false, "Lock held by another caller"⟩, d)
      else grantLock fl now arm body d
    | none => grantLock fl now arm body d

def ResourceLockDo.handleReleaseLock (fl : Faults) (lockToken resourceKey : String)
    (d : ResourceLockDo) : Except DoFailure ReleaseLockResponse × ResourceLockDo :=
  match (do validateLockToken lockToken; validateLockName resourceKey : Except ApiError Unit) with
  | .error e => (.error (.response e), d)
  | .ok () =>
    let key := lockKey resourceKey
    match readLock fl d.storage key with
    | some record =>
      if record.lockToken ≠ lockToken then (.ok ⟨false, "Token mismatch"⟩, d)
      else if fl.delete key then (.error .platform, d)
      else (.ok ⟨true, "Lock released"⟩, { d with storage := d.storage.erase key })
    | none => (.ok ⟨true, "Lock not held (already expired or released)"⟩, d)

/-! ## The alarm -/

/-- What the alarm does with a listed key. Here a record goes as soon as the clock reaches its last
second. -/
def judgeResource (fl : Faults) (now : Int) (key : String) (c : Cell ResourceRecord) : Verdict Int :=
  let expired : Verdict Int := if fl.delete key then .skip else .drop
  match fl.read key, c with
  | .success, .record (.consumption r) =>
    if hasPrefix "consumed:" key then
      let expiresAt := satAddI64 r.consumedAt (resourceTtlSeconds r.resourceType)
      if now ≥ expiresAt then expired else .keep expiresAt
    else .skip
  | .success, .record (.lock r) =>
    if hasPrefix "lock:" key then if now ≥ r.expiresAt then expired else .keep r.expiresAt
    else .skip
  | _, _ => .skip

def sweepResources (fl : Faults) (now : Int) (m : Table String (Cell ResourceRecord)) :
    Table String (Cell ResourceRecord) × Option Int :=
  sweep (judgeResource fl now) m (m.keys.take maxListEntries)

/-- The `alarm` handler; running it clears the pending alarm. -/
def ResourceLockDo.onAlarm (fl : Faults) (now arm : UInt64) (d : ResourceLockDo) : ResourceLockDo :=
  if fl.list then { d with alarm := none }
  else
    let swept := sweepResources fl (nowEpochSecs now) d.storage
    let d : ResourceLockDo := ⟨swept.1, none⟩
    match swept.2 with
    | some nextExpiry =>
      if fl.setAlarm then d
      else d.setAlarm arm (satMulI64 (max (satSubI64 nextExpiry (nowEpochSecs now)) 1) 1000)
    | none => d

/-! ## Shards -/

def resourceLockShardCount : Nat := 25

def resourceShard (resourceKey : String) : Fin resourceLockShardCount :=
  shardOf resourceLockShardCount (by decide) resourceKey

abbrev ResourceShards := Fin resourceLockShardCount → ResourceLockDo

def resourceOf (resourceType resourceId : String) : String := resourceType ++ ":" ++ resourceId

/-- `consume_resource_once`. -/
def consumeResourceOnce (fl : Faults) (t : ConsumeReadings) (resourceType resourceId : String)
    (s : ResourceShards) : Except ApiError Bool × ResourceShards :=
  let i := resourceShard (resourceOf resourceType resourceId)
  let (answer, d) := (s i).consumeResource fl t ⟨resourceType, resourceId, none⟩
  let s := Function.update s i d
  match answer with
  | .ok resp => (.ok resp.allowed, s)
  | .error (.response e) => (.error (.storageError s!"Resource consume returned status {e.status}: {(Http.Error.ofApiError e).text}"), s)
  | .error .platform => (.error (.storageError s!"Resource consume failed: {fl.detail}"), s)

/-- `acquire_resource_lock_with_ttl`; `token` is the random token of this call. -/
def acquireResourceLockWithTtl (fl : Faults) (now arm : UInt64) (resourceKey token : String) (ttlSeconds : Nat)
    (s : ResourceShards) : Except ApiError String × ResourceShards :=
  let i := resourceShard resourceKey
  let (answer, d) := (s i).handleAcquireLock fl now arm ⟨token, ttlSeconds, resourceKey⟩
  let s := Function.update s i d
  match answer with
  | .ok resp =>
    if resp.acquired then (.ok token, s)
    else (.error (.conflict s!"Resource lock contention on {resourceKey}: {resp.reason}"), s)
  | .error (.response e) => (.error (.storageError s!"Resource lock acquire returned status {e.status}: {(Http.Error.ofApiError e).text}"), s)
  | .error .platform => (.error (.storageError s!"Resource lock acquire failed: {fl.detail}"), s)

/-- `release_resource_lock`, whose failures go unnoticed. -/
def releaseResourceLock (fl : Faults) (resourceKey token : String) (s : ResourceShards) : ResourceShards :=
  let i := resourceShard resourceKey
  Function.update s i ((s i).handleReleaseLock fl token resourceKey).2

/-! ## Runs of one object -/

inductive ResourceStep where
  | consume (fl : Faults) (t : ConsumeReadings) (body : ConsumeResourceRequest)
  | check (fl : Faults) (now : UInt64) (resourceType resourceId : String)
  | reset (fl : Faults) (now : UInt64) (environment resourceType resourceId : String)
  | acquire (fl : Faults) (now arm : UInt64) (body : AcquireLockRequest)
  | release (fl : Faults) (now : UInt64) (lockToken resourceKey : String)
  | alarm (fl : Faults) (now arm : UInt64)

def ResourceStep.apply (d : ResourceLockDo) : ResourceStep → ResourceLockDo
  | .consume fl t body => (d.consumeResource fl t body).2
  | .check fl now resourceType resourceId => (d.checkConsumed fl now resourceType resourceId).2
  | .reset fl _ environment resourceType resourceId => (d.resetResource fl environment resourceType resourceId).2
  | .acquire fl now arm body => (d.handleAcquireLock fl now arm body).2
  | .release fl _ lockToken resourceKey => (d.handleReleaseLock fl lockToken resourceKey).2
  | .alarm fl now arm => d.onAlarm fl now arm

def ResourceStep.start : ResourceStep → Int
  | .consume _ t _ => nowEpochSecs t.check
  | .check _ now _ _ | .reset _ now _ _ _ | .acquire _ now _ _ | .release _ now _ _ | .alarm _ now _ =>
    nowEpochSecs now

def ResourceStep.stop : ResourceStep → Int
  | .consume _ t _ => nowEpochSecs t.arm
  | .acquire _ _ arm _ | .alarm _ _ arm => nowEpochSecs arm
  | .check _ now _ _ | .reset _ now _ _ _ | .release _ now _ _ => nowEpochSecs now

/-- The clock does not go back within a step. -/
def ResourceStep.Timely : ResourceStep → Prop
  | .consume _ t _ => t.check ≤ t.create ∧ t.create ≤ t.arm
  | .acquire _ now arm _ | .alarm _ now arm => now ≤ arm
  | .check .. | .reset .. | .release .. => True

instance ResourceStep.decidableTimely : ∀ i : ResourceStep, Decidable i.Timely
  | .consume _ t _ => inferInstanceAs (Decidable (t.check ≤ t.create ∧ t.create ≤ t.arm))
  | .acquire _ now arm _ | .alarm _ now arm => inferInstanceAs (Decidable (now ≤ arm))
  | .check .. | .reset .. | .release .. => inferInstanceAs (Decidable True)

def consumeAllowed : Except DoFailure ConsumeResourceResponse → Bool
  | .ok resp => resp.allowed
  | .error _ => false

def acquireGranted : Except DoFailure AcquireLockResponse → Bool
  | .ok resp => resp.acquired
  | .error _ => false

end Issuer
