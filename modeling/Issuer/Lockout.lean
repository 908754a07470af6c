import Issuer.Limits

/-!
# Failed authentications: counters, locks and the cap per address

`record_auth_failure` counts a failure of one actor under that actor's lock;
`record_officer_failure_and_reject` and the failure path of `authenticate_admin` call it, lock the
account at the threshold and reject. Officers are also throttled per source address:
`record_authfail_ip_and_check` counts, `authfail_ip_exceeded` looks.

`token` is the random lock token of the call, `hashIp` the keyed hash of the audit context.
-/

namespace Issuer

open Rust

/-! ## Counting a failure -/

def authFailureLock (actorType actorId : String) : String := "auth_failure:" ++ actorType ++ ":" ++ actorId

def lockoutKey (actorType actorId : String) : String := "lockout:" ++ actorType ++ ":" ++ actorId

def lockedKey (actorType actorId : String) : String := "locked:" ++ actorType ++ ":" ++ actorId

def validateActor (actorType actorId : String) : Except ApiError Unit := do
  validateIdentifier actorId "actor_id"
  validateActorType actorType

def lockoutTrackingWindow : Nat := 3600

/-- The count a stored text stands for; a corrupt one counts as two below the threshold. -/
def failureCount (lockoutThreshold : Nat) : Option String → Nat
  | some data => (parseU32 data).getD (lockoutThreshold - 2)
  | none => 0

def recordAuthFailureInner (actorType actorId : String) (lockoutThreshold : Nat) : Limits (Except ApiError Nat) := do
  let key := lockoutKey actorType actorId
  match ← Limits.kvGet key with
  | .error () => pure (.error (.storageError "Failed to get failure count"))
  | .ok data =>
    let newCount := satAddU32 (failureCount lockoutThreshold data) 1
    match ← Limits.kvPut (some lockoutTrackingWindow) key (toString newCount) with
    | .error () => pure (.error (.storageError "Failed to execute failure count put"))
    | .ok () => pure (.ok newCount)

def recordAuthFailure (token actorType actorId : String) (lockoutThreshold : Nat) : Limits (Except ApiError Nat) := do
  match validateActor actorType actorId with
  | .error e => pure (.error e)
  | .ok () =>
    let lock := authFailureLock actorType actorId
    match ← Limits.acquire lock token maxLockTtlSeconds.toNat with
    | .error e => pure (.error e)
    | .ok token =>
      let result ← recordAuthFailureInner actorType actorId lockoutThreshold
      let () ← Limits.release lock token
      pure result

/-! ## The lock flag -/

/-- A failing read counts as not locked. -/
def isLockedOut (actorType actorId : String) : Limits (Except ApiError Bool) := do
  match validateActor actorType actorId with
  | .error e => pure (.error e)
  | .ok () =>
    match ← Limits.kvGet (lockedKey actorType actorId) with
    | .ok data => pure (.ok data.isSome)
    | .error () => pure (.ok false)

def maxLockoutDuration : Nat := 86400

def lockAccount (actorType actorId : String) (durationSeconds : Nat) : Limits (Except ApiError Unit) := do
  match validateActor actorType actorId with
  | .error e => pure (.error e)
  | .ok () =>
    let duration := max 1 (min durationSeconds maxLockoutDuration)
    let lockoutUntil := satAddI64 (nowEpochSecs (← Limits.now)) (toI64OrMax duration)
    match ← Limits.kvPut (some duration) (lockedKey actorType actorId) (toString lockoutUntil) with
    | .error () => pure (.error (.storageError "Failed to execute lockout put"))
    | .ok () => pure (.ok ())

def clearAuthFailures (actorType actorId : String) : Limits (Except ApiError Unit) := do
  match validateActor actorType actorId with
  | .error e => pure (.error e)
  | .ok () =>
    match ← Limits.kvDelete (lockoutKey actorType actorId) with
    | .error () => pure (.error (.storageError "Failed to clear auth failures"))
    | .ok () =>
      match ← Limits.kvDelete (lockedKey actorType actorId) with
      | .error () => pure (.error (.storageError "Failed to clear lock flag"))
      | .ok () => pure (.ok ())

/-! ## The cap per source address -/

def authfailIpLimitPerHour : Nat := 50

def authfailIpKey (ipHash : String) : String := "authfail_ip:" ++ ipHash

def recordAuthfailIpAndCheck (hashIp : String → String) (sourceIp : String) : Limits Bool := do
  let result ← checkBlindIssuance (authfailIpKey (hashIp sourceIp)) authfailIpLimitPerHour
  pure !result.allowed

def authfailIpExceeded (hashIp : String → String) (sourceIp : String) : Limits Bool := do
  match ← Limits.kvGet (authfailIpKey (hashIp sourceIp)) with
  | .ok (some s) => pure (decide ((parseU32 s).getD 0 ≥ authfailIpLimitPerHour))
  | .ok none => pure false
  | .error () => pure false

/-! ## Officers -/

def maxFailedAttempts : Nat := 5

def lockoutDurationSeconds : Nat := 900

def authFailureMessage : String := "Authentication failed"

def lockoutHashHexLen : Nat := 32

/-- The hashes are hex texts, so that bytes are characters. -/
def truncateHash (hash : String) : String := String.ofList (hash.toList.take lockoutHashHexLen)

def officerLockoutActorId (hashIp : String → String) (officerId sourceIp : String) : String :=
  truncateHash (hashIp officerId) ++ ":" ++ truncateHash (hashIp sourceIp)

/-- What both failure paths do with the count: lock the account at the threshold, whether or not the
lock can be stored, then reject. -/
def lockAtThreshold (actorType actorId : String) (threshold durationSeconds count : Nat) (reject : ApiError) :
    Limits ApiError := do
  if count ≥ threshold then
    let _ ← lockAccount actorType actorId durationSeconds
    pure reject
  else pure reject

def recordOfficerFailureAndReject (hashIp : String → String) (token officerId clientIp : String) : Limits ApiError := do
  let _ipCapExceeded ← recordAuthfailIpAndCheck hashIp clientIp
  let lockoutActor := officerLockoutActorId hashIp officerId clientIp
  match ← recordAuthFailure token "officer" lockoutActor maxFailedAttempts with
  | .error _ => pure (.serviceUnavailable "Authentication infrastructure unavailable")
  | .ok count =>
    lockAtThreshold "officer" lockoutActor maxFailedAttempts lockoutDurationSeconds count
      (.unauthorized authFailureMessage)

/-! ## Admins -/

def maxAdminFailedAttempts : Nat := 5

def adminLockoutDurationSeconds : Nat := 1800

/-- The branch of `authenticate_admin` for a key that does not verify. -/
def rejectAdmin (token clientIp : String) : Limits ApiError := do
  match ← recordAuthFailure token "admin" clientIp maxAdminFailedAttempts with
  | .error _ => pure (.forbidden "Unauthorised")
  | .ok count =>
    lockAtThreshold "admin" clientIp maxAdminFailedAttempts adminLockoutDurationSeconds count
      (.forbidden "Unauthorised")

/-- `matchedSlot` is the answer of `verify_admin_api_key`. -/
def authenticateAdmin (token clientIp : String) (matchedSlot : Option String) : Limits (Except ApiError String) := do
  match ← isLockedOut "admin" clientIp with
  | .error _ => pure (.error (.serviceUnavailable "Authentication infrastructure unavailable"))
  | .ok true => pure (.error (.forbidden "Unauthorised"))
  | .ok false =>
    match matchedSlot with
    | none =>
      let e ← rejectAdmin token clientIp
      pure (.error e)
    | some slot =>
      let _ ← clearAuthFailures "admin" clientIp
      pure (.ok slot)

/-! ## The callers -/

inductive LimitsCall where
  | recordAuthFailure (token actorType actorId : String) (lockoutThreshold : Nat)
  | recordOfficerFailureAndReject (token officerId clientIp : String)
  | authenticateAdmin (token clientIp : String) (matchedSlot : Option String)
  | rejectAdmin (token clientIp : String)
  | clearAuthFailures (actorType actorId : String)
  | isLockedOut (actorType actorId : String)
  | authfailIpExceeded (sourceIp : String)
  | checkBlindIssuance (issuerId : String) (limit : Nat)
deriving DecidableEq, Repr

inductive LimitsReply where
  | counted (r : Except ApiError Nat)
  | rejected (e : ApiError)
  | admin (r : Except ApiError String)
  | cleared (r : Except ApiError Unit)
  | locked (r : Except ApiError Bool)
  | exceeded (b : Bool)
  | limited (r : RateLimitResult)

def LimitsCall.prog (hashIp : String → String) : LimitsCall → Limits LimitsReply
  | .recordAuthFailure token actorType actorId lockoutThreshold => do
    pure (.counted (← Issuer.recordAuthFailure token actorType actorId lockoutThreshold))
  | .recordOfficerFailureAndReject token officerId clientIp => do
    pure (.rejected (← Issuer.recordOfficerFailureAndReject hashIp token officerId clientIp))
  | .authenticateAdmin token clientIp matchedSlot => do
    pure (.admin (← Issuer.authenticateAdmin token clientIp matchedSlot))
  | .rejectAdmin token clientIp => do pure (.rejected (← Issuer.rejectAdmin token clientIp))
  | .clearAuthFailures actorType actorId => do pure (.cleared (← Issuer.clearAuthFailures actorType actorId))
  | .isLockedOut actorType actorId => do pure (.locked (← Issuer.isLockedOut actorType actorId))
  | .authfailIpExceeded sourceIp => do pure (.exceeded (← Issuer.authfailIpExceeded hashIp sourceIp))
  | .checkBlindIssuance issuerId limit => do pure (.limited (← Issuer.checkBlindIssuance issuerId limit))

abbrev LimitsPool := Pool LimitsWorld LimitsOp LimitsOp.Ans LimitsReply

abbrev LimitsTurn := Turn Tick LockAlarm

abbrev LimitsPool.step : LimitsPool → LimitsTurn → LimitsPool := Pool.step LimitsWorld.handle LimitsWorld.react

def limitsPool (hashIp : String → String) (calls : Nat → LimitsCall) (w : LimitsWorld) : LimitsPool :=
  ⟨w, fun i => (calls i).prog hashIp⟩

end Issuer
