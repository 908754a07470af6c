import Issuer.ResourceLockDo

/-!
# YubiKey challenges

`create_challenge` stores a challenge that is valid up to and including `expires_at`;
`get_and_consume_challenge` first consumes it at its `ResourceLockDO` and then looks at the stored
copy; `get_challenge` only looks.
-/

namespace Issuer

open Rust Store

def challengeTtlSeconds : Nat := 120

structure StoredChallenge where
  challengeId : String
  officerId : String
  challenge : List UInt8
  createdAt : Int
  expiresAt : Int
  used : Bool
deriving DecidableEq, Repr

/-- The record `create_challenge` builds; it reads the clock once for each time. -/
def StoredChallenge.create (challengeId officerId : String) (challenge : List UInt8) (ttlSeconds : Nat)
    (created expires : UInt64) : StoredChallenge :=
  ⟨challengeId, officerId, challenge, nowEpochSecs created,
    satAddI64 (nowEpochSecs expires) (toI64OrMax ttlSeconds), false⟩

abbrev ChallengeKv := Kv (Cell StoredChallenge)

structure KvFaults where
  get : Bool
  put : Bool
deriving DecidableEq, Repr

def challengeKey (challengeId : String) : String := "challenge:" ++ challengeId

def createChallenge (kfl : KvFaults) (challengeId officerId : String) (challenge : List UInt8) (ttlSeconds : Nat)
    (created expires put : UInt64) (kv : ChallengeKv) : Except ApiError StoredChallenge × ChallengeKv :=
  match validateIdentifier officerId "officer_id" with
  | .error e => (.error e, kv)
  | .ok () =>
    let c := StoredChallenge.create challengeId officerId challenge ttlSeconds created expires
    match kvPut kfl.put kv put (some ttlSeconds) (challengeKey challengeId) (.record c) with
    | .error () => (.error (.storageError "Failed to execute KV put"), kv)
    | .ok kv => (.ok c, kv)

def remainingTtlSecs (expiresAt : Int) (now : UInt64) : Nat :=
  (max (satSubI64 expiresAt (nowEpochSecs now)) 1).toNat

/-- The clock readings after the consumption: at the KV read, for the expiry check, for the
remaining lifetime and at the KV write. -/
structure ChallengeReadings where
  read : UInt64
  check : UInt64
  remaining : UInt64
  put : UInt64
deriving DecidableEq, Repr

def getAndConsumeChallenge (fl : Faults) (kfl : KvFaults) (t : ConsumeReadings) (u : ChallengeReadings)
    (challengeId : String) (s : ResourceShards) (kv : ChallengeKv) :
    Except ApiError (Option StoredChallenge) × ResourceShards × ChallengeKv :=
  match validateIdentifier challengeId "challenge_id" with
  | .error e => (.error e, s, kv)
  | .ok () =>
    match consumeResourceOnce fl t "challenge" challengeId s with
    | (.error e, s) => (.error e, s, kv)
    | (.ok false, s) => (.ok none, s, kv)
    | (.ok true, s) =>
      let key := challengeKey challengeId
      match kvGet kfl.get kv u.read key with
      | .error () => (.error (.storageError "Failed to get challenge"), s, kv)
      | .ok none => (.ok none, s, kv)
      | .ok (some .garbled) => (.error .json, s, kv)
      | .ok (some (.record c)) =>
        if c.expiresAt < nowEpochSecs u.check then (.ok none, s, kv.erase key)
        else if c.used then (.ok none, s, kv)
        else
          let c := { c with used := true }
          match kvPut kfl.put kv u.put (some (remainingTtlSecs c.expiresAt u.remaining)) key (.record c) with
          | .error () => (.error (.storageError "Failed to execute KV put"), s, kv)
          | .ok kv => (.ok (some c), s, kv)

/-- `get_challenge`, which consumes nothing; `read` and `check` are its clock readings. -/
def getChallenge (kfl : KvFaults) (read check : UInt64) (challengeId : String) (kv : ChallengeKv) :
    Except ApiError (Option StoredChallenge) × ChallengeKv :=
  match validateIdentifier challengeId "challenge_id" with
  | .error e => (.error e, kv)
  | .ok () =>
    let key := challengeKey challengeId
    match kvGet kfl.get kv read key with
    | .error () => (.error (.storageError "Failed to get challenge"), kv)
    | .ok none => (.ok none, kv)
    | .ok (some .garbled) => (.error .json, kv)
    | .ok (some (.record c)) =>
      if c.expiresAt < nowEpochSecs check then (.ok none, kv.erase key)
      else if c.used then (.ok none, kv)
      else (.ok (some c), kv)

end Issuer
