import Issuer.Identifier

/-!
# The nonce store (`NonceDO`)

One Durable Object holds nonces under `nonce:{nonce}` with creation and expiry times. A record is
valid up to and including `expires_at`. `check_and_set_internal` refuses a valid or unreadable
record, drops an expired one, makes room above 10000 entries and stores the nonce. Both clean-up
loops, `alarm` and `purge_expired_nonces`, look at the first 10000 keys of the sorted listing and
drop records that are no longer valid.

The worker spreads nonces over 25 such objects (`nonce_do_check_and_set`).
-/

namespace Issuer

open Rust Store

def maxNonceTtlSeconds : Nat := 86400

def maxNonceCapacity : Nat := 10000

structure NonceRecord where
  nonce : String
  createdAt : Nat
  expiresAt : Nat
deriving DecidableEq, Repr

def NonceRecord.isValidAt (r : NonceRecord) (now : Nat) : Bool := decide (r.expiresAt ≥ now)

structure NonceDo where
  storage : Table String (Cell NonceRecord)
  alarm : Option Nat

def NonceDo.empty : NonceDo := ⟨{}, none⟩

/-! ## Clean-up -/

/-- What both loops do with a listed key. A record whose deletion fails stays and counts as
neither dropped nor remaining. -/
def judgeNonce (fl : Faults) (now : Nat) (key : String) (c : Cell NonceRecord) : Verdict Nat :=
  if hasPrefix "nonce:" key then
    match fl.read key, c with
    | .success, .record r =>
      if r.isValidAt now then .keep r.expiresAt else if fl.delete key then .skip else .drop
    | _, _ => .skip
  else .skip

def sweepNonces (fl : Faults) (now : Nat) (m : Table String (Cell NonceRecord)) :
    Table String (Cell NonceRecord) × Option Nat :=
  sweep (judgeNonce fl now) m (m.keys.take maxNonceCapacity)

def purgeExpiredNonces (fl : Faults) (now : Nat) (m : Table String (Cell NonceRecord)) :
    Except String (Table String (Cell NonceRecord)) :=
  if fl.list then .error fl.detail else .ok (sweepNonces fl now m).1

/-- The `alarm` handler, reading the clock at `now` and arming the next alarm at `arm`. Running it
clears the pending alarm. -/
def NonceDo.onAlarm (fl : Faults) (now arm : UInt64) (d : NonceDo) : NonceDo :=
  if fl.list then { d with alarm := none }
  else
    let swept := sweepNonces fl (secs now) d.storage
    match swept.2 with
    | some nextExpiry =>
      let delaySecs := max (nextExpiry - secs now) 1
      let delayMs := toI64OrMax (satMulU64 delaySecs 1000)
      ⟨swept.1, if fl.setAlarm then none else some (arm.toNat + delayMs.toNat)⟩
    | none => ⟨swept.1, none⟩

/-! ## Check and set -/

/-- The clock readings of one call: for the stored record, in the purge, for the new record, and
when the alarm is armed. -/
structure NonceReadings where
  check : UInt64
  purge : UInt64
  create : UInt64
  arm : UInt64
deriving DecidableEq, Repr

def NonceReadings.at (t : UInt64) : NonceReadings := ⟨t, t, t, t⟩

def nonceKey (nonce : String) : String := "nonce:" ++ nonce

/-- The part of `check_and_set_internal` after the check; `pfl` are the faults of the purge. -/
def NonceDo.storeNonce (fl pfl : Faults) (r : NonceReadings) (nonce : String) (ttlSeconds : Nat)
    (d : NonceDo) : Except String Bool × NonceDo :=
  if fl.list then (.error fl.detail, d)
  else
    let purged :=
      if d.storage.size ≥ maxNonceCapacity then purgeExpiredNonces pfl (secs r.purge) d.storage
      else .ok d.storage
    match purged with
    | .error e => (.error e, d)
    | .ok m =>
      let record : NonceRecord := ⟨nonce, secs r.create, satAddU64 (secs r.create) ttlSeconds⟩
      if fl.put then (.error s!"Failed to store nonce: {fl.detail}", { d with storage := m })
      else
        let m := m.insert (nonceKey nonce) (.record record)
        if fl.setAlarm then (.error fl.detail, { d with storage := m })
        else (.ok true, ⟨m, some (r.arm.toNat + (toI64OrMax (satMulU64 ttlSeconds 1000)).toNat)⟩)

def NonceDo.checkAndSetInternal (fl pfl : Faults) (r : NonceReadings) (nonce : String)
    (ttlSeconds : Nat) (d : NonceDo) : Except String Bool × NonceDo :=
  if ttlSeconds = 0 then (.error "ttl_seconds must be at least 1", d)
  else if ttlSeconds > maxNonceTtlSeconds then
    (.error s!"ttl_seconds exceeds maximum of {maxNonceTtlSeconds}", d)
  else
    let storageKey := nonceKey nonce
    match storageGet fl d.storage storageKey with
    | .error _ => (.error s!"Failed to check nonce: {fl.detail}", d)
    | .ok (some (.record record)) =>
      if record.isValidAt (secs r.check) then (.ok false, d)
      else storeNonce fl pfl r nonce ttlSeconds
        { d with storage := storageDelete fl d.storage storageKey }
    | .ok (some .garbled) => (.ok false, d)
    | .ok none => storeNonce fl pfl r nonce ttlSeconds d

/-! ## Shards

`nonce_do_check_and_set` picks the object by the hash of the nonce and turns its answer (200, 409
or a failure) into a result.
-/

def nonceDoShardCount : Nat := 25

def nonceShard (nonce : String) : Fin nonceDoShardCount := shardOf nonceDoShardCount (by decide) nonce

abbrev NonceShards := Fin nonceDoShardCount → NonceDo

def nonceDoCheckAndSet (fl pfl : Faults) (r : NonceReadings) (nonce : String) (ttlSeconds : Nat)
    (s : NonceShards) : Except ApiError Bool × NonceShards :=
  let i := nonceShard nonce
  let (answer, d) := (s i).checkAndSetInternal fl pfl r nonce ttlSeconds
  (answer.mapError fun e => .storageError s!"Nonce DO request failed: {e}", Function.update s i d)

def nonceTtlSeconds : Nat := 300

def validateAndConsumeNonce (fl pfl : Faults) (r : NonceReadings) (nonce : String) (s : NonceShards) :
    Except ApiError Bool × NonceShards :=
  match validateNonceFormat nonce with
  | .error e => (.error e, s)
  | .ok () => nonceDoCheckAndSet fl pfl r nonce nonceTtlSeconds s

def attestationNonceTtl : Nat := 7200

def attestNonce (nonceHex : String) : String := "attest:" ++ nonceHex

def validateAndConsumeAttestationNonce (fl pfl : Faults) (r : NonceReadings) (nonceHex : String)
    (s : NonceShards) : Except ApiError Bool × NonceShards :=
  if nonceHex.utf8ByteSize ≠ 64 then
    (.error (.badRequest "Attestation nonce must be exactly 64 hex characters (256 bits)"), s)
  else if !nonceHex.toList.all isAsciiHexdigit then
    (.error (.badRequest "Attestation nonce must be a hex string"), s)
  else nonceDoCheckAndSet fl pfl r (attestNonce nonceHex) attestationNonceTtl s

end Issuer
