import Issuer.ResourceLockDo
import Issuer.SigningKey

/-!
# Rotation of the signing key (`KeyRotationManager`)

All records under the issuer's prefix are listed page by page and loaded one by one; a record that
cannot be read or parsed is passed over. A rotation names the next version after the highest one it
loaded, writes every record it loaded as active back as deprecated, to the slot that the record's
`version` names, and then stores the new key, encrypted, in the slot of its version.

The listing, each load and each save read the configuration of the issuer anew. A read that misses
falls through to a scan, which may find the configuration of another issuer.
-/

namespace Issuer

open Rust Store

/-! ## Loading -/

/-- How a read of the configuration ends: it is the issuer's own, that of another issuer, or an error. -/
inductive ConfigRead where
  | own
  | other (issuerKid : String)
  | failed (e : ApiError)

def ConfigRead.kid (issuerKid : String) : ConfigRead → Except ApiError String
  | own => .ok issuerKid
  | other issuerKid => .ok issuerKid
  | failed e => .error e

structure RecordRead where
  config : ConfigRead
  fails : Bool

/-- How the reads end: `config` is the read for the listing, `list` says which pages fail. -/
structure KeyReads where
  config : ConfigRead
  list : Nat → Bool
  record : String → RecordRead

def KeyReads.ok : KeyReads := ⟨.own, fun _ => false, fun _ => ⟨.own, false⟩⟩

def kvListLimit : Nat := 1000

/-- The loop over the pages of a listing, `more` of them after the first. -/
def listPages (fails : Nat → Bool) : (page more : Nat) → List String → Except ApiError (List String)
  | page, 0, names => if fails page then .error (.storageError "Failed to list signing keys") else .ok names
  | page, more + 1, names =>
    if fails page then .error (.storageError "Failed to list signing keys")
    else do
      let rest ← listPages fails (page + 1) more (names.drop kvListLimit)
      return names.take kvListLimit ++ rest

def slotNames (issuerKid : String) (kv : KeyKv) : List String :=
  kv.keys.filterMap (stripPrefix (keyPrefix issuerKid))

/-- Reading and parsing the record of a slot; the slot is that of the issuer whose configuration is read. -/
def loadKeyRecord (reads : KeyReads) (issuerKid : String) (kv : KeyKv) (slot : String) : Option SigningKeyRecord :=
  match (reads.record slot).config.kid issuerKid with
  | .error _ => none
  | .ok kid => if (reads.record slot).fails then none else kv[keyName kid slot]?.bind parseRecord

def getAllSigningKeys (reads : KeyReads) (issuerKid : String) (kv : KeyKv) : Except ApiError (List SigningKeyRecord) := do
  let kid ← reads.config.kid issuerKid
  let names := slotNames kid kv
  let names ← listPages reads.list 0 ((names.length - 1) / kvListLimit) names
  return names.filterMap (loadKeyRecord reads issuerKid kv)

def getActiveSigningKey (reads : KeyReads) (issuerKid : String) (now : UInt64) (kv : KeyKv) :
    Except ApiError SigningKeyRecord := do
  let keys ← getAllSigningKeys reads issuerKid kv
  match keys.find? fun k => decide (k.status = .active) && !k.isExpired now with
  | some k => return k
  | none => throw (.cryptoError "No active signing key found")

/-! ## Versions -/

def versionNumber (version : String) : Option Nat := (stripPrefix "v" version).bind parseU32

def maxVersion (keys : List SigningKeyRecord) : Nat :=
  keys.foldl (fun m k => max m ((versionNumber k.version).getD 0)) 0

def versionName (n : Nat) : String := "v" ++ toString n

def nextVersionFromKeys (keys : List SigningKeyRecord) : String :=
  if keys.isEmpty then "v1" else versionName (satAddU32 (maxVersion keys) 1)

/-! ## Rotating -/

/-- How one save ends: the configuration it reads, and the error of the put, if any. -/
structure KeyWrite where
  config : ConfigRead
  put : Option ApiError

def KeyWrite.kid (w : KeyWrite) (issuerKid : String) : Except ApiError String := do
  let kid ← w.config.kid issuerKid
  match w.put with
  | some e => throw e
  | none => return kid

/-- What one rotation draws and meets; `write n` is how its `n`-th save ends. -/
structure Rotation (J : RedJubjub) where
  reads : KeyReads
  keypair : Keypair J
  gcmNonce : Vector UInt8 12
  kek : Except ApiError KekPair
  now : UInt64
  write : Nat → KeyWrite

def SigningKeyRecord.deprecate (k : SigningKeyRecord) : SigningKeyRecord := { k with status := .deprecated }

def saveKey (issuerKid : String) (kv : KeyKv) (k : SigningKeyRecord) : KeyKv :=
  kv.insert (keyName issuerKid k.version) (.record k.toJson)

/-- Also the end of `store_encrypted_key`, from its read of the configuration on. -/
def saveKeyMetadata (w : KeyWrite) (issuerKid : String) (kv : KeyKv) (k : SigningKeyRecord) : Except ApiError Unit × KeyKv :=
  match w.kid issuerKid with
  | .error e => (.error e, kv)
  | .ok kid => (.ok (), saveKey kid kv k)

/-- The loop over the existing keys; the answer is the number of saves. -/
def deprecateKeys (write : Nat → KeyWrite) (issuerKid : String) :
    Nat → List SigningKeyRecord → KeyKv → Except ApiError Nat × KeyKv
  | n, [], kv => (.ok n, kv)
  | n, k :: keys, kv =>
    if k.status = .active then
      match saveKeyMetadata (write n) issuerKid kv k.deprecate with
      | (.error e, kv) => (.error e, kv)
      | (.ok (), kv) => deprecateKeys write issuerKid (n + 1) keys kv
    else deprecateKeys write issuerKid n keys kv

section
variable {J : RedJubjub}

def newSigningKey (keypair : Keypair J) (now : UInt64) (version : String) : SigningKeyRecord where
  version := version
  keyId := "provii:" ++ version
  privateKeyEncrypted := none
  publicKey := Base64.encode keypair.vk.toList
  createdAt := nowEpochSecs now
  expiresAt := satAddI64 (nowEpochSecs now) (365 * 24 * 60 * 60)
  status := .active
  encrypted := true

def Rotation.newKey (r : Rotation J) (version : String) : SigningKeyRecord := newSigningKey r.keypair r.now version

variable (A : AesGcm)

def sealKey (gcmNonce : Vector UInt8 12) (kek : Except ApiError KekPair) (key : SigningKeyRecord) (privateKey : Bytes) :
    Except ApiError SigningKeyRecord := do
  let kekPair ← kek
  let encryptedSk ← encryptWithKek A gcmNonce kekPair.current privateKey (signingKeyAad key.version)
  return { key with privateKeyEncrypted := some (Base64.encode encryptedSk) }

def storeEncryptedKey (r : Rotation J) (issuerKid : String) (n : Nat) (key : SigningKeyRecord) (kv : KeyKv) :
    Except ApiError Unit × KeyKv :=
  match sealKey A r.gcmNonce r.kek key r.keypair.sk.toList with
  | .error e => (.error e, kv)
  | .ok record => saveKeyMetadata (r.write n) issuerKid kv record

def rotateSigningKeyInner (r : Rotation J) (issuerKid : String) (kv : KeyKv) : Except ApiError SigningKeyRecord × KeyKv :=
  match getAllSigningKeys r.reads issuerKid kv with
  | .error e => (.error e, kv)
  | .ok existingKeys =>
    let newKey := r.newKey (nextVersionFromKeys existingKeys)
    match deprecateKeys r.write issuerKid 0 existingKeys kv with
    | (.error e, kv) => (.error e, kv)
    | (.ok n, kv) =>
      match storeEncryptedKey A r issuerKid n newKey kv with
      | (.error e, kv) => (.error e, kv)
      | (.ok (), kv) => (.ok newKey, kv)

/-- The lock calls around a rotation. -/
structure LockCalls where
  token : String
  faults : Faults
  now : UInt64
  arm : UInt64
  releaseFaults : Faults

def rotationLock : String := "key-rotation:signing-key"

def rotateSigningKey (calls : LockCalls) (r : Rotation J) (issuerKid : String) (locks : ResourceShards) (kv : KeyKv) :
    Except ApiError SigningKeyRecord × ResourceShards × KeyKv :=
  match acquireResourceLockWithTtl calls.faults calls.now calls.arm rotationLock calls.token maxLockTtlSeconds.toNat locks with
  | (.error e, locks) => (.error e, locks, kv)
  | (.ok token, locks) =>
    let (result, kv) := rotateSigningKeyInner A r issuerKid kv
    (result, releaseResourceLock calls.releaseFaults rotationLock token locks, kv)

end

end Issuer
