import Issuer.KeyHealth
import Issuer.LockedRotation

/-!
# Rotations of the signing key, operation by operation

`rotate_signing_key` as requests run it beside others: the admin is let in, the health of the keys looked at, and the
rotation runs under two locks. Alone, the rotation is `rotateSigningKeyInner` of `KeyRotation`.

Each load and each save reads the configuration of the issuer first, in an operation of its own. A listing has as many
pages as its first page says.
-/

namespace Issuer

open Rust Store Runs

namespace RotationPool

variable {J : RedJubjub}

/-! ## Operations on the keys -/

inductive KeyOp where
  | config
  | list (issuerKid : String) (page : Nat)
  | get (issuerKid slot : String)
  | generate
  | kek
  | put (issuerKid : String) (key : SigningKeyRecord)

abbrev KeyOp.Ans (J : RedJubjub) : KeyOp → Type
  | .config => Except ApiError String
  | .list .. => Except Unit (List String × Nat)
  | .get .. => Except Unit (Option (Cell Json))
  | .generate => Keypair J × UInt64
  | .kek => Except ApiError KekPair × Vector UInt8 12
  | .put .. => Except ApiError Unit

abbrev Keys (J : RedJubjub) := Prog KeyOp (KeyOp.Ans J)

/-- What an operation on the keys meets: the configuration that is read, whether a read of the namespace fails, what is
drawn, and the error of the put. -/
structure KeyTick (J : RedJubjub) where
  config : ConfigRead
  readFails : Bool
  keypair : Keypair J
  kek : Except ApiError KekPair
  gcmNonce : Vector UInt8 12
  now : UInt64
  put : Option ApiError

def KeyOp.handle (issuerKid : String) (kv : KeyKv) (t : KeyTick J) : (o : KeyOp) → o.Ans J × KeyKv
  | .config => (t.config.kid issuerKid, kv)
  | .list kid page =>
    let names := slotNames kid kv
    (if t.readFails then .error ()
      else .ok ((names.drop (page * kvListLimit)).take kvListLimit, (names.length - 1) / kvListLimit - page), kv)
  | .get kid slot => (if t.readFails then .error () else .ok kv[keyName kid slot]?, kv)
  | .generate => ((t.keypair, t.now), kv)
  | .kek => ((t.kek, t.gcmNonce), kv)
  | .put kid key =>
    match t.put with
    | some e => (.error e, kv)
    | none => (.ok (), saveKey kid kv key)

def Keys.andThen {α β : Type} (p : Keys J (Except ApiError α)) (f : α → Keys J (Except ApiError β)) :
    Keys J (Except ApiError β) := do
  match ← p with
  | .error e => pure (.error e)
  | .ok a => f a

/-! ## `KeyRotationManager` -/

def listPages (issuerKid : String) : (more page : Nat) → Keys J (Except ApiError (List String))
  | 0, page => do
    match ← Prog.op (KeyOp.list issuerKid page) with
    | .error () => pure (.error (.storageError "Failed to list signing keys"))
    | .ok (names, _) => pure (.ok names)
  | more + 1, page => do
    match ← Prog.op (KeyOp.list issuerKid page) with
    | .error () => pure (.error (.storageError "Failed to list signing keys"))
    | .ok (names, _) => pure ((← listPages issuerKid more (page + 1)).map (names ++ ·))

def listNames (issuerKid : String) : Keys J (Except ApiError (List String)) := do
  match ← Prog.op (KeyOp.list issuerKid 0) with
  | .error () => pure (.error (.storageError "Failed to list signing keys"))
  | .ok (names, 0) => pure (.ok names)
  | .ok (names, more + 1) => pure ((← listPages issuerKid more 1).map (names ++ ·))

/-- A record that cannot be read is passed over. -/
def loadKeyRecord (slot : String) : Keys J (Option SigningKeyRecord) := do
  match ← Prog.op KeyOp.config with
  | .error _ => pure none
  | .ok kid =>
    match ← Prog.op (KeyOp.get kid slot) with
    | .error () => pure none
    | .ok stored => pure (stored.bind parseRecord)

def loadKeyRecords : List String → Keys J (List SigningKeyRecord)
  | [] => pure []
  | slot :: slots => do
    let record ← loadKeyRecord slot
    let records ← loadKeyRecords slots
    pure (record.toList ++ records)

def getAllSigningKeys : Keys J (Except ApiError (List SigningKeyRecord)) :=
  Keys.andThen (Prog.op KeyOp.config) fun kid => (listNames kid).andThen fun names => do
    let keys ← loadKeyRecords names
    pure (.ok keys)

/-- Also the end of `store_encrypted_key`. -/
def saveKeyMetadata (key : SigningKeyRecord) : Keys J (Except ApiError Unit) :=
  Keys.andThen (Prog.op KeyOp.config) fun kid => Prog.op (KeyOp.put kid key)

def deprecateKeys : List SigningKeyRecord → Keys J (Except ApiError Unit)
  | [] => pure (.ok ())
  | k :: keys =>
    if k.status = .active then (saveKeyMetadata k.deprecate).andThen fun () => deprecateKeys keys
    else deprecateKeys keys

def storeEncryptedKey (A : AesGcm) (key : SigningKeyRecord) (privateKey : Bytes) : Keys J (Except ApiError Unit) := do
  let (kek, gcmNonce) ← Prog.op KeyOp.kek
  match sealKey A gcmNonce kek key privateKey with
  | .error e => pure (.error e)
  | .ok record => saveKeyMetadata record

def replaceKeys (A : AesGcm) (existingKeys : List SigningKeyRecord) : Keys J (Except ApiError SigningKeyRecord) := do
  let (keypair, now) ← Prog.op KeyOp.generate
  let key := newSigningKey keypair now (nextVersionFromKeys existingKeys)
  (deprecateKeys existingKeys).andThen fun () => (storeEncryptedKey A key keypair.sk.toList).andThen fun () => pure (.ok key)

def rotateSigningKeyInner (A : AesGcm) : Keys J (Except ApiError SigningKeyRecord) :=
  getAllSigningKeys.andThen fun existingKeys => replaceKeys A existingKeys

/-! ## Requests -/

abbrev Rotations (J : RedJubjub) := Locked (KeyOp.Ans J)

/-- `KeyRotationManager::rotate_signing_key`. -/
def rotateUnderLock (A : AesGcm) (token : String) : Rotations J (Except ApiError SigningKeyRecord) := do
  match ← Locked.acquire rotationLock token with
  | .error e => pure (.error e)
  | .ok token =>
    let result ← Locked.data (rotateSigningKeyInner A)
    let () ← Locked.release rotationLock token
    pure result

structure RotationCall extends RotationRequest where
  requestToken : String
  token : String

inductive RotationReply where
  | refused (refusal : RotationRefusal)
  | rotated (slot : AdminKeySlot) (key : SigningKeyRecord)
deriving DecidableEq, Repr

def requestLock : String := "signing_key_rotation"

def rotationReply (slot : AdminKeySlot) : Except ApiError SigningKeyRecord → Rotations J RotationReply
  | .error _ => pure (.refused (.error (.internal "Internal server error")))
  | .ok key => do
    let () ← Prog.op LockedOp.flagRotation
    pure (.rotated slot key)

def rotateLocked (A : AesGcm) (call : RotationCall) (slot : AdminKeySlot) : Rotations J RotationReply := do
  match ← Locked.acquire requestLock call.requestToken with
  | .error _ => pure (.refused (.error (.serviceUnavailable "Key rotation temporarily unavailable")))
  | .ok requestToken =>
    let result ← rotateUnderLock A call.token
    let () ← Locked.release requestLock requestToken
    rotationReply slot result

/-- Only the failure of the health check stops a rotation, a critical report is logged. -/
def rotateSigningKey (A : AesGcm) (call : RotationCall) : Rotations J RotationReply := do
  match ← Locked.admin (admitRotation .keyRotate call.toRotationRequest) with
  | .error refusal => pure (.refused refusal)
  | .ok slot =>
    match ← Locked.data getAllSigningKeys with
    | .error _ => pure (.refused (.error (.internal "Internal server error")))
    | .ok _ => rotateLocked A call slot

end RotationPool

end Issuer
