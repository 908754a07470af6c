import Issuer.Kek
import Issuer.Identifier
import Issuer.Lib.Base64
import Issuer.Lib.Json

/-!
# Stored signing keys

A RedJubjub key of the issuer is a JSON text in `ISSUER_KEYS` under `issuer:{kid}:key:{slot}`. Three
readers take it apart: `SigningKeyRecord` (the rotation module, which also writes it),
`KeypairRecord` (`get_signing_keypair`, which accepts onboarding records too) and `VkOnly` (the
public key for the JWKS). A stored text is a JSON value or does not parse.

The curve library is a parameter; a `Keypair` carries that its halves belong together.
-/

namespace Issuer

open Rust Store

/-! ## Status -/

def KeyStatus.name : KeyStatus → String
  | .active => "active"
  | .deprecated => "deprecated"
  | .revoked => "revoked"
  | .disabled => "disabled"

def KeyStatus.ofName (s : String) : Option KeyStatus :=
  if s = "active" then some .active
  else if s = "deprecated" then some .deprecated
  else if s = "revoked" then some .revoked
  else if s = "disabled" then some .disabled
  else none

/-- A variant is a string, or an object with the variant as its only member. -/
def KeyStatus.ofJson : Json → Option KeyStatus
  | .str s => ofName s
  | .obj [(s, .null)] => ofName s
  | _ => none

def KeyStatus.debug : KeyStatus → String
  | .active => "Active"
  | .deprecated => "Deprecated"
  | .revoked => "Revoked"
  | .disabled => "Disabled"

/-! ## Records of the rotation module -/

structure SigningKeyRecord where
  version : String
  keyId : String
  privateKeyEncrypted : Option String
  publicKey : String
  createdAt : Int
  expiresAt : Int
  status : KeyStatus
  encrypted : Bool
deriving DecidableEq, Repr

namespace SigningKeyRecord

def toJson (r : SigningKeyRecord) : Json :=
  .obj ([("version", .str r.version), ("key_id", .str r.keyId)] ++
    (match r.privateKeyEncrypted with
      | some sk => [("private_key_encrypted", .str sk)]
      | none => []) ++
    [("public_key", .str r.publicKey), ("created_at", .num r.createdAt), ("expires_at", .num r.expiresAt),
      ("status", .str r.status.name), ("encrypted", .bool r.encrypted)])

def ofJson (j : Json) : Option SigningKeyRecord := do
  if !j.fits 8 then none
  let version ← j.required Json.asStr 0 ["version"]
  let keyId ← j.required Json.asStr 1 ["key_id"]
  let privateKeyEncrypted ← j.optional Json.asStr 2 ["private_key_encrypted"]
  let publicKey ← j.required Json.asStr 3 ["public_key"]
  let createdAt ← j.required (Json.asInt i64Min i64Max) 4 ["created_at"]
  let expiresAt ← j.required (Json.asInt i64Min i64Max) 5 ["expires_at"]
  let status ← j.required KeyStatus.ofJson 6 ["status"]
  let encrypted ← j.defaulted Json.asBool 7 ["encrypted"] true
  return { version, keyId, privateKeyEncrypted, publicKey, createdAt, expiresAt, status, encrypted }

def isExpired (r : SigningKeyRecord) (now : UInt64) : Bool := decide (nowEpochSecs now > r.expiresAt)

end SigningKeyRecord

/-! ## The namespace -/

/-- `ISSUER_KEYS`; keys are stored without a lifetime. -/
abbrev KeyKv := Table String (Cell Json)

def keyPrefix (issuerKid : String) : String := "issuer:" ++ issuerKid ++ ":key:"

def keyName (issuerKid slot : String) : String := keyPrefix issuerKid ++ slot

/-- The record of a stored text, as the rotation module reads it. -/
def parseRecord : Cell Json → Option SigningKeyRecord
  | .record j => SigningKeyRecord.ofJson j
  | .garbled => none

/-! ## Key pairs -/

structure RedJubjub where
  isSubgroupPoint : Bytes → Bool
  verificationKey : Bytes → Option Bytes

structure Keypair (J : RedJubjub) where
  sk : Vector UInt8 32
  vk : Vector UInt8 32
  valid : J.isSubgroupPoint vk.toList = true
  paired : J.verificationKey sk.toList = some vk.toList

/-! ## The signing key behind a slot -/

structure KeypairRecord where
  sk : String
  vk : Option String
  publicKey : Option String
  encrypted : Bool
  version : Option String
  status : KeyStatus
  validUntil : Int
deriving DecidableEq, Repr

def KeypairRecord.ofJson (j : Json) : Option KeypairRecord := do
  if !j.fits 7 then none
  let sk ← j.required Json.asStr 0 ["sk", "private_key_encrypted"]
  let vk ← j.defaulted (Json.nullable Json.asStr) 1 ["vk"] none
  let publicKey ← j.defaulted (Json.nullable Json.asStr) 2 ["public_key"] none
  let encrypted ← j.defaulted Json.asBool 3 ["encrypted"] false
  let version ← j.defaulted (Json.nullable Json.asStr) 4 ["version"] none
  let status ← j.defaulted KeyStatus.ofJson 5 ["status"] .active
  let validUntil ← j.defaulted (Json.asInt 0 u64Max) 6 ["valid_until"] 0
  return { sk, vk, publicKey, encrypted, version, status, validUntil }

def signingKeyAad (version : String) : Bytes := bytesOf ("provii-issuer:signing-key:" ++ version)

def decodeBase64 (s : String) : Except ApiError Bytes :=
  match Base64.decode s with
  | some bytes => .ok bytes
  | none => .error .base64

/-- The part of `get_signing_keypair` after the record has been parsed. -/
def KeypairRecord.open (A : AesGcm) (keypair : KeypairRecord) (kek : Except ApiError KekPair) (now : UInt64) :
    Except ApiError (Bytes × Bytes) := do
  if keypair.status ≠ .active then
    throw (.cryptoError s!"Signing key is not active (status: {keypair.status.debug})")
  if keypair.validUntil ≠ 0 ∧ nowEpochSecs now > keypair.validUntil then throw (.cryptoError "Signing key has expired")
  let some vkB64 := keypair.vk <|> keypair.publicKey
    | throw (.storageError "signing keypair record missing vk/public_key")
  let skEncrypted ← decodeBase64 keypair.sk
  let vk ← decodeBase64 vkB64
  if !keypair.encrypted then throw (.cryptoError "Unencrypted key material not supported")
  let kekPair ← kek
  let sk ← decryptWithKekFallback A kekPair skEncrypted (signingKeyAad (keypair.version.getD "v1"))
  return (sk, vk)

/-- `fails` says that the read of the slot does. -/
def getSigningKeypair (A : AesGcm) (fails : Bool) (issuerKid kid : String) (kek : Except ApiError KekPair) (now : UInt64)
    (kv : KeyKv) : Except ApiError (Bytes × Bytes) := do
  validateIdentifier kid "kid"
  if fails then throw (.storageError "Failed to get keypair")
  match kv[keyName issuerKid kid]? with
  | none => throw (.notFound s!"Keypair not found for kid: {kid}")
  | some .garbled => throw .json
  | some (.record j) =>
    match KeypairRecord.ofJson j with
    | none => throw .json
    | some keypair => keypair.open A kek now

/-- `get_public_key_only_with_config`, which insists on a `vk`. -/
def getPublicKeyOnly (fails : Bool) (issuerKid kid : String) (kv : KeyKv) : Except ApiError Bytes := do
  validateIdentifier kid "kid"
  if fails then throw (.storageError "Failed to get key")
  match kv[keyName issuerKid kid]? with
  | none => throw (.notFound s!"Key not found for kid: {kid}")
  | some .garbled => throw .json
  | some (.record j) =>
    match (if j.fits 1 then j.required Json.asStr 0 ["vk"] else none) with
    | none => throw .json
    | some vk => decodeBase64 vk

end Issuer
