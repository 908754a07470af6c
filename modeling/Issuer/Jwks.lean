import Issuer.AttestationKey

/-!
# Signing credentials and publishing the key

`blind_issuance` signs with the key that the rotation module selects: its `key_id` becomes the
credential's `kid`, and `get_signing_keypair` loads it by its `version`. The JWKS has one entry,
under `default_kid`, with the key that `get_public_key_only_with_config` finds in the slot of that
name.
-/

namespace Issuer

open Rust Store

/-! ## Signers -/

structure RjSigner where
  kid : String
  sk : Bytes
  vk : Bytes
  verifyOnly : Bool
deriving DecidableEq, Repr

def isAsciiControl (c : Char) : Bool := decide (c.toNat < 32 ∨ c.toNat = 127)

/-- The checks that `RjSigner::new` and `KeyManager::from_public_key` make of a kid. -/
def validateSignerKid (kid : String) : Except ApiError Unit :=
  if kid.isEmpty then .error (.cryptoError "kid must not be empty")
  else if kid.utf8ByteSize > 128 then .error (.cryptoError "kid exceeds maximum length (128 chars)")
  else if kid.toList.any isAsciiControl then .error (.cryptoError "kid contains disallowed control characters")
  else .ok ()

section
variable (J : RedJubjub)

def RjSigner.new (kid : String) (sk vk : Bytes) : Except ApiError RjSigner := do
  validateSignerKid kid
  if sk.length ≠ 32 ∨ vk.length ≠ 32 then throw (.cryptoError "Invalid key size")
  if !J.isSubgroupPoint vk then throw (.cryptoError "VK is not a valid Jubjub SubgroupPoint")
  match J.verificationKey sk with
  | none => throw (.cryptoError "SK is not a valid signing key")
  | some derivedVk =>
    if derivedVk ≠ vk then throw (.cryptoError "SK and VK are not a consistent keypair")
    return ⟨kid, sk, vk, false⟩

/-! ## The JWKS -/

structure KeyManager where
  keys : List RjSigner
deriving DecidableEq, Repr

def KeyManager.fromPublicKey (kid : String) (vk : Bytes) : Except ApiError KeyManager := do
  validateSignerKid kid
  if vk.length ≠ 32 then throw (.cryptoError "Invalid key size")
  if !J.isSubgroupPoint vk then throw (.cryptoError "VK is not a valid Jubjub SubgroupPoint")
  return ⟨[⟨kid, List.replicate 32 0, vk, true⟩]⟩

structure Jwk where
  kty : String
  crv : String
  kid : String
  use : String
  alg : String
  x : String
deriving DecidableEq, Repr

def KeyManager.getJwks (m : KeyManager) : List Jwk :=
  m.keys.map fun key => ⟨"OKP", "JUBJUB", key.kid, "sig", "RedJubjub", Base64.encode key.vk⟩

/-- `fails` says that the read of the key does. -/
def jwks (fails : Bool) (config : Except ApiError IssuerConfig) (kv : KeyKv) : Except ApiError (List Jwk) :=
  match config with
  | .error _ => .error (.internal "Internal server error")
  | .ok config =>
    match getPublicKeyOnly fails (extractIssuerKid config.issuerId) config.defaultKid kv with
    | .error _ => .error (.internal "Internal server error")
    | .ok vk =>
      match KeyManager.fromPublicKey J config.defaultKid vk with
      | .error _ => .error (.internal "Internal server error")
      | .ok keyManager => .ok keyManager.getJwks

/-! ## Signing -/

structure CredMsgV2 where
  v : Nat
  kid : String
  c : Bytes
  iat : Nat
  exp : Nat
  schema : String
deriving DecidableEq, Repr

/-- The signature library. -/
structure CredSig where
  signCredV2 : CredMsgV2 → (sk : Bytes) → Except String Bytes
  verifyCredV2 : CredMsgV2 → (signature vk : Bytes) → Except String Unit

structure SignedCredentialHeader where
  v : Nat
  kid : String
  issuerVk : Bytes
  sigRj : Bytes
  cBytes : Bytes
  iat : Nat
  exp : Nat
  schema : String
deriving DecidableEq, Repr

variable (S : CredSig)

def signCommitment (signer : RjSigner) (cBytes : Bytes) (iat exp : Nat) (schema : String) :
    Except ApiError SignedCredentialHeader := do
  if signer.verifyOnly then throw (.cryptoError "Cannot sign with a verify-only key manager")
  if schema.isEmpty then throw (.badRequest "Schema must not be empty")
  if schema.utf8ByteSize > 500 then throw (.badRequest "Schema exceeds maximum length")
  if iat ≥ exp then throw (.badRequest "iat must be before exp")
  if !J.isSubgroupPoint cBytes then throw (.cryptoError "Commitment is not a valid Jubjub SubgroupPoint")
  let credMsg : CredMsgV2 := ⟨2, signer.kid, cBytes, iat, exp, schema⟩
  match S.signCredV2 credMsg signer.sk with
  | .error e => throw (.cryptoError ("Signing failed: " ++ e))
  | .ok signature =>
    match S.verifyCredV2 credMsg signature signer.vk with
    | .error e => throw (.cryptoError ("Self-verify failed: " ++ e))
    | .ok () => return ⟨2, signer.kid, signer.vk, signature, cBytes, iat, exp, schema⟩

/-- Phases 9 and 10 of one `blind_issuance`. `commitment` is what the phases before came to, `terms`
are issue and expiry time and the schema after the checks against the policy. -/
structure SigningPhase where
  commitment : Except ApiError Bytes
  reads : KeyReads
  keypairFails : Bool
  kek : Except ApiError KekPair
  now : UInt64
  terms : Except ApiError (Nat × Nat × String)

variable (A : AesGcm)

def signCredential (p : SigningPhase) (issuerKid : String) (kv : KeyKv) : Except ApiError SignedCredentialHeader := do
  let cBytes ← p.commitment
  match getActiveSigningKey p.reads issuerKid p.now kv with
  | .error _ => throw (.internal "Signing key unavailable")
  | .ok activeKey =>
    match getSigningKeypair A p.keypairFails issuerKid activeKey.version p.kek p.now kv with
    | .error _ => throw (.internal "Internal server error")
    | .ok (sk, vk) =>
      match RjSigner.new J activeKey.keyId sk vk with
      | .error _ => throw (.internal "Internal server error")
      | .ok signer =>
        let (iat, exp, schema) ← p.terms
        match signCommitment J S signer cBytes iat exp schema with
        | .error _ => throw (.internal "Internal server error")
        | .ok header => return header

end

/-! ## Runs

The lock objects are in whatever state a step meets them.
-/

structure KeyWorld where
  config : IssuerConfig
  keys : KeyKv

def KeyWorld.issuerKid (w : KeyWorld) : String := extractIssuerKid w.config.issuerId

inductive KeyStep (J : RedJubjub) where
  | rotateSigningKey (locks : ResourceShards) (calls : LockCalls) (r : Rotation J)
  | rotateAttestationKey (locks : ResourceShards) (r : AttestationRotation)
  | blindIssuance (p : SigningPhase)

def KeyStep.apply {J : RedJubjub} (A : AesGcm) (w : KeyWorld) : KeyStep J → KeyWorld
  | .rotateSigningKey locks calls r => { w with keys := (Issuer.rotateSigningKey A calls r w.issuerKid locks w.keys).2.2 }
  | .rotateAttestationKey locks r => { w with config := (Issuer.rotateAttestationKey r locks w.config).2.2 }
  -- signing reads the keys only
  | .blindIssuance _ => w

/-- The step is a rotation of the signing key that gets its lock. -/
def KeyStep.rotates {J : RedJubjub} : KeyStep J → Bool
  | .rotateSigningKey locks calls _ => (acquireResourceLockWithTtl calls.faults calls.now calls.arm rotationLock
      calls.token maxLockTtlSeconds.toNat locks).1.isOk
  | _ => false

end Issuer
