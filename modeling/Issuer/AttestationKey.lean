import Issuer.BlindIssuance
import Issuer.KeyRotation

/-!
# Rotation of the attestation key (`rotate_attestation_key`)

The attestation key is the Ed25519 key that `default_kid` of the configuration names. A rotation
promotes a key whose two records are loaded already: `default_kid` becomes the new one and
`previous_kid` the old one. The same `default_kid` names the slot of the RedJubjub key in the JWKS.
-/

namespace Issuer

structure IssuerEd25519SigningKey where
  signingKey : Bytes
  encrypted : Bool
  status : KeyStatus
deriving DecidableEq, Repr

def getIssuerEd25519SigningKey (read : String → String → Except ApiError (Option IssuerEd25519SigningKey))
    (issuerId kid : String) : Except ApiError (Option IssuerEd25519SigningKey) := do
  validateIdentifier issuerId "issuer_id"
  validateIdentifier kid "kid"
  match ← read issuerId kid with
  | none => return none
  | some record =>
    if !record.encrypted then throw (.cryptoError "Unencrypted signing key material not supported")
    return some record

/-- One request and what it meets. `admission` is the outcome of admin authentication, nonce, limit
and body; the reads are those of the two Ed25519 namespaces. -/
structure AttestationRotation where
  newKid : String
  admission : Except ApiError Unit
  calls : LockCalls
  configFails : Bool
  verifyingKeys : String → String → Except ApiError (Option IssuerEd25519Key)
  signingKeys : String → String → Except ApiError (Option IssuerEd25519SigningKey)
  putFails : Bool

def attestationLock : String := "attestation_key_rotation"

def rotateAttestationKeyInner (r : AttestationRotation) (config : IssuerConfig) :
    Except ApiError (String × String) × IssuerConfig :=
  if r.configFails then (.error (.internal "Internal server error"), config)
  else if config.defaultKid = r.newKid then
    (.error (.badRequest "new_kid is already the active default_kid"), config)
  else
    match getIssuerEd25519Key r.verifyingKeys config.issuerId r.newKid with
    | .error _ => (.error (.internal "Internal server error"), config)
    | .ok none => (.error (.badRequest "new_kid has no verifying key loaded; load key material first"), config)
    | .ok (some _) =>
      match getIssuerEd25519SigningKey r.signingKeys config.issuerId r.newKid with
      | .error _ => (.error (.internal "Internal server error"), config)
      | .ok none => (.error (.badRequest "new_kid has no signing key loaded; load key material first"), config)
      | .ok (some _) =>
        if r.putFails then (.error (.internal "Internal server error"), config)
        else (.ok (config.defaultKid, r.newKid),
          { config with previousKid := some config.defaultKid, defaultKid := r.newKid })

/-- The lock is released whatever came of the rotation. -/
def rotateAttestationKey (r : AttestationRotation) (locks : ResourceShards) (config : IssuerConfig) :
    Except ApiError (String × String) × ResourceShards × IssuerConfig :=
  match r.admission, validateIdentifier r.newKid "new_kid" with
  | .error e, _ => (.error e, locks, config)
  | .ok (), .error _ => (.error (.badRequest "Invalid new_kid format"), locks, config)
  | .ok (), .ok () =>
    match acquireResourceLockWithTtl r.calls.faults r.calls.now r.calls.arm attestationLock r.calls.token
        maxLockTtlSeconds.toNat locks with
    | (.error _, locks) =>
      (.error (.serviceUnavailable "Attestation key rotation temporarily unavailable"), locks, config)
    | (.ok token, locks) =>
      let (result, config) := rotateAttestationKeyInner r config
      (result, releaseResourceLock r.calls.releaseFaults attestationLock token locks, config)

theorem rotateAttestationKey_config (r : AttestationRotation) (locks : ResourceShards) (config : IssuerConfig) :
    (rotateAttestationKey r locks config).2.2 = config ∨
      (rotateAttestationKey r locks config).2.2 =
        { config with previousKid := some config.defaultKid, defaultKid := r.newKid } := by
  have hinner : (rotateAttestationKeyInner r config).2 = config ∨
      (rotateAttestationKeyInner r config).2 =
        { config with previousKid := some config.defaultKid, defaultKid := r.newKid } := by
    unfold rotateAttestationKeyInner
    split
    · exact .inl rfl
    split
    · exact .inl rfl
    split
    · exact .inl rfl
    · exact .inl rfl
    split
    · exact .inl rfl
    · exact .inl rfl
    split
    · exact .inl rfl
    · exact .inr rfl
  unfold rotateAttestationKey
  split
  · exact .inl rfl
  · exact .inl rfl
  split
  · exact .inl rfl
  · exact hinner

end Issuer
