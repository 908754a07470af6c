import Issuer.SigningKey

/-!
# What the three readers make of a written record

The rotation module reads back what it writes. `get_signing_keypair` accepts a written record that
has its private key, and `VkOnly` accepts none: a written record has no `vk`.
-/

namespace Issuer

open Rust Store

@[simp] theorem KeyStatus.ofName_name (s : KeyStatus) : ofName s.name = some s := by
  cases s with
  | active | deprecated | revoked | disabled => rfl

namespace SigningKeyRecord

/-- The times are `i64` values. -/
def InRange (r : SigningKeyRecord) : Prop :=
  i64Min ≤ r.createdAt ∧ r.createdAt ≤ i64Max ∧ i64Min ≤ r.expiresAt ∧ r.expiresAt ≤ i64Max

theorem ofJson_toJson {r : SigningKeyRecord} (h : r.InRange) : ofJson r.toJson = some r := by
  obtain ⟨hc, hc', he, he'⟩ := h
  rcases r with ⟨version, keyId, sk, publicKey, createdAt, expiresAt, status, encrypted⟩
  cases sk with
  | none => simp_all [ofJson, toJson, Json.fits, Json.required, Json.optional, Json.defaulted, Json.get, Json.field,
      Json.asStr, Json.asBool, Json.asInt, KeyStatus.ofJson]
  | some sk => simp_all [ofJson, toJson, Json.fits, Json.required, Json.optional, Json.defaulted, Json.get, Json.field,
      Json.asStr, Json.asBool, Json.asInt, Json.nullable, KeyStatus.ofJson]

end SigningKeyRecord

theorem keypairRecord_toJson {r : SigningKeyRecord} {sk : String} (h : r.privateKeyEncrypted = some sk) :
    KeypairRecord.ofJson r.toJson =
      some ⟨sk, none, some r.publicKey, r.encrypted, some r.version, r.status, 0⟩ := by
  simp [KeypairRecord.ofJson, SigningKeyRecord.toJson, h, Json.fits, Json.required, Json.defaulted, Json.get,
    Json.field, Json.asStr, Json.asBool, Json.nullable, KeyStatus.ofJson]

theorem vkOnly_toJson (r : SigningKeyRecord) : r.toJson.required Json.asStr 0 ["vk"] = none := by
  rcases r with ⟨version, keyId, sk, publicKey, createdAt, expiresAt, status, encrypted⟩
  cases sk with
  | none => simp [SigningKeyRecord.toJson, Json.required, Json.get, Json.field]
  | some sk => simp [SigningKeyRecord.toJson, Json.required, Json.get, Json.field]

end Issuer
