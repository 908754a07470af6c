import Issuer.KekToolSound
import Issuer.Registration
import Issuer.SigningKeySound

/-!
# The tool's fields and the worker's registrations

The tool looks up members of the parsed text, the worker decodes the text into a registration. Where
a registration is stored as an object the two agree on the encrypted bytes (`members_of_officer`,
`members_of_client`), and a registration that the tool re-encrypts decodes to the same one with new
bytes (`officer_reencrypted`, `client_reencrypted`).
-/

namespace Issuer.Tool

open Rust Store Batch

/-! ## Encrypted members -/

def previousValue : Option Bytes → FieldValue
  | none => .absent
  | some data => .bytes .array data

/-- The members that officers and clients share, as the tool finds them. -/
structure HmacMembers (record : Table String Json) (hmacSecret : Bytes) (previousHmacSecret : Option Bytes) (encrypted : Bool) :
    Prop where
  secret : fieldValue record["hmac_secret"]? = .bytes .array hmacSecret
  previous : fieldValue record["previous_hmac_secret"]? = previousValue previousHmacSecret
  flag : encryptedFlag record = encrypted

theorem fieldValue_of_asBytes {v : Json} {data : Bytes} (h : v.asBytes = some data) :
    fieldValue (some v) = .bytes .array data := by
  cases v with
  | arr elements =>
    simp only [Json.asBytes] at h
    simp only [fieldValue, h]
  | _ => cases h

theorem fieldValue_required {members : List (String × Json)} {i : Nat} {n : String} {data : Bytes}
    (h : (Json.obj members).required Json.asBytes i [n] = some data) :
    fieldValue (Json.obj members).entries[n]? = .bytes .array data := by
  obtain ⟨v, hv, hdata⟩ := Json.required_obj h
  rw [hv]
  exact fieldValue_of_asBytes hdata

theorem fieldValue_optional {members : List (String × Json)} {i : Nat} {n : String} {data : Option Bytes}
    (h : (Json.obj members).optional Json.asBytes i [n] = some data) :
    fieldValue (Json.obj members).entries[n]? = previousValue data := by
  rcases Json.optional_obj h with ⟨hv, rfl⟩ | ⟨v, hv, hdata⟩
  · rw [hv]
    rfl
  · rw [hv]
    cases v with
    | null =>
      cases hdata
      rfl
    | arr elements =>
      simp only [Json.nullable, Option.map_eq_some_iff] at hdata
      obtain ⟨bytes, hbytes, rfl⟩ := hdata
      exact fieldValue_of_asBytes hbytes
    | _ => cases hdata

theorem encryptedFlag_defaulted {members : List (String × Json)} {i : Nat} {b : Bool}
    (h : (Json.obj members).defaulted Json.asBool i ["encrypted"] false = some b) :
    encryptedFlag (Json.obj members).entries = b := by
  unfold encryptedFlag
  rcases Json.defaulted_obj h with ⟨hv, rfl⟩ | ⟨v, hv, hb⟩
  · rw [hv]
    rfl
  · rw [hv, Option.bind_some, hb]
    rfl

/-! ## Decoding -/

/-- A decoded officer, field by field. -/
structure OfficerFields (j : Json) (o : OfficerRegistration) : Prop where
  fits : j.fits 9 = true
  officerId : j.required Json.asStr 0 ["officer_id"] = some o.officerId
  hmacSecret : j.required Json.asBytes 1 ["hmac_secret"] = some o.hmacSecret
  createdAt : j.required asI64 2 ["created_at"] = some o.createdAt
  lastUsed : j.optional asI64 3 ["last_used"] = some o.lastUsed
  active : j.required Json.asBool 4 ["active"] = some o.active
  encrypted : j.defaulted Json.asBool 5 ["encrypted"] false = some o.encrypted
  secretStatus : j.defaulted KeyStatus.ofJson 6 ["secret_status"] .active = some o.secretStatus
  previousHmacSecret : j.optional Json.asBytes 7 ["previous_hmac_secret"] = some o.previousHmacSecret
  role : j.defaulted Role.ofJson 8 ["role"] .issuer = some o.role

theorem officer_ofJson_iff {j : Json} {o : OfficerRegistration} : OfficerRegistration.ofJson j = some o ↔ OfficerFields j o := by
  constructor
  · intro h
    cases hf : j.fits 9 with
    | false =>
      simp only [OfficerRegistration.ofJson, hf, Bool.not_false, if_true] at h
      cases h
    | true =>
      simp only [OfficerRegistration.ofJson, hf, Bool.not_true, Bool.false_eq_true, if_false, Option.bind_eq_bind,
        Option.bind_eq_some_iff, Option.pure_def, Option.some.injEq] at h
      obtain ⟨_, h₁, _, h₂, _, h₃, _, h₄, _, h₅, _, h₆, _, h₇, _, h₈, _, h₉, rfl⟩ := h
      exact ⟨hf, h₁, h₂, h₃, h₄, h₅, h₆, h₇, h₈, h₉⟩
  · intro h
    simp only [OfficerRegistration.ofJson, h.fits, h.officerId, h.hmacSecret, h.createdAt, h.lastUsed, h.active, h.encrypted,
      h.secretStatus, h.previousHmacSecret, h.role]
    rfl

theorem members_of_officer {members : List (String × Json)} {o : OfficerRegistration}
    (h : OfficerRegistration.ofJson (.obj members) = some o) :
    HmacMembers (Json.obj members).entries o.hmacSecret o.previousHmacSecret o.encrypted := by
  have hfields := officer_ofJson_iff.mp h
  exact ⟨fieldValue_required hfields.hmacSecret, fieldValue_optional hfields.previousHmacSecret,
    encryptedFlag_defaulted hfields.encrypted⟩

structure ClientFields (j : Json) (c : ClientRegistration) : Prop where
  fits : j.fits 14 = true
  clientId : j.required Json.asStr 0 ["client_id"] = some c.clientId
  clientName : j.required Json.asStr 1 ["client_name"] = some c.clientName
  apiKeyHash : j.required Json.asBytes 2 ["api_key_hash"] = some c.apiKeyHash
  hmacSecret : j.required Json.asBytes 3 ["hmac_secret"] = some c.hmacSecret
  createdAt : j.required asI64 4 ["created_at"] = some c.createdAt
  lastUsed : j.optional asI64 5 ["last_used"] = some c.lastUsed
  rateLimit : j.required asU32 6 ["rate_limit"] = some c.rateLimit
  allowedSchemas : j.required asStrings 7 ["allowed_schemas"] = some c.allowedSchemas
  maxValidityDays : j.required asU32 8 ["max_validity_days"] = some c.maxValidityDays
  active : j.required Json.asBool 9 ["active"] = some c.active
  encrypted : j.defaulted Json.asBool 10 ["encrypted"] false = some c.encrypted
  secretStatus : j.defaulted KeyStatus.ofJson 11 ["secret_status"] .active = some c.secretStatus
  previousHmacSecret : j.optional Json.asBytes 12 ["previous_hmac_secret"] = some c.previousHmacSecret
  role : j.defaulted Role.ofJson 13 ["role"] .issuer = some c.role
  kvKey : c.kvKey = none

theorem client_ofJson_iff {j : Json} {c : ClientRegistration} : ClientRegistration.ofJson j = some c ↔ ClientFields j c := by
  constructor
  · intro h
    unfold ClientRegistration.ofJson at h
    cases hf : j.fits 14 with
    | false =>
      rw [hf] at h
      cases h
    | true =>
      rw [hf] at h
      obtain ⟨_, h₁, h⟩ := Option.bind_eq_some_iff.mp h
      obtain ⟨_, h₂, h⟩ := Option.bind_eq_some_iff.mp h
      obtain ⟨_, h₃, h⟩ := Option.bind_eq_some_iff.mp h
      obtain ⟨_, h₄, h⟩ := Option.bind_eq_some_iff.mp h
      obtain ⟨_, h₅, h⟩ := Option.bind_eq_some_iff.mp h
      obtain ⟨_, h₆, h⟩ := Option.bind_eq_some_iff.mp h
      obtain ⟨_, h₇, h⟩ := Option.bind_eq_some_iff.mp h
      obtain ⟨_, h₈, h⟩ := Option.bind_eq_some_iff.mp h
      obtain ⟨_, h₉, h⟩ := Option.bind_eq_some_iff.mp h
      obtain ⟨_, h₁₀, h⟩ := Option.bind_eq_some_iff.mp h
      obtain ⟨_, h₁₁, h⟩ := Option.bind_eq_some_iff.mp h
      obtain ⟨_, h₁₂, h⟩ := Option.bind_eq_some_iff.mp h
      obtain ⟨_, h₁₃, h⟩ := Option.bind_eq_some_iff.mp h
      obtain ⟨_, h₁₄, h⟩ := Option.bind_eq_some_iff.mp h
      cases h
      exact ⟨hf, h₁, h₂, h₃, h₄, h₅, h₆, h₇, h₈, h₉, h₁₀, h₁₁, h₁₂, h₁₃, h₁₄, rfl⟩
  · intro h
    unfold ClientRegistration.ofJson
    rw [h.fits, h.clientId, h.clientName, h.apiKeyHash, h.hmacSecret, h.createdAt, h.lastUsed, h.rateLimit, h.allowedSchemas,
      h.maxValidityDays, h.active, h.encrypted, h.secretStatus, h.previousHmacSecret, h.role]
    have hkey := h.kvKey
    cases c
    cases hkey
    rfl

theorem members_of_client {members : List (String × Json)} {c : ClientRegistration}
    (h : ClientRegistration.ofJson (.obj members) = some c) :
    HmacMembers (Json.obj members).entries c.hmacSecret c.previousHmacSecret c.encrypted ∧
      fieldValue (Json.obj members).entries["api_key_hash"]? = .bytes .array c.apiKeyHash := by
  have hfields := client_ofJson_iff.mp h
  exact ⟨⟨fieldValue_required hfields.hmacSecret, fieldValue_optional hfields.previousHmacSecret,
    encryptedFlag_defaulted hfields.encrypted⟩, fieldValue_required hfields.apiKeyHash⟩

/-! ## Re-encrypted registrations -/

theorem asBytes_of_fieldValue {v : Option Json} {data : Bytes} (h : fieldValue v = .bytes .array data) :
    ∃ j, v = some j ∧ j.asBytes = some data := by
  cases v with
  | none => cases h
  | some j =>
    refine ⟨j, rfl, ?_⟩
    cases j with
    | arr elements =>
      simp only [fieldValue] at h
      simp only [Json.asBytes]
      split at h
      · rename_i bytes hbytes
        cases h
        exact hbytes
      · cases h
    | str s =>
      simp only [fieldValue] at h
      split at h
      · cases h
      · cases h
    | _ => cases h

section
variable {A : AesGcm} {r : RotateKek}

theorem Rewrapped.decrypt {aad data data' plaintext : Bytes} (h : Rewrapped A r aad data data')
    (hold : decryptWithKek A r.oldKek data aad = .ok plaintext) : decryptWithKek A r.newKek data' aad = .ok plaintext := by
  obtain ⟨p, _, hp, _, hnew⟩ := h
  rw [(decryptWithKek_eq_ok.mp hold).2.2] at hp
  cases hp
  exact hnew

section
variable {j j' : Json} (hj : j.Distinct) (hj' : j'.Distinct)

include hj'

theorem required_reencrypted {n : String} (aad : Bytes) {data : Bytes} (i : Nat)
    (h : FieldReencrypted A r j.entries j'.entries ⟨n, .fixed aad, false⟩)
    (hdata : fieldValue j.entries[n]? = .bytes .array data) :
    ∃ data', j'.required Json.asBytes i [n] = some data' ∧ Rewrapped A r aad data data' := by
  rcases h with ⟨hopt, _⟩ | ⟨form, d, data', hd, hd', _, hre⟩
  · cases hopt
  · rw [hdata] at hd
    cases hd
    obtain ⟨v, hv, hbytes⟩ := asBytes_of_fieldValue hd'
    exact ⟨data', (Json.required_of_entries hj' _ i hv).trans hbytes, hre⟩

include hj

theorem optional_reencrypted {n : String} (aad : Bytes) {data : Option Bytes} (i : Nat)
    (h : FieldReencrypted A r j.entries j'.entries ⟨n, .fixed aad, true⟩)
    (hread : j.optional Json.asBytes i [n] = some data) (hdata : fieldValue j.entries[n]? = previousValue data) :
    ∃ data', j'.optional Json.asBytes i [n] = some data' ∧ Option.Rel (Rewrapped A r aad) data data' := by
  rcases h with ⟨_, habsent, hsame⟩ | ⟨form, d, data', hd, hd', _, hre⟩
  · cases data with
    | some d =>
      rw [hdata] at habsent
      cases habsent
    | none =>
      refine ⟨none, ?_, .none⟩
      rw [← hread]
      refine Json.optional_congr hj' hj _ i fun n' hn' => ?_
      rw [List.mem_singleton.mp hn']
      exact hsame
  · cases data with
    | none =>
      rw [hdata] at hd
      cases hd
    | some d₀ =>
      rw [hdata] at hd
      cases hd
      obtain ⟨v, hv, hbytes⟩ := asBytes_of_fieldValue hd'
      refine ⟨some data', ?_, .some hre⟩
      rw [Json.optional_of_entries hj' _ i hv]
      cases v with
      | arr elements => simp only [Json.nullable, hbytes, Option.map_some]
      | _ => cases hbytes

theorem officer_reencrypted {o : OfficerRegistration} (h : RecordReencrypted A r officersNs j.entries j'.entries)
    (ho : OfficerRegistration.ofJson j = some o) : ∃ hmacSecret previousHmacSecret,
      OfficerRegistration.ofJson j' = some { o with hmacSecret, previousHmacSecret } ∧
      Rewrapped A r sessionAad o.hmacSecret hmacSecret ∧
      Option.Rel (Rewrapped A r sessionAad) o.previousHmacSecret previousHmacSecret := by
  cases j with
  | obj members =>
    have hf := officer_ofJson_iff.mp ho
    have hm := members_of_officer ho
    obtain ⟨data, hdata, hre⟩ := required_reencrypted hj' sessionAad 1 (h.fields _ (by simp [officersNs, hmacFields])) hm.secret
    obtain ⟨prev, hprev, hrel⟩ := optional_reencrypted hj hj' sessionAad 7 (h.fields _ (by simp [officersNs, hmacFields]))
      hf.previousHmacSecret hm.previous
    have hsame : ∀ {n : String}, n ∉ ["hmac_secret", "previous_hmac_secret"] → ∀ n' ∈ [n],
        j'.entries[n']? = (Json.obj members).entries[n']? := by
      intro n hn n' hn'
      rw [List.mem_singleton.mp hn']
      exact h.others n hn
    have hfits : j'.fits 9 = true := by
      cases j' with
      | obj _ => rfl
      | _ => exact hj'.elim
    refine ⟨data, prev, officer_ofJson_iff.mpr ⟨hfits, ?_, hdata, ?_, ?_, ?_, ?_, ?_, hprev, ?_⟩, hre, hrel⟩
    · exact (Json.required_congr hj' hj _ 0 (hsame (by decide))).trans hf.officerId
    · exact (Json.required_congr hj' hj _ 2 (hsame (by decide))).trans hf.createdAt
    · exact (Json.optional_congr hj' hj _ 3 (hsame (by decide))).trans hf.lastUsed
    · exact (Json.required_congr hj' hj _ 4 (hsame (by decide))).trans hf.active
    · exact (Json.defaulted_congr hj' hj _ 5 (hsame (by decide)) _).trans hf.encrypted
    · exact (Json.defaulted_congr hj' hj _ 6 (hsame (by decide)) _).trans hf.secretStatus
    · exact (Json.defaulted_congr hj' hj _ 8 (hsame (by decide)) _).trans hf.role
  | _ => exact hj.elim

theorem client_reencrypted {c : ClientRegistration} (h : RecordReencrypted A r clientsNs j.entries j'.entries)
    (hc : ClientRegistration.ofJson j = some c) : ∃ hmacSecret previousHmacSecret apiKeyHash,
      ClientRegistration.ofJson j' = some { c with hmacSecret, previousHmacSecret, apiKeyHash } ∧
      Rewrapped A r sessionAad c.hmacSecret hmacSecret ∧
      Option.Rel (Rewrapped A r sessionAad) c.previousHmacSecret previousHmacSecret ∧
      Rewrapped A r apiKeyHashAad c.apiKeyHash apiKeyHash := by
  cases j with
  | obj members =>
    have hf := client_ofJson_iff.mp hc
    obtain ⟨hm, hmhash⟩ := members_of_client hc
    obtain ⟨data, hdata, hre⟩ := required_reencrypted hj' sessionAad 3 (h.fields _ (by simp [clientsNs, hmacFields])) hm.secret
    obtain ⟨prev, hprev, hrel⟩ := optional_reencrypted hj hj' sessionAad 12 (h.fields _ (by simp [clientsNs, hmacFields]))
      hf.previousHmacSecret hm.previous
    obtain ⟨hash, hhash, hrehash⟩ := required_reencrypted hj' apiKeyHashAad 2 (h.fields _ (by simp [clientsNs])) hmhash
    have hsame : ∀ {n : String}, n ∉ ["hmac_secret", "previous_hmac_secret", "api_key_hash"] → ∀ n' ∈ [n],
        j'.entries[n']? = (Json.obj members).entries[n']? := by
      intro n hn n' hn'
      rw [List.mem_singleton.mp hn']
      exact h.others n hn
    have hfits : j'.fits 14 = true := by
      cases j' with
      | obj _ => rfl
      | _ => exact hj'.elim
    refine ⟨data, prev, hash, client_ofJson_iff.mpr
      ⟨hfits, ?_, ?_, hhash, hdata, ?_, ?_, ?_, ?_, ?_, ?_, ?_, ?_, hprev, ?_, hf.kvKey⟩, hre, hrel, hrehash⟩
    · exact (Json.required_congr hj' hj _ 0 (hsame (by decide))).trans hf.clientId
    · exact (Json.required_congr hj' hj _ 1 (hsame (by decide))).trans hf.clientName
    · exact (Json.required_congr hj' hj _ 4 (hsame (by decide))).trans hf.createdAt
    · exact (Json.optional_congr hj' hj _ 5 (hsame (by decide))).trans hf.lastUsed
    · exact (Json.required_congr hj' hj _ 6 (hsame (by decide))).trans hf.rateLimit
    · exact (Json.required_congr hj' hj _ 7 (hsame (by decide))).trans hf.allowedSchemas
    · exact (Json.required_congr hj' hj _ 8 (hsame (by decide))).trans hf.maxValidityDays
    · exact (Json.required_congr hj' hj _ 9 (hsame (by decide))).trans hf.active
    · exact (Json.defaulted_congr hj' hj _ 10 (hsame (by decide)) _).trans hf.encrypted
    · exact (Json.defaulted_congr hj' hj _ 11 (hsame (by decide)) _).trans hf.secretStatus
    · exact (Json.defaulted_congr hj' hj _ 13 (hsame (by decide)) _).trans hf.role
  | _ => exact hj.elim

end

end

/-! ## Written registrations -/

structure OfficerInRange (o : OfficerRegistration) : Prop where
  createdAt : i64Min ≤ o.createdAt ∧ o.createdAt ≤ i64Max
  lastUsed : ∀ t ∈ o.lastUsed, i64Min ≤ t ∧ t ≤ i64Max

structure ClientInRange (c : ClientRegistration) : Prop where
  createdAt : i64Min ≤ c.createdAt ∧ c.createdAt ≤ i64Max
  lastUsed : ∀ t ∈ c.lastUsed, i64Min ≤ t ∧ t ≤ i64Max
  rateLimit : c.rateLimit ≤ u32Max
  maxValidityDays : c.maxValidityDays ≤ u32Max

theorem nowEpochSecs_range (now : UInt64) : i64Min ≤ nowEpochSecs now ∧ nowEpochSecs now ≤ i64Max := by
  have hsecs := secs_le now
  rw [nowEpochSecs_eq]
  simp only [i64Min, i64Max]
  omega

theorem asI64_range {j : Json} {n : Int} (h : asI64 j = some n) : i64Min ≤ n ∧ n ≤ i64Max := by
  cases j with
  | num m =>
    simp only [asI64, Json.asInt, Option.ite_none_right_eq_some, Option.some.injEq] at h
    exact h.2 ▸ h.1
  | _ => cases h

theorem asU32_range {j : Json} {n : Nat} (h : asU32 j = some n) : n ≤ u32Max := by
  cases j with
  | num m =>
    simp only [asU32, Json.asInt, Option.map_eq_some_iff, Option.ite_none_right_eq_some, Option.some.injEq] at h
    obtain ⟨_, ⟨hrange, rfl⟩, rfl⟩ := h
    omega
  | _ => cases h

/-- A decoded registration can be written with any time of use. -/
theorem officer_touched_inRange {j : Json} {o : OfficerRegistration} (h : OfficerRegistration.ofJson j = some o) (now : UInt64) :
    OfficerInRange { o with lastUsed := some (nowEpochSecs now) } := by
  obtain ⟨_, hcreated⟩ := Json.required_some (officer_ofJson_iff.mp h).createdAt
  exact ⟨asI64_range hcreated, fun t ht => Option.some.inj ht ▸ nowEpochSecs_range now⟩

theorem client_touched_inRange {j : Json} {c : ClientRegistration} (h : ClientRegistration.ofJson j = some c) (now : UInt64) :
    ClientInRange { c with lastUsed := some (nowEpochSecs now) } := by
  have hf := client_ofJson_iff.mp h
  obtain ⟨_, hcreated⟩ := Json.required_some hf.createdAt
  obtain ⟨_, hrate⟩ := Json.required_some hf.rateLimit
  obtain ⟨_, hdays⟩ := Json.required_some hf.maxValidityDays
  exact ⟨asI64_range hcreated, fun t ht => Option.some.inj ht ▸ nowEpochSecs_range now, asU32_range hrate, asU32_range hdays⟩

@[simp] theorem role_ofName_name (role : Role) : Role.ofName role.name = some role := by
  cases role with
  | admin | issuer | viewer => rfl

theorem nullable_optionalJson {t : Option Int} (h : ∀ s ∈ t, i64Min ≤ s ∧ s ≤ i64Max) :
    Json.nullable asI64 (optionalJson .num t) = some t := by
  cases t with
  | none => rfl
  | some t => simp [optionalJson, Json.nullable, asI64, Json.asInt, h t rfl]

theorem nullable_ofBytes (data : Bytes) : Json.nullable Json.asBytes (.ofBytes data) = some (some data) := by
  have h := Json.asBytes_ofBytes data
  simp only [Json.ofBytes] at h
  simp only [Json.ofBytes, Json.nullable, h, Option.map_some]

theorem asU32_num {n : Nat} (h : n ≤ u32Max) : asU32 (.num n) = some n := by
  have hn : (n : Int) ≤ u32Max := by omega
  simp [asU32, Json.asInt, hn]

theorem asStrings_map (strings : List String) : asStrings (.arr (strings.map .str)) = some strings := by
  simp only [asStrings]
  induction strings with
  | nil => rfl
  | cons s strings ih => simp [ih, Json.asStr]

theorem officer_ofJson_toJson {o : OfficerRegistration} (h : OfficerInRange o) : OfficerRegistration.ofJson o.toJson = some o := by
  rw [officer_ofJson_iff]
  have hlast := nullable_optionalJson h.lastUsed
  cases hp : o.previousHmacSecret with
  | none =>
    constructor <;> simp [OfficerRegistration.toJson, hp, optionalMember, Json.fits, Json.required, Json.optional, Json.defaulted,
      Json.get, Json.field, Json.asStr, Json.asBool, KeyStatus.ofJson, Role.ofJson, hlast]
    simp [asI64, Json.asInt, h.createdAt]
  | some data =>
    constructor <;> simp [OfficerRegistration.toJson, hp, optionalMember, Json.fits, Json.required, Json.optional, Json.defaulted,
      Json.get, Json.field, Json.asStr, Json.asBool, KeyStatus.ofJson, Role.ofJson, hlast, nullable_ofBytes]
    simp [asI64, Json.asInt, h.createdAt]

theorem client_ofJson_toJson {c : ClientRegistration} (h : ClientInRange c) (hkey : c.kvKey = none) :
    ClientRegistration.ofJson c.toJson = some c := by
  rw [client_ofJson_iff]
  have hlast := nullable_optionalJson h.lastUsed
  have hrate := asU32_num h.rateLimit
  have hdays := asU32_num h.maxValidityDays
  cases hp : c.previousHmacSecret with
  | none =>
    constructor <;> simp [ClientRegistration.toJson, hp, optionalMember, Json.fits, Json.required, Json.optional, Json.defaulted,
      Json.get, Json.field, Json.asStr, Json.asBool, KeyStatus.ofJson, Role.ofJson, hlast, hrate, hdays, asStrings_map, hkey]
    simp [asI64, Json.asInt, h.createdAt]
  | some data =>
    constructor <;> simp [ClientRegistration.toJson, hp, optionalMember, Json.fits, Json.required, Json.optional, Json.defaulted,
      Json.get, Json.field, Json.asStr, Json.asBool, KeyStatus.ofJson, Role.ofJson, hlast, hrate, hdays, asStrings_map, hkey,
      nullable_ofBytes]
    simp [asI64, Json.asInt, h.createdAt]

theorem officer_toJson_distinct (o : OfficerRegistration) : o.toJson.Distinct := by
  cases hp : o.previousHmacSecret with
  | none => simp [OfficerRegistration.toJson, hp, optionalMember, Json.Distinct]
  | some data => simp [OfficerRegistration.toJson, hp, optionalMember, Json.Distinct]

theorem client_toJson_distinct (c : ClientRegistration) : c.toJson.Distinct := by
  cases hp : c.previousHmacSecret with
  | none => simp [ClientRegistration.toJson, hp, optionalMember, Json.Distinct]
  | some data => simp [ClientRegistration.toJson, hp, optionalMember, Json.Distinct]

end Issuer.Tool
