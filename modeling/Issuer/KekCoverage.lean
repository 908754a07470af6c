import Issuer.KeyRotation
import Issuer.RegistrationSound
import Issuer.SandboxCred

/-!
# Which of the worker's records a rotation covers

The tool's table of fields and the worker's record types are kept apart. The tool does not know the
records of `store_encrypted_key`, which have no `sk`, nor clients of the sandbox, whose
`api_key_hash` is empty; one such record and the run fails. Where there is none, every reader of the
worker returns the same secrets under the new key as before (`rotateKek_covers_iff`).
-/

namespace Issuer.Tool

open Rust Store Batch

section
variable {A : AesGcm} {r : RotateKek}

@[simp] theorem fallback_alone (kek data aad : Bytes) :
    decryptWithKekFallback A ⟨kek, none⟩ data aad = decryptWithKek A kek data aad := by
  unfold decryptWithKekFallback
  cases h : decryptWithKek A kek data aad with
  | ok _ => rfl
  | error _ => rfl

def Sealed (A : AesGcm) (kek aad data : Bytes) : Prop := ∃ plaintext, decryptWithKek A kek data aad = .ok plaintext

theorem Rewrapped.decrypt_eq {aad data data' : Bytes} (h : Rewrapped A r aad data data') (hs : Sealed A r.oldKek aad data) :
    decryptWithKek A r.newKek data' aad = decryptWithKek A r.oldKek data aad := by
  obtain ⟨plaintext, hold⟩ := hs
  rw [hold, h.decrypt hold]

theorem mapM_rewrapped {aad : Bytes} {prev prev' : Option Bytes} (h : Option.Rel (Rewrapped A r aad) prev prev')
    (hs : ∀ data ∈ prev, Sealed A r.oldKek aad data) :
    prev'.mapM (fun data => decryptWithKek A r.newKek data aad) = prev.mapM fun data => decryptWithKek A r.oldKek data aad := by
  cases h with
  | none => rfl
  | some hre =>
    rename_i data data'
    simp only [Option.mapM_some]
    rw [hre.decrypt_eq (hs data rfl)]

/-! ## Officers and clients -/

theorem officer_open_rewrapped {o : OfficerRegistration} {hmacSecret : Bytes} {previousHmacSecret : Option Bytes}
    (h : Rewrapped A r sessionAad o.hmacSecret hmacSecret)
    (hprev : Option.Rel (Rewrapped A r sessionAad) o.previousHmacSecret previousHmacSecret)
    (hs : Sealed A r.oldKek sessionAad o.hmacSecret) (hsprev : ∀ data ∈ o.previousHmacSecret, Sealed A r.oldKek sessionAad data) :
    { o with hmacSecret, previousHmacSecret }.open A (.ok ⟨r.newKek, none⟩) = o.open A (.ok ⟨r.oldKek, none⟩) := by
  unfold OfficerRegistration.open
  simp only [Except.ok_bind, fallback_alone, h.decrypt_eq hs, mapM_rewrapped hprev hsprev]

def OfficerShaped (A : AesGcm) (kek : Bytes) (cell : Cell Json) : Prop :=
  ∃ j o, cell = .record j ∧ j.Distinct ∧ OfficerRegistration.ofJson j = some o ∧ o.encrypted = true ∧
    Sealed A kek sessionAad o.hmacSecret ∧ ∀ data ∈ o.previousHmacSecret, Sealed A kek sessionAad data

/-- Of a client the `api_key_hash` is either encrypted or, as the sandbox stores it, empty. -/
def ClientShaped (A : AesGcm) (kek : Bytes) (cell : Cell Json) : Prop :=
  ∃ j c, cell = .record j ∧ j.Distinct ∧ ClientRegistration.ofJson j = some c ∧ c.encrypted = true ∧
    Sealed A kek sessionAad c.hmacSecret ∧ (∀ data ∈ c.previousHmacSecret, Sealed A kek sessionAad data) ∧
    (c.apiKeyHash = [] ∨ Sealed A kek apiKeyHashAad c.apiKeyHash)

def SandboxShaped (cell : Cell Json) : Prop :=
  ∃ j c, cell = .record j ∧ ClientRegistration.ofJson j = some c ∧ c.apiKeyHash = []

theorem fieldOpens_required {kek aad data : Bytes} {record : Table String Json} {n : String} (hs : Sealed A kek aad data)
    (h : fieldValue record[n]? = .bytes .array data) : FieldOpens A kek record ⟨n, .fixed aad, false⟩ := by
  obtain ⟨plaintext, hplain⟩ := hs
  exact .inr ⟨.array, data, plaintext, h, (decryptWithKek_eq_ok.mp hplain).2.2⟩

theorem fieldOpens_optional {kek aad : Bytes} {data : Option Bytes} {record : Table String Json} {n : String}
    (hs : ∀ d ∈ data, Sealed A kek aad d) (h : fieldValue record[n]? = previousValue data) :
    FieldOpens A kek record ⟨n, .fixed aad, true⟩ := by
  cases data with
  | none => exact .inl ⟨rfl, h⟩
  | some d =>
    obtain ⟨plaintext, hplain⟩ := hs d rfl
    exact .inr ⟨.array, d, plaintext, h, (decryptWithKek_eq_ok.mp hplain).2.2⟩

theorem officer_opens {kek : Bytes} {cell : Cell Json} (h : OfficerShaped A kek cell) :
    ¬Skipped officersNs cell ∧ Opens A kek officersNs cell := by
  obtain ⟨j, o, rfl, hj, ho, hflag, hs, hsprev⟩ := h
  cases j with
  | obj members =>
    have hm := members_of_officer ho
    have hsession : officersNs.isSessionNs = false := by decide
    refine ⟨fun hskip => ?_, ?_⟩
    · rw [Skipped, hm.flag, hflag] at hskip
      exact absurd hskip.2.2 (by decide)
    · simp only [Opens, hsession, Bool.false_eq_true, if_false]
      intro field hfield
      simp only [officersNs, hmacFields, List.mem_cons, List.not_mem_nil, or_false] at hfield
      rcases hfield with rfl | rfl
      · exact fieldOpens_required hs hm.secret
      · exact fieldOpens_optional hsprev hm.previous
  | _ => exact hj.elim

theorem client_opens {kek : Bytes} {cell : Cell Json} (h : ClientShaped A kek cell) :
    ¬Skipped clientsNs cell ∧ (Opens A kek clientsNs cell ↔ ¬SandboxShaped cell) := by
  obtain ⟨j, c, rfl, hj, hc, hflag, hs, hsprev, hhash⟩ := h
  cases j with
  | obj members =>
    obtain ⟨hm, hmhash⟩ := members_of_client hc
    have hsession : clientsNs.isSessionNs = false := by decide
    refine ⟨fun hskip => ?_, ?_⟩
    · rw [Skipped, hm.flag, hflag] at hskip
      exact absurd hskip.2.2 (by decide)
    · simp only [Opens, hsession, Bool.false_eq_true, if_false]
      constructor
      · -- too short for a nonce, the empty hash cannot be opened
        rintro hopen ⟨j', c', hj', hc', hempty⟩
        cases hj'
        rw [hc] at hc'
        cases hc'
        rcases hopen ⟨"api_key_hash", .fixed apiKeyHashAad, false⟩ (by simp [clientsNs]) with ⟨hopt, _⟩ | ⟨_, data, _, hd, hplain⟩
        · cases hopt
        · rw [hmhash, hempty] at hd
          cases hd
          cases hplain
      · intro hsandbox field hfield
        have hsealed : Sealed A kek apiKeyHashAad c.apiKeyHash := by
          rcases hhash with hempty | hsealed
          · exact absurd ⟨_, c, rfl, hc, hempty⟩ hsandbox
          · exact hsealed
        simp only [clientsNs, hmacFields, List.cons_append, List.nil_append, List.mem_cons, List.not_mem_nil, or_false] at hfield
        rcases hfield with rfl | rfl | rfl
        · exact fieldOpens_required hs hm.secret
        · exact fieldOpens_optional hsprev hm.previous
        · exact fieldOpens_required hsealed hmhash
  | _ => exact hj.elim

def clientSecrets (x : Except ApiError (Option ClientRegistration)) : Except ApiError (Option (Bytes × Option Bytes)) :=
  x.map (·.map fun c => (c.hmacSecret, c.previousHmacSecret))

theorem getOfficerById_congr {kek kek' : Except ApiError KekPair} {kv kv' : Table String (Cell Json)} (fails : Bool)
    (issuerKid officerId : String)
    (h : (kv[officerKey issuerKid officerId]? = none ∧ kv'[officerKey issuerKid officerId]? = none) ∨
      ∃ j j' o o', kv[officerKey issuerKid officerId]? = some (.record j) ∧
        kv'[officerKey issuerKid officerId]? = some (.record j') ∧ OfficerRegistration.ofJson j = some o ∧
        OfficerRegistration.ofJson j' = some o' ∧ o'.open A kek' = o.open A kek) :
    getOfficerById A fails issuerKid officerId kek' kv' = getOfficerById A fails issuerKid officerId kek kv := by
  unfold getOfficerById
  rcases h with ⟨hn, hn'⟩ | ⟨j, j', o, o', hj, hj', ho, ho', hopen⟩
  · rw [hn, hn']
  · simp only [hj, hj', ho, ho', hopen]

theorem clientSecrets_rewrapped {C : ClientCrypto} (hC : C.gcm = A) (call : ClientCall) (clientId : String) {kv kv' : ClientKv}
    (h : ∀ key, (Store.get kv (secs call.lookup) key = none ∧ Store.get kv' (secs call.lookup) key = none) ∨
      ∃ c hmacSecret previousHmacSecret apiKeyHash, Store.get kv (secs call.lookup) key = some (.record c) ∧
        Store.get kv' (secs call.lookup) key = some (.record { c with hmacSecret, previousHmacSecret, apiKeyHash }) ∧
        Rewrapped A r sessionAad c.hmacSecret hmacSecret ∧
        Option.Rel (Rewrapped A r sessionAad) c.previousHmacSecret previousHmacSecret ∧
        Sealed A r.oldKek sessionAad c.hmacSecret ∧ ∀ data ∈ c.previousHmacSecret, Sealed A r.oldKek sessionAad data) :
    clientSecrets (getClientById C { call with kek := .ok ⟨r.newKek, none⟩ } clientId kv') =
      clientSecrets (getClientById C { call with kek := .ok ⟨r.oldKek, none⟩ } clientId kv) := by
  subst hC
  unfold getClientById readClient kvGet
  cases hid : validateIdentifier clientId "client_id" with
  | error e => rfl
  | ok _ =>
    cases hconfig : call.config with
    | error e => rfl
    | ok config =>
      cases hfails : call.lookupFails with
      | true => rfl
      | false =>
        simp only [Except.ok_bind, Bool.false_eq_true, if_false]
        rcases h (clientKey (extractIssuerKid config.issuerId) clientId) with ⟨hn, hn'⟩ | ⟨c, _, _, _, hc, hc', hre, hrel, hs, hsprev⟩
        · rw [hn, hn']
          rfl
        · simp only [hc, hc', Except.ok_bind, fallback_alone, hre.decrypt_eq hs, mapM_rewrapped hrel hsprev]
          generalize decryptWithKek C.gcm r.oldKek c.hmacSecret sessionAad = secret
          generalize c.previousHmacSecret.mapM (fun data => decryptWithKek C.gcm r.oldKek data sessionAad) = previous
          cases c.active with
          | false => rfl
          | true =>
            cases c.encrypted with
            | false => rfl
            | true => cases secret <;> cases previous <;> rfl

/-! ## Signing keys -/

structure KeypairFields (j : Json) (keypair : KeypairRecord) : Prop where
  fits : j.fits 7 = true
  sk : j.required Json.asStr 0 ["sk", "private_key_encrypted"] = some keypair.sk
  vk : j.defaulted (Json.nullable Json.asStr) 1 ["vk"] none = some keypair.vk
  publicKey : j.defaulted (Json.nullable Json.asStr) 2 ["public_key"] none = some keypair.publicKey
  encrypted : j.defaulted Json.asBool 3 ["encrypted"] false = some keypair.encrypted
  version : j.defaulted (Json.nullable Json.asStr) 4 ["version"] none = some keypair.version
  status : j.defaulted KeyStatus.ofJson 5 ["status"] .active = some keypair.status
  validUntil : j.defaulted (Json.asInt 0 u64Max) 6 ["valid_until"] 0 = some keypair.validUntil

theorem keypair_ofJson_iff {j : Json} {keypair : KeypairRecord} : KeypairRecord.ofJson j = some keypair ↔ KeypairFields j keypair := by
  constructor
  · intro h
    unfold KeypairRecord.ofJson at h
    cases hf : j.fits 7 with
    | false =>
      rw [hf] at h
      cases h
    | true =>
      rw [hf] at h
      obtain ⟨_, h₁, h⟩ := Option.bind_eq_some_iff.mp h
      obtain ⟨_, h₂, h⟩ := Option.bind_eq_some_iff.mp h
      obtain ⟨_, h₃, h⟩ := Option.bind_eq_some_iff.mp h
      obtain ⟨_, h₄, h⟩ := Option.bind_eq_some_iff.mp h
      obtain ⟨_, h₅, h⟩ := Option.bind_eq_some_iff.mp h
      obtain ⟨_, h₆, h⟩ := Option.bind_eq_some_iff.mp h
      obtain ⟨_, h₇, h⟩ := Option.bind_eq_some_iff.mp h
      cases h
      exact ⟨hf, h₁, h₂, h₃, h₄, h₅, h₆, h₇⟩
  · intro h
    unfold KeypairRecord.ofJson
    rw [h.fits, h.sk, h.vk, h.publicKey, h.encrypted, h.version, h.status, h.validUntil]
    rfl

/-- Tool and worker take the AAD from the same version. -/
theorem keypair_aad {members : List (String × Json)} {keypair : KeypairRecord} (h : KeypairFields (.obj members) keypair) :
    AadSource.signingKeyVersion.bytes (Json.obj members).entries = signingKeyAad (keypair.version.getD "v1") := by
  rcases Json.defaulted_obj h.version with ⟨hv, hnone⟩ | ⟨v, hv, hversion⟩
  · rw [AadSource.bytes, hv, hnone]
    rfl
  · rw [AadSource.bytes, hv]
    cases v with
    | null =>
      simp only [Json.nullable, Option.some.injEq] at hversion
      rw [← hversion]
      rfl
    | str s =>
      simp only [Json.nullable, Json.asStr, Option.map_some, Option.some.injEq] at hversion
      rw [← hversion]
      rfl
    | _ => cases hversion

/-- A key as it is onboarded: `sk`, `vk` and `public_key`. -/
def OnboardingShaped (A : AesGcm) (kek : Bytes) (cell : Cell Json) : Prop :=
  ∃ j keypair data, cell = .record j ∧ j.Distinct ∧ KeypairRecord.ofJson j = some keypair ∧
    j.entries["sk"]? = some (.str keypair.sk) ∧ keypair.vk.isSome ∧ keypair.publicKey.isSome ∧ keypair.encrypted = true ∧
    Base64.decode keypair.sk = some data ∧ Sealed A kek (signingKeyAad (keypair.version.getD "v1")) data

/-- A key as `store_encrypted_key` writes it: `private_key_encrypted` and `public_key`. -/
def StoredShaped (A : AesGcm) (kek : Bytes) (cell : Cell Json) : Prop :=
  ∃ (record : SigningKeyRecord) (sk : String) (data : Bytes), cell = .record record.toJson ∧ record.privateKeyEncrypted = some sk ∧
    record.encrypted = true ∧ Base64.decode sk = some data ∧ Sealed A kek (signingKeyAad record.version) data

theorem fieldValue_str {s : String} {data : Bytes} (h : Base64.decode s = some data) :
    fieldValue (some (.str s)) = .bytes .text data := by
  simp only [fieldValue, h]

theorem str_of_fieldValue {v : Option Json} {data : Bytes} (h : fieldValue v = .bytes .text data) :
    ∃ s, v = some (.str s) ∧ Base64.decode s = some data := by
  cases v with
  | none => cases h
  | some j =>
    cases j with
    | str s =>
      refine ⟨s, rfl, ?_⟩
      simp only [fieldValue] at h
      split at h
      · rename_i bytes hbytes
        cases h
        exact hbytes
      · cases h
    | arr elements =>
      simp only [fieldValue] at h
      split at h
      · cases h
      · cases h
    | _ => cases h

theorem onboarding_opens {kek : Bytes} {cell : Cell Json} (h : OnboardingShaped A kek cell) :
    ¬Skipped signingKeysNs cell ∧ Opens A kek signingKeysNs cell := by
  obtain ⟨j, keypair, data, rfl, hj, hk, hsk, _, _, hflag, hdata, plaintext, hplain⟩ := h
  cases j with
  | obj members =>
    have hf := keypair_ofJson_iff.mp hk
    have hsession : signingKeysNs.isSessionNs = false := by decide
    refine ⟨fun hskip => ?_, ?_⟩
    · rw [Skipped, encryptedFlag_defaulted hf.encrypted, hflag] at hskip
      exact absurd hskip.2.2 (by decide)
    · simp only [Opens, hsession, Bool.false_eq_true, if_false]
      intro field hfield
      simp only [signingKeysNs, List.mem_cons, List.not_mem_nil, or_false] at hfield
      rw [hfield]
      refine .inr ⟨.text, data, plaintext, ?_, ?_⟩
      · rw [hsk]
        exact fieldValue_str hdata
      · rw [keypair_aad hf]
        exact (decryptWithKek_eq_ok.mp hplain).2.2
  | _ => exact hj.elim

theorem stored_refused {kek : Bytes} {cell : Cell Json} (h : StoredShaped A kek cell) :
    ¬Skipped signingKeysNs cell ∧ ¬Opens A kek signingKeysNs cell := by
  obtain ⟨record, sk, data, rfl, hsk, hflag, -, -⟩ := h
  have hsession : signingKeysNs.isSessionNs = false := by decide
  have hnone : record.toJson.entries["sk"]? = none := by
    simp only [SigningKeyRecord.toJson, hsk]
    exact Json.entries_get_none (by simp)
  have hflagged : encryptedFlag record.toJson.entries = true := by
    have hlast : record.toJson.entries["encrypted"]? = some (.bool record.encrypted) := by
      simp only [SigningKeyRecord.toJson, hsk, Json.entries, List.cons_append, List.nil_append, List.foldl_cons, List.foldl_nil]
      rw [insert_get, if_pos rfl]
    rw [encryptedFlag, hlast, hflag]
    rfl
  refine ⟨fun hskip => ?_, fun hopen => ?_⟩
  · rw [Skipped, hflagged] at hskip
    exact absurd hskip.2.2 (by decide)
  · simp only [Opens, hsession, Bool.false_eq_true, if_false] at hopen
    rcases hopen ⟨"sk", .signingKeyVersion, false⟩ (by simp [signingKeysNs]) with ⟨hopt, _⟩ | ⟨_, _, _, hd, _⟩
    · cases hopt
    · rw [hnone] at hd
      cases hd

theorem keypair_reencrypted {j j' : Json} (hj : j.Distinct) (hj' : j'.Distinct) {keypair : KeypairRecord} {data : Bytes}
    (h : RecordReencrypted A r signingKeysNs j.entries j'.entries) (hk : KeypairRecord.ofJson j = some keypair)
    (hsk : j.entries["sk"]? = some (.str keypair.sk)) (hdata : Base64.decode keypair.sk = some data) :
    ∃ sk data', KeypairRecord.ofJson j' = some { keypair with sk } ∧ Base64.decode sk = some data' ∧
      Rewrapped A r (signingKeyAad (keypair.version.getD "v1")) data data' := by
  cases j with
  | obj members =>
    have hf := keypair_ofJson_iff.mp hk
    have hsame : ∀ {n : String}, n ∉ ["sk"] → ∀ n' ∈ [n], j'.entries[n']? = (Json.obj members).entries[n']? := by
      intro n hn n' hn'
      rw [List.mem_singleton.mp hn']
      exact h.others n hn
    have halias : (Json.obj members).entries["private_key_encrypted"]? = none := by
      obtain ⟨v, hv, _⟩ := Option.bind_eq_some_iff.mp hf.sk
      cases v with
      | none => exact Json.field_eq_none hv (by simp)
      | some v =>
        obtain ⟨n, hn, _, hothers⟩ := Json.field_eq_some hv
        by_cases he : n = "private_key_encrypted"
        · rw [hothers "sk" (by simp) (by rw [he]; decide)] at hsk
          cases hsk
        · exact hothers _ (by simp) (Ne.symm he)
    rcases h.fields ⟨"sk", .signingKeyVersion, false⟩ (by simp [signingKeysNs]) with ⟨hopt, _⟩ | ⟨form, d, data', hd, hd', _, hre⟩
    · cases hopt
    · rw [hsk, fieldValue_str hdata] at hd
      cases hd
      obtain ⟨sk', hsk', hdata'⟩ := str_of_fieldValue hd'
      have hfits : j'.fits 7 = true := by
        cases j' with
        | obj _ => rfl
        | _ => exact hj'.elim
      rw [keypair_aad hf] at hre
      refine ⟨sk', data', keypair_ofJson_iff.mpr ⟨hfits, ?_, ?_, ?_, ?_, ?_, ?_, ?_⟩, hdata', hre⟩
      · have hget : j'.get 0 ["sk", "private_key_encrypted"] = some (some (.str sk')) := by
          refine Json.get_of_entries hj' 0 (by simp) hsk' fun n hn hne => ?_
          have hn' : n = "private_key_encrypted" := by
            simp only [List.mem_cons, List.not_mem_nil, or_false] at hn
            exact hn.resolve_left hne
          rw [hn']
          exact (h.others "private_key_encrypted" (by decide)).trans halias
        simp only [Json.required, hget, Option.bind_some, Json.asStr]
      · exact (Json.defaulted_congr hj' hj _ 1 (hsame (by decide)) _).trans hf.vk
      · exact (Json.defaulted_congr hj' hj _ 2 (hsame (by decide)) _).trans hf.publicKey
      · exact (Json.defaulted_congr hj' hj _ 3 (hsame (by decide)) _).trans hf.encrypted
      · exact (Json.defaulted_congr hj' hj _ 4 (hsame (by decide)) _).trans hf.version
      · exact (Json.defaulted_congr hj' hj _ 5 (hsame (by decide)) _).trans hf.status
      · exact (Json.defaulted_congr hj' hj _ 6 (hsame (by decide)) _).trans hf.validUntil
  | _ => exact hj.elim

theorem keypair_open_rewrapped {keypair : KeypairRecord} {sk : String} {data data' : Bytes}
    (hdata : Base64.decode keypair.sk = some data) (hdata' : Base64.decode sk = some data')
    (h : Rewrapped A r (signingKeyAad (keypair.version.getD "v1")) data data')
    (hs : Sealed A r.oldKek (signingKeyAad (keypair.version.getD "v1")) data) (now : UInt64) :
    { keypair with sk }.open A (.ok ⟨r.newKek, none⟩) now = keypair.open A (.ok ⟨r.oldKek, none⟩) now := by
  unfold KeypairRecord.open
  simp only [decodeBase64, hdata, hdata', Except.ok_bind, fallback_alone, h.decrypt_eq hs]

/-- A record of `store_encrypted_key`. -/
theorem sealKey_storedShaped (hA : A.Lawful) {gcmNonce : Vector UInt8 12} {kekPair : KekPair} {key record : SigningKeyRecord}
    {privateKey : Bytes} (h : sealKey A gcmNonce (.ok kekPair) key privateKey = .ok record) (hflag : key.encrypted = true) :
    StoredShaped A kekPair.current (.record record.toJson) := by
  simp only [sealKey, Except.ok_bind, Except.bind_eq_ok, Except.pure_eq_ok] at h
  obtain ⟨encryptedSk, henc, rfl⟩ := h
  exact ⟨_, Base64.encode encryptedSk, encryptedSk, rfl, rfl, hflag, Base64.decode_encode _, privateKey,
    decryptWithKek_encrypt hA henc⟩

/-- A client of `register_test_issuer`. -/
theorem mint_sandboxShaped (hA : A.Lawful) {m : MintRequest} {kek hmacSecretEncrypted : Bytes}
    (h : encryptWithKek A m.gcmNonce kek m.hmacSecret.toList sessionAad = .ok hmacSecretEncrypted) :
    ClientShaped A kek (.record (m.record hmacSecretEncrypted).toJson) ∧
      SandboxShaped (.record (m.record hmacSecretEncrypted).toJson) := by
  have hsecs := secs_le m.now
  have hrange : ClientInRange (m.record hmacSecretEncrypted) := by
    refine ⟨?_, ?_, ?_, ?_⟩
    · simp only [MintRequest.record, nowEpochSecs_eq, i64Min, i64Max]
      omega
    · intro t ht
      cases ht
    · simp [MintRequest.record, u32Max]
    · simp [MintRequest.record, u32Max]
  have hread := client_ofJson_toJson hrange rfl
  refine ⟨⟨_, _, rfl, client_toJson_distinct _, hread, rfl, ⟨_, decryptWithKek_encrypt hA h⟩, ?_, .inl rfl⟩, _, _, rfl, hread, rfl⟩
  intro data hdata
  cases hdata

/-! ## The three namespaces -/

/-- Namespaces filled by the onboarding and by the worker, every secret of which is encrypted under
the old key. -/
structure WorkerContent (A : AesGcm) (r : RotateKek) (store : KvStore) : Prop where
  keys : ∀ (key : String) (cell : Cell Json), (store .keys)[key]? = some cell →
    hasPrefix "issuer:" key = true ∧ (OnboardingShaped A r.oldKek cell ∨ StoredShaped A r.oldKek cell)
  officers : ∀ (key : String) (cell : Cell Json), (store .officers)[key]? = some cell → hasPrefix "issuer:" key = true ∧ OfficerShaped A r.oldKek cell
  clients : ∀ (key : String) (cell : Cell Json), (store .clients)[key]? = some cell → hasPrefix "issuer:" key = true ∧ ClientShaped A r.oldKek cell
  ed25519 : ∀ (key : String) (cell : Cell Json), (store .ed25519SigningKeys)[key]? = some cell → Opens A r.oldKek ed25519SigningKeysNs cell
  sessions : ∀ (key : String) (cell : Cell Json), (store .sessions)[key]? = some cell → Opens A r.oldKek sessionsNs cell

/-- The run succeeds, and under the new key alone the readers return the secrets they returned before. -/
structure Covers (A : AesGcm) (r : RotateKek) (store : KvStore) : Prop where
  ok : (runKek A r store).1 = .ok ()
  keypairs : ∀ fails issuerKid kid now,
    getSigningKeypair A fails issuerKid kid (.ok ⟨r.newKek, none⟩) now ((runKek A r store).2 .keys) =
      getSigningKeypair A fails issuerKid kid (.ok ⟨r.oldKek, none⟩) now (store .keys)
  officers : ∀ fails issuerKid officerId,
    getOfficerById A fails issuerKid officerId (.ok ⟨r.newKek, none⟩) ((runKek A r store).2 .officers) =
      getOfficerById A fails issuerKid officerId (.ok ⟨r.oldKek, none⟩) (store .officers)
  clients : ∀ C : ClientCrypto, C.gcm = A → ∀ (call : ClientCall) clientId,
    clientSecrets (getClientById C { call with kek := .ok ⟨r.newKek, none⟩ } clientId (clientsOf ((runKek A r store).2 .clients))) =
      clientSecrets (getClientById C { call with kek := .ok ⟨r.oldKek, none⟩ } clientId (clientsOf (store .clients)))

section
variable (hA : A.Lawful) (hrotate : r.verifyOnly = false) (hold : r.oldKek.length = 32) (hnew : r.newKek.length = 32)
  (store : KvStore) (ns : EncryptedNamespace) (hns : ns ∈ encryptedNamespaces r.includeSessions)
  (hc : r.configured ns.namespaceId = true) (hopen : ¬Refuses A r store ns)

include hA hrotate hold hnew

omit ns in
theorem runKek_ok_iff_opens : (runKek A r store).1 = .ok () ↔
    ∀ ns ∈ encryptedNamespaces r.includeSessions, r.configured ns.namespaceId = true → ¬Refuses A r store ns := by
  rw [runKek_ok_iff store hold hnew]
  refine forall_congr' fun ns => forall_congr' fun hns => forall_congr' fun _ => ?_
  exact nsFailed_eq_nil_iff store hnew hA hrotate (wellFormed_of_mem hns)

include hns hc hopen

/-- What the run leaves at a key of a namespace that opens. -/
theorem runKek_get (hstarts : ∀ (key : String) (cell : Cell Json), (store ns.namespaceId)[key]? = some cell → hasPrefix ns.keyPrefix key = true)
    (hflag : ∀ (key : String) (cell : Cell Json), (store ns.namespaceId)[key]? = some cell → ¬Skipped ns cell) (key : String) :
    (store ns.namespaceId)[key]? = none ∧ ((runKek A r store).2 ns.namespaceId)[key]? = none ∨
      ∃ cell cell', (store ns.namespaceId)[key]? = some cell ∧ ((runKek A r store).2 ns.namespaceId)[key]? = some cell' ∧
        Reencrypted A r ns cell cell' := by
  cases hget : (store ns.namespaceId)[key]? with
  | none =>
    refine .inl ⟨rfl, ?_⟩
    rw [runKek_get_of_not_put store (not_put_of_skipped store hold hnew hA hrotate hns fun cell hl => ?_), hget]
    rw [hl.1] at hget
    cases hget
  | some cell =>
    obtain ⟨cell', hput, hre⟩ := put_of_listed store hold hnew hA hrotate hns hc hopen ⟨hget, hstarts key cell hget⟩
      (hflag key cell hget)
    exact .inr ⟨cell, cell', rfl, runKek_get_of_put store hold hnew hput, hre⟩

end

section
variable {store : KvStore} (hcontent : WorkerContent A r store)

include hcontent

theorem keys_refuse_iff : Refuses A r store signingKeysNs ↔ ∃ (key : String) (cell : Cell Json),
    (store .keys)[key]? = some cell ∧ StoredShaped A r.oldKek cell := by
  constructor
  · rintro ⟨key, cell, hl, _, hno⟩
    rcases (hcontent.keys key cell hl.1).2 with h | h
    · exact absurd (onboarding_opens h).2 hno
    · exact ⟨key, cell, hl.1, h⟩
  · rintro ⟨key, cell, hget, h⟩
    exact ⟨key, cell, ⟨hget, (hcontent.keys key cell hget).1⟩, (stored_refused h).1, (stored_refused h).2⟩

theorem clients_refuse_iff : Refuses A r store clientsNs ↔ ∃ (key : String) (cell : Cell Json),
    (store .clients)[key]? = some cell ∧ SandboxShaped cell := by
  constructor
  · rintro ⟨key, cell, hl, _, hno⟩
    refine ⟨key, cell, hl.1, ?_⟩
    by_contra hs
    exact hno ((client_opens (hcontent.clients key cell hl.1).2).2.mpr hs)
  · rintro ⟨key, cell, hget, h⟩
    obtain ⟨hskip, hopen⟩ := client_opens (hcontent.clients key cell hget).2
    exact ⟨key, cell, ⟨hget, (hcontent.clients key cell hget).1⟩, hskip, fun ho => hopen.mp ho h⟩

theorem refuses_of_mem {ns : EncryptedNamespace} (hns : ns ∈ encryptedNamespaces r.includeSessions) (h : Refuses A r store ns) :
    ns = signingKeysNs ∨ ns = clientsNs := by
  have hmem : ns = signingKeysNs ∨ ns = officersNs ∨ ns = clientsNs ∨ ns = ed25519SigningKeysNs ∨ ns = sessionsNs := by
    simpa [encryptedNamespaces] using mem_encryptedNamespaces_true hns
  obtain ⟨key, cell, hl, _, hno⟩ := h
  rcases hmem with rfl | rfl | rfl | rfl | rfl
  · exact .inl rfl
  · exact absurd (officer_opens (hcontent.officers key cell hl.1).2).2 hno
  · exact .inr rfl
  · exact absurd (hcontent.ed25519 key cell hl.1) hno
  · exact absurd (hcontent.sessions key cell hl.1) hno

end

section
variable (hA : A.Lawful) (hrotate : r.verifyOnly = false) (hold : r.oldKek.length = 32) (hnew : r.newKek.length = 32)
  {store : KvStore} (hcontent : WorkerContent A r store)

include hA hrotate hold hnew hcontent

theorem keypairs_same (hc : r.configured .keys = true) (hopen : ¬Refuses A r store signingKeysNs) (fails : Bool)
    (issuerKid kid : String) (now : UInt64) :
    getSigningKeypair A fails issuerKid kid (.ok ⟨r.newKek, none⟩) now ((runKek A r store).2 .keys) =
      getSigningKeypair A fails issuerKid kid (.ok ⟨r.oldKek, none⟩) now (store .keys) := by
  have hshape : ∀ (key : String) (cell : Cell Json), (store .keys)[key]? = some cell → OnboardingShaped A r.oldKek cell :=
    fun key cell hget => (hcontent.keys key cell hget).2.resolve_right fun h =>
      hopen ((keys_refuse_iff hcontent).mpr ⟨key, cell, hget, h⟩)
  have hget := runKek_get hA hrotate hold hnew store signingKeysNs (by simp [encryptedNamespaces]) hc hopen
    (fun key cell hget => (hcontent.keys key cell hget).1) (fun key cell hget => (onboarding_opens (hshape key cell hget)).1)
    (keyName issuerKid kid)
  rw [show signingKeysNs.namespaceId = .keys from rfl] at hget
  unfold getSigningKeypair
  rcases hget with ⟨hn, hn'⟩ | ⟨cell, cell', hcell, hcell', hre⟩
  · rw [hn, hn']
  · obtain ⟨j, keypair, data, rfl, hj, hk, hsk, _, _, _, hdata, hs⟩ := hshape _ cell hcell
    cases cell' with
    | garbled => exact hre.elim
    | record j' =>
      have hsession : signingKeysNs.isSessionNs = false := by decide
      simp only [Reencrypted, hsession, Bool.false_eq_true, if_false] at hre
      obtain ⟨sk, data', hk', hdata', hre⟩ := keypair_reencrypted hj hre.1 hre.2 hk hsk hdata
      simp only [hcell, hcell', hk, hk', keypair_open_rewrapped hdata hdata' hre hs]

theorem officers_same (hc : r.configured .officers = true) (hopen : ¬Refuses A r store officersNs) (fails : Bool)
    (issuerKid officerId : String) :
    getOfficerById A fails issuerKid officerId (.ok ⟨r.newKek, none⟩) ((runKek A r store).2 .officers) =
      getOfficerById A fails issuerKid officerId (.ok ⟨r.oldKek, none⟩) (store .officers) := by
  have hget := runKek_get hA hrotate hold hnew store officersNs (by simp [encryptedNamespaces]) hc hopen
    (fun key cell hget => (hcontent.officers key cell hget).1)
    (fun key cell hget => (officer_opens (hcontent.officers key cell hget).2).1) (officerKey issuerKid officerId)
  rw [show officersNs.namespaceId = .officers from rfl] at hget
  refine getOfficerById_congr fails issuerKid officerId ?_
  rcases hget with hnone | ⟨cell, cell', hcell, hcell', hre⟩
  · exact .inl hnone
  · obtain ⟨j, o, rfl, hj, ho, _, hs, hsprev⟩ := (hcontent.officers _ cell hcell).2
    cases cell' with
    | garbled => exact hre.elim
    | record j' =>
      have hsession : officersNs.isSessionNs = false := by decide
      simp only [Reencrypted, hsession, Bool.false_eq_true, if_false] at hre
      obtain ⟨_, _, ho', hsecret, hprev⟩ := officer_reencrypted hj hre.1 hre.2 ho
      exact .inr ⟨j, j', o, _, hcell, hcell', ho, ho', officer_open_rewrapped hsecret hprev hs hsprev⟩

theorem clients_same (hc : r.configured .clients = true) (hopen : ¬Refuses A r store clientsNs) {C : ClientCrypto}
    (hC : C.gcm = A) (call : ClientCall) (clientId : String) :
    clientSecrets (getClientById C { call with kek := .ok ⟨r.newKek, none⟩ } clientId (clientsOf ((runKek A r store).2 .clients))) =
      clientSecrets (getClientById C { call with kek := .ok ⟨r.oldKek, none⟩ } clientId (clientsOf (store .clients))) := by
  refine clientSecrets_rewrapped hC call clientId fun key => ?_
  have hget := runKek_get hA hrotate hold hnew store clientsNs (by simp [encryptedNamespaces]) hc hopen
    (fun key cell hget => (hcontent.clients key cell hget).1)
    (fun key cell hget => (client_opens (hcontent.clients key cell hget).2).1) key
  rw [show clientsNs.namespaceId = .clients from rfl] at hget
  rw [clientsOf_get, clientsOf_get]
  rcases hget with ⟨hn, hn'⟩ | ⟨cell, cell', hcell, hcell', hre⟩
  · exact .inl ⟨by rw [hn]; rfl, by rw [hn']; rfl⟩
  · obtain ⟨j, c, rfl, hj, hc, _, hs, hsprev, _⟩ := (hcontent.clients _ cell hcell).2
    cases cell' with
    | garbled => exact hre.elim
    | record j' =>
      have hsession : clientsNs.isSessionNs = false := by decide
      simp only [Reencrypted, hsession, Bool.false_eq_true, if_false] at hre
      obtain ⟨hmacSecret, previousHmacSecret, apiKeyHash, hc', hsecret, hprev, _⟩ := client_reencrypted hj hre.1 hre.2 hc
      refine .inr ⟨c, hmacSecret, previousHmacSecret, apiKeyHash, ?_, ?_, hsecret, hprev, hs, hsprev⟩
      · simp only [hcell, Option.map_some, clientCell, hc]
      · simp only [hcell', Option.map_some, clientCell, hc']

/-- **Coverage.** On namespaces filled by the onboarding and the worker a run covers every record
exactly when none has the shape of `store_encrypted_key` and no client the empty `api_key_hash` of the
sandbox. -/
theorem rotateKek_covers_iff (hc : r.configured .keys = true ∧ r.configured .officers = true ∧ r.configured .clients = true) :
    Covers A r store ↔
      (∀ (key : String) (cell : Cell Json), (store .keys)[key]? = some cell → ¬StoredShaped A r.oldKek cell) ∧
        ∀ (key : String) (cell : Cell Json), (store .clients)[key]? = some cell → ¬SandboxShaped cell := by
  constructor
  · intro h
    have hok := (runKek_ok_iff_opens hA hrotate hold hnew store).mp h.ok
    refine ⟨fun key cell hget hs => ?_, fun key cell hget hs => ?_⟩
    · exact hok signingKeysNs (by simp [encryptedNamespaces]) hc.1 ((keys_refuse_iff hcontent).mpr ⟨key, cell, hget, hs⟩)
    · exact hok clientsNs (by simp [encryptedNamespaces]) hc.2.2 ((clients_refuse_iff hcontent).mpr ⟨key, cell, hget, hs⟩)
  · rintro ⟨hkeys, hclients⟩
    have hkeysOpen : ¬Refuses A r store signingKeysNs := by
      rw [keys_refuse_iff hcontent]
      rintro ⟨key, cell, hget, hs⟩
      exact hkeys key cell hget hs
    have hclientsOpen : ¬Refuses A r store clientsNs := by
      rw [clients_refuse_iff hcontent]
      rintro ⟨key, cell, hget, hs⟩
      exact hclients key cell hget hs
    have hopen : ∀ ns ∈ encryptedNamespaces r.includeSessions, ¬Refuses A r store ns := by
      intro ns hns hr
      rcases refuses_of_mem hcontent hns hr with rfl | rfl
      · exact hkeysOpen hr
      · exact hclientsOpen hr
    refine ⟨(runKek_ok_iff_opens hA hrotate hold hnew store).mpr fun ns hns _ => hopen ns hns, ?_, ?_, ?_⟩
    · exact keypairs_same hA hrotate hold hnew hcontent hc.1 hkeysOpen
    · exact officers_same hA hrotate hold hnew hcontent hc.2.1 (hopen officersNs (by simp [encryptedNamespaces]))
    · exact fun C hC => clients_same hA hrotate hold hnew hcontent hc.2.2 hclientsOpen hC

end

end

/-! ## A rotated key and an onboarded one -/

def drillSk (kek : Bytes) : String :=
  Base64.encode (aesGcmEncrypt clearGcm (Vector.replicate 12 7) kek (List.replicate 32 5) (signingKeyAad "v1"))

def rotatedKey : SigningKeyRecord where
  version := "v1"
  keyId := "provii:v1"
  privateKeyEncrypted := some (drillSk drillKek.oldKek)
  publicKey := "AQ"
  createdAt := 0
  expiresAt := 31536000
  status := .active
  encrypted := true

def onboardedKey : Json :=
  .obj [("sk", .str (drillSk drillKek.oldKek)), ("vk", .str "AQ"), ("public_key", .str "AQ"), ("encrypted", .bool true),
    ("version", .str "v1"), ("status", .str "active")]

/-- A store with one signing key. -/
def keyStore (cell : Cell Json) : KvStore
  | .keys => (∅ : Table String (Cell Json)).insert "issuer:acme:key:v1" cell
  | _ => ∅

theorem keyStore_content {cell : Cell Json} (h : OnboardingShaped clearGcm drillKek.oldKek cell ∨ StoredShaped clearGcm drillKek.oldKek cell) :
    WorkerContent clearGcm drillKek (keyStore cell) := by
  have hempty : ∀ (key : String) (cell' : Cell Json), (∅ : Table String (Cell Json))[key]? = some cell' → False := by
    intro key cell' hget
    simp at hget
  refine ⟨fun key cell' hget => ?_, fun key cell' hget => (hempty key cell' hget).elim,
    fun key cell' hget => (hempty key cell' hget).elim, fun key cell' hget => (hempty key cell' hget).elim,
    fun key cell' hget => (hempty key cell' hget).elim⟩
  simp only [keyStore] at hget
  rw [insert_get] at hget
  split at hget
  · rename_i hkey
    subst hkey
    cases hget
    exact ⟨by decide, h⟩
  · exact (hempty key cell' hget).elim

theorem drillSk_sealed : ∃ data, Base64.decode (drillSk drillKek.oldKek) = some data ∧
    Sealed clearGcm drillKek.oldKek (signingKeyAad "v1") data :=
  ⟨_, Base64.decode_encode _, List.replicate 32 5, decryptWithKek_aesGcmEncrypt clearGcm_lawful rfl _ _ _⟩

theorem rotatedKey_shaped : StoredShaped clearGcm drillKek.oldKek (.record rotatedKey.toJson) := by
  obtain ⟨data, hdata, hs⟩ := drillSk_sealed
  exact ⟨rotatedKey, _, data, rfl, rfl, rfl, hdata, hs⟩

theorem onboardedKey_shaped : OnboardingShaped clearGcm drillKek.oldKek (.record onboardedKey) := by
  obtain ⟨data, hdata, hs⟩ := drillSk_sealed
  have hread : KeypairRecord.ofJson onboardedKey =
      some ⟨drillSk drillKek.oldKek, some "AQ", some "AQ", true, some "v1", .active, 0⟩ := by
    simp [KeypairRecord.ofJson, onboardedKey, Json.fits, Json.required, Json.defaulted, Json.get, Json.field, Json.asStr,
      Json.asBool, Json.nullable, KeyStatus.ofJson, KeyStatus.ofName]
  have hsk : onboardedKey.entries["sk"]? = some (.str (drillSk drillKek.oldKek)) := by
    exact Json.entries_get_of_split [] _ _ (by simp)
  have hdistinct : onboardedKey.Distinct := by
    simp [onboardedKey, Json.Distinct]
  exact ⟨onboardedKey, _, data, rfl, hdistinct, hread, hsk, rfl, rfl, rfl, hdata, hs⟩

theorem onboarded_key_covered : Covers clearGcm drillKek (keyStore (.record onboardedKey)) := by
  refine (rotateKek_covers_iff clearGcm_lawful rfl rfl rfl (keyStore_content (.inl onboardedKey_shaped)) ⟨rfl, rfl, rfl⟩).mpr ⟨?_, ?_⟩
  · intro key cell hget hs
    simp only [keyStore] at hget
    rw [insert_get] at hget
    split at hget
    · cases hget
      exact (stored_refused hs).2 (onboarding_opens onboardedKey_shaped).2
    · simp at hget
  · intro key cell hget
    simp [keyStore] at hget

/-- One key that the worker has rotated, and the run fails. -/
theorem rotated_key_not_covered : WorkerContent clearGcm drillKek (keyStore (.record rotatedKey.toJson)) ∧
    ¬Covers clearGcm drillKek (keyStore (.record rotatedKey.toJson)) := by
  have hcontent := keyStore_content (.inr rotatedKey_shaped)
  refine ⟨hcontent, fun h => ?_⟩
  have hopen := (runKek_ok_iff_opens clearGcm_lawful rfl rfl rfl _).mp h.ok signingKeysNs (by simp [encryptedNamespaces]) rfl
  refine hopen ((keys_refuse_iff hcontent).mpr ⟨"issuer:acme:key:v1", _, ?_, rotatedKey_shaped⟩)
  simp [keyStore]

end Issuer.Tool
