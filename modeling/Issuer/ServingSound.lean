import Issuer.ConfigStore

/-!
# Serving attestations after a rotation

A rotation asks that the two records of the new kid are loaded. Signing asks more of the one, status,
decryption and length, and the trial verification more of the other, its flag, its validity and a
key that decodes. The service is up after a rotation exactly when the loaded records meet these.
-/

namespace Issuer

open Rust Store ConfigStore

structure ServiceWorld where
  kv : ConfigKv
  verifyingKeys : String → String → Except ApiError (Option IssuerEd25519Key)
  signingKeys : String → String → Except ApiError (Option IssuerEd25519SigningKey)
  kek : KekPair

section
variable {VerifyingKey : Type} (C : ClientCrypto) (L : AttestationLib VerifyingKey)

def ServiceWorld.reads (w : ServiceWorld) (call : CreateCall) : CreateCall :=
  { call with configFails := false, signingKeys := w.signingKeys, kek := .ok w.kek }

def ServiceWorld.Verifies (w : ServiceWorld) (config : IssuerConfig) (attestation : DobAttestation) (now : UInt64) : Prop :=
  attestation.issuerId = config.issuerId ∧ ∃ candidates last c,
    collectCandidates L.toAttestationCrypto (getIssuerEd25519Key w.verifyingKeys attestation.issuerId) (secs now)
      (trialVerifyCandidateSlots config) [] none = .ok (candidates, last) ∧
    trialVerify L.toAttestationCrypto attestation (secs now) candidates "no_candidates" = .ok c

/-- `call` is signed, and its attestation verified at `now`. -/
def ServiceWorld.Serves (env : Env) (w : ServiceWorld) (call : CreateCall) (now : UInt64) : Prop :=
  ∃ config response, getIssuerConfig env Reads.all w.kv = .ok config ∧
    signAttestation C L (w.reads call) config.toIssuerConfig = .ok response ∧
    w.Verifies L config.toIssuerConfig response.attestation now

def ServiceWorld.VerifiesUnder (w : ServiceWorld) (attestation : DobAttestation) (now : UInt64) (kid : String) : Prop :=
  ∃ key vk, w.verifyingKeys attestation.issuerId kid = .ok (some key) ∧
    isEligible L.toAttestationCrypto key (secs now) = .ok vk ∧ L.verifyWithTimestamp attestation vk (secs now) = .ok ()

/-- The signing record of `newKid` is active and its key signs what the verifying record of `newKid` or
`oldKid` accepts. -/
def ServiceWorld.Usable (w : ServiceWorld) (issuerId newKid oldKid : String) (call : CreateCall) (now : UInt64) : Prop :=
  ∃ record seed nonce attestation, w.signingKeys issuerId newKid = .ok (some record) ∧ record.status = .active ∧
    decryptWithKekFallback C.gcm w.kek record.signingKey ed25519KeyAad = .ok seed ∧ seed.length = 32 ∧
    call.nonce = some nonce ∧ L.create call.request.dobDays issuerId (secs call.signed) nonce seed = .ok attestation ∧
    (w.VerifiesUnder L attestation now newKid ∨ w.VerifiesUnder L attestation now oldKid)

variable {C L}

theorem signAttestation_ok_iff {call : CreateCall} {config : IssuerConfig} {response : CreateAttestationResponse}
    (hconfig : call.configFails = false) :
    signAttestation C L call config = .ok response ↔
      ∃ record kekPair seed nonce attestation,
        getIssuerEd25519SigningKey call.signingKeys config.issuerId config.defaultKid = .ok (some record) ∧
        record.status = .active ∧ call.kek = .ok kekPair ∧
        decryptWithKekFallback C.gcm kekPair record.signingKey ed25519KeyAad = .ok seed ∧ seed.length = 32 ∧
        call.nonce = some nonce ∧
        L.create call.request.dobDays config.issuerId (secs call.signed) nonce seed = .ok attestation ∧
        response = ⟨attestation, satAddU64 (secs call.signed) attestationMaxAgeSeconds, config.issuerId⟩ := by
  simp only [signAttestation, hconfig, Except.check_eq_ok, Except.bind_eq_ok, Except.mapError_eq_ok, Except.throw_bind]
  constructor
  · intro h
    obtain ⟨-, found, hfound, h⟩ := h
    split at h
    · rename_i record
      simp only [Except.check_eq_ok, Except.bind_eq_ok, Except.mapError_eq_ok, not_not] at h
      obtain ⟨hactive, kekPair, hkek, seed, hseed, hlen, h⟩ := h
      split at h
      · rename_i nonce hnonce
        simp only [Except.bind_eq_ok, Except.mapError_eq_ok, Except.pure_eq_ok] at h
        obtain ⟨attestation, hcreate, hresponse⟩ := h
        exact ⟨record, kekPair, seed, nonce, attestation, hfound, hactive, hkek, hseed, hlen, hnonce, hcreate, hresponse.symm⟩
      · cases h
    · cases h
  · intro h
    obtain ⟨record, kekPair, seed, nonce, attestation, hfound, hactive, hkek, hseed, hlen, hnonce, hcreate, hresponse⟩ := h
    refine ⟨by simp, some record, hfound, ?_⟩
    simp only [Except.check_eq_ok, Except.bind_eq_ok, Except.mapError_eq_ok, not_not, hnonce, Except.pure_eq_ok]
    exact ⟨hactive, kekPair, hkek, seed, hseed, hlen, attestation, hcreate, hresponse.symm⟩

theorem getIssuerEd25519SigningKey_ok_iff {read : String → String → Except ApiError (Option IssuerEd25519SigningKey)}
    {issuerId kid : String} {record : IssuerEd25519SigningKey} :
    getIssuerEd25519SigningKey read issuerId kid = .ok (some record) ↔
      validateIdentifier issuerId "issuer_id" = .ok () ∧ validateIdentifier kid "kid" = .ok () ∧
        read issuerId kid = .ok (some record) ∧ record.encrypted = true := by
  simp only [getIssuerEd25519SigningKey, Except.bind_eq_ok]
  constructor
  · intro h
    obtain ⟨_, hissuer, _, hkid, found, hfound, h⟩ := h
    split at h
    · cases h
    · simp only [Except.throw_bind, Except.check_eq_ok, Except.pure_eq_ok, Option.some.injEq] at h
      obtain ⟨hencrypted, hrecord⟩ := h
      rw [hrecord] at hfound hencrypted
      exact ⟨hissuer, hkid, hfound, by simpa using hencrypted⟩
  · intro h
    obtain ⟨hissuer, hkid, hfound, hencrypted⟩ := h
    exact ⟨(), hissuer, (), hkid, some record, hfound, by simp [hencrypted]⟩

/-! ## Candidates -/

theorem collectCandidates_mem (A : AttestationCrypto VerifyingKey)
    (lookup : String → Except ApiError (Option IssuerEd25519Key)) (now : Nat) {c : Candidate VerifyingKey} :
    ∀ (slots : List (String × String)) (candidates all : List (Candidate VerifyingKey)) (last last' : Option (String × String)),
      collectCandidates A lookup now slots candidates last = .ok (all, last') → c ∈ all →
      c ∈ candidates ∨ ∃ p ∈ slots, ∃ key, lookup p.2 = .ok (some key) ∧ isEligible A key now = .ok c.vk
  | [], candidates, all, last, last', h, hc => by
    cases h
    exact .inl hc
  | (slot, kid) :: slots, candidates, all, last, last', h, hc => by
    simp only [collectCandidates] at h
    cases hlookup : lookup kid with
    | error e => simp [hlookup] at h
    | ok found =>
      cases found with
      | none =>
        simp only [hlookup] at h
        cases collectCandidates_mem A lookup now slots _ all _ last' h hc with
        | inl hc => exact .inl hc
        | inr hp =>
          obtain ⟨p, hp, hkey⟩ := hp
          exact .inr ⟨p, List.mem_cons_of_mem _ hp, hkey⟩
      | some key =>
        cases helig : isEligible A key now with
        | error reject =>
          simp only [hlookup, helig] at h
          cases collectCandidates_mem A lookup now slots _ all _ last' h hc with
          | inl hc => exact .inl hc
          | inr hp =>
            obtain ⟨p, hp, hkey⟩ := hp
            exact .inr ⟨p, List.mem_cons_of_mem _ hp, hkey⟩
        | ok vk =>
          simp only [hlookup, helig] at h
          cases collectCandidates_mem A lookup now slots _ all _ last' h hc with
          | inl hc =>
            cases List.mem_append.mp hc with
            | inl hc => exact .inl hc
            | inr hc =>
              rw [List.mem_singleton.mp hc]
              exact .inr ⟨(slot, kid), List.mem_cons_self .., key, hlookup, helig⟩
          | inr hp =>
            obtain ⟨p, hp, hkey⟩ := hp
            exact .inr ⟨p, List.mem_cons_of_mem _ hp, hkey⟩

theorem collectCandidates_lookup (A : AttestationCrypto VerifyingKey)
    (lookup : String → Except ApiError (Option IssuerEd25519Key)) (now : Nat) :
    ∀ (slots : List (String × String)) (candidates : List (Candidate VerifyingKey)) (last : Option (String × String))
      (result : List (Candidate VerifyingKey) × Option (String × String)),
      collectCandidates A lookup now slots candidates last = .ok result → ∀ p ∈ slots, ∃ found, lookup p.2 = .ok found
  | [], _, _, _, _, p, hp => absurd hp List.not_mem_nil
  | (slot, kid) :: slots, candidates, last, result, h, p, hp => by
    simp only [collectCandidates] at h
    cases hlookup : lookup kid with
    | error e => simp [hlookup] at h
    | ok found =>
      cases hp with
      | head => exact ⟨found, hlookup⟩
      | tail _ hp =>
        cases found with
        | none =>
          simp only [hlookup] at h
          exact collectCandidates_lookup A lookup now slots _ _ result h p hp
        | some key =>
          cases helig : isEligible A key now with
          | error reject =>
            simp only [hlookup, helig] at h
            exact collectCandidates_lookup A lookup now slots _ _ result h p hp
          | ok vk =>
            simp only [hlookup, helig] at h
            exact collectCandidates_lookup A lookup now slots _ _ result h p hp

theorem trialVerify_mem {A : AttestationCrypto VerifyingKey} {attestation : DobAttestation} {now : Nat} {c : Candidate VerifyingKey} :
    ∀ {candidates : List (Candidate VerifyingKey)} {lastError : String},
      trialVerify A attestation now candidates lastError = .ok c → c ∈ candidates
  | [], _, h => by cases h
  | d :: candidates, lastError, h => by
    simp only [trialVerify] at h
    split at h
    · cases h
      exact List.mem_cons_self ..
    · exact List.mem_cons_of_mem _ (trialVerify_mem h)

theorem verifies_iff {w : ServiceWorld} {config : IssuerConfig} {attestation : DobAttestation} {now : UInt64}
    (hissuer : attestation.issuerId = config.issuerId)
    (hreads : ∀ p ∈ trialVerifyCandidateSlots config, ∃ found,
      getIssuerEd25519Key w.verifyingKeys attestation.issuerId p.2 = .ok found) :
    w.Verifies L config attestation now ↔
      ∃ p ∈ trialVerifyCandidateSlots config, ∃ key vk,
        getIssuerEd25519Key w.verifyingKeys attestation.issuerId p.2 = .ok (some key) ∧
        isEligible L.toAttestationCrypto key (secs now) = .ok vk ∧ L.verifyWithTimestamp attestation vk (secs now) = .ok () := by
  constructor
  · intro h
    obtain ⟨-, candidates, last, c, hcollect, htrial⟩ := h
    have hmem := collectCandidates_mem L.toAttestationCrypto _ _ _ _ _ _ _ hcollect (trialVerify_mem htrial)
    cases hmem with
    | inl hnil => exact absurd hnil List.not_mem_nil
    | inr hslot =>
      obtain ⟨p, hp, key, hkey, helig⟩ := hslot
      exact ⟨p, hp, key, c.vk, hkey, helig, trialVerify_ok htrial⟩
  · intro h
    obtain ⟨p, hp, key, vk, hkey, helig, hverify⟩ := h
    obtain ⟨candidates, last, hcollect, -, hin⟩ := collectCandidates_ok L.toAttestationCrypto _ (secs now) _ [] none hreads
    obtain ⟨c, hc, hvk⟩ := hin p hp key vk hkey helig
    obtain ⟨c', hc'⟩ := trialVerify_of_mem candidates "no_candidates" c hc (by rw [hvk]; exact hverify)
    exact ⟨hissuer, candidates, last, c', hcollect, hc'⟩

/-! ## After a rotation -/

theorem getIssuerConfig_insert {env : Env} {kv : ConfigKv} {config : StoredIssuerConfig} {issuerId : String}
    (hn : env.namespaceError = none) (hi : env.issuerId = some issuerId) :
    getIssuerConfig env Reads.all (kv.insert (configKey issuerId) (.record config)) = .ok config := by
  have hread : Reads.all.primary = .stored ∧ (kv.insert (configKey issuerId) (.record config))[configKey issuerId]? =
      some (.record config) := ⟨rfl, by simp⟩
  rw [getIssuerConfig_primary hn hi hread]
  rfl

theorem ServiceWorld.Serves.config {env : Env} {w : ServiceWorld} {call : CreateCall} {now : UInt64}
    (h : w.Serves C L env call now) :
    ∃ config, getIssuerConfig env Reads.all w.kv = .ok config ∧ validateIdentifier config.issuerId "issuer_id" = .ok () ∧
      validateIdentifier config.defaultKid "kid" = .ok () ∧ ∃ found, w.verifyingKeys config.issuerId config.defaultKid = .ok found := by
  obtain ⟨config, response, hget, hsign, hissuer, candidates, last, c, hcollect, -⟩ := h
  obtain ⟨record, -, -, -, -, hrecord, -⟩ := (signAttestation_ok_iff rfl).mp hsign
  obtain ⟨hid, hkid, -⟩ := getIssuerEd25519SigningKey_ok_iff.mp hrecord
  obtain ⟨found, hfound⟩ := collectCandidates_lookup L.toAttestationCrypto _ _ _ _ _ _ hcollect
    ("default_kid", config.defaultKid) (List.mem_cons_self ..)
  rw [hissuer, getIssuerEd25519Key_eq hid hkid] at hfound
  exact ⟨config, hget, hid, hkid, found, hfound⟩

section
variable {w : ServiceWorld} {config : StoredIssuerConfig} {newKid : String} {attestation : DobAttestation} {now : UInt64}
  (hid : validateIdentifier config.issuerId "issuer_id" = .ok ()) (hnew : validateIdentifier newKid "kid" = .ok ())
  (hdefault : validateIdentifier config.defaultKid "kid" = .ok ())
include hid hnew hdefault

/-- Under the promoted configuration an attestation is verified exactly if one of the two kids verifies it. -/
theorem promoted_verifies_iff (hissuer : attestation.issuerId = config.issuerId)
    {found newFound : Option IssuerEd25519Key} (hfound : w.verifyingKeys config.issuerId config.defaultKid = .ok found)
    (hnewFound : w.verifyingKeys config.issuerId newKid = .ok newFound) :
    w.Verifies L (promote newKid config).toIssuerConfig attestation now ↔
      w.VerifiesUnder L attestation now newKid ∨ w.VerifiesUnder L attestation now config.defaultKid := by
  have hslots : trialVerifyCandidateSlots (promote newKid config).toIssuerConfig =
      [("default_kid", newKid), ("previous_kid", config.defaultKid)] := rfl
  have hnewRead : getIssuerEd25519Key w.verifyingKeys attestation.issuerId newKid = w.verifyingKeys attestation.issuerId newKid := by
    rw [hissuer, getIssuerEd25519Key_eq hid hnew]
  have holdRead : getIssuerEd25519Key w.verifyingKeys attestation.issuerId config.defaultKid =
      w.verifyingKeys attestation.issuerId config.defaultKid := by
    rw [hissuer, getIssuerEd25519Key_eq hid hdefault]
  have hissuer' : attestation.issuerId = (promote newKid config).toIssuerConfig.issuerId := hissuer
  rw [verifies_iff hissuer' ?lookups, hslots]
  case lookups =>
    rw [hslots]
    intro p hp
    cases hp with
    | head => exact ⟨_, by rw [hnewRead, hissuer]; exact hnewFound⟩
    | tail _ hp =>
      rw [List.mem_singleton.mp hp, holdRead, hissuer]
      exact ⟨found, hfound⟩
  constructor
  · rintro ⟨p, hp, key, vk, hkey, helig, hverify⟩
    cases hp with
    | head => exact .inl ⟨key, vk, by rw [← hnewRead]; exact hkey, helig, hverify⟩
    | tail _ hp =>
      rw [List.mem_singleton.mp hp, holdRead] at hkey
      exact .inr ⟨key, vk, hkey, helig, hverify⟩
  · intro h
    cases h with
    | inl hunder =>
      obtain ⟨key, vk, hkey, helig, hverify⟩ := hunder
      exact ⟨("default_kid", newKid), List.mem_cons_self .., key, vk, hnewRead.trans hkey, helig, hverify⟩
    | inr hunder =>
      obtain ⟨key, vk, hkey, helig, hverify⟩ := hunder
      exact ⟨("previous_kid", config.defaultKid), by simp, key, vk, holdRead.trans hkey, helig, hverify⟩

end

/-- **After a rotation the service is up** exactly when the records loaded under the new kid can be used:
the signing record is active and opens, and what its key signs is accepted under one of the two kids. -/
theorem rotation_serves_iff (hL : L.Lawful) (env : Env) (w : ServiceWorld) (newKid : String) (putError : Option String)
    (kids : String × String) (kv : ConfigKv) (before : CreateCall) (beforeNow : UInt64)
    (hbefore : w.Serves C L env before beforeNow)
    (hrotate : ConfigStore.rotateAttestationKeyInner env ⟨newKid, Reads.all, w.verifyingKeys, w.signingKeys, putError⟩ w.kv = (.ok kids, kv))
    (call : CreateCall) (now : UInt64) :
    ∃ config, getIssuerConfig env Reads.all w.kv = .ok config ∧
      (ServiceWorld.Serves C L env { w with kv := kv } call now ↔
        w.Usable C L config.issuerId newKid config.defaultKid call now) := by
  obtain ⟨config, hget, hid, hdefault, found, hfound⟩ := hbefore.config
  obtain ⟨hn, issuerId, hi⟩ := getIssuerConfig_env hget
  obtain ⟨config', hget', hpromotes, -, hkv⟩ := (rotateAttestationKeyInner_ok_iff hn hi).mp hrotate
  rw [hget] at hget'
  cases hget'
  refine ⟨config, hget, ?_⟩
  obtain ⟨newRecord, hnewRecord⟩ := hpromotes.signing
  obtain ⟨-, hnew, hsigning, hencrypted⟩ := getIssuerEd25519SigningKey_ok_iff.mp hnewRecord
  obtain ⟨newKey, hnewKey⟩ := hpromotes.verifying
  have hnewFound : w.verifyingKeys config.issuerId newKid = .ok (some newKey) :=
    (getIssuerEd25519Key_eq hid hnew).symm.trans hnewKey
  have hread : getIssuerConfig env Reads.all kv = .ok (promote newKid config) := by
    rw [hkv]
    exact getIssuerConfig_insert hn hi
  constructor
  · rintro ⟨config', response, hconfig, hsign, hverifies⟩
    rw [hread] at hconfig
    cases hconfig
    obtain ⟨record, kekPair, seed, nonce, attestation, hrecord, hactive, hkek, hseed, hlen, hnonce, hcreate, rfl⟩ :=
      (signAttestation_ok_iff rfl).mp hsign
    cases hkek
    obtain ⟨-, -, hrecord, -⟩ := getIssuerEd25519SigningKey_ok_iff.mp hrecord
    have hissuer : attestation.issuerId = config.issuerId := hL.issuerId _ _ _ _ _ _ hcreate
    exact ⟨record, seed, nonce, attestation, hrecord, hactive, hseed, hlen, hnonce, hcreate,
      (promoted_verifies_iff hid hnew hdefault hissuer hfound hnewFound).mp hverifies⟩
  · rintro ⟨record, seed, nonce, attestation, hrecord, hactive, hseed, hlen, hnonce, hcreate, hverify⟩
    have hissuer : attestation.issuerId = config.issuerId := hL.issuerId _ _ _ _ _ _ hcreate
    have henc : record.encrypted = true := by
      rw [show w.signingKeys config.issuerId newKid = .ok (some newRecord) from hsigning] at hrecord
      cases hrecord
      exact hencrypted
    exact ⟨promote newKid config, _, hread, (signAttestation_ok_iff rfl).mpr ⟨record, w.kek, seed, nonce, attestation,
      getIssuerEd25519SigningKey_ok_iff.mpr ⟨hid, hnew, hrecord, henc⟩, hactive, rfl, hseed, hlen, hnonce, hcreate, rfl⟩,
      (promoted_verifies_iff hid hnew hdefault hissuer hfound hnewFound).mpr hverify⟩

theorem ServiceWorld.usable_of_loaded (hL : L.Lawful) {w : ServiceWorld} {issuerId newKid oldKid : String} {call : CreateCall}
    {now : UInt64} {record : IssuerEd25519SigningKey} {seed : Bytes} {nonce : Vector UInt8 32} {attestation : DobAttestation}
    {key : IssuerEd25519Key}
    (hrecord : w.signingKeys issuerId newKid = .ok (some record)) (hstatus : record.status = .active)
    (hseed : decryptWithKekFallback C.gcm w.kek record.signingKey ed25519KeyAad = .ok seed) (hlen : seed.length = 32)
    (hnonce : call.nonce = some nonce)
    (hcreate : L.create call.request.dobDays issuerId (secs call.signed) nonce seed = .ok attestation)
    (hkey : w.verifyingKeys issuerId newKid = .ok (some key)) (hactive : key.active = true) (hfrom : key.validFrom ≤ secs now)
    (huntil : key.validUntil = 0 ∨ secs now ≤ key.validUntil)
    (hvk : L.fromBytes key.verifyingKey = some (L.verifyingKey seed))
    (hcreated : secs call.signed ≤ secs now) (hlives : secs now ≤ secs call.signed + attestationMaxAgeSeconds) :
    w.Usable C L issuerId newKid oldKid call now := by
  refine ⟨record, seed, nonce, attestation, hrecord, hstatus, hseed, hlen, hnonce, hcreate, .inl ⟨key, L.verifyingKey seed, ?_, ?_, ?_⟩⟩
  · rw [hL.issuerId _ _ _ _ _ _ hcreate]
    exact hkey
  · exact isEligible_ok hactive hfrom huntil hvk
  · exact hL.verify _ _ _ _ _ _ _ hcreate hcreated hlives

end

/-! ## A key that was revoked before it was promoted -/

def issuerEnv : Env := ⟨none, some "did:provii:issuer"⟩

/-- The pairs of the kids first and second are in order; the signing key of third is revoked. -/
def loadedWorld : ServiceWorld where
  kv := Std.TreeMap.empty.insert "issuer:issuer:config" (.record (configOf "did:provii:issuer" "first"))
  verifyingKeys _ _ := .ok (some ⟨"Issuer", List.replicate 32 9, 0, 0, true⟩)
  signingKeys _ kid := .ok (some ⟨List.replicate 12 0 ++ clearGcm.encrypt officerKek.current (List.replicate 12 0)
    (List.replicate 32 9) ed25519KeyAad, true, if kid = "third" then .revoked else .active⟩)
  kek := officerKek

def loadedRotation (newKid : String) : ConfigStore.Rotation :=
  ⟨newKid, Reads.all, loadedWorld.verifyingKeys, loadedWorld.signingKeys, none⟩

theorem loadedWorld_serves : loadedWorld.Serves officerCrypto echoLib issuerEnv officerCall 1000000 := by
  refine ⟨configOf "did:provii:issuer" "first", officerResponse, by decide +kernel, by decide +kernel, ?_⟩
  have hreads : ∀ p ∈ trialVerifyCandidateSlots (configOf "did:provii:issuer" "first").toIssuerConfig, ∃ found,
      getIssuerEd25519Key loadedWorld.verifyingKeys officerResponse.attestation.issuerId p.2 = .ok found := by
    intro p hp
    rw [List.mem_singleton.mp hp]
    exact ⟨some ⟨"Issuer", List.replicate 32 9, 0, 0, true⟩, by decide +kernel⟩
  exact (verifies_iff (by decide) hreads).mpr ⟨("default_kid", "first"), by decide, ⟨"Issuer", List.replicate 32 9, 0, 0, true⟩,
    List.replicate 32 9, by decide +kernel, by decide +kernel, by decide +kernel⟩

theorem rotation_serves_second :
    ServiceWorld.Serves officerCrypto echoLib issuerEnv
      { loadedWorld with kv := (ConfigStore.rotateAttestationKeyInner issuerEnv (loadedRotation "second") loadedWorld.kv).2 }
      officerCall 4600000 := by
  obtain ⟨config, hget, hiff⟩ := rotation_serves_iff (C := officerCrypto) echoLib_lawful issuerEnv loadedWorld "second" none
    ("first", "second") (ConfigStore.rotateAttestationKeyInner issuerEnv (loadedRotation "second") loadedWorld.kv).2
    officerCall 1000000 loadedWorld_serves (Prod.ext (by decide +kernel) rfl) officerCall 4600000
  have hconfig : getIssuerConfig issuerEnv Reads.all loadedWorld.kv = .ok (configOf "did:provii:issuer" "first") := by
    decide +kernel
  cases hget.symm.trans hconfig
  have hseed : decryptWithKekFallback officerCrypto.gcm officerKek (List.replicate 12 0 ++
    clearGcm.encrypt officerKek.current (List.replicate 12 0) (List.replicate 32 9) ed25519KeyAad) ed25519KeyAad =
      .ok (List.replicate 32 9) := by decide +kernel
  exact hiff.mpr (ServiceWorld.usable_of_loaded echoLib_lawful rfl rfl hseed rfl rfl rfl rfl rfl (by decide) (by decide) (by decide)
    (by decide) (by decide))

theorem revoked_key_promoted :
    (ConfigStore.rotateAttestationKeyInner issuerEnv (loadedRotation "third") loadedWorld.kv).1 = .ok ("first", "third") ∧
    loadedWorld.Serves officerCrypto echoLib issuerEnv officerCall 1000000 ∧
    ¬ServiceWorld.Serves officerCrypto echoLib issuerEnv
      { loadedWorld with kv := (ConfigStore.rotateAttestationKeyInner issuerEnv (loadedRotation "third") loadedWorld.kv).2 }
      officerCall 1000000 := by
  refine ⟨by decide +kernel, loadedWorld_serves, fun h => ?_⟩
  obtain ⟨config, response, hget, hsign, -⟩ := h
  have hconfig : getIssuerConfig issuerEnv Reads.all
      (ConfigStore.rotateAttestationKeyInner issuerEnv (loadedRotation "third") loadedWorld.kv).2 =
        .ok (promote "third" (configOf "did:provii:issuer" "first")) := by decide +kernel
  cases hget.symm.trans hconfig
  have hrefused : signAttestation officerCrypto echoLib (loadedWorld.reads officerCall)
      (promote "third" (configOf "did:provii:issuer" "first")).toIssuerConfig = .error internalError := by decide +kernel
  have hrefused' : signAttestation officerCrypto echoLib (loadedWorld.reads officerCall)
      (promote "third" (configOf "did:provii:issuer" "first")).toIssuerConfig = .ok response := hsign
  rw [hrefused] at hrefused'
  cases hrefused'

end Issuer
