import Issuer.KekWindow

/-!
# When the previous key may be removed

`verify-rotation` tells the operator that it is safe to remove `ISSUER_KEK_PREVIOUS`. Of each record it
tries one ciphertext, the first field of its table, and it passes over what it does not take for an
encrypted record. The worker's readers need more: the previous HMAC secret, the API key hash, and
records that are stored as arrays. `verifyRotation_sound_iff` says that the report can be relied on exactly
when nothing of that kind is still encrypted under the previous key.
-/

namespace Issuer.Tool

open Rust Store

/-! ## The verdict -/

def VerifyCounts.Clean (c : VerifyCounts) : Prop := c.previous = 0 ∧ c.neither = 0

theorem add_clean (c : VerifyCounts) (x : EntryDecryptResult) : (c.add x).Clean ↔ c.Clean ∧ (x = .current ∨ x = .skipped) := by
  cases x <;> simp [VerifyCounts.Clean, VerifyCounts.add]

theorem foldl_add_clean {α : Type} (result : α → EntryDecryptResult) (l : List α) (c : VerifyCounts) :
    (l.foldl (fun c a => c.add (result a)) c).Clean ↔ c.Clean ∧ ∀ a ∈ l, result a = .current ∨ result a = .skipped := by
  induction l generalizing c with
  | nil => simp
  | cons a l ih =>
    rw [List.foldl_cons, ih, add_clean]
    simp only [List.mem_cons, forall_eq_or_imp, and_assoc]

section
variable (A : AesGcm) (currentKek : Bytes) (previousKek : Option Bytes)

/-- The entry is passed over, or the ciphertext that is tried opens under the current key. -/
def Settles (ns : EncryptedNamespace) : Cell Json → Prop
  | .garbled => True
  | .record j =>
    if ns.isSessionNs then
      ∀ data, j.asStr.bind Base64.decode = some data → (aesGcmDecrypt A currentKek data sessionAad).isSome = true
    else
      encryptedFlag j.entries = true → ∃ field data, ns.fields.head? = some field ∧
        extractBytesFromJson j.entries[field.jsonKey]? = some data ∧
        (aesGcmDecrypt A currentKek data (field.aad.bytes j.entries)).isSome = true

structure Settled (configured : NamespaceId → Bool) (includeSessions : Bool) (store : KvStore) : Prop where
  current : currentKek.length = 32
  previous : ∀ prev ∈ previousKek, prev.length = 32
  entries : ∀ ns ∈ encryptedNamespaces includeSessions, configured ns.namespaceId = true →
    ∀ key cell, Listed store ns key cell → Settles A currentKek ns cell

variable {A currentKek previousKek}

theorem decryptResult_settled (data aad : Bytes) :
    (decryptResult A currentKek previousKek data aad = .current ∨ decryptResult A currentKek previousKek data aad = .skipped) ↔
      (aesGcmDecrypt A currentKek data aad).isSome = true := by
  unfold decryptResult
  by_cases hopen : (aesGcmDecrypt A currentKek data aad).isSome = true
  · simp [hopen]
  · simp only [hopen, if_false, Bool.false_eq_true, iff_false]
    split <;> simp

theorem first_field {includeSessions : Bool} {ns : EncryptedNamespace} (hns : ns ∈ encryptedNamespaces includeSessions)
    (hs : ns.isSessionNs = false) : ∃ field rest, ns.fields = field :: rest ∧ field.optional = false := by
  have hall : ∀ ns ∈ encryptedNamespaces true, ns.isSessionNs = false → ns.fields.head?.any (!·.optional) = true := by decide
  have hhead := hall ns (mem_encryptedNamespaces_true hns) hs
  cases hfields : ns.fields with
  | nil =>
    rw [hfields] at hhead
    cases hhead
  | cons field rest =>
    rw [hfields] at hhead
    refine ⟨field, rest, rfl, ?_⟩
    simpa using hhead

theorem entryResult_settled {includeSessions : Bool} {ns : EncryptedNamespace} (hns : ns ∈ encryptedNamespaces includeSessions)
    (cell : Cell Json) :
    (entryResult A currentKek previousKek ns cell = .current ∨ entryResult A currentKek previousKek ns cell = .skipped) ↔
      Settles A currentKek ns cell := by
  cases cell with
  | garbled => simp [entryResult, Settles]
  | record j =>
    cases hs : ns.isSessionNs with
    | true =>
      simp only [entryResult, Settles, hs, if_true]
      cases j.asStr.bind Base64.decode with
      | none => simp
      | some data => simp [decryptResult_settled]
    | false =>
      obtain ⟨field, rest, hfields, hreq⟩ := first_field hns hs
      simp only [entryResult, Settles, hs, Bool.false_eq_true, if_false, (namespace_cases hns).2.1 hs, Bool.true_and, hfields,
        List.head?_cons, Option.some.injEq]
      cases encryptedFlag j.entries with
      | false => simp
      | true =>
        simp only [Bool.not_true, Bool.false_eq_true, if_false, fieldsResult, hreq, true_implies]
        cases hdata : extractBytesFromJson j.entries[field.jsonKey]? with
        | none =>
          simp only [reduceCtorEq, or_self, false_iff]
          rintro ⟨_, _, rfl, hsome, _⟩
          rw [hdata] at hsome
          cases hsome
        | some data =>
          rw [decryptResult_settled]
          constructor
          · intro hopen
            exact ⟨field, data, rfl, hdata, hopen⟩
          · rintro ⟨_, _, rfl, hsome, hopen⟩
            rw [hdata] at hsome
            cases hsome
            exact hopen

theorem verifyNamespace_clean {includeSessions : Bool} {ns : EncryptedNamespace} (hns : ns ∈ encryptedNamespaces includeSessions)
    (store : KvStore) (c : VerifyCounts) : (verifyNamespace A currentKek previousKek store c ns).Clean ↔
      c.Clean ∧ ∀ key cell, Listed store ns key cell → Settles A currentKek ns cell := by
  unfold verifyNamespace
  rw [foldl_add_clean]
  refine and_congr_right fun _ => ⟨fun h key cell hl => ?_, fun h key hkey => ?_⟩
  · have hres := h key ((mem_matchingKeys store).mpr ⟨cell, hl⟩)
    rw [hl.1] at hres
    exact (entryResult_settled hns cell).mp hres
  · obtain ⟨cell, hl⟩ := (mem_matchingKeys store).mp hkey
    rw [hl.1]
    exact (entryResult_settled hns cell).mpr (h key cell hl)

theorem foldl_verifyNamespace_clean (store : KvStore) (nss : List EncryptedNamespace) {includeSessions : Bool}
    (hsub : ∀ ns ∈ nss, ns ∈ encryptedNamespaces includeSessions) (c : VerifyCounts) :
    (nss.foldl (verifyNamespace A currentKek previousKek store) c).Clean ↔
      c.Clean ∧ ∀ ns ∈ nss, ∀ key cell, Listed store ns key cell → Settles A currentKek ns cell := by
  induction nss generalizing c with
  | nil => simp
  | cons ns nss ih =>
    rw [List.foldl_cons, ih (fun ns' h => hsub ns' (List.mem_cons_of_mem _ h)), verifyNamespace_clean (hsub ns (by simp))]
    simp only [List.mem_cons, forall_eq_or_imp, and_assoc]

theorem reportsSafe_iff (configured : NamespaceId → Bool) (includeSessions : Bool) (store : KvStore) :
    reportsSafe (verifyRotation A currentKek previousKek configured includeSessions store) = true ↔
      Settled A currentKek previousKek configured includeSessions store := by
  have hfold : ((((encryptedNamespaces includeSessions).filter fun ns => configured ns.namespaceId).foldl
      (verifyNamespace A currentKek previousKek store) ⟨0, 0, 0, 0⟩).Clean) ↔
      ∀ ns ∈ encryptedNamespaces includeSessions, configured ns.namespaceId = true →
        ∀ key cell, Listed store ns key cell → Settles A currentKek ns cell := by
    rw [foldl_verifyNamespace_clean store _ fun _ h => List.mem_of_mem_filter h]
    simp [VerifyCounts.Clean]
  unfold verifyRotation
  by_cases hcur : currentKek.length = 32
  · by_cases hprev : ∀ prev ∈ previousKek, prev.length = 32
    · have hany : previousKek.any (·.length ≠ 32) = false := by
        cases previousKek with
        | none => rfl
        | some prev => simpa using hprev prev rfl
      have hsettled : Settled A currentKek previousKek configured includeSessions store ↔
          ∀ ns ∈ encryptedNamespaces includeSessions, configured ns.namespaceId = true →
            ∀ key cell, Listed store ns key cell → Settles A currentKek ns cell :=
        ⟨fun h => h.entries, fun h => ⟨hcur, hprev, h⟩⟩
      rw [hsettled, ← hfold, if_neg (by simp [hcur]), if_neg (Bool.eq_false_iff.mp hany)]
      generalize (((encryptedNamespaces includeSessions).filter fun ns => configured ns.namespaceId).foldl
        (verifyNamespace A currentKek previousKek store) ⟨0, 0, 0, 0⟩) = counts
      by_cases hneither : counts.neither = 0
      · simp [reportsSafe, VerifyCounts.Clean, hneither]
      · have hpos : counts.neither > 0 := Nat.pos_of_ne_zero hneither
        simp [reportsSafe, VerifyCounts.Clean, hneither, hpos]
    · have hany : previousKek.any (·.length ≠ 32) = true := by
        cases previousKek with
        | none => simp at hprev
        | some prev => simpa using hprev
      rw [if_neg (by simp [hcur]), if_pos hany]
      exact iff_of_false (by simp [reportsSafe]) fun h => hprev h.previous
  · rw [if_pos hcur]
    exact iff_of_false (by simp [reportsSafe]) fun h => hcur h.current

end

/-! ## What the readers decrypt -/

def hmacCiphertexts (hmacSecret : Bytes) (previousHmacSecret : Option Bytes) : List Ciphertext :=
  ⟨"hmac_secret", hmacSecret, sessionAad⟩ ::
    (previousHmacSecret.map fun data => ⟨"previous_hmac_secret", data, sessionAad⟩).toList

def Opened (A : AesGcm) (kekPair : KekPair) (c : Ciphertext) : Prop :=
  (decryptWithKekFallback A kekPair c.data c.aad).isOk = true

section
variable (C : ClientCrypto) (kekPair : KekPair) (configured : NamespaceId → Bool) (store : KvStore)

/-- A record that a reader of the worker takes, and the ciphertexts it decrypts. The hash of an API key is
read under any key of the namespace, and has to be UTF-8. -/
inductive Reading : NamespaceId → Json → List Ciphertext → Prop
  | keypair {issuerKid kid vkB64 : String} {j : Json} {keypair : KeypairRecord} {data vk : Bytes} :
    configured .keys = true → validateIdentifier kid "kid" = .ok () →
    (store .keys)[keyName issuerKid kid]? = some (.record j) → KeypairRecord.ofJson j = some keypair →
    keypair.status = .active → (keypair.vk <|> keypair.publicKey) = some vkB64 → Base64.decode vkB64 = some vk →
    keypair.encrypted = true → Base64.decode keypair.sk = some data →
    Reading .keys j [⟨"sk", data, signingKeyAad (keypair.version.getD "v1")⟩]
  | officer {issuerKid officerId : String} {j : Json} {officer : OfficerRegistration} :
    configured .officers = true → validateIdentifier officerId "officer_id" = .ok () →
    (store .officers)[officerKey issuerKid officerId]? = some (.record j) → OfficerRegistration.ofJson j = some officer →
    officer.active = true → officer.encrypted = true →
    Reading .officers j (hmacCiphertexts officer.hmacSecret officer.previousHmacSecret)
  | client {config : IssuerConfig} {clientId : String} {j : Json} {client : ClientRegistration} :
    configured .clients = true → validateIdentifier clientId "client_id" = .ok () →
    (store .clients)[clientKey (extractIssuerKid config.issuerId) clientId]? = some (.record j) →
    ClientRegistration.ofJson j = some client → client.active = true → client.encrypted = true →
    Reading .clients j (hmacCiphertexts client.hmacSecret client.previousHmacSecret)
  | apiKeyHash {key : String} {j : Json} {client : ClientRegistration} {decryptedBytes : Bytes} :
    configured .clients = true → (store .clients)[key]? = some (.record j) → ClientRegistration.ofJson j = some client →
    client.encrypted = true → decryptWithKekFallback C.gcm kekPair client.apiKeyHash apiKeyHashAad = .ok decryptedBytes →
    (String.fromUTF8? ⟨decryptedBytes.toArray⟩).isSome = true →
    Reading .clients j [⟨"api_key_hash", client.apiKeyHash, apiKeyHashAad⟩]

/-- Whatever the readers can read with the pair they can read with its current key alone. -/
structure SafeToRemove : Prop where
  keypairs : configured .keys = true → ∀ fails issuerKid kid now,
    (getSigningKeypair C.gcm fails issuerKid kid (.ok kekPair) now (store .keys)).isOk = true →
      (getSigningKeypair C.gcm fails issuerKid kid (.ok ⟨kekPair.current, none⟩) now (store .keys)).isOk = true
  officers : configured .officers = true → ∀ fails issuerKid officerId,
    (getOfficerById C.gcm fails issuerKid officerId (.ok kekPair) (store .officers)).isOk = true →
      (getOfficerById C.gcm fails issuerKid officerId (.ok ⟨kekPair.current, none⟩) (store .officers)).isOk = true
  clients : configured .clients = true → ∀ (call : ClientCall) clientId,
    (getClientById C { call with kek := .ok kekPair } clientId (clientsOf (store .clients))).isOk = true →
      (getClientById C { call with kek := .ok ⟨kekPair.current, none⟩ } clientId (clientsOf (store .clients))).isOk = true
  apiKeyHashes : configured .clients = true → ∀ (key : String) j client, (store .clients)[key]? = some (.record j) →
    ClientRegistration.ofJson j = some client → client.encrypted = true →
    (decryptApiKeyHash C.gcm (.ok kekPair) client.apiKeyHash).isOk = true →
      (decryptApiKeyHash C.gcm (.ok ⟨kekPair.current, none⟩) client.apiKeyHash).isOk = true

end

section
variable {C : ClientCrypto} {store : KvStore} (kekPair : KekPair)

theorem hmac_opened_iff (A : AesGcm) (hmacSecret : Bytes) (previousHmacSecret : Option Bytes) :
    (∀ c ∈ hmacCiphertexts hmacSecret previousHmacSecret, Opened A kekPair c) ↔
      (∃ secret, decryptWithKekFallback A kekPair hmacSecret sessionAad = .ok secret) ∧
        ∃ previous, (previousHmacSecret.mapM fun data => decryptWithKekFallback A kekPair data sessionAad) = .ok previous := by
  cases previousHmacSecret with
  | none => simp [hmacCiphertexts, Opened, Except.isOk_iff, pure, Except.pure]
  | some data =>
    simp only [hmacCiphertexts, Opened, Option.map_some, Option.toList_some, List.mem_cons, List.not_mem_nil, or_false,
      forall_eq_or_imp, forall_eq, Except.isOk_iff, Option.mapM_some]
    refine and_congr_right fun _ => ?_
    cases decryptWithKekFallback A kekPair data sessionAad with
    | error e => simp [Functor.map, Except.map]
    | ok p => simp [Functor.map, Except.map]

theorem officer_open_isOk (A : AesGcm) (officer : OfficerRegistration) :
    (officer.open A (.ok kekPair)).isOk = true ↔ officer.active = true →
      officer.encrypted = true ∧
        ∀ c ∈ hmacCiphertexts officer.hmacSecret officer.previousHmacSecret, Opened A kekPair c := by
  rw [hmac_opened_iff, Except.isOk_iff]
  unfold OfficerRegistration.open
  cases officer.active with
  | false => simp
  | true =>
    cases officer.encrypted with
    | false => simp
    | true =>
      simp only [Bool.not_true, Bool.false_eq_true, if_false, Except.ok_bind, true_implies, true_and]
      exact Except.exists_map₂_eq_ok

theorem getOfficerById_isOk (A : AesGcm) (fails : Bool) (issuerKid officerId : String) (kv : Table String (Cell Json)) :
    (getOfficerById A fails issuerKid officerId (.ok kekPair) kv).isOk = true ↔
      validateIdentifier officerId "officer_id" = .ok () ∧ fails = false ∧
        ∀ cell, kv[officerKey issuerKid officerId]? = some cell → ∃ j officer, cell = .record j ∧
          OfficerRegistration.ofJson j = some officer ∧ (officer.open A (.ok kekPair)).isOk = true := by
  rw [Except.isOk_iff]
  unfold getOfficerById
  cases validateIdentifier officerId "officer_id" with
  | error e => simp
  | ok _ =>
    cases fails with
    | true => simp
    | false =>
      cases kv[officerKey issuerKid officerId]? with
      | none => simp
      | some cell =>
        cases cell with
        | garbled => simp
        | record j =>
          cases hj : OfficerRegistration.ofJson j with
          | none => simp [hj]
          | some officer => simp [hj, Except.isOk_iff]

theorem getClientById_isOk (call : ClientCall) (clientId : String) (kv : Table String (Cell Json)) :
    (getClientById C { call with kek := .ok kekPair } clientId (clientsOf kv)).isOk = true ↔
      validateIdentifier clientId "client_id" = .ok () ∧ call.lookupFails = false ∧ ∃ config, call.config = .ok config ∧
        ∀ cell, kv[clientKey (extractIssuerKid config.issuerId) clientId]? = some cell →
          ∃ client, clientCell cell = .record client ∧ (client.active = true → client.encrypted = true ∧
            ∀ c ∈ hmacCiphertexts client.hmacSecret client.previousHmacSecret, Opened C.gcm kekPair c) := by
  rw [Except.isOk_iff]
  unfold getClientById readClient kvGet
  cases validateIdentifier clientId "client_id" with
  | error e => simp
  | ok _ =>
    cases call.config with
    | error e => simp
    | ok config =>
      cases call.lookupFails with
      | true => simp
      | false =>
        simp only [Except.ok_bind, Bool.false_eq_true, if_false, clientsOf_get, true_and, Except.ok.injEq, exists_eq_left']
        cases kv[clientKey (extractIssuerKid config.issuerId) clientId]? with
        | none => simp
        | some cell =>
          cases hcell : clientCell cell with
          | garbled => simp [hcell]
          | record client =>
            simp only [Option.map_some, hcell, Except.ok_bind, Option.some.injEq, forall_eq', Cell.record.injEq,
              exists_eq_left', hmac_opened_iff]
            cases client.active with
            | false => simp
            | true =>
              cases client.encrypted with
              | false => simp
              | true =>
                simp only [Bool.not_true, Bool.false_eq_true, if_false, true_implies, true_and]
                exact Except.exists_map₂_eq_ok

theorem clientCell_eq_record {cell : Cell Json} {client : ClientRegistration} :
    clientCell cell = .record client ↔ ∃ j, cell = .record j ∧ ClientRegistration.ofJson j = some client := by
  cases cell with
  | garbled => simp [clientCell]
  | record j => cases hj : ClientRegistration.ofJson j <;> simp [clientCell, hj]

theorem keypair_open_isOk (A : AesGcm) (keypair : KeypairRecord) (now : UInt64) :
    (keypair.open A (.ok kekPair) now).isOk = true ↔
      keypair.status = .active ∧ ¬(keypair.validUntil ≠ 0 ∧ nowEpochSecs now > keypair.validUntil) ∧ keypair.encrypted = true ∧
        ∃ vkB64 vk data, (keypair.vk <|> keypair.publicKey) = some vkB64 ∧ Base64.decode vkB64 = some vk ∧
          Base64.decode keypair.sk = some data ∧ Opened A kekPair ⟨"sk", data, signingKeyAad (keypair.version.getD "v1")⟩ := by
  rw [Except.isOk_iff]
  unfold KeypairRecord.open decodeBase64 Opened
  by_cases hstatus : keypair.status = .active
  · rw [if_neg (not_not.mpr hstatus)]
    by_cases hexpired : keypair.validUntil ≠ 0 ∧ nowEpochSecs now > keypair.validUntil
    · rw [if_pos hexpired]
      exact iff_of_false (by simp) fun h => h.2.1 hexpired
    · rw [if_neg hexpired]
      simp only [hstatus, hexpired, not_false_eq_true, true_and]
      cases hvk : (keypair.vk <|> keypair.publicKey) with
      | none => simp
      | some vkB64 =>
        cases hsk : Base64.decode keypair.sk with
        | none => simp
        | some data =>
          cases hbytes : Base64.decode vkB64 with
          | none => simp [hbytes]
          | some vk =>
            cases keypair.encrypted with
            | false => simp [hbytes]
            | true =>
              simp only [Except.ok_bind, hbytes, Bool.not_true, Bool.false_eq_true, if_false, Option.some.injEq, true_and,
                exists_and_left, exists_eq_left', Except.isOk_iff]
              exact Except.exists_map_eq_ok
  · rw [if_pos hstatus]
    exact iff_of_false (by simp) fun h => hstatus h.1

theorem getSigningKeypair_isOk (A : AesGcm) (fails : Bool) (issuerKid kid : String) (now : UInt64) (kv : KeyKv) :
    (getSigningKeypair A fails issuerKid kid (.ok kekPair) now kv).isOk = true ↔
      validateIdentifier kid "kid" = .ok () ∧ fails = false ∧
        ∃ j keypair, kv[keyName issuerKid kid]? = some (.record j) ∧ KeypairRecord.ofJson j = some keypair ∧
          (keypair.open A (.ok kekPair) now).isOk = true := by
  rw [Except.isOk_iff]
  unfold getSigningKeypair
  cases validateIdentifier kid "kid" with
  | error e => simp
  | ok _ =>
    cases fails with
    | true => simp
    | false =>
      cases kv[keyName issuerKid kid]? with
      | none => simp
      | some cell =>
        cases cell with
        | garbled => simp
        | record j =>
          cases hj : KeypairRecord.ofJson j with
          | none => simp [hj]
          | some keypair => simp [hj, Except.isOk_iff]

theorem decryptApiKeyHash_isOk (A : AesGcm) (data : Bytes) : (decryptApiKeyHash A (.ok kekPair) data).isOk = true ↔
    ∃ decryptedBytes, decryptWithKekFallback A kekPair data apiKeyHashAad = .ok decryptedBytes ∧
      (String.fromUTF8? ⟨decryptedBytes.toArray⟩).isSome = true := by
  rw [Except.isOk_iff]
  unfold decryptApiKeyHash
  simp only [Except.ok_bind, Except.bind_eq_ok]
  constructor
  · rintro ⟨hash, decryptedBytes, hopen, hhash⟩
    refine ⟨decryptedBytes, hopen, ?_⟩
    cases hutf8 : String.fromUTF8? ⟨decryptedBytes.toArray⟩ with
    | none => simp [hutf8] at hhash
    | some _ => rfl
  · rintro ⟨decryptedBytes, hopen, hutf8⟩
    obtain ⟨hash, hhash⟩ := Option.isSome_iff_exists.mp hutf8
    exact ⟨hash, decryptedBytes, hopen, by rw [hhash]; rfl⟩

theorem not_expired_zero {j : Json} {keypair : KeypairRecord} (hj : KeypairRecord.ofJson j = some keypair) :
    ¬(keypair.validUntil ≠ 0 ∧ nowEpochSecs 0 > keypair.validUntil) := by
  have hnonneg : 0 ≤ keypair.validUntil := by
    obtain ⟨v, hv, hdefault⟩ := Option.bind_eq_some_iff.mp (keypair_ofJson_iff.mp hj).validUntil
    cases v with
    | none => exact (Option.some.inj hdefault).le
    | some v =>
      cases v with
      | num n =>
        simp only [Json.asInt, Option.ite_none_right_eq_some, Option.some.injEq] at hdefault
        omega
      | _ => cases hdefault
  have hzero : secs 0 = 0 := rfl
  rw [nowEpochSecs_eq, hzero]
  omega

def lookupCall (config : IssuerConfig) : ClientCall where
  authorizer := ⟨"", "", none, 0, "", ""⟩
  canonicalMessage := ""
  readings := .at 0
  faults := .none
  purgeFaults := .none
  config := .ok config
  kek := .ok kekPair
  lookup := 0
  lookupFails := false
  reread := 0
  rereadFails := false
  write := 0
  writeFails := false

variable {kekPair} {configured : NamespaceId → Bool}

theorem opened_of_safe (hsafe : SafeToRemove C kekPair configured store) {id : NamespaceId} {j : Json} {cs : List Ciphertext}
    (h : Reading C kekPair configured store id j cs) (hall : ∀ c ∈ cs, Opened C.gcm kekPair c) :
    ∀ c ∈ cs, Opened C.gcm ⟨kekPair.current, none⟩ c := by
  cases h with
  | keypair hc hid hget hj hactive hvk hbytes henc hsk =>
    rename_i issuerKid kid vkB64 keypair data vk
    have hopen := hall _ (List.mem_singleton.mpr rfl)
    have hsame := hsafe.keypairs hc false issuerKid kid 0 ((getSigningKeypair_isOk _ _ _ _ _ _ _).mpr
      ⟨hid, rfl, j, keypair, hget, hj, (keypair_open_isOk _ _ _ _).mpr
        ⟨hactive, not_expired_zero hj, henc, vkB64, vk, data, hvk, hbytes, hsk, hopen⟩⟩)
    obtain ⟨-, -, j', keypair', hget', hj', hopen'⟩ := (getSigningKeypair_isOk _ _ _ _ _ _ _).mp hsame
    rw [hget] at hget'
    cases hget'
    rw [hj] at hj'
    cases hj'
    obtain ⟨-, -, -, -, -, data', -, -, hsk', hopened⟩ := (keypair_open_isOk _ _ _ _).mp hopen'
    rw [hsk] at hsk'
    cases hsk'
    intro c hmem
    rw [List.mem_singleton.mp hmem]
    exact hopened
  | officer hc hid hget hj hactive henc =>
    rename_i issuerKid officerId officer
    have hsame := hsafe.officers hc false issuerKid officerId ((getOfficerById_isOk _ _ _ _ _ _).mpr
      ⟨hid, rfl, fun cell hcell => ⟨j, officer, by rw [hget] at hcell; cases hcell; rfl, hj,
        (officer_open_isOk _ _ _).mpr fun _ => ⟨henc, hall⟩⟩⟩)
    obtain ⟨-, -, hcell⟩ := (getOfficerById_isOk _ _ _ _ _ _).mp hsame
    obtain ⟨j', officer', he, hj', hopen'⟩ := hcell _ hget
    cases he
    rw [hj] at hj'
    cases hj'
    exact ((officer_open_isOk _ _ _).mp hopen' hactive).2
  | client hc hid hget hj hactive henc =>
    rename_i config clientId client
    have hsame := hsafe.clients hc (lookupCall kekPair config) clientId ((getClientById_isOk _ _ _ _).mpr
      ⟨hid, rfl, config, rfl, fun cell hcell => ⟨client, by
        rw [hget] at hcell
        cases hcell
        exact clientCell_eq_record.mpr ⟨j, rfl, hj⟩, fun _ => ⟨henc, hall⟩⟩⟩)
    obtain ⟨-, -, _, hconfig, hcell⟩ := (getClientById_isOk _ _ _ _).mp hsame
    cases hconfig
    obtain ⟨client', hclient', hopen'⟩ := hcell _ hget
    rw [clientCell_eq_record.mpr ⟨j, rfl, hj⟩] at hclient'
    cases hclient'
    exact (hopen' hactive).2
  | apiKeyHash hc hget hj henc hopen hutf8 =>
    have hsame := hsafe.apiKeyHashes hc _ j _ hget hj henc ((decryptApiKeyHash_isOk _ _ _).mpr ⟨_, hopen, hutf8⟩)
    obtain ⟨plaintext, hopen', -⟩ := (decryptApiKeyHash_isOk _ _ _).mp hsame
    intro c hmem
    rw [List.mem_singleton.mp hmem]
    exact Except.isOk_iff.mpr ⟨plaintext, hopen'⟩

theorem safe_of_opened (h : ∀ id j cs, Reading C kekPair configured store id j cs → (∀ c ∈ cs, Opened C.gcm kekPair c) →
    ∀ c ∈ cs, Opened C.gcm ⟨kekPair.current, none⟩ c) : SafeToRemove C kekPair configured store := by
  refine ⟨fun hc fails issuerKid kid now hok => ?_, fun hc fails issuerKid officerId hok => ?_,
    fun hc call clientId hok => ?_, fun hc key j client hget hj henc hok => ?_⟩
  · rw [getSigningKeypair_isOk] at hok ⊢
    obtain ⟨hid, hfails, j, keypair, hget, hj, hopen⟩ := hok
    refine ⟨hid, hfails, j, keypair, hget, hj, ?_⟩
    rw [keypair_open_isOk] at hopen ⊢
    obtain ⟨hactive, hexpired, henc, vkB64, vk, data, hvk, hbytes, hsk, hopened⟩ := hopen
    refine ⟨hactive, hexpired, henc, vkB64, vk, data, hvk, hbytes, hsk, ?_⟩
    exact h _ _ _ (.keypair hc hid hget hj hactive hvk hbytes henc hsk) (by simpa using hopened) _ (List.mem_singleton.mpr rfl)
  · rw [getOfficerById_isOk] at hok ⊢
    obtain ⟨hid, hfails, hcell⟩ := hok
    refine ⟨hid, hfails, fun cell hget => ?_⟩
    obtain ⟨j, officer, rfl, hj, hopen⟩ := hcell cell hget
    refine ⟨j, officer, rfl, hj, ?_⟩
    rw [officer_open_isOk] at hopen ⊢
    intro hactive
    obtain ⟨henc, hall⟩ := hopen hactive
    exact ⟨henc, h _ _ _ (.officer hc hid hget hj hactive henc) hall⟩
  · rw [getClientById_isOk] at hok ⊢
    obtain ⟨hid, hfails, config, hconfig, hcell⟩ := hok
    refine ⟨hid, hfails, config, hconfig, fun cell hget => ?_⟩
    obtain ⟨client, hclient, hopen⟩ := hcell cell hget
    obtain ⟨j, rfl, hj⟩ := clientCell_eq_record.mp hclient
    refine ⟨client, hclient, fun hactive => ?_⟩
    obtain ⟨henc, hall⟩ := hopen hactive
    exact ⟨henc, h _ _ _ (.client hc hid hget hj hactive henc) hall⟩
  · rw [decryptApiKeyHash_isOk] at hok ⊢
    obtain ⟨decryptedBytes, hopen, hutf8⟩ := hok
    have hopened := h _ _ _ (.apiKeyHash hc hget hj henc hopen hutf8)
      (by simpa [Opened] using Except.isOk_iff.mpr ⟨decryptedBytes, hopen⟩) _ (List.mem_singleton.mpr rfl)
    obtain ⟨plaintext, hplain⟩ := isOk_alone.mp hopened
    rw [decryptWithKekFallback_current hplain] at hopen
    cases hopen
    exact ⟨_, decryptWithKekFallback_current hplain, hutf8⟩

/-! ## What verification tries -/

/-- The one ciphertext of a record that `verify-rotation` tries. -/
def LookedAt (id : NamespaceId) (j : Json) (name : String) : Prop :=
  (∃ members, j = .obj members) ∧
    ∃ ns ∈ encryptedNamespaces false, ns.namespaceId = id ∧ ns.fields.head?.map EncryptedField.jsonKey = some name

theorem extractBytes_of_fieldValue {v : Option Json} {form : Form} {data : Bytes} (h : fieldValue v = .bytes form data) :
    extractBytesFromJson v = some data := by
  unfold fieldValue at h
  split at h
  · cases h
  · cases h
  · split at h
    · rename_i bytes hbytes
      cases h
      exact hbytes
    · cases h
  · split at h
    · rename_i bytes hbytes
      cases h
      exact hbytes
    · cases h
  · cases h

theorem length_of_opened {A : AesGcm} {c : Ciphertext} (h : Opened A kekPair c) : 28 ≤ c.data.length := by
  obtain ⟨plaintext, hopen⟩ := Except.isOk_iff.mp h
  unfold decryptWithKekFallback at hopen
  split at hopen
  · rename_i hcur
    exact (decryptWithKek_eq_ok.mp hcur).1
  · split at hopen
    · split at hopen
      · rename_i hprev
        exact (decryptWithKek_eq_ok.mp hprev).1
      · cases hopen
    · cases hopen

theorem opened_of_settles {A : AesGcm} {ns : EncryptedNamespace} (hcur : kekPair.current.length = 32) {j : Json} {field : EncryptedField}
    {form : Form} {data aad : Bytes} {name : String} (hsettles : Settles A kekPair.current ns (.record j))
    (hs : ns.isSessionNs = false) (hflag : encryptedFlag j.entries = true) (hfield : ns.fields.head? = some field)
    (hdata : fieldValue j.entries[field.jsonKey]? = .bytes form data) (haad : field.aad.bytes j.entries = aad)
    (hopen : Opened A kekPair ⟨name, data, aad⟩) : Opened A ⟨kekPair.current, none⟩ ⟨name, data, aad⟩ := by
  simp only [Settles, hs, Bool.false_eq_true, if_false] at hsettles
  obtain ⟨field', data', hfield', hdata', hsome⟩ := hsettles hflag
  rw [hfield] at hfield'
  cases hfield'
  rw [extractBytes_of_fieldValue hdata] at hdata'
  cases hdata'
  rw [haad] at hsome
  obtain ⟨plaintext, hplain⟩ := Option.isSome_iff_exists.mp hsome
  exact isOk_alone.mpr ⟨plaintext, decryptWithKek_eq_ok.mpr ⟨length_of_opened hopen, hcur, hplain⟩⟩

theorem hmac_name {hmacSecret : Bytes} {previousHmacSecret : Option Bytes} {c : Ciphertext}
    (hmem : c ∈ hmacCiphertexts hmacSecret previousHmacSecret) (hname : c.name = "hmac_secret") :
    c = ⟨"hmac_secret", hmacSecret, sessionAad⟩ := by
  rcases List.mem_cons.mp hmem with rfl | hmem
  · rfl
  · obtain ⟨data, -, rfl⟩ := Option.map_eq_some_iff.mp (Option.mem_toList.mp hmem)
    simp at hname

theorem lookedAt_fields : ∀ ns ∈ encryptedNamespaces false, ns.fields.head?.map EncryptedField.jsonKey =
    match ns.namespaceId with
      | .keys => some "sk"
      | .officers | .clients => some "hmac_secret"
      | .ed25519SigningKeys => some "signing_key"
      | .sessions => none := by decide

theorem keypair_sk {A : AesGcm} {kek : Bytes} {members : List (String × Json)} {keypair : KeypairRecord} {data : Bytes}
    (hf : KeypairFields (.obj members) keypair) (hsk : Base64.decode keypair.sk = some data)
    (hflag : encryptedFlag (Json.obj members).entries = true) (hsettles : Settles A kek signingKeysNs (.record (.obj members))) :
    fieldValue (Json.obj members).entries["sk"]? = .bytes .text data := by
  obtain ⟨v, hv, hstr⟩ := Option.bind_eq_some_iff.mp hf.sk
  cases v with
  | none => cases hstr
  | some v =>
    obtain ⟨n, -, hget, hothers⟩ := Json.field_eq_some hv
    by_cases hn : n = "sk"
    · rw [hn] at hget
      rw [hget]
      cases v with
      | str s =>
        cases hstr
        exact fieldValue_str hsk
      | _ => cases hstr
    · have hnone := hothers "sk" (by simp) (Ne.symm hn)
      simp only [Settles, show signingKeysNs.isSessionNs = false by decide, Bool.false_eq_true, if_false] at hsettles
      obtain ⟨field, data', hfield, hdata', -⟩ := hsettles hflag
      cases hfield
      rw [hnone] at hdata'
      cases hdata'

theorem opened_of_lookedAt {includeSessions : Bool}
    (hsettled : Settled C.gcm kekPair.current kekPair.previous configured includeSessions store) {id : NamespaceId} {j : Json}
    {cs : List Ciphertext} (h : Reading C kekPair configured store id j cs) {c : Ciphertext} (hmem : c ∈ cs)
    (hlooked : LookedAt id j c.name) (hopen : Opened C.gcm kekPair c) : Opened C.gcm ⟨kekPair.current, none⟩ c := by
  obtain ⟨⟨members, rfl⟩, ns, hns, rfl, hname⟩ := hlooked
  rw [lookedAt_fields ns hns] at hname
  have htried : ∀ ns' ∈ encryptedNamespaces false, configured ns'.namespaceId = true → ∀ (key : String) (cell : Cell Json),
      Listed store ns' key cell → Settles C.gcm kekPair.current ns' cell := by
    intro ns' hns'
    refine hsettled.entries ns' ?_
    simp only [encryptedNamespaces, Bool.false_eq_true, if_false, List.append_nil] at hns'
    exact List.mem_append_left _ hns'
  generalize hid : ns.namespaceId = id at h hname
  cases h with
  | keypair hc hvalid hget hj hactive hvk hbytes henc hsk =>
    have hf := keypair_ofJson_iff.mp hj
    have hsettles := htried signingKeysNs (by simp [encryptedNamespaces]) hc _ _ ⟨hget, by simp [keyName, keyPrefix, String.append_assoc, signingKeysNs]⟩
    have hflag := (encryptedFlag_defaulted hf.encrypted).trans henc
    rw [List.mem_singleton.mp hmem] at hopen ⊢
    exact opened_of_settles hsettled.current hsettles (by decide) hflag rfl (keypair_sk hf hsk hflag hsettles) (keypair_aad hf) hopen
  | officer hc hvalid hget hj hactive henc =>
    have hm := members_of_officer hj
    have hsettles := htried officersNs (by simp [encryptedNamespaces]) hc _ _ ⟨hget, by simp [officerKey, String.append_assoc, officersNs]⟩
    rw [hmac_name hmem (Option.some.inj hname).symm] at hopen ⊢
    exact opened_of_settles hsettled.current hsettles (by decide) (hm.flag.trans henc) rfl hm.secret rfl hopen
  | client hc hvalid hget hj hactive henc =>
    have hm := (members_of_client hj).1
    have hsettles := htried clientsNs (by simp [encryptedNamespaces]) hc _ _ ⟨hget, by simp [clientKey, String.append_assoc, clientsNs]⟩
    rw [hmac_name hmem (Option.some.inj hname).symm] at hopen ⊢
    exact opened_of_settles hsettled.current hsettles (by decide) (hm.flag.trans henc) rfl hm.secret rfl hopen
  | apiKeyHash =>
    rw [List.mem_singleton.mp hmem] at hname
    simp at hname

end

/-- **The report.** That it is safe to remove the previous key can be relied on exactly when the tool does not
say so, or every ciphertext that a reader needs, and that the tool does not try, opens under the current key. -/
theorem verifyRotation_sound_iff (C : ClientCrypto) (kekPair : KekPair) (configured : NamespaceId → Bool) (includeSessions : Bool)
    (store : KvStore) :
    (reportsSafe (verifyRotation C.gcm kekPair.current kekPair.previous configured includeSessions store) = true →
        SafeToRemove C kekPair configured store) ↔
      ¬Settled C.gcm kekPair.current kekPair.previous configured includeSessions store ∨
        ∀ id j cs, Reading C kekPair configured store id j cs → (∀ c ∈ cs, Opened C.gcm kekPair c) →
          ∀ c ∈ cs, ¬LookedAt id j c.name → Opened C.gcm ⟨kekPair.current, none⟩ c := by
  rw [reportsSafe_iff]
  constructor
  · intro h
    by_cases hsettled : Settled C.gcm kekPair.current kekPair.previous configured includeSessions store
    · exact .inr fun id j cs hreading hall c hc _ => opened_of_safe (h hsettled) hreading hall c hc
    · exact .inl hsettled
  · intro h hsettled
    have hopen := h.resolve_left (not_not.mpr hsettled)
    refine safe_of_opened fun id j cs hreading hall c hc => ?_
    by_cases hlooked : LookedAt id j c.name
    · exact opened_of_lookedAt hsettled hreading hc hlooked (hall c hc)
    · exact hopen id j cs hreading hall c hc hlooked

/-! ## A record with two keys

`rotate-officer-hmac` moves the stored secret to `previous_hmac_secret` as it is and encrypts the new one under
the key it is given.
-/

def drillCrypto : ClientCrypto := ⟨clearGcm, fun _ _ => []⟩

def halfRotatedOfficer : Cell Json :=
  .record (.obj [("officer_id", .str "alice"), ("hmac_secret", drillSecret drillKek.newKek sessionAad), ("created_at", .num 0),
    ("active", .bool true), ("encrypted", .bool true), ("previous_hmac_secret", drillSecret drillKek.oldKek sessionAad)])

def halfRotatedStore : KvStore
  | .officers => (∅ : Table String (Cell Json)).insert "issuer:acme:officer:alice" halfRotatedOfficer
  | _ => ∅

/-- The officer is reported as safe and cannot be read without the previous key. -/
theorem halfRotated_not_safe :
    reportsSafe (verifyRotation clearGcm drillKek.newKek (some drillKek.oldKek) (fun _ => true) true halfRotatedStore) = true ∧
      ¬SafeToRemove drillCrypto ⟨drillKek.newKek, some drillKek.oldKek⟩ (fun _ => true) halfRotatedStore := by
  refine ⟨by decide +kernel, fun hsafe => ?_⟩
  have hpair : (getOfficerById clearGcm false "acme" "alice" (.ok ⟨drillKek.newKek, some drillKek.oldKek⟩)
    (halfRotatedStore .officers)).isOk = true := by decide +kernel
  have halone : (getOfficerById clearGcm false "acme" "alice" (.ok ⟨drillKek.newKek, none⟩)
    (halfRotatedStore .officers)).isOk = false := by decide +kernel
  have hread := hsafe.officers rfl false "acme" "alice" hpair
  rw [show drillCrypto.gcm = clearGcm from rfl, halone] at hread
  cases hread

end Issuer.Tool
