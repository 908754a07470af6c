import Issuer.Jwks
import Issuer.KeyRotationRuns
import Issuer.Lib.Except

/-!
# Which credentials can be verified with the JWKS

The onboarded key is signed with and published under one name, its slot. A rotation of the signing
key writes that slot back without its `vk` and stores the new key without one, so from then on the
JWKS cannot be read at all; a rotation of the attestation key moves `default_kid` away from the slot.
-/

namespace Issuer

open Rust Store Runs

/-! ## One credential -/

section
variable {A : AesGcm} {J : RedJubjub} {S : CredSig} {issuerKid kid : String} {kv : KeyKv} {sk vk : Bytes}

theorem RjSigner.new_ok {signer : RjSigner} (h : RjSigner.new J kid sk vk = .ok signer) :
    signer = ⟨kid, sk, vk, false⟩ ∧ validateSignerKid kid = .ok () ∧ vk.length = 32 ∧ J.isSubgroupPoint vk = true := by
  simp only [RjSigner.new, Except.bind_eq_ok, Except.throw_bind, Except.check_eq_ok] at h
  obtain ⟨⟨⟩, hkid, hlen, hpoint, h⟩ := h
  split at h
  · simp at h
  · simp at h
    exact ⟨h.2.symm, hkid, by omega, by simpa using hpoint⟩

theorem signCommitment_ok {signer : RjSigner} {cBytes : Bytes} {iat exp : Nat} {schema : String}
    {header : SignedCredentialHeader} (h : signCommitment J S signer cBytes iat exp schema = .ok header) :
    header.kid = signer.kid ∧ header.issuerVk = signer.vk := by
  simp only [signCommitment, Except.throw_bind, Except.check_eq_ok] at h
  obtain ⟨-, -, -, -, -, h⟩ := h
  split at h
  · simp at h
  split at h
  · simp at h
  · cases h
    exact ⟨rfl, rfl⟩

/-- A credential names and carries the key it was signed with. -/
theorem signCredential_ok {p : SigningPhase} {header : SignedCredentialHeader}
    (h : signCredential J S A p issuerKid kv = .ok header) :
    ∃ activeKey sk, getActiveSigningKey p.reads issuerKid p.now kv = .ok activeKey ∧
      getSigningKeypair A p.keypairFails issuerKid activeKey.version p.kek p.now kv = .ok (sk, header.issuerVk) ∧
      header.kid = activeKey.keyId ∧ validateSignerKid header.kid = .ok () ∧ header.issuerVk.length = 32 ∧
      J.isSubgroupPoint header.issuerVk = true := by
  simp only [signCredential, Except.bind_eq_ok] at h
  obtain ⟨cBytes, -, h⟩ := h
  split at h
  · simp at h
  rename_i activeKey hactive
  split at h
  · simp at h
  rename_i sk vk hpair
  split at h
  · simp at h
  rename_i signer hsigner
  simp only [Except.bind_eq_ok] at h
  obtain ⟨terms, -, h⟩ := h
  split at h
  · simp at h
  rename_i signed hsigned
  cases h
  obtain ⟨rfl, hkid, hlen, hpoint⟩ := RjSigner.new_ok hsigner
  obtain ⟨hheader, hvk⟩ := signCommitment_ok hsigned
  simp only at hheader hvk
  rw [hheader, hvk]
  exact ⟨activeKey, sk, hactive, hpair, rfl, hkid, hlen, hpoint⟩

theorem getSigningKeypair_ok {fails : Bool} {kek : Except ApiError KekPair} {now : UInt64}
    (h : getSigningKeypair A fails issuerKid kid kek now kv = .ok (sk, vk)) :
    validateIdentifier kid "kid" = .ok () ∧ ∃ j keypair vkB64, kv[keyName issuerKid kid]? = some (.record j) ∧
      KeypairRecord.ofJson j = some keypair ∧ (keypair.vk <|> keypair.publicKey) = some vkB64 ∧
      Base64.decode vkB64 = some vk := by
  simp only [getSigningKeypair, Except.bind_eq_ok, Except.throw_bind, Except.check_eq_ok] at h
  obtain ⟨⟨⟩, hkid, -, h⟩ := h
  refine ⟨hkid, ?_⟩
  split at h
  · simp at h
  · simp at h
  rename_i j hj
  split at h
  · simp at h
  rename_i keypair hparse
  simp only [KeypairRecord.open, Except.throw_bind, Except.check_eq_ok] at h
  obtain ⟨-, -, h⟩ := h
  split at h
  · rename_i vkB64 hvk
    simp only [Except.bind_eq_ok, Except.check_eq_ok] at h
    obtain ⟨skBytes, -, vkBytes, hdecode, -, kekPair, -, sk', -, h⟩ := h
    cases h
    refine ⟨j, keypair, vkB64, hj, hparse, hvk, ?_⟩
    unfold decodeBase64 at hdecode
    split at hdecode
    · cases hdecode
      assumption
    · cases hdecode
  · simp at h

/-! ## The JWKS -/

def storedVk : Cell Json → Option String
  | .record j => if j.fits 1 then j.required Json.asStr 0 ["vk"] else none
  | .garbled => none

theorem storedVk_toJson (k : SigningKeyRecord) : storedVk (.record k.toJson) = none := by
  simp [storedVk, vkOnly_toJson]

theorem decodeBase64_eq_ok {s : String} {bytes : Bytes} : decodeBase64 s = .ok bytes ↔ Base64.decode s = some bytes := by
  unfold decodeBase64
  cases hs : Base64.decode s with
  | none => simp
  | some bytes' => simp

theorem getPublicKeyOnly_eq_ok : getPublicKeyOnly false issuerKid kid kv = .ok vk ↔
    validateIdentifier kid "kid" = .ok () ∧ ∃ c vkB64, kv[keyName issuerKid kid]? = some c ∧
      storedVk c = some vkB64 ∧ Base64.decode vkB64 = some vk := by
  simp only [getPublicKeyOnly, Except.bind_eq_ok, Except.throw_bind, Except.check_eq_ok]
  constructor
  · rintro ⟨⟨⟩, hkid, -, h⟩
    refine ⟨hkid, ?_⟩
    split at h
    · simp at h
    · simp at h
    rename_i j hj
    split at h
    · simp at h
    rename_i vkB64 hvk
    exact ⟨.record j, vkB64, hj, hvk, decodeBase64_eq_ok.mp h⟩
  · rintro ⟨hkid, c, vkB64, hc, hvk, hdecode⟩
    refine ⟨(), hkid, by simp, ?_⟩
    cases c with
    | garbled => cases hvk
    | record j =>
      rw [storedVk] at hvk
      simp only [hc, hvk]
      exact decodeBase64_eq_ok.mpr hdecode

theorem fromPublicKey_eq_ok {m : KeyManager} : KeyManager.fromPublicKey J kid vk = .ok m ↔
    validateSignerKid kid = .ok () ∧ vk.length = 32 ∧ J.isSubgroupPoint vk = true ∧
      m = ⟨[⟨kid, List.replicate 32 0, vk, true⟩]⟩ := by
  simp only [KeyManager.fromPublicKey, Except.bind_eq_ok, Except.throw_bind, Except.check_eq_ok, Except.pure_eq_ok]
  constructor
  · rintro ⟨⟨⟩, hkid, hlen, hpoint, rfl⟩
    exact ⟨hkid, by omega, by simpa using hpoint, rfl⟩
  · rintro ⟨hkid, hlen, hpoint, rfl⟩
    exact ⟨(), hkid, by omega, by simpa using hpoint, rfl⟩

end

/-- The JWKS can be read and has the key under the kid. -/
def Published (J : RedJubjub) (w : KeyWorld) (kid : String) (vk : Bytes) : Prop :=
  ∃ keys, jwks J false (.ok w.config) w.keys = .ok keys ∧ ∃ jwk ∈ keys, jwk.kid = kid ∧ jwk.x = Base64.encode vk

section
variable {J : RedJubjub} {w : KeyWorld} {kid : String} {vk : Bytes}

theorem Published.kid_eq (h : Published J w kid vk) : kid = w.config.defaultKid ∧
    ∃ vk', getPublicKeyOnly false w.issuerKid w.config.defaultKid w.keys = .ok vk' := by
  obtain ⟨keys, hkeys, jwk, hjwk, hkid, -⟩ := h
  simp only [jwks] at hkeys
  split at hkeys
  · cases hkeys
  rename_i vk' hvk'
  split at hkeys
  · cases hkeys
  rename_i m hm
  cases hkeys
  obtain ⟨-, -, -, rfl⟩ := fromPublicKey_eq_ok.mp hm
  simp only [KeyManager.getJwks, List.map_cons, List.map_nil, List.mem_singleton] at hjwk
  subst hjwk
  exact ⟨hkid.symm, vk', hvk'⟩

theorem published (hkid : w.config.defaultKid = kid) (hkey : getPublicKeyOnly false w.issuerKid kid w.keys = .ok vk)
    (hvalid : validateSignerKid kid = .ok ()) (hlen : vk.length = 32) (hpoint : J.isSubgroupPoint vk = true) :
    Published J w kid vk := by
  subst hkid
  have hm := fromPublicKey_eq_ok.mpr ⟨hvalid, hlen, hpoint, rfl⟩
  unfold KeyWorld.issuerKid at hkey
  simp only [Published, jwks, hkey, hm]
  exact ⟨_, rfl, _, List.mem_singleton_self _, rfl, rfl⟩

end

/-! ## The onboarded store -/

/-- The slot `kid` holds an active record with a `vk`, of that version and key id; no other slot
holds an active one. -/
structure OnboardedKeys (issuerKid kid : String) (kv : KeyKv) : Prop where
  slot : ∃ members k vkB64, kv[keyName issuerKid kid]? = some (.record (.obj members)) ∧
    SigningKeyRecord.ofJson (.obj members) = some k ∧ k.version = kid ∧ k.keyId = kid ∧ k.status = .active ∧
    storedVk (.record (.obj members)) = some vkB64
  single : ∀ slot c k, kv[keyName issuerKid slot]? = some c → parseRecord c = some k → k.status = .active → slot = kid

structure Onboarded (kid : String) (w : KeyWorld) : Prop where
  default : w.config.defaultKid = kid
  keys : OnboardedKeys w.issuerKid kid w.keys

section
variable {A : AesGcm} {J : RedJubjub} {S : CredSig} {issuerKid kid : String} {kv : KeyKv}

theorem keypairRecord_vk {members : List (String × Json)} {keypair : KeypairRecord} {vkB64 : String}
    (h : KeypairRecord.ofJson (.obj members) = some keypair)
    (hvk : storedVk (.record (.obj members)) = some vkB64) : keypair.vk = some vkB64 := by
  have hfield : Json.field members ["vk"] = some (some (.str vkB64)) := by
    simp only [storedVk, Json.fits, Json.required, Json.get, if_true, Option.bind_eq_some_iff] at hvk
    obtain ⟨v, hv, j, hj, hstr⟩ := hvk
    rw [hv, hj]
    cases j with
    | str s => cases hstr; rfl
    | null | bool | num | float | arr | obj => cases hstr
  simp only [KeypairRecord.ofJson, Json.fits, Bool.not_true, Bool.false_eq_true, if_false, Option.bind_eq_bind,
    Option.bind_eq_some_iff, Json.defaulted, Json.get, hfield] at h
  obtain ⟨sk, -, vk, ⟨v, hv, hvk⟩, publicKey, -, encrypted, -, version, -, status, -, validUntil, -, h⟩ := h
  cases h
  cases hv
  cases hvk
  rfl

theorem getActiveSigningKey_ok {reads : KeyReads} (hreads : reads.Home) {now : UInt64} {k : SigningKeyRecord}
    (h : getActiveSigningKey reads issuerKid now kv = .ok k) : k.status = .active ∧
      ∃ slot c, kv[keyName issuerKid slot]? = some c ∧ parseRecord c = some k := by
  simp only [getActiveSigningKey, Except.bind_eq_ok] at h
  obtain ⟨keys, hkeys, h⟩ := h
  split at h
  · rename_i k' hfind
    cases h
    have hmem := List.mem_of_find?_eq_some hfind
    rw [getAllSigningKeys_ok hkeys] at hmem
    obtain ⟨slot, c, hc, hparse⟩ := mem_loaded hreads hmem
    have hp := List.find?_some hfind
    simp only [Bool.and_eq_true, decide_eq_true_eq] at hp
    exact ⟨hp.1, slot, c, hc, hparse⟩
  · simp at h

/-- The onboarded key is signed with under its slot, and read from there for the JWKS. -/
theorem OnboardedKeys.signed (h : OnboardedKeys issuerKid kid kv) {p : SigningPhase} (hreads : p.reads.Home)
    {header : SignedCredentialHeader} (hsigned : signCredential J S A p issuerKid kv = .ok header) : header.kid = kid ∧
      getPublicKeyOnly false issuerKid kid kv = .ok header.issuerVk := by
  obtain ⟨activeKey, sk, hactive, hpair, hkid, -⟩ := signCredential_ok hsigned
  obtain ⟨members, k, vkB64, hslot, hparse, hversion, hkeyId, -, hvk⟩ := h.slot
  obtain ⟨hstatus, slot, c, hc, hk⟩ := getActiveSigningKey_ok hreads hactive
  have hsame := h.single slot c activeKey hc hk hstatus
  subst hsame
  rw [hslot] at hc
  cases hc
  rw [parseRecord, hparse] at hk
  cases hk
  rw [hversion] at hpair
  obtain ⟨hvalid, j, keypair, vkB64', hj, hkeypair, hor, hdecode⟩ := getSigningKeypair_ok hpair
  rw [hslot] at hj
  cases hj
  rw [keypairRecord_vk hkeypair hvk] at hor
  cases hor
  exact ⟨hkid.trans hkeyId, getPublicKeyOnly_eq_ok.mpr ⟨hvalid, _, vkB64, hslot, hvk, hdecode⟩⟩

/-! ## Rotations without a failing read or write -/

def NoVk (issuerKid : String) (kv : KeyKv) : Prop :=
  ∀ slot c, kv[keyName issuerKid slot]? = some c → storedVk c = none

theorem own_kid (issuerKid : String) : KeyWrite.kid ⟨.own, none⟩ issuerKid = .ok issuerKid := rfl

theorem deprecateKeys_total {write : Nat → KeyWrite} (hwrite : ∀ n, write n = ⟨.own, none⟩) (issuerKid : String)
    (keys : List SigningKeyRecord) : ∀ (n : Nat) (kv : KeyKv),
      ∃ m, deprecateKeys write issuerKid n keys kv = (.ok m, deprecateAll issuerKid kv (activeKeys keys)) := by
  induction keys with
  | nil => intro n kv; exact ⟨n, rfl⟩
  | cons k keys ih =>
    intro n kv
    by_cases hk : k.status = .active
    · obtain ⟨m, hm⟩ := ih (n + 1) (saveKey issuerKid kv k.deprecate)
      refine ⟨m, ?_⟩
      simp only [deprecateKeys, hk, if_true, saveKeyMetadata, hwrite, own_kid, hm, activeKeys, List.filter_cons, decide_true]
      rfl
    · obtain ⟨m, hm⟩ := ih n kv
      refine ⟨m, ?_⟩
      simp only [deprecateKeys, hk, if_false, hm, activeKeys, List.filter_cons, decide_false, Bool.false_eq_true]

theorem rotate_writes (A : AesGcm) (issuerKid : String) (kv : KeyKv) {r : Rotation J} (hreads : r.reads = .ok)
    (hwrite : ∀ n, r.write n = ⟨.own, none⟩) :
    (rotateSigningKeyInner A r issuerKid kv).2 = deprecateAll issuerKid kv (activeKeys (storedKeys issuerKid kv)) ∨
      ∃ record, (rotateSigningKeyInner A r issuerKid kv).2 =
        saveKey issuerKid (deprecateAll issuerKid kv (activeKeys (storedKeys issuerKid kv))) record := by
  unfold rotateSigningKeyInner
  rw [hreads, getAllSigningKeys_total]
  obtain ⟨m, hm⟩ := deprecateKeys_total hwrite issuerKid (storedKeys issuerKid kv) 0 kv
  simp only [hm, storeEncryptedKey, saveKeyMetadata, hwrite, own_kid]
  cases hseal : sealKey A r.gcmNonce r.kek (r.newKey (nextVersionFromKeys (storedKeys issuerKid kv)))
      r.keypair.sk.toList with
  | error e => exact .inl rfl
  | ok record => exact .inr ⟨record, rfl⟩

theorem saveKey_noVk (h : NoVk issuerKid kv) (k : SigningKeyRecord) : NoVk issuerKid (saveKey issuerKid kv k) := by
  intro slot c hc
  rw [saveKey_slot] at hc
  split at hc
  · cases hc
    exact storedVk_toJson k
  · exact h slot c hc

theorem deprecateAll_noVk (h : ∀ slot c, kv[keyName issuerKid slot]? = some c → (∃ vkB64, storedVk c = some vkB64) →
      ∃ k ∈ activeKeys (storedKeys issuerKid kv), k.version = slot) :
    NoVk issuerKid (deprecateAll issuerKid kv (activeKeys (storedKeys issuerKid kv))) := by
  intro slot c hc
  rw [deprecateAll_get] at hc
  cases hclaim : claimant (activeKeys (storedKeys issuerKid kv)) slot with
  | some k =>
    rw [hclaim] at hc
    cases hc
    exact storedVk_toJson k.deprecate
  | none =>
    rw [hclaim] at hc
    cases hvk : storedVk c with
    | none => rfl
    | some vkB64 =>
      obtain ⟨k, hk, hversion⟩ := h slot c hc ⟨vkB64, hvk⟩
      have hfind := List.find?_eq_none.mp hclaim k (List.mem_reverse.mpr hk)
      simp [hversion] at hfind

theorem rotate_noVk {r : Rotation J} (hreads : r.reads = .ok) (hwrite : ∀ n, r.write n = ⟨.own, none⟩)
    (h : ∀ slot c, kv[keyName issuerKid slot]? = some c → (∃ vkB64, storedVk c = some vkB64) →
      ∃ k ∈ activeKeys (storedKeys issuerKid kv), k.version = slot) :
    NoVk issuerKid (rotateSigningKeyInner A r issuerKid kv).2 := by
  rcases rotate_writes A issuerKid kv hreads hwrite with hkv | ⟨record, hkv⟩
  · rw [hkv]
    exact deprecateAll_noVk h
  · rw [hkv]
    exact saveKey_noVk (deprecateAll_noVk h) record

theorem OnboardedKeys.covered (h : OnboardedKeys issuerKid kid kv)
    (hother : ∀ slot c, slot ≠ kid → kv[keyName issuerKid slot]? = some c → storedVk c = none) :
    ∀ slot c, kv[keyName issuerKid slot]? = some c → (∃ vkB64, storedVk c = some vkB64) →
      ∃ k ∈ activeKeys (storedKeys issuerKid kv), k.version = slot := by
  rintro slot c hc ⟨vkB64, hvk⟩
  by_cases hslot : slot = kid
  · subst hslot
    obtain ⟨members, k, -, hget, hparse, hversion, -, hactive, -⟩ := h.slot
    refine ⟨k, List.mem_filter.mpr ⟨?_, by simpa using hactive⟩, hversion⟩
    exact mem_storedKeys.mpr ⟨slot, _, hget, hparse⟩
  · rw [hother slot c hslot hc] at hvk
    cases hvk

end

/-! ## Every run -/

/-- A rotation of the signing key meets no failing read or write. -/
def KeyStep.NoKvFailure {J : RedJubjub} : KeyStep J → Prop
  | .rotateSigningKey _ _ r => r.reads = .ok ∧ ∀ n, r.write n = ⟨.own, none⟩
  | .rotateAttestationKey .. => True
  | .blindIssuance .. => True

section
variable {A : AesGcm} {J : RedJubjub} {w : KeyWorld}

theorem apply_issuerKid (A : AesGcm) (w : KeyWorld) (i : KeyStep J) : (i.apply A w).issuerKid = w.issuerKid := by
  cases i with
  | rotateSigningKey locks calls r => rfl
  | rotateAttestationKey locks r =>
    rcases rotateAttestationKey_config r locks w.config with h | h
    · simp only [KeyStep.apply, h]
    · simp only [KeyStep.apply, h, KeyWorld.issuerKid]
  | blindIssuance p => rfl

theorem apply_keys (A : AesGcm) (w : KeyWorld) (i : KeyStep J) :
    (i.rotates = false ∧ (i.apply A w).keys = w.keys) ∨ ∃ locks calls r, i = .rotateSigningKey locks calls r ∧
      i.rotates = true ∧ (i.apply A w).keys = (rotateSigningKeyInner A r w.issuerKid w.keys).2 := by
  cases i with
  | rotateSigningKey locks calls r =>
    cases hlock : acquireResourceLockWithTtl calls.faults calls.now calls.arm rotationLock calls.token
        maxLockTtlSeconds.toNat locks with
    | mk result locks' =>
      cases result with
      | error e => exact .inl ⟨by simp only [KeyStep.rotates, hlock]; rfl, by simp only [KeyStep.apply, rotateSigningKey, hlock]⟩
      | ok token =>
        refine .inr ⟨locks, calls, r, rfl, ?_, ?_⟩
        · simp only [KeyStep.rotates, hlock]
          rfl
        · simp only [KeyStep.apply, rotateSigningKey, hlock]
  | rotateAttestationKey locks r => exact .inl ⟨rfl, rfl⟩
  | blindIssuance p => exact .inl ⟨rfl, rfl⟩

theorem exec_issuerKid (A : AesGcm) (steps : List (KeyStep J)) :
    ∀ w : KeyWorld, (exec (KeyStep.apply A) w steps).issuerKid = w.issuerKid := by
  induction steps with
  | nil => intro w; rfl
  | cons i steps ih => intro w; rw [exec_cons, ih, apply_issuerKid]

theorem exec_keys_of_not_rotates (A : AesGcm) (steps : List (KeyStep J)) :
    ∀ w : KeyWorld, (∀ i ∈ steps, i.rotates = false) → (exec (KeyStep.apply A) w steps).keys = w.keys := by
  induction steps with
  | nil => intro w _; rfl
  | cons i steps ih =>
    intro w h
    rw [exec_cons, ih _ fun j hj => h j (List.mem_cons_of_mem i hj)]
    rcases apply_keys A w i with ⟨-, hkeys⟩ | ⟨-, -, -, -, hrotates, -⟩
    · exact hkeys
    · rw [h i (by simp)] at hrotates
      cases hrotates

/-- Slots with a `vk` are those of active records. -/
def Covered (w : KeyWorld) : Prop := ∀ slot c, w.keys[keyName w.issuerKid slot]? = some c →
  (∃ vkB64, storedVk c = some vkB64) → ∃ k ∈ activeKeys (storedKeys w.issuerKid w.keys), k.version = slot

theorem NoVk.covered (h : NoVk w.issuerKid w.keys) : Covered w := by
  rintro slot c hc ⟨vkB64, hvk⟩
  rw [h slot c hc] at hvk
  cases hvk

theorem apply_noVk {i : KeyStep J} (hkv : i.NoKvFailure) (hrotates : i.rotates = true) (h : Covered w) :
    NoVk (i.apply A w).issuerKid (i.apply A w).keys := by
  rw [apply_issuerKid]
  rcases apply_keys A w i with ⟨hnot, -⟩ | ⟨locks, calls, r, rfl, -, hkeys⟩
  · rw [hnot] at hrotates
    cases hrotates
  · rw [hkeys]
    exact rotate_noVk hkv.1 hkv.2 h

theorem exec_noVk (steps : List (KeyStep J)) (h : NoVk w.issuerKid w.keys) (hkv : ∀ i ∈ steps, i.NoKvFailure) :
    NoVk (exec (KeyStep.apply A) w steps).issuerKid (exec (KeyStep.apply A) w steps).keys := by
  refine exec_invariant (KeyStep.apply A) (I := fun w => NoVk w.issuerKid w.keys) ?_ steps w h
    (along_of_forall _ steps w hkv)
  intro w i h hi
  cases hrotates : i.rotates with
  | true => exact apply_noVk hi hrotates h.covered
  | false =>
    rcases apply_keys A w i with ⟨-, hkeys⟩ | ⟨-, -, -, -, hyes, -⟩
    · rw [apply_issuerKid, hkeys]
      exact h
    · rw [hrotates] at hyes
      cases hyes

/-- A rotation that gets its lock leaves no `vk` behind, and none comes back. -/
theorem exec_rotated_noVk (steps : List (KeyStep J)) : ∀ w : KeyWorld, Covered w → (∀ i ∈ steps, i.NoKvFailure) →
    (∃ i ∈ steps, i.rotates = true) →
      NoVk (exec (KeyStep.apply A) w steps).issuerKid (exec (KeyStep.apply A) w steps).keys := by
  induction steps with
  | nil => rintro w - - ⟨i, hi, -⟩; cases hi
  | cons i steps ih =>
    rintro w hcovered hkv ⟨j, hj, hrotates⟩
    have hrest : ∀ j ∈ steps, j.NoKvFailure := fun j hj => hkv j (List.mem_cons_of_mem i hj)
    rw [exec_cons]
    cases hi : i.rotates with
    | true => exact exec_noVk steps (apply_noVk (hkv i (by simp)) hi hcovered) hrest
    | false =>
      have hkeys : (i.apply A w).keys = w.keys := by
        rcases apply_keys A w i with ⟨-, hkeys⟩ | ⟨-, -, -, -, hyes, -⟩
        · exact hkeys
        · rw [hi] at hyes
          cases hyes
      refine ih (i.apply A w) ?_ hrest ?_
      · unfold Covered
        rw [apply_issuerKid, hkeys]
        exact hcovered
      · rcases List.mem_cons.mp hj with rfl | hj
        · rw [hi] at hrotates
          cases hrotates
        · exact ⟨j, hj, hrotates⟩

end

/-- What is signed in a state reached from an onboarded store is published there when no rotation of
the signing key has got its lock and `default_kid` is the onboarded one; and only then, if no other
slot of that store had a `vk`. -/
theorem signed_published_iff (A : AesGcm) (J : RedJubjub) (S : CredSig) (kid : String) (w : KeyWorld)
    (honboarded : Onboarded kid w) (steps : List (KeyStep J)) (hkv : ∀ i ∈ steps, i.NoKvFailure) (p : SigningPhase)
    (hreads : p.reads.Home) (header : SignedCredentialHeader)
    (hsigned : signCredential J S A p (exec (KeyStep.apply A) w steps).issuerKid (exec (KeyStep.apply A) w steps).keys =
      .ok header) :
    ((∀ i ∈ steps, i.rotates = false) ∧ (exec (KeyStep.apply A) w steps).config.defaultKid = kid →
      Published J (exec (KeyStep.apply A) w steps) header.kid header.issuerVk) ∧
    ((∀ slot c, slot ≠ kid → w.keys[keyName w.issuerKid slot]? = some c → storedVk c = none) →
      Published J (exec (KeyStep.apply A) w steps) header.kid header.issuerVk →
        (∀ i ∈ steps, i.rotates = false) ∧ (exec (KeyStep.apply A) w steps).config.defaultKid = kid) := by
  have hissuer := exec_issuerKid A steps w
  obtain ⟨-, -, -, -, -, hvalid, hlen, hpoint⟩ := signCredential_ok hsigned
  constructor
  · rintro ⟨hnot, hdefault⟩
    rw [hissuer, exec_keys_of_not_rotates A steps w hnot] at hsigned
    obtain ⟨rfl, hkey⟩ := honboarded.keys.signed hreads hsigned
    refine published hdefault ?_ hvalid hlen hpoint
    rw [hissuer, exec_keys_of_not_rotates A steps w hnot]
    exact hkey
  · intro hother hpublished
    obtain ⟨hdefault, vk, hkey⟩ := hpublished.kid_eq
    obtain ⟨-, c, vkB64, hc, hvk, -⟩ := getPublicKeyOnly_eq_ok.mp hkey
    have hnot : ∀ i ∈ steps, i.rotates = false := by
      intro i hi
      refine Bool.eq_false_iff.mpr fun hrotates => ?_
      have hno := exec_rotated_noVk (A := A) steps w (honboarded.keys.covered hother) hkv ⟨i, hi, hrotates⟩ _ c hc
      rw [hno] at hvk
      cases hvk
    refine ⟨hnot, ?_⟩
    rw [hissuer, exec_keys_of_not_rotates A steps w hnot] at hsigned
    rw [← hdefault]
    exact (honboarded.keys.signed hreads hsigned).1

/-! ## An onboarded key -/

def onboardedMembers : List (String × Json) :=
  [("version", .str "main"), ("key_id", .str "main"),
   ("sk", .str (Base64.encode (List.replicate 12 0 ++ clearGcm.encrypt demoKek.current (List.replicate 12 0)
     (List.replicate 32 5) (signingKeyAad "main")))),
   ("vk", .str (Base64.encode (List.replicate 32 5))), ("public_key", .str (Base64.encode (List.replicate 32 5))),
   ("created_at", .num 0), ("expires_at", .num 31536000), ("status", .str "active"), ("encrypted", .bool true)]

def onboardedWorld : KeyWorld where
  config := ⟨"did:provii:issuer", "provii.app", "main", none⟩
  keys := (∅ : KeyKv).insert (keyName "issuer" "main") (.record (.obj onboardedMembers))

def echoSig : CredSig where
  signCredV2 _ sk := .ok sk
  verifyCredV2 _ signature vk := if signature = vk then .ok () else .error "InvalidSignature"

def demoPhase : SigningPhase where
  commitment := .ok (List.replicate 32 9)
  reads := .ok
  keypairFails := false
  kek := .ok demoKek
  now := 0
  terms := .ok (0, 86400, "provii.age/0")

theorem onboardedWorld_get (slot : String) : onboardedWorld.keys[keyName onboardedWorld.issuerKid slot]? =
    if slot = "main" then some (.record (.obj onboardedMembers)) else none := by
  have hissuer : onboardedWorld.issuerKid = "issuer" := by decide +kernel
  rw [hissuer, onboardedWorld, insert_get]
  by_cases hslot : slot = "main"
  · simp [hslot]
  · have hne : ¬keyName "issuer" "main" = keyName "issuer" slot := fun h => hslot (keyName_injective h).symm
    simp [hslot, hne]

theorem onboardedWorld_onboarded : Onboarded "main" onboardedWorld := by
  refine ⟨rfl, ?slot, ?single⟩
  case slot =>
    refine ⟨onboardedMembers, ⟨"main", "main", none, Base64.encode (List.replicate 32 5), 0, 31536000, .active, true⟩,
      Base64.encode (List.replicate 32 5), ?_, by decide +kernel, rfl, rfl, rfl, by decide +kernel⟩
    rw [onboardedWorld_get, if_pos rfl]
  case single =>
    intro slot c k hc _ _
    rw [onboardedWorld_get] at hc
    split at hc
    · assumption
    · cases hc

def promote (newKid : String) : AttestationRotation where
  newKid := newKid
  admission := .ok ()
  calls := demoCalls
  configFails := false
  verifyingKeys _ _ := .ok (some ⟨"Issuer", List.replicate 32 9, 0, 0, true⟩)
  signingKeys _ _ := .ok (some ⟨List.replicate 60 9, true, .active⟩)
  putFails := false

def promotedRun : List (KeyStep demoCurve) :=
  [.rotateAttestationKey (fun _ => .empty) (promote "next"), .blindIssuance demoPhase,
   .rotateAttestationKey (fun _ => .empty) (promote "main")]

theorem promoted_back_published : ∃ header, signCredential demoCurve echoSig clearGcm demoPhase
      (exec (KeyStep.apply clearGcm) onboardedWorld promotedRun).issuerKid
      (exec (KeyStep.apply clearGcm) onboardedWorld promotedRun).keys = .ok header ∧ header.kid = "main" ∧
    Published demoCurve (exec (KeyStep.apply clearGcm) onboardedWorld promotedRun) header.kid header.issuerVk := by
  have hsigned : signCredential demoCurve echoSig clearGcm demoPhase
      (exec (KeyStep.apply clearGcm) onboardedWorld promotedRun).issuerKid
      (exec (KeyStep.apply clearGcm) onboardedWorld promotedRun).keys = .ok ⟨2, "main", List.replicate 32 5,
        List.replicate 32 5, List.replicate 32 9, 0, 86400, "provii.age/0"⟩ := by decide +kernel
  have hkv : ∀ i ∈ promotedRun, i.NoKvFailure := by
    intro i hi
    simp only [promotedRun, List.mem_cons, List.not_mem_nil, or_false] at hi
    rcases hi with rfl | rfl | rfl
    · trivial
    · trivial
    · trivial
  refine ⟨_, hsigned, rfl, (signed_published_iff clearGcm demoCurve echoSig "main" onboardedWorld
    onboardedWorld_onboarded promotedRun hkv demoPhase KeyReads.ok_home _ hsigned).1 ⟨?_, by decide +kernel⟩⟩
  intro i hi
  simp only [promotedRun, List.mem_cons, List.not_mem_nil, or_false] at hi
  rcases hi with rfl | rfl | rfl
  · rfl
  · rfl
  · rfl

def rotatedRun : List (KeyStep demoCurve) :=
  [.rotateSigningKey (fun _ => .empty) demoCalls (smoothRotation 3 none)]

theorem rotated_key_unpublished : Onboarded "main" onboardedWorld ∧ (∀ i ∈ rotatedRun, i.NoKvFailure) ∧
    ∃ header, signCredential demoCurve echoSig clearGcm demoPhase
        (exec (KeyStep.apply clearGcm) onboardedWorld rotatedRun).issuerKid
        (exec (KeyStep.apply clearGcm) onboardedWorld rotatedRun).keys = .ok header ∧ header.kid = "provii:v1" ∧
      ¬ Published demoCurve (exec (KeyStep.apply clearGcm) onboardedWorld rotatedRun) header.kid header.issuerVk := by
  refine ⟨onboardedWorld_onboarded, ?_, ⟨2, "provii:v1", List.replicate 32 3, List.replicate 32 3, List.replicate 32 9, 0,
    86400, "provii.age/0"⟩, by decide +kernel, rfl, ?_⟩
  · intro i hi
    rw [List.mem_singleton.mp hi]
    exact ⟨rfl, fun _ => rfl⟩
  · rintro ⟨keys, hkeys, -⟩
    have herror : jwks demoCurve false (.ok (exec (KeyStep.apply clearGcm) onboardedWorld rotatedRun).config)
        (exec (KeyStep.apply clearGcm) onboardedWorld rotatedRun).keys = .error (.internal "Internal server error") := by
      decide +kernel
    rw [herror] at hkeys
    cases hkeys

end Issuer
