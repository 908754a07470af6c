import Issuer.KeyRotationSound
import Issuer.Lib.Runs

/-!
# Rotations one after the other, any write of which may fail

`KeysSound` is the invariant of the namespace from the empty one on: every slot holds a record the
rotation module wrote for it, with a secret key that decrypts for its version and belongs to its
public key, and an active record has the highest version. A rotation that stops after some of its
writes leaves it, so every state in the middle of a rotation is covered too.
-/

namespace Issuer

open Rust Store Runs

/-! ## Versions -/

theorem versionNumber_versionName {n : Nat} (h : n ≤ u32Max) : versionNumber (versionName n) = some n := by
  unfold versionNumber versionName
  rw [stripPrefix_append, Option.bind_some, parseU32_toString h]

theorem versionName_injective {a b : Nat} (h : versionName a = versionName b) : a = b := by
  apply toString_injective
  simpa only [versionName, String.append_right_inj] using h

theorem le_foldl_max (f : SigningKeyRecord → Nat) (keys : List SigningKeyRecord) :
    ∀ m, m ≤ keys.foldl (fun m k => max m (f k)) m ∧ ∀ k ∈ keys, f k ≤ keys.foldl (fun m k => max m (f k)) m := by
  induction keys with
  | nil => intro m; simp
  | cons k keys ih =>
    intro m
    obtain ⟨hm, hall⟩ := ih (max m (f k))
    simp only [List.foldl_cons]
    refine ⟨by omega, fun k' hk' => ?_⟩
    rcases List.mem_cons.mp hk' with rfl | hk'
    · omega
    · exact hall k' hk'

theorem foldl_max_le (f : SigningKeyRecord → Nat) {b : Nat} (keys : List SigningKeyRecord) :
    ∀ m ≤ b, (∀ k ∈ keys, f k ≤ b) → keys.foldl (fun m k => max m (f k)) m ≤ b := by
  induction keys with
  | nil => intro m hm _; exact hm
  | cons k keys ih =>
    intro m hm hall
    have hk := hall k (by simp)
    exact ih (max m (f k)) (by omega) fun k' hk' => hall k' (List.mem_cons_of_mem k hk')

theorem le_maxVersion {keys : List SigningKeyRecord} {k : SigningKeyRecord} {n : Nat} (hk : k ∈ keys)
    (hn : versionNumber k.version = some n) : n ≤ maxVersion keys := by
  have h := (le_foldl_max (fun k => (versionNumber k.version).getD 0) keys 0).2 k hk
  simp only [hn, Option.getD_some] at h
  exact h

theorem maxVersion_le {keys : List SigningKeyRecord} {b : Nat}
    (h : ∀ k ∈ keys, ∃ n ≤ b, versionNumber k.version = some n) : maxVersion keys ≤ b := by
  refine foldl_max_le (fun k => (versionNumber k.version).getD 0) keys 0 (Nat.zero_le b) fun k hk => ?_
  obtain ⟨n, hn, hv⟩ := h k hk
  simpa only [hv, Option.getD_some] using hn

theorem validate_versionName {n : Nat} (h : n ≤ u32Max) (context : String) :
    validateIdentifier (versionName n) context = .ok () := by
  have hlist : (versionName n).toList = 'v' :: Nat.toDigits 10 n := by
    unfold versionName
    rw [String.toList_append]
    exact congrArg (['v'] ++ ·) Nat.toList_repr
  have hdigits : (Nat.toDigits 10 n).length ≤ 10 := by
    rw [Nat.length_toDigits_le_iff (by decide) (by decide)]
    unfold u32Max at h
    omega
  have hsize : (versionName n).utf8ByteSize ≤ 44 := by
    have hle := utf8ByteSize_ofList_le (versionName n).toList
    rw [String.ofList_toList, hlist, List.length_cons] at hle
    omega
  have hne : (versionName n).isEmpty = false := by
    rw [String.isEmpty_eq_false_iff]
    intro hempty
    rw [hempty] at hlist
    cases hlist
  have hchars : (versionName n).toList.all isIdentifierChar = true := by
    rw [hlist, List.all_cons, Bool.and_eq_true]
    refine ⟨by decide, List.all_eq_true.mpr fun c hc => ?_⟩
    have hd := Nat.isDigit_of_mem_toDigits (by decide) (by decide) hc
    simp [isIdentifierChar, Char.isAlphanum, hd]
  have hlong : ¬(versionName n).utf8ByteSize > maxIdentifierLength := by
    unfold maxIdentifierLength
    omega
  unfold validateIdentifier
  simp only [hne, hlong, hchars, Bool.false_eq_true, if_false, Bool.not_true]

/-! ## The invariant -/

def storedKeys (issuerKid : String) (kv : KeyKv) : List SigningKeyRecord :=
  (slotNames issuerKid kv).filterMap (loadKeyRecord .ok issuerKid kv)

theorem mem_storedKeys {issuerKid : String} {kv : KeyKv} {k : SigningKeyRecord} : k ∈ storedKeys issuerKid kv ↔
    ∃ slot c, kv[keyName issuerKid slot]? = some c ∧ parseRecord c = some k := by
  constructor
  · intro h
    exact mem_loaded KeyReads.ok_home h
  · rintro ⟨slot, c, hc, hk⟩
    exact List.mem_filterMap.mpr ⟨slot, mem_slotNames.mpr ⟨c, hc⟩, loadKeyRecord_some.mpr ⟨issuerKid, c, rfl, rfl, hc, hk⟩⟩

/-- The last record that names a slot. -/
def claimant (keys : List SigningKeyRecord) (slot : String) : Option SigningKeyRecord :=
  keys.reverse.find? fun k => k.version == slot

/-- Records are written back deprecated, one after the other, all to the issuer's own slots. -/
def deprecateAll (issuerKid : String) (kv : KeyKv) (keys : List SigningKeyRecord) : KeyKv :=
  saveAll kv (keys.map fun k => (issuerKid, k.deprecate))

theorem lastSave_own (issuerKid slot : String) (keys : List SigningKeyRecord) :
    lastSave (keys.map fun k => (issuerKid, k.deprecate)) (keyName issuerKid slot) =
      (claimant keys slot).map SigningKeyRecord.deprecate := by
  have hsame : ∀ k : SigningKeyRecord, (keyName issuerKid k.deprecate.version == keyName issuerKid slot) = (k.version == slot) := by
    intro k
    rw [Bool.eq_iff_iff, beq_iff_eq, beq_iff_eq]
    exact keyName_eq_iff
  simp only [lastSave, claimant, ← List.map_reverse, List.find?_map, Option.map_map, Function.comp_def, hsame]

theorem deprecateAll_get (issuerKid slot : String) (kv : KeyKv) (keys : List SigningKeyRecord) :
    (deprecateAll issuerKid kv keys)[keyName issuerKid slot]? =
      ((claimant keys slot).map fun k => Cell.record k.deprecate.toJson).or kv[keyName issuerKid slot]? := by
  rw [deprecateAll, saveAll_get, lastSave_own, Option.map_map]
  rfl

section
variable (A : AesGcm) (J : RedJubjub) (issuerKid : String) (kekPair : KekPair)

/-- The stored secret key decrypts for the record's version and belongs to its public key. -/
def Sealed (k : SigningKeyRecord) : Prop :=
  ∃ b64 data sk vk, k.privateKeyEncrypted = some b64 ∧ Base64.decode b64 = some data ∧
    decryptWithKek A kekPair.current data (signingKeyAad k.version) = .ok sk ∧
    Base64.decode k.publicKey = some vk ∧ J.verificationKey sk = some vk

structure KeysSound (m : Nat) (kv : KeyKv) : Prop where
  written : ∀ slot c, kv[keyName issuerKid slot]? = some c → ∃ k : SigningKeyRecord, c = .record k.toJson ∧
    k.version = slot ∧ k.InRange ∧ Sealed A J kekPair k
  numbered : ∀ slot c, kv[keyName issuerKid slot]? = some c → ∃ n, 1 ≤ n ∧ n ≤ m ∧ slot = versionName n
  highest : ∀ n n' k c', kv[keyName issuerKid (versionName n)]? = some (.record (SigningKeyRecord.toJson k)) →
    k.status = .active → kv[keyName issuerKid (versionName n')]? = some c' → n' ≤ n

def Keeps (kv kv' : KeyKv) : Prop := ∀ slot c, kv[keyName issuerKid slot]? = some c →
  ∃ c', kv'[keyName issuerKid slot]? = some c' ∧ keyMaterial c' = keyMaterial c

end

section
variable {A : AesGcm} {J : RedJubjub} {issuerKid : String} {kekPair : KekPair} {m : Nat} {kv kv' : KeyKv}

theorem Keeps.refl (kv : KeyKv) : Keeps issuerKid kv kv := fun _ c hc => ⟨c, hc, rfl⟩

theorem Keeps.trans {kv'' : KeyKv} (h : Keeps issuerKid kv kv') (h' : Keeps issuerKid kv' kv'') :
    Keeps issuerKid kv kv'' := by
  intro slot c hc
  obtain ⟨c', hc', hm⟩ := h slot c hc
  obtain ⟨c'', hc'', hm'⟩ := h' slot c' hc'
  exact ⟨c'', hc'', hm'.trans hm⟩

theorem toJson_injective {k k' : SigningKeyRecord} (hk : k.InRange) (h : k'.toJson = k.toJson) (hk' : k'.InRange) :
    k' = k := by
  have h₁ := SigningKeyRecord.ofJson_toJson hk
  have h₂ := SigningKeyRecord.ofJson_toJson hk'
  rw [h, h₁] at h₂
  exact (Option.some.inj h₂).symm

theorem KeysSound.mono (h : KeysSound A J issuerKid kekPair m kv) {m' : Nat} (hm : m ≤ m') :
    KeysSound A J issuerKid kekPair m' kv := by
  refine ⟨h.written, fun slot c hc => ?_, h.highest⟩
  obtain ⟨n, h1, hn, hslot⟩ := h.numbered slot c hc
  exact ⟨n, h1, by omega, hslot⟩

theorem KeysSound.mem_loaded (h : KeysSound A J issuerKid kekPair m kv) {k : SigningKeyRecord} :
    k ∈ storedKeys issuerKid kv ↔
      kv[keyName issuerKid k.version]? = some (.record k.toJson) ∧ k.InRange := by
  rw [mem_storedKeys]
  constructor
  · rintro ⟨slot, c, hc, hparse⟩
    obtain ⟨k', rfl, hv, hrange, -⟩ := h.written slot c hc
    rw [parseRecord, SigningKeyRecord.ofJson_toJson hrange] at hparse
    cases hparse
    rw [hv]
    exact ⟨hc, hrange⟩
  · rintro ⟨hc, hrange⟩
    exact ⟨k.version, _, hc, SigningKeyRecord.ofJson_toJson hrange⟩

/-- A slot after records have been written back: the record it had, or that one deprecated. -/
theorem deprecateAll_slot (h : KeysSound A J issuerKid kekPair m kv) {done : List SigningKeyRecord}
    (hdone : ∀ k ∈ done, k ∈ storedKeys issuerKid kv) {slot : String}
    {c : Cell Json} : (deprecateAll issuerKid kv done)[keyName issuerKid slot]? = some c ↔
      ∃ k, kv[keyName issuerKid slot]? = some (.record (SigningKeyRecord.toJson k)) ∧ k.InRange ∧ k.version = slot ∧
        ((claimant done slot).isSome = true ∧ c = .record k.deprecate.toJson ∨
          claimant done slot = none ∧ c = .record k.toJson) := by
  rw [deprecateAll_get]
  cases hclaim : claimant done slot with
  | some k =>
    have hmem : k ∈ done := List.mem_reverse.mp (List.mem_of_find?_eq_some hclaim)
    have hversion : k.version = slot := by simpa using List.find?_some hclaim
    obtain ⟨hk, hrange⟩ := h.mem_loaded.mp (hdone k hmem)
    rw [hversion] at hk
    constructor
    · intro hc
      cases hc
      exact ⟨k, hk, hrange, hversion, .inl ⟨rfl, rfl⟩⟩
    · rintro ⟨k', hk', hrange', -, ⟨-, rfl⟩ | ⟨hnone, -⟩⟩
      · rw [hk] at hk'
        simp only [Option.some.injEq, Cell.record.injEq] at hk'
        rw [toJson_injective hrange' hk' hrange]
        rfl
      · cases hnone
  | none =>
    constructor
    · intro hc
      obtain ⟨k, rfl, hv, hrange, -⟩ := h.written slot c hc
      exact ⟨k, hc, hrange, hv, .inr ⟨rfl, rfl⟩⟩
    · rintro ⟨k, hk, -, -, ⟨hsome, -⟩ | ⟨-, rfl⟩⟩
      · cases hsome
      · exact hk

theorem deprecateAll_sound (h : KeysSound A J issuerKid kekPair m kv) {done : List SigningKeyRecord}
    (hdone : ∀ k ∈ done, k ∈ storedKeys issuerKid kv) :
    KeysSound A J issuerKid kekPair m (deprecateAll issuerKid kv done) := by
  refine ⟨?written, ?numbered, ?highest⟩
  case written =>
    intro slot c hc
    obtain ⟨k, hk, hrange, hversion, hcase⟩ := (deprecateAll_slot h hdone).mp hc
    obtain ⟨k', hk', -, hrange', hsealed⟩ := h.written slot _ hk
    simp only [Cell.record.injEq] at hk'
    have hkk := toJson_injective hrange' hk' hrange
    subst hkk
    rcases hcase with ⟨-, rfl⟩ | ⟨-, rfl⟩
    · exact ⟨k.deprecate, rfl, hversion, hrange, hsealed⟩
    · exact ⟨k, rfl, hversion, hrange, hsealed⟩
  case numbered =>
    intro slot c hc
    obtain ⟨k, hk, -⟩ := (deprecateAll_slot h hdone).mp hc
    exact h.numbered slot _ hk
  case highest =>
    intro n n' k c' hk hact hc'
    obtain ⟨k₀, hk₀, hrange, -, hcase⟩ := (deprecateAll_slot h hdone).mp hk
    obtain ⟨k₁, hk₁, -⟩ := (deprecateAll_slot h hdone).mp hc'
    rcases hcase with ⟨-, heq⟩ | ⟨-, heq⟩
    · -- a record written back is not active
      simp only [Cell.record.injEq] at heq
      have hstatus := storedStatus_toJson k
      rw [heq, storedStatus_toJson, hact] at hstatus
      cases hstatus
    · simp only [Cell.record.injEq] at heq
      rw [← heq] at hk₀
      exact h.highest n n' k _ hk₀ hact hk₁

theorem deprecateAll_keeps (h : KeysSound A J issuerKid kekPair m kv) {done : List SigningKeyRecord}
    (hdone : ∀ k ∈ done, k ∈ storedKeys issuerKid kv) :
    Keeps issuerKid kv (deprecateAll issuerKid kv done) := by
  intro slot c hc
  obtain ⟨k, rfl, hversion, hrange, -⟩ := h.written slot c hc
  cases hclaim : claimant done slot with
  | none => exact ⟨_, (deprecateAll_slot h hdone).mpr ⟨k, hc, hrange, hversion, .inr ⟨hclaim, rfl⟩⟩, rfl⟩
  | some k' =>
    refine ⟨_, (deprecateAll_slot h hdone).mpr ⟨k, hc, hrange, hversion, .inl ⟨by rw [hclaim]; rfl, rfl⟩⟩, ?_⟩
    rw [keyMaterial_toJson, keyMaterial_toJson]
    rfl

theorem deprecateAll_active (h : KeysSound A J issuerKid kekPair m kv) {slot : String} {k : SigningKeyRecord}
    (hk : (deprecateAll issuerKid kv (activeKeys (storedKeys issuerKid kv)))[keyName issuerKid slot]? =
      some (.record k.toJson)) : k.status ≠ .active := by
  intro hact
  have hsub : ∀ k ∈ activeKeys (storedKeys issuerKid kv), k ∈ storedKeys issuerKid kv :=
    fun k hk => List.mem_of_mem_filter hk
  obtain ⟨k₀, hk₀, hrange, hversion, hcase⟩ := (deprecateAll_slot h hsub).mp hk
  have hstatus := storedStatus_toJson k
  rcases hcase with ⟨-, heq⟩ | ⟨hnone, heq⟩
  · simp only [Cell.record.injEq] at heq
    rw [heq, storedStatus_toJson, hact] at hstatus
    cases hstatus
  · simp only [Cell.record.injEq] at heq
    rw [heq, storedStatus_toJson, hact] at hstatus
    -- `k₀` is active and was loaded, so some record claims its slot
    have hmem : k₀ ∈ activeKeys (storedKeys issuerKid kv) := by
      refine List.mem_filter.mpr ⟨h.mem_loaded.mpr ⟨by rw [hversion]; exact hk₀, hrange⟩, ?_⟩
      simpa using hstatus
    have hfind := List.find?_eq_none.mp hnone k₀ (List.mem_reverse.mpr hmem)
    simp [hversion] at hfind

/-! ## One rotation -/

/-- Reads succeed, the key encryption keys are `kekPair`, and no save goes to another issuer. -/
structure Smooth (kekPair : KekPair) (r : Rotation J) : Prop where
  reads : r.reads = .ok
  kek : r.kek = .ok kekPair
  home : ∀ n kid, (r.write n).config ≠ .other kid

theorem nextVersion_above (h : KeysSound A J issuerKid kekPair m kv) (hm : m < u32Max) :
    ∃ n, 1 ≤ n ∧ n ≤ m + 1 ∧
      nextVersionFromKeys (storedKeys issuerKid kv) = versionName n ∧
      ∀ n' c, kv[keyName issuerKid (versionName n')]? = some c → n' < n := by
  have hnumber : ∀ k ∈ storedKeys issuerKid kv,
      ∃ n ≤ m, versionNumber k.version = some n := by
    intro k hk
    obtain ⟨n, -, hn, hversion⟩ := h.numbered _ _ (h.mem_loaded.mp hk).1
    exact ⟨n, hn, by rw [hversion, versionNumber_versionName (by omega)]⟩
  have habove : ∀ n' c, kv[keyName issuerKid (versionName n')]? = some c →
      ∃ k ∈ storedKeys issuerKid kv, versionNumber k.version = some n' := by
    intro n' c hc
    obtain ⟨k, rfl, hversion, hrange, -⟩ := h.written _ c hc
    obtain ⟨n, -, hn, heq⟩ := h.numbered _ _ hc
    have hnn := versionName_injective heq
    subst hnn
    refine ⟨k, h.mem_loaded.mpr ⟨by rw [hversion]; exact hc, hrange⟩, ?_⟩
    rw [hversion, versionNumber_versionName (by omega)]
  generalize hkeys : storedKeys issuerKid kv = keys at hnumber habove
  cases keys with
  | nil =>
    refine ⟨1, le_refl 1, by omega, rfl, fun n' c hc => ?_⟩
    obtain ⟨k, hk, -⟩ := habove n' c hc
    cases hk
  | cons k keys =>
    have hmax := maxVersion_le hnumber
    refine ⟨maxVersion (k :: keys) + 1, by omega, by omega, ?_, fun n' c hc => ?_⟩
    · simp only [nextVersionFromKeys, List.isEmpty_cons, Bool.false_eq_true, if_false]
      rw [satAddU32_of_le (by omega)]
    · obtain ⟨k', hk', hn'⟩ := habove n' c hc
      have := le_maxVersion hk' hn'
      omega

theorem saveKey_sound (h : KeysSound A J issuerKid kekPair m kv) {record : SigningKeyRecord} {n : Nat} (hn : 1 ≤ n)
    (hm : n ≤ m + 1) (hversion : record.version = versionName n) (hrange : record.InRange)
    (hsealed : Sealed A J kekPair record)
    (hnone : ∀ slot k, kv[keyName issuerKid slot]? = some (.record (SigningKeyRecord.toJson k)) → k.status ≠ .active)
    (habove : ∀ n' c, kv[keyName issuerKid (versionName n')]? = some c → n' < n) :
    KeysSound A J issuerKid kekPair (m + 1) (saveKey issuerKid kv record) ∧
      Keeps issuerKid kv (saveKey issuerKid kv record) := by
  have hfree : ∀ slot c, kv[keyName issuerKid slot]? = some c → record.version ≠ slot := by
    intro slot c hc hslot
    rw [← hslot, hversion] at hc
    exact absurd (habove n c hc) (lt_irrefl n)
  refine ⟨⟨?written, ?numbered, ?highest⟩, ?keeps⟩
  case written =>
    intro slot c hc
    rw [saveKey_slot] at hc
    split at hc
    · rename_i hslot
      cases hc
      exact ⟨record, rfl, hslot, hrange, hsealed⟩
    · exact h.written slot c hc
  case numbered =>
    intro slot c hc
    rw [saveKey_slot] at hc
    split at hc
    · rename_i hslot
      exact ⟨n, hn, hm, by rw [← hslot, hversion]⟩
    · obtain ⟨n', h1, hle, hslot⟩ := h.numbered slot c hc
      exact ⟨n', h1, by omega, hslot⟩
  case highest =>
    intro n₁ n₂ k c' hk hact hc'
    rw [saveKey_slot, hversion] at hk hc'
    by_cases h₁ : versionName n = versionName n₁
    · have := versionName_injective h₁
      subst this
      split at hc'
      · rename_i h₂
        exact le_of_eq (versionName_injective h₂).symm
      · exact le_of_lt (habove n₂ c' hc')
    · rw [if_neg h₁] at hk
      exact absurd hact (hnone _ k hk)
  case keeps =>
    intro slot c hc
    refine ⟨c, ?_, rfl⟩
    rw [saveKey_slot, if_neg (hfree slot c hc)]
    exact hc

section
variable {r : Rotation J} {newKey record : SigningKeyRecord}

theorem newKey_inRange (r : Rotation J) (version : String) : (r.newKey version).InRange := by
  have hsecs := secs_le r.now
  simp only [SigningKeyRecord.InRange, Rotation.newKey, newSigningKey, nowEpochSecs_eq, satAddI64, clampI64]
  unfold i64Min i64Max
  omega

theorem sealKey_sealed (hA : A.Lawful) (hsmooth : Smooth kekPair r) {version : String}
    (hseal : sealKey A r.gcmNonce r.kek (r.newKey version) r.keypair.sk.toList = .ok record) :
    record.version = version ∧ record.status = .active ∧ record.InRange ∧ Sealed A J kekPair record := by
  obtain ⟨kekPair', data, hkek, henc, rfl⟩ := sealKey_ok hseal
  rw [hsmooth.kek] at hkek
  cases hkek
  refine ⟨rfl, rfl, newKey_inRange r version, ?_⟩
  refine ⟨Base64.encode data, data, r.keypair.sk.toList, r.keypair.vk.toList, rfl, by simp, ?_, by simp [Rotation.newKey, newSigningKey], ?_⟩
  · exact decryptWithKek_encrypt hA henc
  · exact r.keypair.paired

theorem getAllSigningKeys_total (issuerKid : String) (kv : KeyKv) :
    getAllSigningKeys .ok issuerKid kv = .ok (storedKeys issuerKid kv) := by
  simp [getAllSigningKeys, KeyReads.ok, ConfigRead.kid, listPages_total, bind, Except.bind, pure, Except.pure, storedKeys]

/-- A rotation that reads all records and saves to the issuer's own slots. -/
theorem rotate_home_cases (A : AesGcm) (issuerKid : String) (kv : KeyKv) (hreads : r.reads = .ok)
    (hhome : ∀ n kid, (r.write n).config ≠ .other kid) :
    (∃ e, rotateSigningKeyInner A r issuerKid kv = (.error e, kv)) ∨
    (∃ e done rest, activeKeys (storedKeys issuerKid kv) = done ++ rest ∧
      rotateSigningKeyInner A r issuerKid kv = (.error e, deprecateAll issuerKid kv done)) ∨
    ∃ record, sealKey A r.gcmNonce r.kek (r.newKey (nextVersionFromKeys (storedKeys issuerKid kv))) r.keypair.sk.toList =
        .ok record ∧
      rotateSigningKeyInner A r issuerKid kv = (.ok (r.newKey (nextVersionFromKeys (storedKeys issuerKid kv))),
        saveKey issuerKid (deprecateAll issuerKid kv (activeKeys (storedKeys issuerKid kv))) record) := by
  refine (rotateSigningKeyInner_cases A r issuerKid kv).imp_right ?_
  rintro ⟨keys, hkeys, hcase⟩
  rw [hreads, getAllSigningKeys_total] at hkeys
  cases hkeys
  simpa only [Rotation.deprecations, keyIssuer_home hhome, deprecations_home hhome, deprecateAll] using hcase

theorem rotate_home_ok (hreads : r.reads = .ok) (hhome : ∀ n kid, (r.write n).config ≠ .other kid)
    (hok : rotateSigningKeyInner A r issuerKid kv = (.ok newKey, kv')) :
    newKey = r.newKey (nextVersionFromKeys (storedKeys issuerKid kv)) ∧
    ∃ record, sealKey A r.gcmNonce r.kek newKey r.keypair.sk.toList = .ok record ∧
      kv' = saveKey issuerKid (deprecateAll issuerKid kv (activeKeys (storedKeys issuerKid kv))) record := by
  rcases rotate_home_cases A issuerKid kv hreads hhome with ⟨e, he⟩ | ⟨e, done, rest, -, he⟩ | ⟨record, hseal, he⟩
  · rw [he] at hok; cases hok
  · rw [he] at hok; cases hok
  · rw [he] at hok
    cases hok
    exact ⟨rfl, record, hseal, rfl⟩

/-- What a rotation that succeeds leaves: the new record on top of the others, none of them active. -/
theorem rotate_ok_sound (hA : A.Lawful) (h : KeysSound A J issuerKid kekPair m kv) (hm : m < u32Max)
    (hsmooth : Smooth kekPair r)
    (hseal : sealKey A r.gcmNonce r.kek (r.newKey (nextVersionFromKeys (storedKeys issuerKid kv))) r.keypair.sk.toList =
      .ok record) :
    KeysSound A J issuerKid kekPair (m + 1)
        (saveKey issuerKid (deprecateAll issuerKid kv (activeKeys (storedKeys issuerKid kv))) record) ∧
      Keeps issuerKid kv (saveKey issuerKid (deprecateAll issuerKid kv (activeKeys (storedKeys issuerKid kv))) record) := by
  have hsub : ∀ k ∈ activeKeys (storedKeys issuerKid kv), k ∈ storedKeys issuerKid kv :=
    fun k hk => List.mem_of_mem_filter hk
  obtain ⟨n, hn, hle, hnext, habove⟩ := nextVersion_above h hm
  obtain ⟨hversion, hactive, hrange, hsealed⟩ := sealKey_sealed hA hsmooth hseal
  obtain ⟨hsound, hkeeps⟩ := saveKey_sound (deprecateAll_sound h hsub) hn hle (hversion.trans hnext) hrange hsealed
    (fun slot k hk => deprecateAll_active h hk) (fun n' c hc => by
      obtain ⟨k, hk, -⟩ := (deprecateAll_slot h hsub).mp hc
      exact habove n' _ hk)
  exact ⟨hsound, (deprecateAll_keeps h hsub).trans hkeeps⟩

/-- One rotation, whatever becomes of its writes. -/
theorem rotate_sound (hA : A.Lawful) (h : KeysSound A J issuerKid kekPair m kv) (hm : m < u32Max)
    (hsmooth : Smooth kekPair r) : KeysSound A J issuerKid kekPair (m + 1) (rotateSigningKeyInner A r issuerKid kv).2 ∧
      Keeps issuerKid kv (rotateSigningKeyInner A r issuerKid kv).2 := by
  rcases rotate_home_cases A issuerKid kv hsmooth.reads hsmooth.home with
    ⟨e, he⟩ | ⟨e, done, rest, hsplit, he⟩ | ⟨record, hseal, he⟩
  · rw [he]
    exact ⟨h.mono (Nat.le_succ m), Keeps.refl kv⟩
  · have hsub : ∀ k ∈ done, k ∈ storedKeys issuerKid kv := by
      intro k hk
      refine List.mem_of_mem_filter (show k ∈ activeKeys (storedKeys issuerKid kv) from ?_)
      rw [hsplit]
      exact List.mem_append_left rest hk
    rw [he]
    exact ⟨(deprecateAll_sound h hsub).mono (Nat.le_succ m), deprecateAll_keeps h hsub⟩
  · rw [he]
    exact rotate_ok_sound hA h hm hsmooth hseal

/-! ## The key that is selected -/

theorem KeysSound.active_unique (h : KeysSound A J issuerKid kekPair m kv) {slot slot' : String} {k k' : SigningKeyRecord}
    (hk : kv[keyName issuerKid slot]? = some (.record k.toJson)) (hact : k.status = .active)
    (hk' : kv[keyName issuerKid slot']? = some (.record k'.toJson)) (hact' : k'.status = .active) : slot = slot' := by
  obtain ⟨n, -, -, rfl⟩ := h.numbered slot _ hk
  obtain ⟨n', -, -, rfl⟩ := h.numbered slot' _ hk'
  have hle := h.highest n n' k _ hk hact hk'
  have hle' := h.highest n' n k' _ hk' hact' hk
  rw [Nat.le_antisymm hle' hle]

theorem getActiveSigningKey_sound (h : KeysSound A J issuerKid kekPair m kv) {k : SigningKeyRecord} {now : UInt64}
    (hk : kv[keyName issuerKid k.version]? = some (.record k.toJson)) (hrange : k.InRange) (hact : k.status = .active)
    (hnow : nowEpochSecs now ≤ k.expiresAt) : getActiveSigningKey .ok issuerKid now kv = .ok k := by
  have hmem := h.mem_loaded.mpr ⟨hk, hrange⟩
  have hexpired : k.isExpired now = false := by simpa [SigningKeyRecord.isExpired] using hnow
  cases hfind : (storedKeys issuerKid kv).find? (fun k => decide (k.status = .active) && !k.isExpired now) with
  | none =>
    have hno := List.find?_eq_none.mp hfind k hmem
    simp [hact, hexpired] at hno
  | some k' =>
    -- two active records are in the same slot
    have hp := List.find?_some hfind
    obtain ⟨hk', hrange'⟩ := h.mem_loaded.mp (List.mem_of_find?_eq_some hfind)
    simp only [Bool.and_eq_true, decide_eq_true_eq] at hp
    have hslot := h.active_unique hk hact hk' hp.1
    rw [← hslot, hk] at hk'
    simp only [Option.some.injEq, Cell.record.injEq] at hk'
    rw [toJson_injective hrange' hk' hrange]
    simp [getActiveSigningKey, getAllSigningKeys_total, hfind, bind, Except.bind, pure, Except.pure]

theorem getSigningKeypair_sound {k : SigningKeyRecord} {n : Nat} {now : UInt64} {b64 : String} {data sk vk : Bytes}
    (hk : kv[keyName issuerKid k.version]? = some (.record k.toJson)) (hversion : k.version = versionName n)
    (hn : n ≤ u32Max) (hact : k.status = .active) (hencrypted : k.encrypted = true)
    (hb64 : k.privateKeyEncrypted = some b64) (hdata : Base64.decode b64 = some data)
    (hsk : decryptWithKek A kekPair.current data (signingKeyAad k.version) = .ok sk)
    (hvk : Base64.decode k.publicKey = some vk) :
    getSigningKeypair A false issuerKid k.version (.ok kekPair) now kv = .ok (sk, vk) := by
  have hvalid : validateIdentifier k.version "kid" = .ok () := by rw [hversion]; exact validate_versionName hn "kid"
  simp [getSigningKeypair, hvalid, hk, keypairRecord_toJson hb64, KeypairRecord.open, hact, hencrypted, decodeBase64,
    hdata, hvk, decryptWithKekFallback_current hsk, bind, Except.bind, pure, Except.pure]

theorem rotate_ok_selects (hA : A.Lawful) (h : KeysSound A J issuerKid kekPair m kv) (hm : m < u32Max)
    (hsmooth : Smooth kekPair r) (hok : rotateSigningKeyInner A r issuerKid kv = (.ok newKey, kv')) {now : UInt64}
    (hnow : nowEpochSecs now ≤ newKey.expiresAt) :
    (∃ sk, getActiveSigningKey .ok issuerKid now kv' = .ok { newKey with privateKeyEncrypted := some sk }) ∧
      getSigningKeypair A false issuerKid newKey.version (.ok kekPair) now kv' =
        .ok (r.keypair.sk.toList, r.keypair.vk.toList) := by
  obtain ⟨hnew, record, hseal, hkv⟩ := rotate_home_ok hsmooth.reads hsmooth.home hok
  rw [hnew] at hseal
  have hsound := (rotate_ok_sound hA h hm hsmooth hseal).1
  rw [← hkv] at hsound
  obtain ⟨n, -, hn, hnext, -⟩ := nextVersion_above h hm
  obtain ⟨kekPair', data, hkek, henc, hrec⟩ := sealKey_ok hseal
  rw [hsmooth.kek] at hkek
  cases hkek
  rw [← hnew] at hrec henc
  have hstored : kv'[keyName issuerKid record.version]? = some (.record record.toJson) := by
    rw [hkv, saveKey_slot, if_pos rfl]
  have hversion : record.version = newKey.version := by rw [hrec]
  constructor
  · refine ⟨Base64.encode data, ?_⟩
    rw [← hrec]
    refine getActiveSigningKey_sound hsound hstored ?_ ?_ ?_
    · rw [hrec, hnew]; exact newKey_inRange r (nextVersionFromKeys (storedKeys issuerKid kv))
    · rw [hrec, hnew]; rfl
    · rw [hrec]; exact hnow
  · have hb64 : record.privateKeyEncrypted = some (Base64.encode data) := by rw [hrec]
    have hvk : Base64.decode record.publicKey = some r.keypair.vk.toList := by
      rw [hrec, hnew]
      exact Base64.decode_encode r.keypair.vk.toList
    have hname : record.version = versionName n := by
      rw [hversion, hnew]
      exact hnext
    have hsk := decryptWithKek_encrypt hA henc
    rw [← hversion] at hsk ⊢
    refine getSigningKeypair_sound hstored hname (by omega) ?_ ?_ hb64 (Base64.decode_encode data) hsk hvk
    · rw [hrec, hnew]; rfl
    · rw [hrec, hnew]; rfl

end

end

/-! ## Every run -/

def rotateStep {J : RedJubjub} (A : AesGcm) (issuerKid : String) (kv : KeyKv) (r : Rotation J) : KeyKv :=
  (rotateSigningKeyInner A r issuerKid kv).2

theorem run_sound {A : AesGcm} {J : RedJubjub} {issuerKid : String} {kekPair : KekPair} (hA : A.Lawful)
    (rotations : List (Rotation J)) : ∀ (m : Nat) (kv : KeyKv), KeysSound A J issuerKid kekPair m kv →
      m + rotations.length ≤ u32Max → (∀ r ∈ rotations, Smooth kekPair r) →
      KeysSound A J issuerKid kekPair (m + rotations.length) (exec (rotateStep A issuerKid) kv rotations) ∧
        Keeps issuerKid kv (exec (rotateStep A issuerKid) kv rotations) := by
  induction rotations with
  | nil => intro m kv h _ _; exact ⟨h, Keeps.refl kv⟩
  | cons r rotations ih =>
    intro m kv h hm hsmooth
    rw [List.length_cons] at hm
    obtain ⟨hstep, hkeeps⟩ := rotate_sound hA h (by omega) (hsmooth r (by simp))
    obtain ⟨hrun, hkeeps'⟩ := ih (m + 1) (rotateStep A issuerKid kv r) hstep (by omega)
      fun r' hr' => hsmooth r' (List.mem_cons_of_mem r hr')
    rw [List.length_cons, exec_cons]
    refine ⟨?_, hkeeps.trans hkeeps'⟩
    rw [show m + (rotations.length + 1) = m + 1 + rotations.length by omega]
    exact hrun

theorem empty_sound (A : AesGcm) (J : RedJubjub) {issuerKid : String} (kekPair : KekPair) {kv : KeyKv}
    (hempty : ∀ slot, kv[keyName issuerKid slot]? = none) : KeysSound A J issuerKid kekPair 0 kv := by
  refine ⟨?_, ?_, ?_⟩
  · intro slot c hc; rw [hempty] at hc; cases hc
  · intro slot c hc; rw [hempty] at hc; cases hc
  · intro n n' k c' hk; rw [hempty] at hk; cases hk

/-- Rotations from an empty namespace, fewer than the versions there are, any write of which may
fail. -/
theorem rotations_keep_keys_sound (A : AesGcm) (hA : A.Lawful) (J : RedJubjub) (issuerKid : String) (kekPair : KekPair)
    (kv₀ : KeyKv) (hempty : ∀ slot, kv₀[keyName issuerKid slot]? = none) (rotations : List (Rotation J))
    (hcount : rotations.length < u32Max) (hsmooth : ∀ r ∈ rotations, Smooth kekPair r) :
    -- a slot holds the record of its version, with a secret key that decrypts and fits
    (∀ slot c, (exec (rotateStep A issuerKid) kv₀ rotations)[keyName issuerKid slot]? = some c →
      ∃ k : SigningKeyRecord, c = .record k.toJson ∧ k.version = slot ∧ Sealed A J kekPair k) ∧
    -- one record at most is active, and its version is the highest
    (∀ slot slot' k k', (exec (rotateStep A issuerKid) kv₀ rotations)[keyName issuerKid slot]? =
        some (.record (SigningKeyRecord.toJson k)) → k.status = .active →
      (exec (rotateStep A issuerKid) kv₀ rotations)[keyName issuerKid slot']? =
        some (.record (SigningKeyRecord.toJson k')) →
      (k'.status = .active → slot' = slot) ∧
        ∃ n n', versionNumber slot = some n ∧ versionNumber slot' = some n' ∧ n' ≤ n) ∧
    -- key material is never replaced
    (∀ earlier later, rotations = earlier ++ later →
      Keeps issuerKid (exec (rotateStep A issuerKid) kv₀ earlier) (exec (rotateStep A issuerKid) kv₀ rotations)) ∧
    -- the key of a last rotation that succeeded is the one in use
    ∀ earlier r newKey kv', rotations = earlier ++ [r] →
      rotateSigningKeyInner A r issuerKid (exec (rotateStep A issuerKid) kv₀ earlier) = (.ok newKey, kv') →
      ∀ now, nowEpochSecs now ≤ newKey.expiresAt →
        (∃ sk, getActiveSigningKey .ok issuerKid now kv' = .ok { newKey with privateKeyEncrypted := some sk }) ∧
        getSigningKeypair A false issuerKid newKey.version (.ok kekPair) now kv' =
          .ok (r.keypair.sk.toList, r.keypair.vk.toList) := by
  have hstart := empty_sound A J kekPair hempty
  have hrun : ∀ earlier later, rotations = earlier ++ later →
      KeysSound A J issuerKid kekPair (0 + earlier.length) (exec (rotateStep A issuerKid) kv₀ earlier) := by
    rintro earlier later rfl
    rw [List.length_append] at hcount
    exact (run_sound hA earlier 0 kv₀ hstart (by omega) fun r hr => hsmooth r (List.mem_append_left later hr)).1
  have hend := hrun rotations [] (by simp)
  refine ⟨?slots, ?active, ?kept, ?last⟩
  case slots =>
    intro slot c hc
    obtain ⟨k, hk, hversion, -, hsealed⟩ := hend.written slot c hc
    exact ⟨k, hk, hversion, hsealed⟩
  case active =>
    intro slot slot' k k' hk hact hk'
    refine ⟨fun hact' => (hend.active_unique hk hact hk' hact').symm, ?_⟩
    obtain ⟨n, -, hn, rfl⟩ := hend.numbered slot _ hk
    obtain ⟨n', -, hn', rfl⟩ := hend.numbered slot' _ hk'
    exact ⟨n, n', versionNumber_versionName (by omega), versionNumber_versionName (by omega),
      hend.highest n n' k _ hk hact hk'⟩
  case kept =>
    rintro earlier later rfl
    have hlen := hcount
    rw [List.length_append] at hlen
    have hkeep := (run_sound hA later _ _ (hrun earlier later rfl) (by omega)
      fun r hr => hsmooth r (List.mem_append_right earlier hr)).2
    rwa [← exec_append] at hkeep
  case last =>
    rintro earlier r newKey kv' rfl hok now hnow
    have hr := hsmooth r (by simp)
    have hlen := hcount
    rw [List.length_append, List.length_singleton] at hlen
    exact rotate_ok_selects hA (hrun earlier [r] rfl) (by omega) hr hok hnow

/-! ## Three rotations -/

def demoKek : KekPair := ⟨List.replicate 32 7, none⟩

/-- All reads succeed and write `failing` fails. -/
def smoothRotation (b : UInt8) (failing : Option Nat) : Rotation demoCurve where
  reads := .ok
  keypair := demoKeypair b
  gcmNonce := Vector.replicate 12 b
  kek := .ok demoKek
  now := 0
  write := fun n => ⟨.own, if failing = some n then some (.storageError "Failed to store key") else none⟩

/-- The second one has deprecated `v1` when it fails to store `v2`. -/
def threeRotations : List (Rotation demoCurve) :=
  [smoothRotation 1 none, smoothRotation 2 (some 1), smoothRotation 3 none]

theorem third_rotation_selected : ∃ newKey kv', newKey.version = "v2" ∧
    rotateSigningKeyInner clearGcm (smoothRotation 3 none) "k"
      (exec (rotateStep clearGcm "k") ∅ [smoothRotation 1 none, smoothRotation 2 (some 1)]) = (.ok newKey, kv') ∧
    getSigningKeypair clearGcm false "k" newKey.version (.ok demoKek) 0 kv' =
      .ok (List.replicate 32 3, List.replicate 32 3) := by
  have hok : (rotateSigningKeyInner clearGcm (smoothRotation 3 none) "k"
      (exec (rotateStep clearGcm "k") ∅ [smoothRotation 1 none, smoothRotation 2 (some 1)])).1 =
        .ok ((smoothRotation 3 none).newKey "v2") := by decide +kernel
  have hsmooth : ∀ r ∈ threeRotations, Smooth demoKek r := by
    intro r hr
    simp only [threeRotations, List.mem_cons, List.not_mem_nil, or_false] at hr
    rcases hr with rfl | rfl | rfl
    · exact ⟨rfl, rfl, fun _ _ => nofun⟩
    · exact ⟨rfl, rfl, fun _ _ => nofun⟩
    · exact ⟨rfl, rfl, fun _ _ => nofun⟩
  obtain ⟨-, -, -, hlast⟩ := rotations_keep_keys_sound clearGcm clearGcm_lawful demoCurve "k" demoKek ∅ (by simp)
    threeRotations (by decide) hsmooth
  refine ⟨(smoothRotation 3 none).newKey "v2", _, rfl, Prod.ext hok rfl, ?_⟩
  exact (hlast [smoothRotation 1 none, smoothRotation 2 (some 1)] (smoothRotation 3 none) _ _ rfl (Prod.ext hok rfl) 0
    (by decide)).2

end Issuer
